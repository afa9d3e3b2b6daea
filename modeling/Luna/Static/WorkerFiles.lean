import Mathlib.Data.Fin.Basic
import Mathlib.Data.List.FinRange
import Mathlib.Data.List.Perm.Basic
import Mathlib.Logic.Function.Basic
import Luna.Lib.DescriptorTable
import Luna.Lib.Interleaving

/-!
# Descriptors of one worker

`luna_bb_open`, `luna_bb_close`, `luna_bb_dup`, `luna_bb_dup2`, `luna_bb_fopen`,
`luna_bb_fdopen` and `luna_bb_fclose` as one static worker calls them, its exit, and
other workers that open and close their own descriptors in the same LKL table.  An
applet closes only descriptors that were returned to it.

A stream keeps the LKL number behind the descriptor it was made from.  When that
descriptor is one of 0, 1 and 2 the map names the same number, and after
`luna_bb_fclose` it names a descriptor that is closed; the exit closes it once more.
-/

namespace Luna.WorkerFiles

open DescriptorTable Interleaving

abbrev Stdio := Fin 3

/-- Who opened a descriptor. -/
inductive Holder where
  | worker
  | other
  deriving DecidableEq, Repr

/-- An LKL number; `serial` is history, the opening it was returned for. -/
structure Handle where
  number : Nat
  serial : Nat
  deriving DecidableEq, Repr

/-- `struct luna_bb_file`; no handle stands for a negative `fd`.  `aliased` is history:
the stream was made from one of the descriptors 0, 1 and 2. -/
structure Stream where
  handle : Option Handle
  aliased : Bool
  deriving DecidableEq, Repr

/-- One `lkl_sys_close` of the worker: the opening it closed and the opening it was
meant for. -/
structure Hit where
  closed : Option Nat
  meant : Nat
  deriving DecidableEq, Repr

/-- `held` are the LKL numbers returned to the applet that it has not closed or made a
stream of. -/
structure State where
  files : Table Holder
  fdMap : Stdio → Option Handle
  held : List Handle
  streams : List Stream
  exited : Bool
  hits : List Hit

namespace State

/-- The handle a descriptor stands for to the applet. -/
def handleOf (state : State) (fd : Nat) : Option Handle :=
  (state.held.find? fun handle => handle.number = fd).or
    (if inside : fd < 3 then state.fdMap ⟨fd, inside⟩ else none)

/-- `bb_fd`. -/
def bbFd (state : State) (fd : Nat) : Option Nat :=
  if inside : fd < 3 then (state.fdMap ⟨fd, inside⟩).map Handle.number else some fd

/-- `lkl_sys_close`. -/
def sysClose (state : State) (number meant : Nat) : State :=
  { state with
    files := state.files.close number
    hits := state.hits ++ [⟨(state.files.find number).map Prod.fst, meant⟩] }

/-- What the next opening returns. -/
def nextHandle (state : State) : Handle := ⟨state.files.next, state.files.nextSerial⟩

/-- A successful `lkl_sys_open` or `lkl_sys_dup`. -/
def sysOpen (state : State) : State := { state with files := state.files.insert .worker }

/-- The first of the descriptors 0, 1 and 2 that is closed. -/
def hole (state : State) : Option Stdio :=
  (List.finRange 3).find? fun fd => (state.fdMap fd).isNone

def map (state : State) (fd : Stdio) (handle : Option Handle) : State :=
  { state with fdMap := Function.update state.fdMap fd handle }

/-- `luna_bb_open` and the descriptor it returns. -/
def lunaBbOpen (state : State) (succeeds : Bool) : State × Option Nat :=
  if succeeds then
    match state.hole with
    | some fd => (state.sysOpen.map fd (some state.nextHandle), some fd)
    | none => ({ state.sysOpen with held := state.nextHandle :: state.held },
        some state.files.next)
  else (state, none)

def forget (state : State) (fd : Nat) : State :=
  { state with held := state.held.filter fun handle => handle.number ≠ fd }

/-- `luna_bb_close`. -/
def lunaBbClose (state : State) (fd : Nat) : State :=
  let meant := (state.handleOf fd).map Handle.serial
  if inside : fd < 3 then
    match state.fdMap ⟨fd, inside⟩ with
    | none => state.forget fd
    | some handle =>
        ((state.forget fd).map ⟨fd, inside⟩ none).sysClose handle.number
          (meant.getD handle.serial)
  else (state.forget fd).sysClose fd (meant.getD 0)

/-- Whether `lkl_sys_dup` of a descriptor succeeds: it is open and the kernel agrees. -/
def dups (state : State) (fd : Nat) (succeeds : Bool) : Bool :=
  succeeds && ((state.bbFd fd).bind state.files.find).isSome

def lunaBbDup (state : State) (fd : Nat) (succeeds : Bool) : State :=
  if state.dups fd succeeds then
    { state.sysOpen with held := state.nextHandle :: state.held }
  else state

/-- `luna_bb_dup2` onto one of the descriptors 0, 1 and 2. -/
def lunaBbDup2 (state : State) (oldfd : Nat) (newfd : Stdio) (succeeds : Bool) : State :=
  if oldfd = newfd then state
  else if state.dups oldfd succeeds then
    let opened := state.sysOpen
    let closed := match state.fdMap newfd with
      | none => opened
      | some handle => opened.sysClose handle.number handle.serial
    closed.map newfd (some state.nextHandle)
  else state

/-- `luna_bb_fdopen`; it fails for a bad mode or without memory. -/
def lunaBbFdopen (state : State) (fd : Nat) (succeeds : Bool) : State :=
  if succeeds then
    if inside : fd < 3 then
      { state with streams := ⟨state.fdMap ⟨fd, inside⟩, true⟩ :: state.streams }
    else
      { state.forget fd with streams := ⟨state.handleOf fd, false⟩ :: state.streams }
  else state

/-- `luna_bb_fopen` with a good mode. -/
def lunaBbFopen (state : State) (opens succeeds : Bool) : State :=
  match state.lunaBbOpen opens with
  | (state, none) => state
  | (state, some fd) =>
      if succeeds then state.lunaBbFdopen fd true else state.lunaBbClose fd

/-- `luna_bb_fclose` of a stream object. -/
def lunaBbFclose (state : State) (index : Nat) : State :=
  let rest := { state with streams := state.streams.eraseIdx index }
  match state.streams[index]?.bind Stream.handle with
  | none => rest
  | some handle => rest.sysClose handle.number handle.serial

/-- One round of the loop at a worker's exit. -/
def closeMapped (state : State) (fd : Stdio) : State :=
  match state.fdMap fd with
  | none => state
  | some handle => (state.sysClose handle.number handle.serial).map fd none

/-- The end of `task_static_worker`. -/
def exit (state : State) : State :=
  { (List.finRange 3).foldl closeMapped state with exited := true }

/-- Descriptors the applet may pass: 0, 1, 2 and those returned to it. -/
def Returned (state : State) (fd : Nat) : Prop :=
  fd < 3 ∨ ∃ handle ∈ state.held, handle.number = fd

instance (state : State) (fd : Nat) : Decidable (state.Returned fd) :=
  inferInstanceAs (Decidable (_ ∨ ∃ handle ∈ state.held, handle.number = fd))

end State

inductive Action where
  | openFile (succeeds : Bool)
  | close (fd : Nat)
  | dup (fd : Nat) (succeeds : Bool)
  | dup2 (oldfd : Nat) (newfd : Stdio) (succeeds : Bool)
  | fopen (opens succeeds : Bool)
  | fdopen (fd : Nat) (succeeds : Bool)
  | fclose (index : Nat)
  | exit
  | otherOpen
  | otherClose (number : Nat)
  deriving DecidableEq, Repr

/-- A call of the worker. -/
def State.call (state : State) : Action → Option State
  | .openFile succeeds => some (state.lunaBbOpen succeeds).1
  | .close fd => if state.Returned fd then some (state.lunaBbClose fd) else none
  | .dup fd succeeds => if state.Returned fd then some (state.lunaBbDup fd succeeds) else none
  | .dup2 oldfd newfd succeeds =>
      if state.Returned oldfd then some (state.lunaBbDup2 oldfd newfd succeeds) else none
  | .fopen opens succeeds => some (state.lunaBbFopen opens succeeds)
  | .fdopen fd succeeds =>
      if state.Returned fd then some (state.lunaBbFdopen fd succeeds) else none
  | .fclose index =>
      if index < state.streams.length then some (state.lunaBbFclose index) else none
  | .exit => some state.exit
  | .otherOpen | .otherClose _ => none

def next (state : State) (action : Action) : Option State :=
  match action with
  | .otherOpen => some { state with files := state.files.insert .other }
  | .otherClose number =>
      if state.files.lookup number = some .other then
        some { state with files := state.files.close number }
      else none
  | _ => if state.exited then none else state.call action

/-- The worker starts with its own duplicates of the descriptors it was given. -/
structure Started (state : State) : Prop where
  mapped : ∀ fd handle, state.fdMap fd = some handle →
    state.files.find handle.number = some (handle.serial, .worker)
  distinct : ∀ fd fd' handle handle', state.fdMap fd = some handle →
    state.fdMap fd' = some handle' → handle.number = handle'.number → fd = fd'
  held : state.held = []
  streams : state.streams = []
  hits : state.hits = []

def system : System State Action where
  init := Started
  next := next

/-- Each `lkl_sys_close` of the worker closed the opening it was meant for, which no
other close ever hit, and the map names descriptors that are open. -/
structure ClosesOwn (state : State) : Prop where
  hits : ∀ hit ∈ state.hits, hit.closed = some hit.meant ∧
    state.files.closed.count hit.meant = 1
  mapped : ∀ fd handle, state.fdMap fd = some handle →
    state.files.find handle.number = some (handle.serial, .worker)

/-- No stream made from 0, 1 or 2 is closed, and LKL returns no number below 3 to the
applet. -/
def StreamsApart (state : State) : Action → Prop
  | .openFile _ | .fopen _ _ => state.hole = none → 3 ≤ state.files.next
  | .dup _ _ => 3 ≤ state.files.next
  | .fclose index => ∀ stream ∈ state.streams[index]?, stream.aliased = true →
      stream.handle = none
  | _ => True

instance (state : State) : (action : Action) → Decidable (StreamsApart state action)
  | .openFile _ | .fopen _ _ => inferInstanceAs (Decidable (_ → _))
  | .dup _ _ => inferInstanceAs (Decidable (_ ≤ _))
  | .fclose index => inferInstanceAs (Decidable (∀ stream ∈ state.streams[index]?,
      stream.aliased = true → stream.handle = none))
  | .close _ | .dup2 _ _ _ | .fdopen _ _ | .exit | .otherOpen | .otherClose _ => isTrue trivial

/-! Every handle the worker may still close, in one list. -/

/-- The handles are open, and no number occurs twice. -/
structure Custody (files : Table Holder) (handles : List Handle) : Prop where
  found : ∀ handle ∈ handles, files.find handle.number = some (handle.serial, .worker)
  nodup : (handles.map Handle.number).Nodup

section Custody

variable {files : Table Holder} {handles : List Handle}

theorem Custody.perm {handles' : List Handle} (custody : Custody files handles)
    (same : handles.Perm handles') : Custody files handles' where
  found handle member := custody.found handle (same.mem_iff.mpr member)
  nodup := (same.map Handle.number).nodup_iff.mp custody.nodup

theorem Custody.openNew (custody : Custody files handles) :
    Custody (files.insert .worker) (⟨files.next, files.nextSerial⟩ :: handles) := by
  have old : ∀ handle ∈ handles, handle.number ≠ files.next := by
    intro handle member isNext
    have found := custody.found handle member
    rw [isNext, Table.find_next] at found
    cases found
  refine ⟨fun handle member => ?_, ?_⟩
  · rw [Table.find_insert]
    rcases List.mem_cons.mp member with isNew | isOld
    · rw [isNew, if_pos rfl]
    · rw [if_neg (old handle isOld)]
      exact custody.found handle isOld
  · rw [List.map_cons, List.nodup_cons]
    refine ⟨fun member => ?_, custody.nodup⟩
    obtain ⟨handle, isOld, isNext⟩ := List.mem_map.mp member
    exact old handle isOld isNext

theorem Custody.close {handle : Handle} (custody : Custody files (handle :: handles)) :
    Custody (files.close handle.number) handles := by
  obtain ⟨notLater, nodup⟩ := List.nodup_cons.mp custody.nodup
  refine ⟨fun other member => ?_, nodup⟩
  rw [Table.find_close, if_neg]
  · exact custody.found other (List.mem_cons_of_mem _ member)
  · intro same
    exact notLater (same ▸ List.mem_map_of_mem member)

theorem Custody.otherOpen (custody : Custody files handles) :
    Custody (files.insert .other) handles := by
  refine ⟨fun handle member => ?_, custody.nodup⟩
  have found := custody.found handle member
  rw [Table.find_insert, if_neg, found]
  intro isNext
  rw [isNext, Table.find_next] at found
  cases found

theorem Custody.otherClose {number : Nat} (custody : Custody files handles)
    (other : files.lookup number = some .other) : Custody (files.close number) handles := by
  refine ⟨fun handle member => ?_, custody.nodup⟩
  have found := custody.found handle member
  rw [Table.find_close, if_neg, found]
  rintro rfl
  rw [Table.lookup, found] at other
  cases other

end Custody

theorem filterMap_update_none {Index Value : Type} [DecidableEq Index] {map : Index → Option Value}
    {index : Index} {indices : List Index} {value : Value} (nodup : indices.Nodup)
    (member : index ∈ indices) (mapped : map index = some value) :
    (indices.filterMap map).Perm
      (value :: indices.filterMap (Function.update map index none)) := by
  induction indices with
  | nil => cases member
  | cons first rest inductionHypothesis =>
      obtain ⟨notLater, nodupRest⟩ := List.nodup_cons.mp nodup
      by_cases isFirst : first = index
      · subst isFirst
        have same : rest.filterMap (Function.update map first none) = rest.filterMap map := by
          refine List.filterMap_congr fun other later => ?_
          rw [Function.update_of_ne]
          rintro rfl
          exact notLater later
        rw [List.filterMap_cons_some mapped,
          List.filterMap_cons_none (Function.update_self ..), same]
      · have later := (List.mem_cons.mp member).resolve_left (Ne.symm isFirst)
        have rests := inductionHypothesis nodupRest later
        have same : Function.update map index none first = map first :=
          Function.update_of_ne isFirst ..
        cases found : map first with
        | none =>
            rw [List.filterMap_cons_none found, List.filterMap_cons_none (same.trans found)]
            exact rests
        | some other =>
            rw [List.filterMap_cons_some found, List.filterMap_cons_some (same.trans found)]
            exact (rests.cons other).trans (List.Perm.swap ..)

def Stream.own (stream : Stream) : Option Handle :=
  if stream.aliased then none else stream.handle

namespace State

def mapped (state : State) : List Handle := (List.finRange 3).filterMap state.fdMap

def handles (state : State) : List Handle :=
  state.mapped ++ (state.held ++ state.streams.filterMap Stream.own)

theorem mapped_close {state : State} {fd : Stdio} {handle : Handle}
    (isMapped : state.fdMap fd = some handle) :
    state.mapped.Perm (handle :: (state.map fd none).mapped) :=
  filterMap_update_none (List.nodup_finRange 3) (List.mem_finRange fd) isMapped

theorem mapped_open (state : State) (fd : Stdio) (handle : Handle) :
    (state.map fd (some handle)).mapped.Perm (handle :: (state.map fd none).mapped) := by
  have same : (state.map fd (some handle)).map fd none = state.map fd none := by
    unfold map
    dsimp only
    rw [Function.update_idem]
  rw [← same]
  exact mapped_close (Function.update_self ..)

end State

/-- The handles are in custody, and every close hit what it was meant for. -/
structure Core (files : Table Holder) (hits : List Hit) (handles : List Handle) : Prop where
  custody : Custody files handles
  hits : ∀ hit ∈ hits, hit.closed = some hit.meant ∧ hit.meant ∈ files.closed

section Core

variable {files : Table Holder} {hits : List Hit} {handles : List Handle}

theorem Core.perm {handles' : List Handle} (core : Core files hits handles)
    (same : handles.Perm handles') : Core files hits handles' :=
  ⟨core.custody.perm same, core.hits⟩

theorem Core.openNew (core : Core files hits handles) :
    Core (files.insert .worker) hits (⟨files.next, files.nextSerial⟩ :: handles) :=
  ⟨core.custody.openNew, core.hits⟩

theorem Core.close {handle : Handle} (core : Core files hits (handle :: handles)) :
    Core (files.close handle.number)
      (hits ++ [⟨(files.find handle.number).map Prod.fst, handle.serial⟩]) handles := by
  have found := core.custody.found handle List.mem_cons_self
  refine ⟨core.custody.close, fun hit member => ?_⟩
  rcases List.mem_append.mp member with old | new
  · obtain ⟨isMeant, closed⟩ := core.hits hit old
    exact ⟨isMeant, Table.mem_closed_close _ closed⟩
  · rw [List.mem_singleton.mp new, found]
    exact ⟨rfl, Table.mem_closed_of_find found⟩

end Core

structure Inv (state : State) : Prop where
  core : Core state.files state.hits state.handles
  high : ∀ handle ∈ state.held, 3 ≤ handle.number

section Steps

variable {state : State}

theorem held_perm_filter {held : List Handle} {handle : Handle}
    (nodup : (held.map Handle.number).Nodup) (member : handle ∈ held) :
    held.Perm (handle :: held.filter fun other => other.number ≠ handle.number) := by
  induction held with
  | nil => cases member
  | cons first rest inductionHypothesis =>
      obtain ⟨notLater, nodupRest⟩ := List.nodup_cons.mp nodup
      rcases List.mem_cons.mp member with isFirst | later
      · subst isFirst
        have kept : rest.filter (fun other => other.number ≠ handle.number) = rest := by
          refine List.filter_eq_self.mpr fun other later => ?_
          rw [decide_eq_true_iff]
          intro same
          exact notLater (same ▸ List.mem_map_of_mem later)
        rw [List.filter_cons_of_neg (by simp), kept]
      · have different : first.number ≠ handle.number := by
          intro same
          exact notLater (same ▸ List.mem_map_of_mem later)
        rw [List.filter_cons_of_pos (by simpa using different)]
        exact ((inductionHypothesis nodupRest later).cons first).trans (List.Perm.swap ..)

theorem Inv.nodup_held (inv : Inv state) : (state.held.map Handle.number).Nodup := by
  have nodup := inv.core.custody.nodup
  unfold State.handles at nodup
  rw [List.map_append, List.map_append] at nodup
  exact (List.nodup_append.mp (List.nodup_append.mp nodup).2.1).1

/-- A number below 3 is never among the numbers returned to the applet. -/
theorem Inv.find_low (inv : Inv state) {fd : Nat} (low : fd < 3) :
    (state.held.find? fun handle => handle.number = fd) = none := by
  refine List.find?_eq_none.mpr fun handle member => ?_
  have high := inv.high handle member
  simp only [decide_eq_true_eq]
  omega

theorem Inv.forget_low (inv : Inv state) {fd : Nat} (low : fd < 3) : state.forget fd = state := by
  have kept : (state.held.filter fun handle => handle.number ≠ fd) = state.held := by
    refine List.filter_eq_self.mpr fun handle member => ?_
    have high := inv.high handle member
    rw [decide_eq_true_iff]
    omega
  unfold State.forget
  rw [kept]

/-- A number returned to the applet, and what is left of `held` without it. -/
theorem Inv.returned_high (inv : Inv state) {fd : Nat} (returned : state.Returned fd)
    (high : ¬ fd < 3) : ∃ handle, state.handleOf fd = some handle ∧ handle.number = fd ∧
      state.held.Perm (handle :: (state.forget fd).held) := by
  obtain ⟨held, isHeld, isFd⟩ := returned.resolve_left high
  have isSome : (state.held.find? fun handle => handle.number = fd).isSome :=
    List.find?_isSome.mpr ⟨held, isHeld, decide_eq_true isFd⟩
  obtain ⟨handle, found⟩ := Option.isSome_iff_exists.mp isSome
  have selected := List.find?_some found
  have number : handle.number = fd := of_decide_eq_true selected
  have split := held_perm_filter inv.nodup_held (List.mem_of_find?_eq_some found)
  rw [number] at split
  refine ⟨handle, ?_, number, split⟩
  unfold State.handleOf
  rw [found]
  rfl

theorem Inv.forget (inv : Inv state) (fd : Nat) :
    ∀ handle ∈ (state.forget fd).held, 3 ≤ handle.number :=
  fun handle member => inv.high handle (List.mem_of_mem_filter member)

/-- A new LKL number goes to the applet. -/
theorem Inv.returnNew (inv : Inv state) (high : 3 ≤ state.files.next) :
    Inv { state.sysOpen with held := state.nextHandle :: state.held } := by
  refine ⟨inv.core.openNew.perm ?_, fun handle member => ?_⟩
  · exact List.perm_middle.symm
  · rcases List.mem_cons.mp member with isNew | old
    · rw [isNew]
      exact high
    · exact inv.high handle old

/-- A new LKL number goes into a hole of the map. -/
theorem Inv.mapNew {fd : Stdio} (inv : Inv state) (unmapped : state.fdMap fd = none) :
    Inv (state.sysOpen.map fd (some state.nextHandle)) := by
  have same : state.map fd none = state := by
    unfold State.map
    rw [← unmapped, Function.update_eq_self]
  have opened := state.sysOpen.mapped_open fd state.nextHandle
  have unchanged : (state.map fd none).mapped = state.mapped := congrArg State.mapped same
  have kept : (state.sysOpen.map fd none).mapped = state.mapped := unchanged
  rw [kept] at opened
  exact ⟨inv.core.openNew.perm (opened.symm.append_right _), inv.high⟩

theorem Inv.lunaBbOpen (inv : Inv state) (succeeds : Bool)
    (high : state.hole = none → 3 ≤ state.files.next) :
    Inv (state.lunaBbOpen succeeds).1 ∧
      ∀ fd ∈ (state.lunaBbOpen succeeds).2, (state.lunaBbOpen succeeds).1.Returned fd := by
  unfold State.lunaBbOpen
  split
  · split
    next fd found =>
      have selected := List.find?_some found
      have unmapped : state.fdMap fd = none := Option.isNone_iff_eq_none.mp selected
      refine ⟨inv.mapNew unmapped, fun other isFd => .inl ?_⟩
      rw [← Option.some.inj isFd]
      exact fd.isLt
    next full =>
      refine ⟨inv.returnNew (high full), fun other isFd => .inr ?_⟩
      exact ⟨state.nextHandle, List.mem_cons_self, Option.some.inj isFd⟩
  · exact ⟨inv, nofun⟩

/-- The close of a mapped descriptor. -/
theorem Inv.unmap {fd : Stdio} {handle : Handle} (inv : Inv state)
    (mapped : state.fdMap fd = some handle) :
    Inv ((state.map fd none).sysClose handle.number handle.serial) := by
  have split := (State.mapped_close mapped).append_right
    (state.held ++ state.streams.filterMap Stream.own)
  exact ⟨(inv.core.perm split).close, inv.high⟩

theorem Inv.lunaBbClose (inv : Inv state) {fd : Nat} (returned : state.Returned fd) :
    Inv (state.lunaBbClose fd) := by
  unfold State.lunaBbClose
  dsimp only
  split
  next low =>
    have handleOf : state.handleOf fd = state.fdMap ⟨fd, low⟩ := by
      unfold State.handleOf
      rw [inv.find_low low, dif_pos low]
      rfl
    rw [inv.forget_low low, handleOf]
    split
    next unmapped => exact inv
    next handle mapped =>
      rw [mapped]
      exact inv.unmap mapped
  next high =>
    obtain ⟨handle, handleOf, number, split⟩ := inv.returned_high returned high
    rw [handleOf, ← number]
    rw [← number] at split
    have whole : state.handles.Perm (handle :: (state.forget handle.number).handles) := by
      refine ((split.append_right _).append_left state.mapped).trans ?_
      exact List.perm_middle
    exact ⟨(inv.core.perm whole).close, inv.forget _⟩

theorem Inv.lunaBbDup (inv : Inv state) (fd : Nat) (succeeds : Bool)
    (high : 3 ≤ state.files.next) : Inv (state.lunaBbDup fd succeeds) := by
  unfold State.lunaBbDup
  split
  · exact inv.returnNew high
  · exact inv

/-- The duplicate is open before the descriptor it replaces is closed. -/
theorem Inv.replace {fd : Stdio} {handle : Handle} (inv : Inv state)
    (mapped : state.fdMap fd = some handle) :
    Inv ((state.sysOpen.sysClose handle.number handle.serial).map fd
      (some state.nextHandle)) := by
  have split := (State.mapped_close mapped).append_right
    (state.held ++ state.streams.filterMap Stream.own)
  have core := (inv.core.openNew.perm (split.cons state.nextHandle)).perm (List.Perm.swap ..)
  have opened := (state.mapped_open fd state.nextHandle).append_right
    (state.held ++ state.streams.filterMap Stream.own)
  exact ⟨core.close.perm opened.symm, inv.high⟩

theorem Inv.lunaBbDup2 (inv : Inv state) (oldfd : Nat) (newfd : Stdio) (succeeds : Bool) :
    Inv (state.lunaBbDup2 oldfd newfd succeeds) := by
  unfold State.lunaBbDup2
  split
  · exact inv
  · split
    · dsimp only
      split
      next unmapped => exact inv.mapNew unmapped
      next handle mapped => exact inv.replace mapped
    · exact inv

theorem Inv.lunaBbFdopen (inv : Inv state) {fd : Nat} (succeeds : Bool)
    (returned : state.Returned fd) : Inv (state.lunaBbFdopen fd succeeds) := by
  unfold State.lunaBbFdopen
  split
  · split
    next low => exact ⟨inv.core, inv.high⟩
    next high =>
      obtain ⟨handle, handleOf, -, split⟩ := inv.returned_high returned high
      rw [handleOf]
      have moved : state.handles.Perm (state.mapped ++
          ((state.forget fd).held ++ (handle :: state.streams.filterMap Stream.own))) := by
        refine ((split.append_right _).trans ?_).append_left state.mapped
        exact List.perm_middle.symm
      exact ⟨inv.core.perm moved, inv.forget fd⟩
  · exact inv

theorem Inv.lunaBbFopen (inv : Inv state) (opens succeeds : Bool)
    (high : state.hole = none → 3 ≤ state.files.next) :
    Inv (state.lunaBbFopen opens succeeds) := by
  obtain ⟨opened, returned⟩ := inv.lunaBbOpen opens high
  unfold State.lunaBbFopen
  generalize state.lunaBbOpen opens = result at opened returned
  obtain ⟨after, fd⟩ := result
  cases fd with
  | none => exact opened
  | some fd =>
      dsimp only at opened returned ⊢
      split
      · exact opened.lunaBbFdopen true (returned fd rfl)
      · exact opened.lunaBbClose (returned fd rfl)

theorem Inv.lunaBbFclose (inv : Inv state) {index : Nat}
    (apart : ∀ stream ∈ state.streams[index]?, stream.aliased = true → stream.handle = none) :
    Inv (state.lunaBbFclose index) := by
  cases found : state.streams[index]? with
  | none =>
      have beyond := List.getElem?_eq_none_iff.mp found
      unfold State.lunaBbFclose
      rw [found, List.eraseIdx_of_length_le beyond]
      exact inv
  | some stream =>
      obtain ⟨inside, isStream⟩ := List.getElem?_eq_some_iff.mp found
      have split : (stream :: state.streams.eraseIdx index).Perm state.streams := by
        rw [← isStream]
        exact List.getElem_cons_eraseIdx_perm inside
      have own : stream.own = stream.handle := by
        unfold Stream.own
        split
        next aliased => exact (apart stream found aliased).symm
        next raw => rfl
      have owned := split.filterMap Stream.own
      unfold State.lunaBbFclose
      dsimp only
      rw [found, Option.bind_some]
      cases handle : stream.handle with
      | none =>
          rw [List.filterMap_cons_none (own.trans handle)] at owned
          exact ⟨inv.core.perm ((owned.symm.append_left _).append_left _), inv.high⟩
      | some handle' =>
          rw [List.filterMap_cons_some (own.trans handle)] at owned
          have whole : state.handles.Perm (handle' :: (state.mapped ++ (state.held ++
              (state.streams.eraseIdx index).filterMap Stream.own))) := by
            refine ((owned.symm.append_left _).append_left _).trans ?_
            exact (List.perm_middle.append_left _).trans List.perm_middle
          exact ⟨(inv.core.perm whole).close, inv.high⟩

theorem Inv.closeMapped (inv : Inv state) (fd : Stdio) : Inv (state.closeMapped fd) := by
  unfold State.closeMapped
  split
  next unmapped => exact inv
  next handle mapped => exact inv.unmap mapped

theorem Inv.exit (inv : Inv state) : Inv state.exit := by
  have closed : ∀ (fds : List Stdio) (state : State), Inv state →
      Inv (fds.foldl State.closeMapped state) := by
    intro fds
    induction fds with
    | nil => exact fun _ inv => inv
    | cons fd rest inductionHypothesis =>
        intro state inv
        exact inductionHypothesis _ (inv.closeMapped fd)
  have all := closed (List.finRange 3) state inv
  exact ⟨all.core, all.high⟩

theorem Inv.call {action : Action} {target : State} (inv : Inv state)
    (apart : StreamsApart state action) (moved : state.call action = some target) :
    Inv target := by
  cases action with
  | openFile succeeds =>
      cases moved
      exact (inv.lunaBbOpen succeeds apart).1
  | close fd =>
      obtain ⟨returned, isTarget⟩ := Option.ite_none_right_eq_some.mp moved
      cases isTarget
      exact inv.lunaBbClose returned
  | dup fd succeeds =>
      obtain ⟨-, isTarget⟩ := Option.ite_none_right_eq_some.mp moved
      cases isTarget
      exact inv.lunaBbDup fd succeeds apart
  | dup2 oldfd newfd succeeds =>
      obtain ⟨-, isTarget⟩ := Option.ite_none_right_eq_some.mp moved
      cases isTarget
      exact inv.lunaBbDup2 oldfd newfd succeeds
  | fopen opens succeeds =>
      cases moved
      exact inv.lunaBbFopen opens succeeds apart
  | fdopen fd succeeds =>
      obtain ⟨returned, isTarget⟩ := Option.ite_none_right_eq_some.mp moved
      cases isTarget
      exact inv.lunaBbFdopen succeeds returned
  | fclose index =>
      obtain ⟨-, isTarget⟩ := Option.ite_none_right_eq_some.mp moved
      cases isTarget
      exact inv.lunaBbFclose apart
  | exit =>
      cases moved
      exact inv.exit
  | otherOpen | otherClose _ => cases moved

theorem Inv.step {action : Action} {target : State} (inv : Inv state)
    (apart : StreamsApart state action) (moved : next state action = some target) :
    Inv target := by
  have called : ∀ {target : State}, (if state.exited then none else state.call action) =
      some target → Inv target := by
    intro target moved
    exact inv.call apart (Option.ite_none_left_eq_some.mp moved).2
  cases action with
  | otherOpen =>
      cases moved
      exact ⟨⟨inv.core.custody.otherOpen, inv.core.hits⟩, inv.high⟩
  | otherClose number =>
      obtain ⟨other, isTarget⟩ := Option.ite_none_right_eq_some.mp moved
      cases isTarget
      refine ⟨⟨inv.core.custody.otherClose other, fun hit member => ?_⟩, inv.high⟩
      obtain ⟨isMeant, closed⟩ := inv.core.hits hit member
      exact ⟨isMeant, Table.mem_closed_close _ closed⟩
  | _ => exact called moved

end Steps

theorem nodup_filterMap_number {map : Stdio → Option Handle} {fds : List Stdio}
    (nodup : fds.Nodup) (distinct : ∀ fd fd' handle handle', map fd = some handle →
      map fd' = some handle' → handle.number = handle'.number → fd = fd') :
    ((fds.filterMap map).map Handle.number).Nodup := by
  induction fds with
  | nil => exact List.nodup_nil
  | cons fd rest inductionHypothesis =>
      obtain ⟨notLater, nodupRest⟩ := List.nodup_cons.mp nodup
      cases mapped : map fd with
      | none =>
          rw [List.filterMap_cons_none mapped]
          exact inductionHypothesis nodupRest
      | some handle =>
          rw [List.filterMap_cons_some mapped, List.map_cons, List.nodup_cons]
          refine ⟨fun member => ?_, inductionHypothesis nodupRest⟩
          obtain ⟨other, isOther, same⟩ := List.mem_map.mp member
          obtain ⟨later, isLater, mapped'⟩ := List.mem_filterMap.mp isOther
          exact notLater (distinct fd later handle other mapped mapped' same.symm ▸ isLater)

theorem Started.inv {state : State} (started : Started state) : Inv state := by
  have handles : state.handles = state.mapped := by
    unfold State.handles
    rw [started.held, started.streams]
    exact List.append_nil _
  refine ⟨⟨⟨fun handle member => ?_, ?_⟩, fun hit member => ?_⟩, fun handle member => ?_⟩
  · rw [handles] at member
    obtain ⟨fd, -, mapped⟩ := List.mem_filterMap.mp member
    exact started.mapped fd handle mapped
  · rw [handles]
    exact nodup_filterMap_number (List.nodup_finRange 3) started.distinct
  · rw [started.hits] at member
    cases member
  · rw [started.held] at member
    cases member

theorem Inv.closesOwn {state : State} (inv : Inv state) : ClosesOwn state := by
  refine ⟨fun hit member => ?_, fun fd handle mapped => ?_⟩
  · obtain ⟨isMeant, closed⟩ := inv.core.hits hit member
    exact ⟨isMeant, Table.count_of_mem_closed closed⟩
  · refine inv.core.custody.found handle (List.mem_append_left _ ?_)
    exact List.mem_filterMap.mpr ⟨fd, List.mem_finRange fd, mapped⟩

/-- A worker closes only descriptors it owns, as long as no stream made from 0, 1 or 2
is closed and LKL returns no number below 3 to the applet. -/
theorem closes_own_of_streamsApart {state : State}
    (reached : system.Reach StreamsApart state) : ClosesOwn state := by
  have inv : Inv state := by
    refine System.Reach.invariant Inv ?_ ?_ reached
    · intro state started
      exact started.inv
    · intro state action target inv apart moved
      exact inv.step apart moved
  exact inv.closesOwn

/-- The shell has 0, 1 and 2, and the worker its duplicates at 3, 4 and 5. -/
def startState : State where
  files := .ofList [.other, .other, .other, .worker, .worker, .worker]
  fdMap fd := some ⟨fd + 3, fd + 3⟩
  held := []
  streams := []
  exited := false
  hits := []

theorem startState_started : Started startState := by
  refine ⟨fun fd handle mapped => ?_, fun fd fd' handle handle' mapped mapped' same => ?_, rfl, rfl,
    rfl⟩
  · cases mapped
    match fd with
    | 0 | 1 | 2 => rfl
  · cases mapped
    cases mapped'
    exact Fin.ext (Nat.add_right_cancel same)

theorem closes_own_of_streamsApart_run :
    ∃ state, system.Reach StreamsApart state ∧ state.hits.length = 6 ∧ state.exited = true ∧
      ClosesOwn state := by
  obtain ⟨state, reached, ends⟩ := System.exists_reach_of_exec system StreamsApart startState
    [.openFile true, .fdopen 6 true, .otherOpen, .fclose 0, .close 0, .openFile true,
      .dup2 1 2 true, .exit]
    (fun state => decide (state.hits.length = 6 ∧ state.exited = true)) startState_started
    (by decide +kernel)
  obtain ⟨hits, exited⟩ := of_decide_eq_true ends
  exact ⟨state, reached, hits, exited, closes_own_of_streamsApart reached⟩

/-- The worker closes 0, opens a stream into the hole and closes the stream; another
worker's descriptor gets the number, and the exit closes it. -/
theorem exit_closes_other :
    ¬ ∀ state, system.Reachable state → ClosesOwn state := by
  intro all
  obtain ⟨state, reached, ends⟩ := System.exists_reach_of_exec system (fun _ _ => True) startState
    [.close 0, .fopen true true, .fclose 0, .otherOpen, .exit]
    (fun state => decide (∃ hit ∈ state.hits, hit.closed ≠ some hit.meant)) startState_started
    (by decide +kernel)
  obtain ⟨hit, member, missed⟩ := of_decide_eq_true ends
  exact missed ((all state reached).hits hit member).1

end Luna.WorkerFiles
