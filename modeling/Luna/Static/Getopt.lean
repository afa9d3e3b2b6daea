import Mathlib.Logic.Function.Basic
import Luna.Lib.Interleaving
import Luna.Static.Workers

/-!
# The shared getopt

Workers share one C library and so one `optind`, one `optarg` and one scan hidden behind
them.  `bb_getopt_begin` and `bb_getopt_end` bracket `getopt` and `getopt_long`: a worker
that starts a scan takes `task_static_getopt_lock` and keeps it until a call returns -1 or
the worker exits, and every call moves the variables of the worker's slot into the
library's and back.  Each access to shared memory is a step of its own.

Worker by worker, the run is one with a library of its own for every slot.
-/

namespace Luna.Static

open Interleaving

/-! ## The library -/

/-- The two calls the launcher brackets. -/
inductive Entry where
  | getopt
  | getoptLong
  deriving DecidableEq, Repr

/-- The variables of the library: what the program sees of a scan, and the rest. -/
structure Scan (Hidden : Type) where
  optind : Int
  optarg : Option Nat
  hidden : Hidden
  deriving DecidableEq, Repr

/-- `getopt` and `getopt_long`.  The memory of the caller holds the arguments of the call,
which the library may permute. -/
abbrev Library (Memory Hidden : Type) :=
  Entry → Memory → Scan Hidden → Int × Memory × Scan Hidden

/-- An `optind` of 0 starts a scan afresh: whatever scan went on before is forgotten. -/
def Library.Reinitialises {Memory Hidden : Type} (library : Library Memory Hidden) : Prop :=
  ∀ entry memory (scan other : Scan Hidden), scan.optind = 0 → other.optind = 0 →
    scan.optarg = other.optarg → library entry memory scan = library entry memory other

/-! ## The workers -/

/-- Where a worker stands: in its applet, before the accesses of `bb_getopt_begin`, at the
call, before those of `bb_getopt_end`, or at its end. -/
inductive GetoptPc where
  | applet
  | testAndSet (entry : Entry)
  | setLocked (entry : Entry)
  | loadOptind (entry : Entry)
  | loadOptarg (entry : Entry)
  | call (entry : Entry)
  | storeOptind (result : Int)
  | storeOptarg (result : Int)
  | test (result : Int)
  | clear
  | exitClear
  | gone
  deriving DecidableEq, Repr

/-- A slot: `luna_bb_slotN_optind` and `luna_bb_slotN_optarg`, `getopt_locked`, the memory of
the applet in it and what its last call returned. -/
structure GetoptWorker (Memory : Type) where
  pc : GetoptPc
  getoptLocked : Bool
  optind : Int
  optarg : Option Nat
  memory : Memory
  result : Option Int

structure GetoptState (Memory Hidden : Type) where
  worker : Slot → GetoptWorker Memory
  /-- `task_static_getopt_lock` -/
  lock : Bool
  scan : Scan Hidden

/-- What a run chooses.  An applet writes its memory and the variables of its slot as it
likes; the shell, which is no worker, uses the library's own variables and no lock. -/
inductive GetoptEvent (Memory Hidden : Type) where
  | start (slot : Slot) (memory : Memory)
  | assign (slot : Slot) (memory : Memory) (optind : Int) (optarg : Option Nat)
  | enter (slot : Slot) (entry : Entry)
  | step (slot : Slot)
  | exit (slot : Slot)
  | shell (scan : Scan Hidden)

variable {Memory Hidden : Type}

namespace GetoptState

/-- Replace one worker. -/
def put (state : GetoptState Memory Hidden) (slot : Slot) (worker : GetoptWorker Memory) :
    GetoptState Memory Hidden :=
  { state with worker := Function.update state.worker slot worker }

/-- The next access of a worker inside `luna_bb_getopt`, or at its exit. -/
def step (library : Library Memory Hidden) (state : GetoptState Memory Hidden) (slot : Slot) :
    Option (GetoptState Memory Hidden) :=
  let worker := state.worker slot
  match worker.pc with
  | .applet | .gone => none
  | .testAndSet entry =>
      -- a test-and-set that finds the lock set leaves it set: `seL4_Yield` and again
      if state.lock then some state
      else some { state.put slot { worker with pc := .setLocked entry } with lock := true }
  | .setLocked entry =>
      some (state.put slot { worker with pc := .loadOptind entry, getoptLocked := true })
  | .loadOptind entry =>
      some { state.put slot { worker with pc := .loadOptarg entry } with
        scan := { state.scan with optind := worker.optind } }
  | .loadOptarg entry =>
      some { state.put slot { worker with pc := .call entry } with
        scan := { state.scan with optarg := worker.optarg } }
  | .call entry =>
      let answer := library entry worker.memory state.scan
      some { state.put slot { worker with pc := .storeOptind answer.1, memory := answer.2.1 } with
        scan := answer.2.2 }
  | .storeOptind result =>
      some (state.put slot
        { worker with pc := .storeOptarg result, optind := state.scan.optind })
  | .storeOptarg result =>
      some (state.put slot { worker with pc := .test result, optarg := state.scan.optarg })
  | .test result =>
      if result = -1 ∧ worker.getoptLocked = true then
        some (state.put slot { worker with pc := .clear, getoptLocked := false })
      else some (state.put slot { worker with pc := .applet, result := some result })
  | .clear =>
      some { state.put slot { worker with pc := .applet, result := some (-1) } with lock := false }
  | .exitClear => some { state.put slot { worker with pc := .gone } with lock := false }

/-- One event. -/
def next (library : Library Memory Hidden) (state : GetoptState Memory Hidden) :
    GetoptEvent Memory Hidden → Option (GetoptState Memory Hidden)
  | .start slot memory =>
      let worker := state.worker slot
      if worker.pc = .gone then
        -- `task_static_allocate`; the variables of the slot keep their values
        some (state.put slot
          { worker with pc := .applet, getoptLocked := false, memory := memory, result := none })
      else none
  | .assign slot memory optind optarg =>
      let worker := state.worker slot
      if worker.pc = .applet then
        some (state.put slot
          { worker with memory := memory, optind := optind, optarg := optarg })
      else none
  | .enter slot entry =>
      let worker := state.worker slot
      if worker.pc = .applet then
        let pc := if worker.getoptLocked then .loadOptind entry else .testAndSet entry
        some (state.put slot { worker with pc := pc })
      else none
  | .step slot => state.step library slot
  | .exit slot =>
      let worker := state.worker slot
      if worker.pc = .applet then
        -- the end of `task_static_worker`, reached by `return` or by `luna_bb_exit`
        let pc := if worker.getoptLocked then .exitClear else .gone
        some (state.put slot { worker with pc := pc, getoptLocked := false })
      else none
  | .shell scan => some { state with scan := scan }

end GetoptState

/-- Before any worker has run. -/
def GetoptInitial (state : GetoptState Memory Hidden) : Prop :=
  state.lock = false ∧
    ∀ slot, (state.worker slot).pc = .gone ∧ (state.worker slot).getoptLocked = false

def getoptSystem (library : Library Memory Hidden) :
    System (GetoptState Memory Hidden) (GetoptEvent Memory Hidden) where
  init := GetoptInitial
  next := GetoptState.next library

/-- Every worker sets `optind` to 0 before it starts a scan, and the shell leaves the
library alone while a worker scans. -/
def resetsOptind (state : GetoptState Memory Hidden) : GetoptEvent Memory Hidden → Bool
  | .enter slot _ => (state.worker slot).getoptLocked || (state.worker slot).optind == 0
  | .shell _ => !state.lock
  | _ => true

/-! ## A library of its own -/

/-- An applet with a C library nobody else uses. -/
structure Alone (Memory Hidden : Type) where
  memory : Memory
  scan : Scan Hidden
  result : Option Int

/-- A call of the library, from start to end. -/
def Alone.call (library : Library Memory Hidden) (entry : Entry) (alone : Alone Memory Hidden) :
    Alone Memory Hidden :=
  let answer := library entry alone.memory alone.scan
  { memory := answer.2.1, scan := answer.2.2, result := some answer.1 }

/-- What an event of the run is to the applets of one slot. -/
def Alone.follow (library : Library Memory Hidden) (slot : Slot) (alone : Alone Memory Hidden) :
    GetoptEvent Memory Hidden → Alone Memory Hidden
  | .start other memory =>
      if other = slot then { alone with memory := memory, result := none } else alone
  | .assign other memory optind optarg =>
      if other = slot then
        { alone with memory := memory, scan := { alone.scan with optind, optarg } }
      else alone
  | .enter other entry => if other = slot then alone.call library entry else alone
  | _ => alone

/-- The slot's variables and memory at the beginning. -/
def GetoptState.alone (state : GetoptState Memory Hidden) (slot : Slot) : Alone Memory Hidden :=
  let worker := state.worker slot
  { memory := worker.memory, scan := ⟨worker.optind, worker.optarg, state.scan.hidden⟩,
    result := worker.result }

/-- The applet sees what the private library shows it. -/
structure Shows (worker : GetoptWorker Memory) (alone : Alone Memory Hidden) : Prop where
  memory : worker.memory = alone.memory
  optind : worker.optind = alone.scan.optind
  optarg : worker.optarg = alone.scan.optarg
  result : worker.result = alone.result

/-! ## What a run keeps -/

/-- Whether the worker holds the lock. -/
def GetoptWorker.owns (worker : GetoptWorker Memory) : Bool :=
  match worker.pc with
  | .applet => worker.getoptLocked
  | .testAndSet _ | .gone => false
  | _ => true

/-- Where `getopt_locked` is known without looking at it. -/
def GetoptWorker.Flagged (worker : GetoptWorker Memory) : Prop :=
  match worker.pc with
  | .applet => True
  | .testAndSet _ | .setLocked _ | .clear | .exitClear | .gone => worker.getoptLocked = false
  | _ => worker.getoptLocked = true

/-- The worker is at a call that the private library has already made from `before`.
Either the scan starts afresh or its hidden part meets `carried`. -/
def Calls (library : Library Memory Hidden) (carried : Hidden → Prop) (entry : Entry)
    (worker : GetoptWorker Memory) (alone : Alone Memory Hidden) : Prop :=
  ∃ before : Alone Memory Hidden, alone = before.call library entry ∧ Shows worker before ∧
    (worker.optind = 0 ∨ carried before.scan.hidden)

/-- How the slot and the library stand to the slot's private library. -/
def Follows (library : Library Memory Hidden) (scan : Scan Hidden)
    (worker : GetoptWorker Memory) (alone : Alone Memory Hidden) : Prop :=
  match worker.pc with
  | .applet =>
      Shows worker alone ∧ (worker.getoptLocked = true → scan.hidden = alone.scan.hidden)
  | .testAndSet entry | .setLocked entry => Calls library (fun _ => False) entry worker alone
  | .loadOptind entry => Calls library (scan.hidden = ·) entry worker alone
  | .loadOptarg entry =>
      Calls library (scan.hidden = ·) entry worker alone ∧ scan.optind = worker.optind
  | .call entry =>
      Calls library (scan.hidden = ·) entry worker alone ∧ scan.optind = worker.optind ∧
        scan.optarg = worker.optarg
  | .storeOptind result =>
      worker.memory = alone.memory ∧ scan = alone.scan ∧ alone.result = some result
  | .storeOptarg result =>
      worker.memory = alone.memory ∧ scan = alone.scan ∧ alone.result = some result ∧
        worker.optind = alone.scan.optind
  | .test result =>
      worker.memory = alone.memory ∧ scan = alone.scan ∧ alone.result = some result ∧
        worker.optind = alone.scan.optind ∧ worker.optarg = alone.scan.optarg
  | .clear =>
      worker.memory = alone.memory ∧ alone.result = some (-1) ∧
        worker.optind = alone.scan.optind ∧ worker.optarg = alone.scan.optarg
  | .exitClear | .gone =>
      worker.optind = alone.scan.optind ∧ worker.optarg = alone.scan.optarg

/-- The lock is set exactly while one worker holds it. -/
def LockHeld (state : GetoptState Memory Hidden) : Prop :=
  ∃ holder : Option Slot, state.lock = holder.isSome ∧
    ∀ slot, (state.worker slot).owns = true ↔ holder = some slot

/-- What the events so far have been to the slot. -/
def GetoptState.history (library : Library Memory Hidden) (start : GetoptState Memory Hidden)
    (events : List (GetoptEvent Memory Hidden)) (slot : Slot) : Alone Memory Hidden :=
  events.foldl (Alone.follow library slot) (start.alone slot)

structure GetoptInv (library : Library Memory Hidden) (start state : GetoptState Memory Hidden)
    (events : List (GetoptEvent Memory Hidden)) : Prop where
  follows : ∀ slot, Follows library state.scan (state.worker slot)
    (start.history library events slot)
  flagged : ∀ slot, (state.worker slot).Flagged
  held : LockHeld state

variable {library : Library Memory Hidden} {start state target : GetoptState Memory Hidden}
  {events : List (GetoptEvent Memory Hidden)} {event : GetoptEvent Memory Hidden} {slot : Slot}
  {worker : GetoptWorker Memory} {alone : Alone Memory Hidden}

@[simp]
theorem history_append :
    start.history library (events ++ [event]) slot =
      (start.history library events slot).follow library slot event := by
  simp [GetoptState.history]

/-- A worker that does not hold the lock does not care what the library's variables hold. -/
theorem Follows.elsewhere {scan : Scan Hidden} (other : Scan Hidden) (idle : worker.owns = false)
    (follows : Follows library scan worker alone) : Follows library other worker alone := by
  unfold Follows at follows ⊢
  unfold GetoptWorker.owns at idle
  split at follows <;> simp_all

/-- Two workers that hold the lock are one. -/
theorem LockHeld.eq {other : Slot} (held : LockHeld state) (owns : (state.worker slot).owns = true)
    (ownsOther : (state.worker other).owns = true) : other = slot := by
  obtain ⟨holder, -, holds⟩ := held
  have same : some other = some slot := by
    rw [← (holds other).mp ownsOther, ← (holds slot).mp owns]
  exact Option.some.inj same

theorem LockHeld.locked (held : LockHeld state) (owns : (state.worker slot).owns = true) :
    state.lock = true := by
  obtain ⟨holder, lock, holds⟩ := held
  simp [lock, (holds slot).mp owns]

/-- How a move of one worker treats the lock: it keeps what it has, takes it or gives it
back. -/
def KeepsLock (state target : GetoptState Memory Hidden) (slot : Slot)
    (worker : GetoptWorker Memory) : Prop :=
  worker.owns = (state.worker slot).owns ∧ target.lock = state.lock ∨
  state.lock = false ∧ worker.owns = true ∧ target.lock = true ∨
  (state.worker slot).owns = true ∧ worker.owns = false ∧ target.lock = false

theorem LockHeld.move (held : LockHeld state)
    (workers : target.worker = Function.update state.worker slot worker)
    (keeps : KeepsLock state target slot worker) : LockHeld target := by
  obtain ⟨holder, lock, holds⟩ := held
  have elsewhere : ∀ other, other ≠ slot → target.worker other = state.worker other :=
    fun other differs => by rw [workers, Function.update_of_ne differs]
  have here : target.worker slot = worker := by rw [workers, Function.update_self]
  rcases keeps with ⟨same, lockSame⟩ | ⟨free, owns, taken⟩ | ⟨owned, loses, cleared⟩
  · refine ⟨holder, lockSame.trans lock, fun other => ?_⟩
    by_cases differs : other = slot
    · subst differs
      rw [here, same]
      exact holds other
    · rw [elsewhere other differs]
      exact holds other
  · refine ⟨some slot, by simp [taken], fun other => ?_⟩
    have nobody : holder = none := by simpa [free] using lock.symm
    by_cases differs : other = slot
    · subst differs
      simp [here, owns]
    · rw [elsewhere other differs, holds other, nobody]
      simp [Ne.symm differs]
  · refine ⟨none, by simp [cleared], fun other => ?_⟩
    have mine : holder = some slot := (holds slot).mp owned
    by_cases differs : other = slot
    · subst differs
      simp [here, loses]
    · rw [elsewhere other differs, holds other, mine]
      simp [Ne.symm differs]

/-- A move of one worker keeps the invariant if that worker follows its private library
and nobody but the holder of the lock touches the shared one. -/
theorem GetoptInv.move (inv : GetoptInv library start state events)
    (workers : target.worker = Function.update state.worker slot worker)
    (touches : target.scan = state.scan ∨ (state.worker slot).owns = true)
    (keeps : KeepsLock state target slot worker)
    (others : ∀ other, other ≠ slot → ∀ alone : Alone Memory Hidden,
      alone.follow library other event = alone)
    (flagged : worker.Flagged)
    (follows : Follows library target.scan worker
      ((start.history library events slot).follow library slot event)) :
    GetoptInv library start target (events ++ [event]) where
  follows := by
    intro other
    rw [history_append, workers]
    by_cases differs : other = slot
    · subst differs
      simpa using follows
    · rw [Function.update_of_ne differs, others other differs]
      rcases touches with same | owned
      · rw [same]
        exact inv.follows other
      · have idle : (state.worker other).owns = false := by
          by_contra owns
          exact differs (inv.held.eq owned (by simpa using owns))
        exact (inv.follows other).elsewhere _ idle
  flagged := by
    intro other
    rw [workers]
    by_cases differs : other = slot
    · subst differs
      simpa using flagged
    · rw [Function.update_of_ne differs]
      exact inv.flagged other
  held := inv.held.move workers keeps

/-! ## Every event keeps it -/

theorem follow_step (other : Slot) :
    alone.follow library slot (.step other) = alone := by
  simp [Alone.follow]

/-- The private library answers a call as the shared one does. -/
theorem Calls.answer (reinitialises : library.Reinitialises) {entry : Entry} {scan : Scan Hidden}
    (calls : Calls library (scan.hidden = ·) entry worker alone)
    (optind : scan.optind = worker.optind) (optarg : scan.optarg = worker.optarg) :
    (library entry worker.memory scan).2.1 = alone.memory ∧
      (library entry worker.memory scan).2.2 = alone.scan ∧
      alone.result = some (library entry worker.memory scan).1 := by
  obtain ⟨before, rfl, shows, fresh⟩ := calls
  have same : library entry worker.memory scan = library entry before.memory before.scan := by
    rw [shows.memory]
    rcases fresh with fresh | carried
    · exact reinitialises entry _ _ _ (optind.trans fresh) (shows.optind ▸ fresh)
        (optarg.trans shows.optarg)
    · congr
      obtain ⟨scanOptind, scanOptarg, scanHidden⟩ := scan
      simp only at optind optarg carried
      rw [optind, optarg, carried, shows.optind, shows.optarg]
  simp [Alone.call, same]

theorem Shows.goto (pc : GetoptPc) (locked : Bool) (shows : Shows worker alone) :
    Shows { worker with pc := pc, getoptLocked := locked } alone :=
  ⟨shows.memory, shows.optind, shows.optarg, shows.result⟩

theorem Calls.goto {carried weaker : Hidden → Prop} {entry : Entry} (pc : GetoptPc)
    (locked : Bool) (implies : ∀ hidden, carried hidden → weaker hidden)
    (calls : Calls library carried entry worker alone) :
    Calls library weaker entry { worker with pc := pc, getoptLocked := locked } alone := by
  obtain ⟨before, same, shows, fresh⟩ := calls
  exact ⟨before, same, shows.goto pc locked, fresh.imp_right (implies _)⟩

theorem GetoptInv.step (reinitialises : library.Reinitialises)
    (inv : GetoptInv library start state events)
    (moved : state.step library slot = some target) :
    GetoptInv library start target (events ++ [.step slot]) := by
  have follows := inv.follows slot
  have flagged := inv.flagged slot
  have others : ∀ other, other ≠ slot → ∀ alone : Alone Memory Hidden,
      alone.follow library other (.step slot) = alone := fun other _ alone => follow_step slot
  unfold GetoptState.step at moved
  unfold Follows at follows
  unfold GetoptWorker.Flagged at flagged
  cases pc : (state.worker slot).pc with
  | applet => simp [pc] at moved
  | gone => simp [pc] at moved
  | testAndSet entry =>
      simp only [pc] at moved follows flagged
      split at moved
      next locked =>
        cases moved
        have stays : state.worker = Function.update state.worker slot (state.worker slot) :=
          (Function.update_eq_self slot state.worker).symm
        refine inv.move stays (.inl rfl) (.inl ⟨rfl, rfl⟩) others (inv.flagged slot) ?_
        rw [follow_step]
        exact inv.follows slot
      next free =>
        cases moved
        refine inv.move rfl (.inl rfl) (.inr (.inl ⟨by simpa using free, rfl, rfl⟩)) others
          flagged ?_
        rw [follow_step]
        exact follows.goto (.setLocked entry) _ fun hidden never => never
  | setLocked entry =>
      simp only [pc] at moved follows flagged
      cases moved
      have owns : (state.worker slot).owns = true := by simp [GetoptWorker.owns, pc]
      refine inv.move rfl (.inl rfl) (.inl ⟨owns.symm, rfl⟩) others rfl ?_
      rw [follow_step]
      exact follows.goto (.loadOptind entry) true fun hidden never => never.elim
  | loadOptind entry =>
      simp only [pc] at moved follows flagged
      cases moved
      have owns : (state.worker slot).owns = true := by simp [GetoptWorker.owns, pc]
      refine inv.move rfl (.inr owns) (.inl ⟨owns.symm, rfl⟩) others flagged ?_
      rw [follow_step]
      exact ⟨follows.goto (.loadOptarg entry) _ fun hidden same => same, rfl⟩
  | loadOptarg entry =>
      simp only [pc] at moved follows flagged
      cases moved
      have owns : (state.worker slot).owns = true := by simp [GetoptWorker.owns, pc]
      refine inv.move rfl (.inr owns) (.inl ⟨owns.symm, rfl⟩) others flagged ?_
      rw [follow_step]
      exact ⟨follows.1.goto (.call entry) _ fun hidden same => same, follows.2, rfl⟩
  | call entry =>
      simp only [pc] at moved follows flagged
      cases moved
      have owns : (state.worker slot).owns = true := by simp [GetoptWorker.owns, pc]
      refine inv.move rfl (.inr owns) (.inl ⟨owns.symm, rfl⟩) others flagged ?_
      rw [follow_step]
      exact follows.1.answer reinitialises follows.2.1 follows.2.2
  | storeOptind result =>
      simp only [pc] at moved follows flagged
      cases moved
      have owns : (state.worker slot).owns = true := by simp [GetoptWorker.owns, pc]
      refine inv.move rfl (.inl rfl) (.inl ⟨owns.symm, rfl⟩) others flagged ?_
      rw [follow_step]
      obtain ⟨memory, scan, returned⟩ := follows
      exact ⟨memory, scan, returned, congrArg Scan.optind scan⟩
  | storeOptarg result =>
      simp only [pc] at moved follows flagged
      cases moved
      have owns : (state.worker slot).owns = true := by simp [GetoptWorker.owns, pc]
      refine inv.move rfl (.inl rfl) (.inl ⟨owns.symm, rfl⟩) others flagged ?_
      rw [follow_step]
      obtain ⟨memory, scan, returned, optind⟩ := follows
      exact ⟨memory, scan, returned, optind, congrArg Scan.optarg scan⟩
  | test result =>
      simp only [pc] at moved follows flagged
      obtain ⟨memory, scan, returned, optind, optarg⟩ := follows
      have owns : (state.worker slot).owns = true := by simp [GetoptWorker.owns, pc]
      split at moved
      next ended =>
        cases moved
        refine inv.move rfl (.inl rfl) (.inl ⟨owns.symm, rfl⟩) others rfl ?_
        rw [follow_step]
        exact ⟨memory, by rw [returned, ended.1], optind, optarg⟩
      next goesOn =>
        cases moved
        refine inv.move rfl (.inl rfl) (.inl ⟨?_, rfl⟩) others trivial ?_
        · rw [owns]
          exact flagged
        · rw [follow_step]
          exact ⟨⟨memory, optind, optarg, returned.symm⟩, fun _ => congrArg Scan.hidden scan⟩
  | clear =>
      simp only [pc] at moved follows flagged
      cases moved
      obtain ⟨memory, returned, optind, optarg⟩ := follows
      have owns : (state.worker slot).owns = true := by simp [GetoptWorker.owns, pc]
      refine inv.move rfl (.inl rfl) (.inr (.inr ⟨owns, flagged, rfl⟩)) others trivial ?_
      rw [follow_step]
      exact ⟨⟨memory, optind, optarg, returned.symm⟩, fun locked => by simp [flagged] at locked⟩
  | exitClear =>
      simp only [pc] at moved follows flagged
      cases moved
      have owns : (state.worker slot).owns = true := by simp [GetoptWorker.owns, pc]
      refine inv.move rfl (.inl rfl) (.inr (.inr ⟨owns, rfl, rfl⟩)) others flagged ?_
      rw [follow_step]
      exact follows

theorem GetoptInv.next (reinitialises : library.Reinitialises)
    (inv : GetoptInv library start state events) (meets : resetsOptind state event = true)
    (moved : state.next library event = some target) :
    GetoptInv library start target (events ++ [event]) := by
  cases event with
  | step slot => exact inv.step reinitialises moved
  | start slot memory =>
      have follows := inv.follows slot
      simp only [GetoptState.next] at moved
      split at moved
      next gone =>
        cases moved
        simp only [Follows, gone] at follows
        refine inv.move rfl (.inl rfl) (.inl ⟨?_, rfl⟩) ?_ trivial ?_
        · simp [GetoptWorker.owns, gone]
        · intro other differs alone
          simp [Alone.follow, Ne.symm differs]
        · simp only [Alone.follow, if_true]
          exact ⟨⟨rfl, follows.1, follows.2, rfl⟩, by simp⟩
      next => cases moved
  | assign slot memory optind optarg =>
      have follows := inv.follows slot
      simp only [GetoptState.next] at moved
      split at moved
      next applet =>
        cases moved
        simp only [Follows, applet] at follows
        refine inv.move rfl (.inl rfl) (.inl ⟨?_, rfl⟩) ?_ ?_ ?_
        · simp [GetoptWorker.owns, applet]
        · intro other differs alone
          simp [Alone.follow, Ne.symm differs]
        · simp [GetoptWorker.Flagged, applet]
        · simp only [Alone.follow, if_true, Follows, applet]
          exact ⟨⟨rfl, rfl, rfl, follows.1.result⟩, follows.2⟩
      next => cases moved
  | enter slot entry =>
      have follows := inv.follows slot
      simp only [GetoptState.next] at moved
      split at moved
      next applet =>
        cases moved
        simp only [Follows, applet] at follows
        have others : ∀ other, other ≠ slot → ∀ alone : Alone Memory Hidden,
            alone.follow library other (.enter slot entry) = alone := by
          intro other differs alone
          simp [Alone.follow, Ne.symm differs]
        cases locked : (state.worker slot).getoptLocked with
        | true =>
            refine inv.move rfl (.inl rfl) (.inl ⟨?_, rfl⟩) others ?_ ?_
            · simp [GetoptWorker.owns, applet, locked]
            · simp [GetoptWorker.Flagged]
            · simp only [Alone.follow, if_true, Follows]
              exact ⟨_, rfl, follows.1.goto _ _, .inr (follows.2 locked)⟩
        | false =>
            have reset : (state.worker slot).optind = 0 := by
              simpa [resetsOptind, locked] using meets
            refine inv.move rfl (.inl rfl) (.inl ⟨?_, rfl⟩) others ?_ ?_
            · simp [GetoptWorker.owns, applet, locked]
            · simp [GetoptWorker.Flagged]
            · simp only [Alone.follow, if_true, Follows]
              exact ⟨_, rfl, follows.1.goto _ _, .inl reset⟩
      next => cases moved
  | exit slot =>
      have follows := inv.follows slot
      simp only [GetoptState.next] at moved
      split at moved
      next applet =>
        cases moved
        simp only [Follows, applet] at follows
        refine inv.move rfl (.inl rfl) (.inl ⟨?_, rfl⟩) (fun other (_ : other ≠ slot) _ => rfl)
          ?_ ?_
        · cases locked : (state.worker slot).getoptLocked <;>
            simp [GetoptWorker.owns, applet, locked]
        · cases locked : (state.worker slot).getoptLocked <;> simp [GetoptWorker.Flagged]
        · cases locked : (state.worker slot).getoptLocked <;>
            exact ⟨follows.1.optind, follows.1.optarg⟩
      next => cases moved
  | shell scan =>
      cases moved
      have free : state.lock = false := by simpa [resetsOptind] using meets
      refine ⟨fun slot => ?_, inv.flagged, inv.held⟩
      have idle : (state.worker slot).owns = false := by
        by_contra owns
        simp [inv.held.locked (by simpa using owns)] at free
      rw [history_append]
      exact (inv.follows slot).elsewhere scan idle

theorem GetoptInitial.inv (initial : GetoptInitial start) :
    GetoptInv library start start [] where
  follows := by
    intro slot
    simp only [Follows, (initial.2 slot).1]
    exact ⟨rfl, rfl⟩
  flagged := by
    intro slot
    simpa [GetoptWorker.Flagged, (initial.2 slot).1] using (initial.2 slot).2
  held := by
    refine ⟨none, by simp [initial.1], fun slot => ?_⟩
    simp [GetoptWorker.owns, (initial.2 slot).1]

/-! ## The library looks private -/

/-- Every applet sees what a library of its own would have shown it, and the lock is set
exactly while one worker holds it. -/
structure LooksPrivate (library : Library Memory Hidden) (start state : GetoptState Memory Hidden)
    (events : List (GetoptEvent Memory Hidden)) : Prop where
  shows : ∀ slot, (state.worker slot).pc = .applet →
    Shows (state.worker slot) (events.foldl (Alone.follow library slot) (start.alone slot))
  held : LockHeld state

/-- In any interleaving in which workers reset `optind` before a scan and the shell keeps
out of a worker's scan, `getopt` is private to each worker. -/
theorem getopt_private (reinitialises : library.Reinitialises) (initial : GetoptInitial start)
    (performed : (getoptSystem library).exec (fun state event => resetsOptind state event = true)
      start events = some state) :
    LooksPrivate library start state events := by
  have inv : GetoptInv library start state ([] ++ events) :=
    System.exec_history (GetoptInv library start)
      (fun state event target history inv meets moved => inv.next reinitialises meets moved)
      initial.inv performed
  refine ⟨fun slot applet => ?_, inv.held⟩
  have follows := inv.follows slot
  simp only [Follows, applet] at follows
  exact follows.1

/-- `getopt` for options that take no argument; the hidden part is how far it has come in
the word at `optind`. -/
def letterLibrary : Library (List (List Char)) Nat := fun _ argv scan =>
  let optind := if scan.optind = 0 then 1 else scan.optind
  let position := if scan.optind = 0 then 0 else scan.hidden
  let word := argv.getD optind.toNat []
  if position = 0 ∧ (word.head? ≠ some '-' ∨ word.length ≤ 1) then (-1, argv, ⟨optind, none, 0⟩)
  else
    let next := max position 1
    let letter : Int := (word.getD next '?').toNat
    if next + 1 < word.length then (letter, argv, ⟨optind, none, next + 1⟩)
    else (letter, argv, ⟨optind + 1, none, 0⟩)

theorem letterLibrary_reinitialises : letterLibrary.Reinitialises := by
  intro entry memory scan other reset otherReset same
  simp [letterLibrary, reset, otherReset]

/-- Slots as earlier scans have left them. -/
def scannedSlots : GetoptState (List (List Char)) Nat where
  worker _ := ⟨.gone, false, 3, none, [], none⟩
  lock := false
  scan := ⟨3, none, 1⟩

/-- `head -ab` in slot 0 and `wc -l` in slot 1: the second asks for the lock between the
letters of the first. -/
def twoScans : List (GetoptEvent (List (List Char)) Nat) :=
  let first := [['h', 'e', 'a', 'd'], ['-', 'a', 'b']]
  let second := [['w', 'c'], ['-', 'l']]
  [.start 0 first, .start 1 second, .assign 0 first 0 none, .assign 1 second 0 none,
    .enter 0 .getopt] ++ List.replicate 8 (.step 0) ++ [.enter 1 .getoptLong, .step 1] ++
  .enter 0 .getopt :: List.replicate 6 (.step 0) ++ .enter 0 .getopt ::
  List.replicate 7 (.step 0) ++ List.replicate 8 (.step 1)

theorem getopt_private_two :
    ∃ state, LooksPrivate letterLibrary scannedSlots state twoScans ∧
      (state.worker 0).result = some (-1) ∧ (state.worker 1).result = some 108 := by
  have initial : GetoptInitial scannedSlots := by simp [GetoptInitial, scannedSlots]
  have ends : (((getoptSystem letterLibrary).exec
      (fun state event => resetsOptind state event = true) scannedSlots twoScans).map
      fun state => ((state.worker 0).result, (state.worker 1).result)) =
        some (some (-1), some 108) := by decide
  obtain ⟨state, performed, results⟩ := Option.map_eq_some_iff.mp ends
  rw [Prod.mk.injEq] at results
  exact ⟨state, getopt_private letterLibrary_reinitialises initial performed, results⟩

end Luna.Static
