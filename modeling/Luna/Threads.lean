import Luna.Lib.Interleaving
import Luna.Lib.Notification
import Luna.Lib.Tally
import Mathlib.Data.List.FinRange

/-!
# The thread table

Host threads of `lkl_task_host.c` live in 47 slots with a TCB each.  A slot is
taken under the table lock by `task_thread_create` and given back under it by a
join, by a later create that reaps detached threads, or by a start that failed.
A joiner claims its target, waits without the lock, and then looks again: the
slot may have a new occupant by then, which it tells by the tid.
-/

namespace Luna.Threads

open Interleaving Notification

/-- `LUNA_LKL_THREAD_SLOTS`. -/
def lunaLklThreadSlots : Nat := 47

abbrev ThreadSlot := Fin lunaLklThreadSlots

/-- Who takes steps: threads that are in no slot, whose `current_tid` stays 1,
and the TCBs of the slots. -/
abbrev Actor (External : Type) := External ⊕ ThreadSlot

/-- `struct task_thread_slot`.  `serial` is history: which create, counted from
0, has taken the slot last. -/
structure Entry (External : Type) where
  tid : Nat
  used : Bool
  exited : Bool
  joinClaimed : Bool
  detached : Bool
  joinNtfn : Notification (Actor External)
  serial : Nat

/-- Where a thread stands; `serial` is the occupant it has found or made. -/
inductive Call where
  | idle
  -- task_thread_create
  | createTable
  | createStart (slot : ThreadSlot) (serial : Nat)
  | createFailed (slot : ThreadSlot) (serial : Nat)
  | createReturn (slot : ThreadSlot)
  -- task_thread_trampoline
  | trampoline
  -- task_thread_exit, task_thread_complete
  | exitLookup
  | cleanup (slot : ThreadSlot)
  | setExited (slot : ThreadSlot)
  | signalJoin (slot : ThreadSlot)
  | suspendSelf (slot : ThreadSlot)
  | spin
  -- task_thread_detach
  | detach
  -- task_thread_join
  | joinClaim (tid : Nat)
  | joinExited (tid : Nat) (slot : ThreadSlot) (serial : Nat)
  | joinWait (tid : Nat) (slot : ThreadSlot) (serial : Nat)
  | joinBlocked (tid : Nat) (slot : ThreadSlot) (serial : Nat)
  | joinPoll (tid : Nat) (slot : ThreadSlot) (serial : Nat)
  | joinRelease (tid : Nat) (slot : ThreadSlot) (serial : Nat)
deriving DecidableEq

/-- A woken joiner looks at the slot again. -/
def Call.resume : Call → Call
  | .joinBlocked tid slot serial => .joinRelease tid slot serial
  | call => call

/-- A join that has returned 0: the tid it was called with, the occupant it has
claimed and the occupant whose slot it has released. -/
structure Joined where
  tid : Nat
  claimed : Nat
  serial : Nat
deriving DecidableEq

/-- The table, `task_next_tid` and `task_thread_current`, the threads, and the
history: creates that took a slot and the tids issued to them in turn, threads
through their TLS cleanup, slots given back (by the serial of their occupant),
the tid that each thread's latest join was called with and joins that returned
0. -/
structure TableState (External : Type) where
  slots : ThreadSlot → Entry External
  nextTid : Nat
  current : Nat
  calls : Actor External → Call
  tids : ThreadSlot → Nat
  running : ThreadSlot → Bool
  creates : Nat
  issued : List Nat
  finished : List Nat
  released : List Nat
  asked : Actor External → Nat
  joined : List Joined

/-- Calls a thread makes, the return of a thread's function, and steps; `started`
is what `sel4utils_start_thread` answers. -/
inductive TableAction (External : Type) where
  | create (actor : Actor External)
  | join (actor : Actor External) (tid : Nat)
  | detach (actor : Actor External)
  | exit (actor : Actor External)
  | returns (slot : ThreadSlot)
  | step (actor : Actor External) (started : Bool)

section Model

variable {External : Type} [DecidableEq External]

namespace TableState

def setSlot (state : TableState External) (slot : ThreadSlot) (entry : Entry External) :
    TableState External :=
  { state with slots := Function.update state.slots slot entry }

def goto (state : TableState External) (actor : Actor External) (call : Call) :
    TableState External :=
  { state with calls := Function.update state.calls actor call }

/-- `current_tid`. -/
def tidOf (state : TableState External) : Actor External → Nat
  | .inl _ => 1
  | .inr slot => state.tids slot

/-- Suspended TCBs take no steps. -/
def canStep (state : TableState External) : Actor External → Bool
  | .inl _ => true
  | .inr slot => state.running slot

/-- `thread_by_tid_unlocked`. -/
def threadByTid (state : TableState External) (tid : Nat) : Option ThreadSlot :=
  if tid < 2 then none
  else (List.finRange lunaLklThreadSlots).find? fun slot =>
    (state.slots slot).used && decide ((state.slots slot).tid = tid)

/-- `seL4_TCB_Suspend`: the TCB takes no more steps and leaves the queue it
waits in. -/
def suspend (state : TableState External) (slot : ThreadSlot) : TableState External :=
  let stopped := { state with running := Function.update state.running slot false }
  match state.calls (.inr slot) with
  | .joinBlocked _ target _ =>
      stopped.setSlot target { state.slots target with
        joinNtfn := (state.slots target).joinNtfn.cancel (.inr slot) }
  | _ => stopped

/-- `task_thread_drain_join`. -/
def drainJoin (state : TableState External) (slot : ThreadSlot) : TableState External :=
  state.setSlot slot { state.slots slot with joinNtfn := (state.slots slot).joinNtfn.poll }

/-- Give a slot back. -/
def release (state : TableState External) (slot : ThreadSlot) (entry : Entry External) :
    TableState External :=
  { state.setSlot slot entry with
    current := state.current - 1
    released := state.released ++ [(state.slots slot).serial] }

/-- The reaping loop's body in `task_thread_create`. -/
def reap (state : TableState External) (slot : ThreadSlot) : TableState External :=
  let entry := state.slots slot
  if !entry.used || !entry.detached || !entry.exited then state
  else
    let drained := (state.suspend slot).drainJoin slot
    drained.release slot { drained.slots slot with
      tid := 0
      exited := false
      joinClaimed := false
      detached := false
      used := false }

/-- `slot` is taken for a new thread. -/
def take (state : TableState External) (slot : ThreadSlot) : TableState External :=
  let drained := state.drainJoin slot
  let tid := if state.nextTid < 2 then 2 else state.nextTid
  { drained.setSlot slot { drained.slots slot with
      used := true
      tid := tid
      exited := false
      joinClaimed := false
      detached := false
      serial := state.creates } with
    nextTid := (state.nextTid + 1) % 2 ^ 64
    current := state.current + 1
    creates := state.creates + 1
    issued := state.issued ++ [tid] }

/-- The lock section of `task_thread_create`. -/
def createSection (state : TableState External) (actor : Actor External) : TableState External :=
  let reaped := (List.finRange lunaLklThreadSlots).foldl reap state
  match (List.finRange lunaLklThreadSlots).find? fun slot => !(reaped.slots slot).used with
  | none => reaped.goto actor .idle
  | some slot => (reaped.take slot).goto actor (.createStart slot reaped.creates)

/-- The first lock section of `task_thread_join`. -/
def claimSection (state : TableState External) (actor : Actor External) (tid : Nat) :
    TableState External :=
  match state.threadByTid tid with
  | none => state.goto actor .idle
  | some slot =>
      let entry := state.slots slot
      if entry.joinClaimed || entry.detached then state.goto actor .idle
      else (state.setSlot slot { entry with joinClaimed := true }).goto actor
        (.joinExited tid slot entry.serial)

/-- The second lock section of `task_thread_join`. -/
def joinSection (state : TableState External) (actor : Actor External) (tid : Nat)
    (slot : ThreadSlot) (serial : Nat) : TableState External :=
  let entry := state.slots slot
  if !entry.used || decide (entry.tid ≠ tid) then state.goto actor .idle
  else
    let suspended := state.suspend slot
    let released := suspended.release slot { suspended.slots slot with
      tid := 0
      exited := false
      detached := false
      used := false }
    { released.goto actor .idle with
      joined := state.joined ++ [⟨state.asked actor, serial, entry.serial⟩] }

end TableState

def tableStep (actor : Actor External) (started : Bool) (state : TableState External) :
    Option (TableState External) :=
  match state.calls actor with
  | .idle => none
  | .createTable => some (state.createSection actor)
  | .createStart slot serial =>
      if started then
        let starting := (state.goto actor (.createReturn slot)).goto (.inr slot) .trampoline
        some { starting with running := Function.update state.running slot true }
      else some (state.goto actor (.createFailed slot serial))
  | .createFailed slot _ =>
      some ((state.release slot { state.slots slot with
        tid := 0
        used := false }).goto actor .idle)
  | .createReturn _ => some (state.goto actor .idle)
  | .trampoline =>
      match actor with
      | .inl _ => none
      | .inr slot => some { state.goto actor .idle with
          tids := Function.update state.tids slot (state.slots slot).tid }
  | .exitLookup =>
      match state.threadByTid (state.tidOf actor) with
      | none => some (state.goto actor .spin)
      | some slot => some (state.goto actor (.cleanup slot))
  | .cleanup slot =>
      some { state.goto actor (.setExited slot) with
        finished := state.finished ++ [(state.slots slot).serial] }
  | .setExited slot =>
      some ((state.setSlot slot { state.slots slot with exited := true }).goto actor
        (.signalJoin slot))
  | .signalJoin slot =>
      let performed := (state.slots slot).joinNtfn.perform Call.resume state.calls actor
        (.signal (.suspendSelf slot))
      some { state.setSlot slot { state.slots slot with joinNtfn := performed.1 } with
        calls := performed.2 }
  | .suspendSelf slot => some ((state.goto actor .spin).suspend slot)
  | .spin => none
  | .detach =>
      match state.threadByTid (state.tidOf actor) with
      | none => some (state.goto actor .idle)
      | some slot =>
          some ((state.setSlot slot { state.slots slot with detached := true }).goto actor .idle)
  | .joinClaim tid =>
      if tid = 1 then some (state.goto actor .idle) else some (state.claimSection actor tid)
  | .joinExited tid slot serial =>
      if (state.slots slot).exited then some (state.goto actor (.joinPoll tid slot serial))
      else some (state.goto actor (.joinWait tid slot serial))
  | .joinWait tid slot serial =>
      let performed := (state.slots slot).joinNtfn.perform Call.resume state.calls actor
        (.wait (.joinBlocked tid slot serial) (.joinRelease tid slot serial))
      some { state.setSlot slot { state.slots slot with joinNtfn := performed.1 } with
        calls := performed.2 }
  | .joinBlocked _ _ _ => none
  | .joinPoll tid slot serial =>
      some ((state.drainJoin slot).goto actor (.joinRelease tid slot serial))
  | .joinRelease tid slot serial => some (state.joinSection actor tid slot serial)

/-- `task_thread_join` is called with `tid`. -/
def TableState.ask (state : TableState External) (actor : Actor External) (tid : Nat) :
    TableState External :=
  { state with asked := Function.update state.asked actor tid }

/-- A thread that runs its function calls one of ours. -/
def TableState.start (state : TableState External) (actor : Actor External) (call : Call) :
    Option (TableState External) :=
  if state.canStep actor = true ∧ state.calls actor = .idle then some (state.goto actor call)
  else none

def tableNext (state : TableState External) :
    TableAction External → Option (TableState External)
  | .create actor => state.start actor .createTable
  | .join actor tid => (state.ask actor tid).start actor (.joinClaim tid)
  | .detach actor => state.start actor .detach
  | .exit actor => state.start actor .exitLookup
  | .returns slot => state.start (.inr slot) (.cleanup slot)
  | .step actor started => if state.canStep actor then tableStep actor started state else none

structure TableInitial (state : TableState External) : Prop where
  slots : ∀ slot, state.slots slot = ⟨0, false, false, false, false, .waiting [], 0⟩
  nextTid : state.nextTid = 2
  current : state.current = 0
  calls : ∀ actor, state.calls actor = .idle
  running : ∀ slot, state.running slot = false
  creates : state.creates = 0
  issued : state.issued = []
  finished : state.finished = []
  released : state.released = []
  joined : state.joined = []

def tableSystem (External : Type) [DecidableEq External] :
    System (TableState External) (TableAction External) where
  init := TableInitial
  next := tableNext

theorem tableSystem_next : (tableSystem External).next = tableNext := rfl

end Model

/-- What the table promises in a state. -/
structure TableCorrect {External : Type} (state : TableState External) : Prop where
  distinct : ∀ first second, (state.slots first).used = true → (state.slots second).used = true →
    (state.slots first).tid = (state.slots second).tid → first = second
  joinedOnce : (state.joined.map Joined.serial).Nodup
  joinedFinished : ∀ entry ∈ state.joined, entry.serial ∈ state.finished
  joinedOwn : ∀ entry ∈ state.joined, entry.serial = entry.claimed
  /-- The tid the join was called with was issued to the thread it has joined, and to no other. -/
  joinedTid : ∀ entry ∈ state.joined, ∀ serial,
    state.issued[serial]? = some entry.tid ↔ serial = entry.serial
  releasedOnce : state.released.Nodup
  released : ∀ serial, serial < state.creates ↔
    serial ∈ state.released ∨ ∃ slot, (state.slots slot).used = true ∧
      (state.slots slot).serial = serial
  occupied : ∀ slot, (state.slots slot).used = true → (state.slots slot).serial ∉ state.released
  current : state.current = Tally.total (fun used => Bool.toNat used)
    (fun slot => (state.slots slot).used)

end Luna.Threads
