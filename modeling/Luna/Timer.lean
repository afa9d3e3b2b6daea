import Mathlib.Algebra.Ring.Nat
import Mathlib.Logic.Function.Basic
import Luna.TimerManager

/-!
# The child's one-shot timer

`task_timer_alloc`, `task_timer_set_oneshot` and `task_timer_free` called by any
number of threads, the thread `task_timer_service`, the manager's
`luna_timer_manager_service` and its interrupt thread.  Each atomic access, each
manager section under `timer_lock` and each seL4 call is one step; a request of
the child under its manager lock is the manager's section.  Requests and PIT
programming succeed.  The network deadline, statistics counters and the callback
itself (it changes nothing here) are left out.

A call that defers relies on an older arm.  The service thread clears that arm
with a compare-and-swap and only then advances `task_timer_clear_epoch`, so a
call that checks the epoch in between relies on an arm that is gone
(`timer_lost`).  `ClearGuard` excludes exactly that check.
-/

namespace Luna.Timer

open Interleaving
open TimerManager (word)

def taskTimerDeferMinNs : Nat := 5000000

/-- `task_tsc_frequency` and `task_time_epoch`. -/
structure Clock where
  frequency : Nat
  epoch : Nat
  positive : 0 < frequency

/-- `task_time` at a given time stamp counter. -/
def Clock.taskTime (clock : Clock) (tsc : Nat) : Nat :=
  let cycles := word (tsc + 2 ^ 64 - word clock.epoch)
  word (cycles / clock.frequency * 1000000000 +
    word (cycles % clock.frequency * 1000000000) / clock.frequency)

/-- Locals of `task_timer_set_oneshot`, filled in as it proceeds. -/
structure SetCall where
  ns : Nat
  generation : Nat
  epoch : Nat
  oldGeneration : Nat
  oldDeadline : Nat
  deadline : Nat
  deriving DecidableEq, Repr

/-- Program counter of a thread that calls into the timer. -/
inductive Caller where
  | idle
  | setLock (handle : Bool) (ns : Nat)
  | setCheck (handle : Bool) (ns : Nat)
  | setBump (ns : Nat)
  | setEpoch (call : SetCall)
  | setOldGeneration (call : SetCall)
  | setOldDeadline (call : SetCall)
  | setDeadline (call : SetCall)
  | setArmed (call : SetCall)
  | setDecide (call : SetCall)
  | setUnlock (call : SetCall) (defer : Bool)
  | setDeferred
  | setArm (call : SetCall)
  | setReply
  | allocLock
  | allocCheck
  | allocBump
  | allocArmed
  | allocPublish
  | allocStart
  | freeLock (handle : Bool)
  | freeCheck (handle : Bool)
  | freeAllocated
  | freeBump
  | freeArmed (generation : Nat)
  | freeUnlock (generation : Nat)
  | freeCancel (generation : Nat)
  | freeDrain
  | unlock
  deriving DecidableEq, Repr

/-- Program counter of `task_timer_service`. -/
inductive Service where
  | unstarted
  | wait
  | loadArmed
  | loadDeadline (generation : Nat)
  | compare (generation deadline : Nat)
  | rearm (generation remaining : Nat)
  | clear (generation : Nat)
  | bumpEpoch (generation : Nat)
  | setRunning (generation : Nat)
  | checkGeneration (generation : Nat)
  | checkAllocated
  | callback
  | clearRunning
  deriving DecidableEq, Repr

/-- What the manager keeps for the child's one-shot, a part of `TimerManager.Timer`. -/
structure Manager where
  armed : Bool
  childNtfn : Bool
  generation : Nat
  deadlineCycles : Nat
  deriving DecidableEq, Repr

/-- `clearEpoch` counts the increments; the word in memory is that count modulo
2^64.  `cancelled` is history: the generation of the last free. -/
structure State (Thread : Type) where
  tsc : Nat
  lock : Option Thread
  allocated : Bool
  callbackRunning : Bool
  generation : Nat
  armedGeneration : Nat
  clearEpoch : Nat
  deadlineNs : Nat
  ntfn : Bool
  service : Service
  callers : Thread → Caller
  manager : Manager
  irqSignal : Bool
  cancelled : Nat

inductive Call where
  | alloc
  | setOneshot (handle : Bool) (ns : Nat)
  | free (handle : Bool)
  deriving DecidableEq, Repr

inductive Action (Thread : Type) where
  | tick (cycles : Nat)
  | call (thread : Thread) (request : Call)
  | caller (thread : Thread) (startable : Bool)
  | service
  | irq
  deriving DecidableEq, Repr

def atLeastOne (value : Nat) : Nat := if value = 0 then 1 else value

/-- The manager's section for `TIMER_ARM`: a stale generation is ignored. -/
def Manager.arm (manager : Manager) (clock : Clock) (tsc generation timeoutNs : Nat) : Manager :=
  if generation < manager.generation then manager
  else ⟨true, true, generation,
    word (tsc + atLeastOne (TimerManager.nsToCycles clock.frequency timeoutNs))⟩

/-- The manager's section for `TIMER_CANCEL`. -/
def Manager.cancel (manager : Manager) (generation : Nat) : Manager :=
  if generation < manager.generation then manager
  else { manager with generation, armed := false }

/-- `defer` but for the last test, which loads the epoch again. -/
def SetCall.mayDefer (call : SetCall) : Bool :=
  decide (taskTimerDeferMinNs ≤ call.ns) && call.oldGeneration != 0 &&
    decide (call.oldDeadline ≤ call.deadline)

variable {Thread : Type}

section Steps

variable [DecidableEq Thread]

def State.enter (state : State Thread) (thread : Thread) (caller : Caller) : State Thread :=
  { state with callers := Function.update state.callers thread caller }

/-- `task_timer_lock` succeeds only when the lock is free. -/
def State.acquire (state : State Thread) (thread : Thread) (caller : Caller) :
    Option (State Thread) :=
  if state.lock = none then some { state.enter thread caller with lock := some thread } else none

def State.release (state : State Thread) (thread : Thread) (caller : Caller) : State Thread :=
  { state.enter thread caller with lock := none }

/-- One step of a thread inside the timer; `startable` is whether the service
thread could be started. -/
def stepCaller (clock : Clock) (state : State Thread) (thread : Thread) (startable : Bool) :
    Option (State Thread) :=
  match state.callers thread with
  | .idle => none
  | .setLock handle ns => state.acquire thread (.setCheck handle ns)
  | .setCheck handle ns =>
      some (state.enter thread
        (if handle && state.service != .unstarted && state.allocated then .setBump ns
          else .unlock))
  | .setBump ns =>
      let generation := word (state.generation + 1)
      some { state.enter thread (.setEpoch ⟨ns, generation, 0, 0, 0, 0⟩) with generation }
  | .setEpoch call =>
      some (state.enter thread (.setOldGeneration { call with epoch := state.clearEpoch }))
  | .setOldGeneration call =>
      some (state.enter thread
        (.setOldDeadline { call with oldGeneration := state.armedGeneration }))
  | .setOldDeadline call =>
      some (state.enter thread (.setDeadline { call with oldDeadline := state.deadlineNs }))
  | .setDeadline call =>
      let deadline := word (clock.taskTime state.tsc + atLeastOne call.ns)
      some { state.enter thread (.setArmed { call with deadline }) with deadlineNs := deadline }
  | .setArmed call =>
      some { state.enter thread (.setDecide call) with armedGeneration := call.generation }
  | .setDecide call =>
      some (state.enter thread
        (.setUnlock call (call.mayDefer && word state.clearEpoch == word call.epoch)))
  | .setUnlock call defer =>
      some (state.release thread (if defer then .setDeferred else .setArm call))
  | .setDeferred => some (state.enter thread .idle)
  | .setArm call =>
      some { state.enter thread .setReply with
        manager := state.manager.arm clock state.tsc call.generation (atLeastOne call.ns) }
  | .setReply => some (state.enter thread .idle)
  | .allocLock => state.acquire thread .allocCheck
  | .allocCheck =>
      some (state.enter thread (if state.allocated then .unlock else .allocBump))
  | .allocBump =>
      some { state.enter thread .allocArmed with generation := word (state.generation + 1) }
  | .allocArmed => some { state.enter thread .allocPublish with armedGeneration := 0 }
  | .allocPublish => some { state.enter thread .allocStart with allocated := true }
  | .allocStart =>
      if state.service = .unstarted then
        if startable then some { state.enter thread .unlock with service := .wait }
        else some { state.enter thread .unlock with allocated := false }
      else some (state.enter thread .unlock)
  | .freeLock handle => state.acquire thread (.freeCheck handle)
  | .freeCheck handle =>
      some (state.enter thread (if handle && state.allocated then .freeAllocated else .unlock))
  | .freeAllocated => some { state.enter thread .freeBump with allocated := false }
  | .freeBump =>
      let generation := word (state.generation + 1)
      some { state.enter thread (.freeArmed generation) with generation }
  | .freeArmed generation =>
      some { state.enter thread (.freeUnlock generation) with
        armedGeneration := 0, cancelled := generation }
  | .freeUnlock generation => some (state.release thread (.freeCancel generation))
  | .freeCancel generation =>
      some { state.enter thread .freeDrain with manager := state.manager.cancel generation }
  | .freeDrain => if state.callbackRunning then none else some (state.enter thread .idle)
  | .unlock => some (state.release thread .idle)

/-- One step of `task_timer_service`. -/
def stepService (clock : Clock) (state : State Thread) : Option (State Thread) :=
  match state.service with
  | .unstarted => none
  | .wait =>
      if state.ntfn then some { state with ntfn := false, service := .loadArmed } else none
  | .loadArmed =>
      some { state with
        service := if state.armedGeneration = 0 then .wait
          else .loadDeadline state.armedGeneration }
  | .loadDeadline generation =>
      some { state with service := .compare generation state.deadlineNs }
  | .compare generation deadline =>
      let now := clock.taskTime state.tsc
      some { state with
        service := if now < deadline then .rearm generation (deadline - now)
          else .clear generation }
  | .rearm generation remaining =>
      some { state with
        manager := state.manager.arm clock state.tsc generation (atLeastOne remaining)
        service := .wait }
  | .clear generation =>
      if state.armedGeneration = generation then
        some { state with armedGeneration := 0, service := .bumpEpoch generation }
      else some { state with service := .loadArmed }
  | .bumpEpoch generation =>
      some { state with clearEpoch := state.clearEpoch + 1, service := .setRunning generation }
  | .setRunning generation =>
      some { state with callbackRunning := true, service := .checkGeneration generation }
  | .checkGeneration generation =>
      some { state with
        service := if state.generation = generation then .checkAllocated else .clearRunning }
  | .checkAllocated =>
      some { state with service := if state.allocated then .callback else .clearRunning }
  | .callback => some { state with service := .clearRunning }
  | .clearRunning => some { state with callbackRunning := false, service := .wait }

/-- One step of the manager's interrupt thread: its section under `timer_lock`,
then the signal to the child. -/
def stepIrq (state : State Thread) : State Thread :=
  if state.irqSignal then { state with irqSignal := false, ntfn := true }
  else if state.manager.armed && decide (state.manager.deadlineCycles ≤ state.tsc) then
    { state with
      manager := { state.manager with armed := false }
      irqSignal := state.manager.childNtfn }
  else state

def start : Call → Caller
  | .alloc => .allocLock
  | .setOneshot handle ns => .setLock handle ns
  | .free handle => .freeLock handle

def next (clock : Clock) (state : State Thread) : Action Thread → Option (State Thread)
  | .tick cycles => some { state with tsc := word (state.tsc + cycles) }
  | .call thread request =>
      if state.callers thread = .idle then some (state.enter thread (start request)) else none
  | .caller thread startable => stepCaller clock state thread startable
  | .service => stepService clock state
  | .irq => some (stepIrq state)

/-- A fresh child: nothing allocated, nothing armed, no thread inside. -/
def Initial (state : State Thread) : Prop :=
  state.lock = none ∧ state.allocated = false ∧ state.generation = 0 ∧
    state.armedGeneration = 0 ∧ state.service = .unstarted ∧
    (∀ thread, state.callers thread = .idle) ∧ state.manager.armed = false ∧
    state.manager.generation = 0 ∧ state.cancelled = 0

def system (clock : Clock) : System (State Thread) (Action Thread) := ⟨Initial, next clock⟩

end Steps

/-! ## The manager's sections -/

section Sections

variable {Ntfn : Type} {timer : TimerManager.Timer Ntfn} {hardware : TimerManager.Hardware}
  {answers : TimerManager.Answers}

/-- What this model keeps of the manager's timer. -/
def Manager.ofTimer (timer : TimerManager.Timer Ntfn) : Manager where
  armed := timer.armed
  childNtfn := timer.childNtfn.isSome
  generation := timer.generation
  deadlineCycles := timer.deadlineCycles

theorem Manager.ofTimer_programNext (timer : TimerManager.Timer Ntfn) (now : Nat)
    (pitSucceeds : Bool) :
    ofTimer (timer.programNext hardware now pitSucceeds).1 = ofTimer timer := by
  cases programs : timer.programNext hardware now pitSucceeds with
  | mk programmed done =>
      obtain ⟨-, pit, rfl⟩ := TimerManager.Timer.programNext_eq programs
      rfl

section Service

variable [DecidableEq Ntfn] {message : TimerManager.Message Ntfn}

/-- A `TIMER_ARM` of the registered child that the PIT can be programmed for. -/
theorem Manager.ofTimer_arm {clock : Clock} (same : clock.frequency = hardware.tscFrequency)
    (event : message.event = .arm) (positive : message.timeoutNs ≠ 0)
    (own : ¬ timer.Foreign message) (succeeds : answers.pitSucceeds = true) :
    ofTimer (timer.service hardware message answers).1 =
      (ofTimer timer).arm clock answers.first message.generation message.timeoutNs := by
  unfold TimerManager.Timer.service
  rw [if_pos ⟨event, positive⟩, if_neg own]
  by_cases stale : message.generation < timer.generation
  · rw [if_pos stale]
    exact (if_pos stale).symm
  · rw [if_neg stale]
    refine Eq.trans ?_ (if_neg stale).symm
    unfold TimerManager.Timer.arm
    dsimp only
    split
    next programmed succeeded =>
      obtain ⟨-, pit, rfl⟩ := TimerManager.Timer.programNext_eq succeeded
      rw [same]
      rfl
    next programmed failed =>
      have fails := (TimerManager.Timer.programNext_eq failed).1
      exact absurd (fails.trans succeeds) Bool.false_ne_true

/-- A `TIMER_CANCEL` of the registered child. -/
theorem Manager.ofTimer_cancel (event : message.event = .cancel) (none : message.timeoutNs = 0)
    (own : ¬ timer.Foreign message) :
    ofTimer (timer.service hardware message answers).1 =
      (ofTimer timer).cancel message.generation := by
  unfold TimerManager.Timer.service
  rw [if_neg (by simp [event]), if_pos ⟨event, none⟩, if_neg own]
  by_cases stale : message.generation < timer.generation
  · rw [if_pos stale]
    exact (if_pos stale).symm
  · rw [if_neg stale]
    exact (ofTimer_programNext _ _ _).trans (if_neg stale).symm

end Service

theorem Manager.ofTimer_expireNetwork (timer : TimerManager.Timer Ntfn) (now : Nat) :
    ofTimer (timer.expireNetwork now).1 = ofTimer timer := by
  unfold TimerManager.Timer.expireNetwork
  split <;> rfl

theorem Manager.ofTimer_reprogram (timer : TimerManager.Timer Ntfn) (now : Nat) :
    ofTimer (timer.reprogram hardware now true) = ofTimer timer := by
  unfold TimerManager.Timer.reprogram
  split
  · split
    next programmed succeeded =>
      obtain ⟨-, pit, rfl⟩ := TimerManager.Timer.programNext_eq succeeded
      rfl
    next programmed failed =>
      exact absurd (TimerManager.Timer.programNext_eq failed).1 Bool.false_ne_true
  · rfl

/-- The section of the interrupt thread; the signal that follows is a step of its own. -/
theorem stepIrq_ofTimer {state : State Thread} (kept : state.manager = .ofTimer timer)
    (unsignalled : state.irqSignal = false) (now : answers.first = state.tsc)
    (succeeds : answers.pitSucceeds = true) :
    stepIrq state = { state with
      manager := .ofTimer (timer.handleTimerIrq hardware answers).1
      irqSignal := (timer.handleTimerIrq hardware answers).2.child.isSome } := by
  have expires : Manager.ofTimer (timer.handleTimerIrq hardware answers).1 =
      .ofTimer (timer.expireChild state.tsc).1 := by
    unfold TimerManager.Timer.handleTimerIrq
    rw [succeeds, Manager.ofTimer_reprogram, Manager.ofTimer_expireNetwork, now]
  have wakes : (timer.handleTimerIrq hardware answers).2.child =
      (timer.expireChild state.tsc).2 := by
    unfold TimerManager.Timer.handleTimerIrq
    rw [now]
  have same : (state.manager.armed && decide (state.manager.deadlineCycles ≤ state.tsc)) = true ↔
      timer.armed = true ∧ timer.deadlineCycles ≤ state.tsc := by
    rw [kept, Bool.and_eq_true, decide_eq_true_iff]
    rfl
  rw [expires, wakes]
  unfold stepIrq TimerManager.Timer.expireChild
  rw [if_neg (by simp [unsignalled])]
  by_cases due : timer.armed = true ∧ timer.deadlineCycles ≤ state.tsc
  · rw [if_pos due, if_pos (same.mpr due), kept]
    rfl
  · rw [if_neg due, if_neg (due ∘ same.mp), ← kept, Option.isSome_none, ← unsignalled]

end Sections

/-! ## What the timer promises -/

/-- Not inside `task_timer_set_oneshot` or `task_timer_free`. -/
def Caller.quiet : Caller → Bool
  | .idle | .allocLock | .allocCheck | .allocBump | .allocArmed | .allocPublish | .allocStart
  | .unlock => true
  | _ => false

/-- A wake is pending, about to be signalled, or will come from the armed manager. -/
def State.Wakes (state : State Thread) : Prop :=
  state.ntfn = true ∨ state.irqSignal = true ∨
    (state.manager.armed = true ∧ state.manager.childNtfn = true)

def State.NeverLost (state : State Thread) : Prop :=
  state.allocated = true → state.armedGeneration ≠ 0 →
    (∀ thread, (state.callers thread).quiet = true) → state.service = .wait → state.Wakes

/-- The service thread is on its way to look at the armed generation, or to arm
the manager for it. -/
def Service.rechecks : Service → Bool
  | .loadArmed | .loadDeadline _ | .compare _ _ | .rearm _ _ | .clear _ => true
  | _ => false

/-- The call will send its own arm: it does not meet the conditions to defer, or
the epoch has moved or is about to move. -/
def State.WillArm (state : State Thread) (call : SetCall) : Prop :=
  call.mayDefer = false ∨ call.epoch < state.clearEpoch ∨
    state.service = .bumpEpoch call.oldGeneration

/-- The call has stored its generation and goes on to send its own arm. -/
def State.Sends (state : State Thread) : Caller → Prop
  | .setDecide call => state.WillArm call
  | .setUnlock _ defer => defer = false
  | .setArm _ => True
  | _ => False

/-- A call that defers leaves an older arm outstanding. -/
def State.DefersSafely (state : State Thread) : Prop :=
  ∀ thread, state.callers thread = .setDeferred → state.armedGeneration ≠ 0 →
    state.Wakes ∨ state.service.rechecks = true ∨ ∃ other, state.Sends (state.callers other)

def State.Correct (state : State Thread) : Prop := state.NeverLost ∧ state.DefersSafely

/-- A deferring call does not test the epoch between the service thread's
clearing of the very generation it relies on and the increment that follows;
and the generation does not wrap. -/
def ClearGuard (state : State Thread) : Action Thread → Prop
  | .caller thread _ => match state.callers thread with
      | .setDecide call => call.mayDefer = true → state.service ≠ .bumpEpoch call.oldGeneration
      | .setBump _ | .allocBump | .freeBump => state.generation + 1 < 2 ^ 64
      | _ => True
  | _ => True

instance (state : State Thread) (action : Action Thread) : Decidable (ClearGuard state action) := by
  unfold ClearGuard
  split
  · split <;> infer_instance
  · infer_instance

/-! ## The invariant -/

/-- Stages inside `task_timer_lock`. -/
def Caller.holds : Caller → Bool
  | .setCheck _ _ | .setBump _ | .setEpoch _ | .setOldGeneration _ | .setOldDeadline _
  | .setDeadline _ | .setArmed _ | .setDecide _ | .setUnlock _ _
  | .allocCheck | .allocBump | .allocArmed | .allocPublish | .allocStart
  | .freeCheck _ | .freeAllocated | .freeBump | .freeArmed _ | .freeUnlock _ | .unlock => true
  | _ => false

/-- Clears the service thread has made and not yet counted. -/
def Service.uncounted : Service → Nat
  | .bumpEpoch _ => 1
  | _ => 0

/-- Increments of the epoch that can still follow without a new arm. -/
def State.increments (state : State Thread) : Nat :=
  state.service.uncounted + if state.armedGeneration = 0 then 0 else 1

/-- The call owns the newest generation. -/
def State.Newest (state : State Thread) (generation : Nat) : Prop :=
  generation = state.generation ∧ state.cancelled < generation

/-- The epoch a call has read; `arms` more arms will be stored before it is compared. -/
def State.EpochRead (state : State Thread) (epoch arms : Nat) : Prop :=
  epoch ≤ state.clearEpoch ∧ state.clearEpoch + state.increments + arms ≤ epoch + 3

/-- The old generation a call has read is still armed, or was cleared in a way
that the epoch shows or is about to show. -/
def State.OldRead (state : State Thread) (call : SetCall) : Prop :=
  call.oldGeneration = 0 ∨ state.armedGeneration = call.oldGeneration ∨
    (state.armedGeneration = 0 ∧
      (state.service = .bumpEpoch call.oldGeneration ∨ call.epoch < state.clearEpoch))

/-- A request for this generation is not older than what is armed. -/
def State.Issued (state : State Thread) (generation : Nat) : Prop :=
  generation ≤ state.generation ∧
    (state.armedGeneration ≠ 0 → generation ≤ state.armedGeneration)

def State.CallerFits (state : State Thread) : Caller → Prop
  | .setEpoch call => state.Newest call.generation
  | .setOldGeneration call => state.Newest call.generation ∧ state.EpochRead call.epoch 1
  | .setOldDeadline call | .setDeadline call | .setArmed call =>
      state.Newest call.generation ∧ state.EpochRead call.epoch 1 ∧ state.OldRead call
  | .setDecide call =>
      state.Newest call.generation ∧ state.EpochRead call.epoch 0 ∧ state.Issued call.generation
  | .setUnlock call _ | .setArm call => state.Issued call.generation
  | .freeArmed generation => generation = state.generation
  | .freeUnlock generation | .freeCancel generation => generation ≤ state.cancelled
  | _ => True

def State.ServiceFits (state : State Thread) : Prop :=
  match state.service with
  | .loadDeadline generation | .compare generation _ | .rearm generation _ =>
      generation ≠ 0 ∧ state.Issued generation
  | .clear generation => generation ≠ 0
  | _ => True

/-- An arm of this generation will be accepted, and no cancel undoes it. -/
def State.Safe (state : State Thread) (generation : Nat) : Prop :=
  state.manager.generation ≤ generation ∧ state.cancelled < generation

/-- The call has stored its generation and may still send its own arm. -/
def Caller.sends : Caller → Bool
  | .setDecide _ | .setUnlock _ false | .setArm _ => true
  | _ => false

/-- Why the armed generation is not lost. -/
inductive State.Covered (state : State Thread) : Prop
  | manager : state.manager.armed = true → state.manager.childNtfn = true →
      state.cancelled < state.manager.generation → Covered state
  | signal : state.irqSignal = true → Covered state
  | pending : state.ntfn = true → Covered state
  | looking : state.service = .loadArmed → Covered state
  | clearing (generation : Nat) : state.service = .clear generation → Covered state
  | rearming (generation : Nat) : (state.service = .loadDeadline generation ∨
      (∃ deadline, state.service = .compare generation deadline) ∨
      ∃ remaining, state.service = .rearm generation remaining) →
      state.Safe generation → Covered state
  | sending (thread : Thread) (call : SetCall) : (state.callers thread = .setUnlock call false ∨
      state.callers thread = .setArm call) → state.Safe call.generation → Covered state
  | undecided (thread : Thread) (call : SetCall) : state.callers thread = .setDecide call →
      state.WillArm call → Covered state

structure Inv (state : State Thread) : Prop where
  locked : ∀ thread, (state.callers thread).holds = true → state.lock = some thread
  managerIssued : state.Issued state.manager.generation
  armedIssued : state.armedGeneration ≤ state.generation
  armedLive : state.armedGeneration ≠ 0 → state.cancelled < state.armedGeneration
  cancelledIssued : state.cancelled ≤ state.generation
  callers : ∀ thread, state.CallerFits (state.callers thread)
  serviceFits : state.ServiceFits
  covered : state.armedGeneration ≠ 0 → state.Covered

theorem initial_inv (state : State Thread) (initial : Initial state) : Inv state := by
  obtain ⟨lock, _, generation, armed, service, callers, _, managerGeneration, cancelled⟩ := initial
  refine ⟨?_, ?_, ?_, ?_, ?_, ?_, ?_, ?_⟩
  · intro thread holds
    simp [callers, Caller.holds] at holds
  · simp [State.Issued, managerGeneration]
  · simp [armed]
  · simp [armed]
  · simp [cancelled]
  · intro thread
    simp [callers, State.CallerFits]
  · simp [State.ServiceFits, service]
  · simp [armed]

/-! ## Frames -/

/-- The two states agree on what `Covered` reads but the callers. -/
structure SameCover (state target : State Thread) : Prop where
  clearEpoch : target.clearEpoch = state.clearEpoch
  cancelled : target.cancelled = state.cancelled
  service : target.service = state.service
  manager : target.manager = state.manager
  irqSignal : target.irqSignal = state.irqSignal
  ntfn : target.ntfn = state.ntfn

/-- The two states agree on everything the invariant reads but the callers and the lock. -/
structure SameShared (state target : State Thread) : Prop extends SameCover state target where
  generation : target.generation = state.generation
  armedGeneration : target.armedGeneration = state.armedGeneration

section Frame

variable {state target : State Thread} {thread : Thread} {caller : Caller}

variable (state) in
theorem SameShared.callerFits (same : SameShared state target) :
    state.CallerFits caller → target.CallerFits caller := by
  cases state
  cases target
  obtain ⟨⟨rfl, rfl, rfl, _, _, _⟩, rfl, rfl⟩ := same
  exact id

theorem SameShared.serviceFits (same : SameShared state target) :
    state.ServiceFits → target.ServiceFits := by
  cases state
  cases target
  obtain ⟨⟨_, _, rfl, _, _, _⟩, rfl, rfl⟩ := same
  exact id

variable (thread) in
/-- Coverage survives a step of one thread if that thread's own share of it does. -/
theorem SameCover.covered (same : SameCover state target)
    (others : ∀ other, other ≠ thread → target.callers other = state.callers other)
    (sending : ∀ call, state.callers thread = .setUnlock call false ∨
      state.callers thread = .setArm call → target.Safe call.generation → target.Covered)
    (undecided : ∀ call, state.callers thread = .setDecide call → state.WillArm call →
      target.Covered)
    (covered : state.Covered) : target.Covered := by
  have safe : ∀ generation, state.Safe generation → target.Safe generation := by
    intro generation
    simp only [State.Safe, same.manager, same.cancelled]
    exact id
  cases covered with
  | manager armed child later =>
      exact .manager (same.manager ▸ armed) (same.manager ▸ child)
        (by rwa [same.manager, same.cancelled])
  | signal signalled => exact .signal (same.irqSignal ▸ signalled)
  | pending notified => exact .pending (same.ntfn ▸ notified)
  | looking at_ => exact .looking (same.service ▸ at_)
  | clearing generation at_ => exact .clearing generation (same.service ▸ at_)
  | rearming generation at_ isSafe =>
      exact .rearming generation (same.service ▸ at_) (safe _ isSafe)
  | sending other call at_ isSafe =>
      by_cases here : other = thread
      · exact sending call (here ▸ at_) (safe _ isSafe)
      · exact .sending other call (by rwa [others other here]) (safe _ isSafe)
  | undecided other call at_ will =>
      by_cases here : other = thread
      · exact undecided call (here ▸ at_) will
      · refine .undecided other call (by rwa [others other here]) ?_
        simpa only [State.WillArm, same.clearEpoch, same.service] using will

variable (state) in
/-- A thread that is not about to arm has no share in it. -/
theorem SameCover.covered_of_silent (same : SameCover state target)
    (others : ∀ other, other ≠ thread → target.callers other = state.callers other)
    (silent : (state.callers thread).sends = false) (covered : state.Covered) :
    target.Covered := by
  refine same.covered thread others ?_ ?_ covered
  · rintro call (at_ | at_) _ <;> simp [at_, Caller.sends] at silent
  · intro call at_
    simp [at_, Caller.sends] at silent

/-- The epoch words agree only if the epoch has not moved. -/
theorem epoch_eq_of_word_eq {epoch arms : Nat} (read : state.EpochRead epoch arms)
    (same : word state.clearEpoch = word epoch) : state.clearEpoch = epoch := by
  obtain ⟨low, high⟩ := read
  simp only [word] at same
  omega

/-- A generation stays issued while newer ones are handed out and armed. -/
theorem Issued.mono {generation : Nat} (issued : state.Issued generation)
    (newer : state.generation ≤ target.generation)
    (armed : target.armedGeneration ≠ 0 → target.armedGeneration = state.armedGeneration ∨
      state.generation ≤ target.armedGeneration) : target.Issued generation := by
  refine ⟨Nat.le_trans issued.1 newer, fun nonzero => ?_⟩
  rcases armed nonzero with same | above
  · rw [same] at nonzero ⊢
    exact issued.2 nonzero
  · exact Nat.le_trans issued.1 above

/-- Threads outside the lock only rely on issued and cancelled generations. -/
theorem callerFits_outside (fits : state.CallerFits caller) (outside : caller.holds = false)
    (newer : state.generation ≤ target.generation)
    (armed : target.armedGeneration ≠ 0 → target.armedGeneration = state.armedGeneration ∨
      state.generation ≤ target.armedGeneration)
    (later : state.cancelled ≤ target.cancelled) : target.CallerFits caller := by
  cases caller <;> simp only [Caller.holds, reduceCtorEq] at outside
  case setArm call => exact Issued.mono fits newer armed
  case freeCancel generation => exact Nat.le_trans fits later
  all_goals trivial

/-- While one thread is inside the lock every other is outside. -/
theorem outside_of_holds (inv : Inv state) (holds : (state.callers thread).holds = true)
    {other : Thread} (different : other ≠ thread) : (state.callers other).holds = false := by
  by_contra inside
  have mine := inv.locked thread holds
  have theirs := inv.locked other (by simpa using inside)
  rw [mine] at theirs
  exact different (Option.some.inj theirs).symm

/-- Words the invariant does not read. -/
theorem Inv.with_words (inv : Inv state) (tsc deadlineNs : Nat) (allocated callbackRunning : Bool) :
    Inv { state with tsc, deadlineNs, allocated, callbackRunning } :=
  ⟨inv.locked, inv.managerIssued, inv.armedIssued, inv.armedLive, inv.cancelledIssued,
    fun thread => SameShared.callerFits state ⟨⟨rfl, rfl, rfl, rfl, rfl, rfl⟩, rfl, rfl⟩
      (inv.callers thread),
    inv.serviceFits,
    fun armed => match inv.covered armed with
      | .manager armed child later => .manager armed child later
      | .signal signalled => .signal signalled
      | .pending notified => .pending notified
      | .looking at_ => .looking at_
      | .clearing generation at_ => .clearing generation at_
      | .rearming generation at_ safe => .rearming generation at_ safe
      | .sending thread call at_ safe => .sending thread call at_ safe
      | .undecided thread call at_ will => .undecided thread call at_ will⟩

end Frame

/-! ## Requests to the manager -/

section Requests

variable {state target : State Thread} {clock : Clock} {tsc generation timeoutNs : Nat}

/-- An accepted arm is not undone by a cancel already issued. -/
theorem arm_self (safe : state.Safe generation) :
    (state.manager.arm clock tsc generation timeoutNs).armed = true ∧
      (state.manager.arm clock tsc generation timeoutNs).childNtfn = true ∧
      state.cancelled < (state.manager.arm clock tsc generation timeoutNs).generation := by
  simp [Manager.arm, Nat.not_lt.mpr safe.1, safe.2]

theorem arm_other (safe : state.Safe generation) (other : Nat) :
    ((state.manager.arm clock tsc other timeoutNs).armed = true ∧
      (state.manager.arm clock tsc other timeoutNs).childNtfn = true ∧
      state.cancelled < (state.manager.arm clock tsc other timeoutNs).generation) ∨
    ((state.manager.arm clock tsc other timeoutNs).generation ≤ generation ∧
      state.cancelled < generation) := by
  unfold Manager.arm
  split
  next stale => exact .inr safe
  next accepted =>
    rcases Nat.lt_or_ge generation other with newer | older
    · exact .inl ⟨rfl, rfl, Nat.lt_trans safe.2 newer⟩
    · exact .inr ⟨older, safe.2⟩

variable (state) in
/-- Coverage survives an arm, whether the service thread or a caller sent it. -/
theorem arm_covered (clearEpoch : target.clearEpoch = state.clearEpoch)
    (cancelled : target.cancelled = state.cancelled)
    (irqSignal : target.irqSignal = state.irqSignal) (ntfn : target.ntfn = state.ntfn)
    (manager : target.manager = state.manager.arm clock tsc generation timeoutNs)
    (service : target.service = state.service ∨
      ∃ remaining, state.service = .rearm generation remaining)
    (callers : ∀ other, target.callers other = state.callers other ∨
      ∃ call, state.callers other = .setArm call ∧ call.generation = generation)
    (covered : state.Covered) : target.Covered := by
  have armed : (state.manager.arm clock tsc generation timeoutNs).armed = true ∧
      (state.manager.arm clock tsc generation timeoutNs).childNtfn = true ∧
      state.cancelled < (state.manager.arm clock tsc generation timeoutNs).generation →
        target.Covered := by
    rintro ⟨isArmed, child, later⟩
    exact .manager (manager ▸ isArmed) (manager ▸ child) (by rwa [manager, cancelled])
  cases covered with
  | manager isArmed child later =>
      apply armed
      unfold Manager.arm
      split
      next stale => exact ⟨isArmed, child, later⟩
      next accepted => exact ⟨rfl, rfl, Nat.lt_of_lt_of_le later (Nat.le_of_not_lt accepted)⟩
  | signal signalled => exact .signal (irqSignal ▸ signalled)
  | pending notified => exact .pending (ntfn ▸ notified)
  | looking at_ =>
      rcases service with same | ⟨remaining, rearming⟩
      · exact .looking (same ▸ at_)
      · simp [at_] at rearming
  | clearing other at_ =>
      rcases service with same | ⟨remaining, rearming⟩
      · exact .clearing other (same ▸ at_)
      · simp [at_] at rearming
  | rearming other at_ safe =>
      rcases service with same | ⟨remaining, rearming⟩
      · rcases arm_other safe generation with isArmed | stillSafe
        · exact armed isArmed
        · exact .rearming other (same ▸ at_) (by rwa [State.Safe, manager, cancelled])
      · have equal : other = generation := by
          rcases at_ with at_ | ⟨_, at_⟩ | ⟨_, at_⟩ <;> simp_all
        subst equal
        exact armed (arm_self safe)
  | sending other call at_ safe =>
      rcases callers other with same | ⟨armCall, here, equal⟩
      · rcases arm_other safe generation with isArmed | stillSafe
        · exact armed isArmed
        · exact .sending other call (same ▸ at_) (by rwa [State.Safe, manager, cancelled])
      · have sameCall : call = armCall := by
          rcases at_ with at_ | at_ <;> simp_all
        subst sameCall
        subst equal
        exact armed (arm_self safe)
  | undecided other call at_ will =>
      refine .undecided other call ?_ ?_
      · rcases callers other with same | ⟨armCall, here, _⟩
        · rw [same, at_]
        · simp [at_] at here
      · rcases will with arms | moved | bumping
        · exact .inl arms
        · exact .inr (.inl (clearEpoch ▸ moved))
        · rcases service with same | ⟨remaining, rearming⟩
          · exact .inr (.inr (same ▸ bumping))
          · simp [bumping] at rearming

variable (state) in
/-- A cancel only undoes arms that are older than the generation it was issued with. -/
theorem cancel_covered {thread : Thread} (old : generation ≤ state.cancelled)
    (others : ∀ other, other ≠ thread → target.callers other = state.callers other)
    (silent : (state.callers thread).sends = false)
    (clearEpoch : target.clearEpoch = state.clearEpoch)
    (cancelled : target.cancelled = state.cancelled) (service : target.service = state.service)
    (irqSignal : target.irqSignal = state.irqSignal) (ntfn : target.ntfn = state.ntfn)
    (manager : target.manager = state.manager.cancel generation)
    (covered : state.Covered) : target.Covered := by
  have safe : ∀ other, state.Safe other → target.Safe other := by
    intro other isSafe
    simp only [State.Safe, manager, cancelled, Manager.cancel]
    split
    next stale => exact isSafe
    next accepted => exact ⟨Nat.le_of_lt (Nat.lt_of_le_of_lt old isSafe.2), isSafe.2⟩
  have elsewhere : ∀ other, (state.callers other).sends = true →
      target.callers other = state.callers other := by
    intro other sends
    apply others
    rintro rfl
    simp [silent] at sends
  cases covered with
  | manager isArmed child later =>
      have stale : state.manager.cancel generation = state.manager := by
        simp [Manager.cancel, Nat.lt_of_le_of_lt old later]
      rw [stale] at manager
      exact .manager (manager ▸ isArmed) (manager ▸ child) (by rwa [manager, cancelled])
  | signal signalled => exact .signal (irqSignal ▸ signalled)
  | pending notified => exact .pending (ntfn ▸ notified)
  | looking at_ => exact .looking (service ▸ at_)
  | clearing other at_ => exact .clearing other (service ▸ at_)
  | rearming other at_ isSafe => exact .rearming other (service ▸ at_) (safe _ isSafe)
  | sending other call at_ isSafe =>
      refine .sending other call ?_ (safe _ isSafe)
      rw [elsewhere other (by rcases at_ with at_ | at_ <;> simp [at_, Caller.sends])]
      exact at_
  | undecided other call at_ will =>
      refine .undecided other call ?_ ?_
      · rw [elsewhere other (by simp [at_, Caller.sends])]
        exact at_
      · simpa only [State.WillArm, clearEpoch, service] using will

theorem arm_issued (inv : Inv state) (issued : state.Issued generation) :
    state.Issued (state.manager.arm clock tsc generation timeoutNs).generation := by
  unfold Manager.arm
  split
  next stale => exact inv.managerIssued
  next accepted => exact issued

end Requests

/-! ## Steps of the callers -/

section Callers

variable [DecidableEq Thread] {state target : State Thread} {thread : Thread} {caller : Caller}

theorem update_others (other : Thread) (different : other ≠ thread) :
    Function.update state.callers thread caller other = state.callers other :=
  Function.update_of_ne different _ _

variable (caller) in
/-- A caller moves without touching a shared word. -/
theorem move_inv (inv : Inv state) (same : SameShared state target)
    (moved : target.callers = Function.update state.callers thread caller)
    (locked : ∀ other, (target.callers other).holds = true → target.lock = some other)
    (fits : state.CallerFits caller)
    (covered : state.Covered → target.Covered) : Inv target := by
  refine ⟨locked, ?_, ?_, ?_, ?_, ?_, same.serviceFits inv.serviceFits, ?_⟩
  · simpa only [State.Issued, same.manager, same.generation, same.armedGeneration]
      using inv.managerIssued
  · simpa only [same.generation, same.armedGeneration] using inv.armedIssued
  · simpa only [same.cancelled, same.armedGeneration] using inv.armedLive
  · simpa only [same.cancelled, same.generation] using inv.cancelledIssued
  · intro other
    rw [moved, Function.update_apply]
    split
    next here => exact same.callerFits _ fits
    next elsewhere => exact same.callerFits _ (inv.callers other)
  · intro armed
    rw [same.armedGeneration] at armed
    exact covered (inv.covered armed)

variable (caller) in
/-- A thread inside the lock moves on and changes generation, arm or cancellation. -/
theorem holder_inv (inv : Inv state) (holds : (state.callers thread).holds = true)
    (moved : target.callers = Function.update state.callers thread caller)
    (locked : target.lock = state.lock) (manager : target.manager = state.manager)
    (service : target.service = state.service) (newer : state.generation ≤ target.generation)
    (armed : target.armedGeneration ≠ 0 → target.armedGeneration = state.armedGeneration ∨
      state.generation ≤ target.armedGeneration)
    (later : state.cancelled ≤ target.cancelled) (fits : target.CallerFits caller)
    (armedIssued : target.armedGeneration ≤ target.generation)
    (armedLive : target.armedGeneration ≠ 0 → target.cancelled < target.armedGeneration)
    (cancelledIssued : target.cancelled ≤ target.generation)
    (covered : target.armedGeneration ≠ 0 → target.Covered) : Inv target := by
  refine ⟨?_, ?_, armedIssued, armedLive, cancelledIssued, ?_, ?_, covered⟩
  · intro other otherHolds
    rw [locked]
    by_cases here : other = thread
    · rw [here]
      exact inv.locked thread holds
    · rw [moved, Function.update_of_ne here, outside_of_holds inv holds here] at otherHolds
      cases otherHolds
  · rw [manager]
    exact Issued.mono inv.managerIssued newer armed
  · intro other
    rw [moved, Function.update_apply]
    split
    next here => exact fits
    next elsewhere =>
      exact callerFits_outside (inv.callers other) (outside_of_holds inv holds elsewhere) newer
        armed later
  · have before := inv.serviceFits
    simp only [State.ServiceFits, service] at before ⊢
    cases at_ : state.service <;> simp only [at_] at before ⊢
    case loadDeadline => exact ⟨before.1, Issued.mono before.2 newer armed⟩
    case compare => exact ⟨before.1, Issued.mono before.2 newer armed⟩
    case rearm => exact ⟨before.1, Issued.mono before.2 newer armed⟩
    case clear => exact before

/-- Staying inside or outside the lock. -/
theorem locked_stay (inv : Inv state)
    (stays : caller.holds = true → (state.callers thread).holds = true) (other : Thread)
    (holds : (Function.update state.callers thread caller other).holds = true) :
    state.lock = some other := by
  rw [Function.update_apply] at holds
  split at holds
  next here =>
    subst here
    exact inv.locked other (stays holds)
  next elsewhere => exact inv.locked other holds

/-- A caller that is not about to arm moves on, inside or outside the lock. -/
theorem enter_inv (inv : Inv state) (silent : (state.callers thread).sends = false)
    (stays : caller.holds = true → (state.callers thread).holds = true)
    (fits : state.CallerFits caller) : Inv (state.enter thread caller) :=
  move_inv _ inv ⟨⟨rfl, rfl, rfl, rfl, rfl, rfl⟩, rfl, rfl⟩ rfl (locked_stay inv stays) fits
    (SameCover.covered_of_silent _ ⟨rfl, rfl, rfl, rfl, rfl, rfl⟩ update_others silent)

/-- `task_timer_lock`. -/
theorem acquire_inv (inv : Inv state) (silent : (state.callers thread).sends = false)
    (fits : state.CallerFits caller) (moved : state.acquire thread caller = some target) :
    Inv target := by
  unfold State.acquire at moved
  split at moved
  next free =>
    cases moved
    refine move_inv caller inv ⟨⟨rfl, rfl, rfl, rfl, rfl, rfl⟩, rfl, rfl⟩ rfl ?_ fits
      (SameCover.covered_of_silent _ ⟨rfl, rfl, rfl, rfl, rfl, rfl⟩ update_others silent)
    intro other holds
    simp only [State.enter, Function.update_apply] at holds ⊢
    split at holds
    next here => rw [here]
    next elsewhere => simp [inv.locked other holds] at free
  next taken => cases moved

/-- `task_timer_unlock`. -/
theorem release_inv (inv : Inv state) (holds : (state.callers thread).holds = true)
    (leaves : caller.holds = false) (fits : state.CallerFits caller)
    (covered : state.Covered → (state.release thread caller).Covered) :
    Inv (state.release thread caller) := by
  refine move_inv caller inv ⟨⟨rfl, rfl, rfl, rfl, rfl, rfl⟩, rfl, rfl⟩ rfl ?_ fits
    covered
  intro other otherHolds
  simp only [State.release, State.enter, Function.update_apply] at otherHolds
  split at otherHolds
  next here => simp [leaves] at otherHolds
  next elsewhere => simp [outside_of_holds inv holds elsewhere] at otherHolds

theorem word_succ {value : Nat} (fits : value + 1 < 2 ^ 64) : word (value + 1) = value + 1 :=
  Nat.mod_eq_of_lt fits

/-- A new generation is handed out inside the lock. -/
theorem bump_inv (inv : Inv state) (holds : (state.callers thread).holds = true)
    (silent : (state.callers thread).sends = false)
    (fits : { state with generation := state.generation + 1 }.CallerFits caller) :
    Inv { state.enter thread caller with generation := state.generation + 1 } := by
  refine holder_inv caller inv holds rfl rfl rfl rfl (Nat.le_succ _)
    (fun _ => .inl rfl) (Nat.le_refl _) ?_ (Nat.le_succ_of_le inv.armedIssued) inv.armedLive
    (Nat.le_succ_of_le inv.cancelledIssued) ?_
  · exact SameShared.callerFits ({ state with generation := state.generation + 1 })
      ⟨⟨rfl, rfl, rfl, rfl, rfl, rfl⟩, rfl, rfl⟩ fits
  · intro armed
    exact SameCover.covered_of_silent state ⟨rfl, rfl, rfl, rfl, rfl, rfl⟩
      update_others silent (inv.covered armed)

/-- The armed generation is dropped inside the lock. -/
theorem disarm_inv (inv : Inv state) (holds : (state.callers thread).holds = true)
    {cancelled : Nat} (later : state.cancelled ≤ cancelled) (issued : cancelled ≤ state.generation)
    (fits : { state with armedGeneration := 0, cancelled }.CallerFits caller) :
    Inv { state.enter thread caller with armedGeneration := 0, cancelled } := by
  refine holder_inv caller inv holds rfl rfl rfl rfl (Nat.le_refl _)
    (fun nonzero => absurd rfl nonzero) later ?_ (Nat.zero_le _) (fun nonzero => absurd rfl nonzero)
    issued (fun nonzero => absurd rfl nonzero)
  exact SameShared.callerFits ({ state with armedGeneration := 0, cancelled })
    ⟨⟨rfl, rfl, rfl, rfl, rfl, rfl⟩, rfl, rfl⟩ fits

theorem setDeadline_inv (inv : Inv state) {call : SetCall}
    (at_ : state.callers thread = .setDeadline call) (deadline : Nat) :
    Inv { state.enter thread (.setArmed { call with deadline }) with deadlineNs := deadline } := by
  have fits := inv.callers thread
  rw [at_] at fits
  have entered : Inv (state.enter thread (.setArmed { call with deadline })) :=
    enter_inv inv (by rw [at_]; rfl) (fun _ => by rw [at_]; rfl) fits
  exact entered.with_words _ _ _ _

/-- The call stores its generation.  If nothing was armed, the old generation it
read was 0 or was cleared since, so the call will not defer. -/
theorem setArmed_inv (inv : Inv state) {call : SetCall}
    (at_ : state.callers thread = .setArmed call) :
    Inv { state.enter thread (.setDecide call) with armedGeneration := call.generation } := by
  have fits := inv.callers thread
  rw [at_] at fits
  obtain ⟨⟨newest, live⟩, ⟨epochLe, budget⟩, old⟩ := fits
  have silent : (state.callers thread).sends = false := by rw [at_]; rfl
  refine holder_inv (.setDecide call) inv (by rw [at_]; rfl) rfl rfl rfl rfl
    (Nat.le_refl _) (fun _ => .inr (Nat.le_of_eq newest.symm)) (Nat.le_refl _) ?_
    (Nat.le_of_eq newest) (fun _ => live) inv.cancelledIssued ?_
  · refine ⟨⟨newest, live⟩, ⟨epochLe, ?_⟩, Nat.le_of_eq newest, fun _ => Nat.le_refl _⟩
    have atMostOne : (if call.generation = 0 then 0 else 1) ≤ 1 := by split <;> simp
    simp only [State.increments, State.enter] at budget ⊢
    omega
  · intro _
    by_cases armed : state.armedGeneration = 0
    · refine .undecided thread call (by simp [State.enter]) ?_
      rcases old with none | same | ⟨_, clearing | moved⟩
      · exact .inl (by simp [SetCall.mayDefer, none])
      · exact .inl (by simp [SetCall.mayDefer, ← same, armed])
      · exact .inr (.inr clearing)
      · exact .inr (.inl moved)
    · exact SameCover.covered_of_silent state ⟨rfl, rfl, rfl, rfl, rfl, rfl⟩
        update_others silent (inv.covered armed)

/-- The decision.  A call that defers has seen the epoch unmoved, so it was not
among those that will arm. -/
theorem setDecide_inv (inv : Inv state) {call : SetCall}
    (at_ : state.callers thread = .setDecide call)
    (guard : call.mayDefer = true → state.service ≠ .bumpEpoch call.oldGeneration) :
    Inv (state.enter thread
      (.setUnlock call (call.mayDefer && word state.clearEpoch == word call.epoch))) := by
  have fits := inv.callers thread
  rw [at_] at fits
  obtain ⟨⟨newest, live⟩, epoch, issued⟩ := fits
  refine move_inv (.setUnlock call _) inv ⟨⟨rfl, rfl, rfl, rfl, rfl, rfl⟩, rfl, rfl⟩ rfl
    (locked_stay inv fun _ => by rw [at_]; rfl) issued ?_
  refine SameCover.covered thread ⟨rfl, rfl, rfl, rfl, rfl, rfl⟩ update_others ?_ ?_
  · rintro other (elsewhere | elsewhere) <;> simp [at_] at elsewhere
  · intro other here will
    rw [at_] at here
    cases here
    cases decision : call.mayDefer && word state.clearEpoch == word call.epoch with
    | false =>
        refine .sending thread call (.inl (by simp [State.enter])) ⟨?_, live⟩
        rw [newest]
        exact inv.managerIssued.1
    | true =>
        simp only [Bool.and_eq_true, beq_iff_eq] at decision
        have unmoved := epoch_eq_of_word_eq epoch decision.2
        rcases will with arms | moved | clearing
        · simp [decision.1] at arms
        · exact absurd moved (by omega)
        · exact absurd clearing (guard decision.1)

theorem setUnlock_inv (inv : Inv state) {call : SetCall} {defer : Bool}
    (at_ : state.callers thread = .setUnlock call defer) :
    Inv (state.release thread (if defer then .setDeferred else .setArm call)) := by
  have fits := inv.callers thread
  rw [at_] at fits
  refine release_inv inv (by rw [at_]; rfl) (by cases defer <;> rfl) ?_ ?_
  · cases defer
    · exact fits
    · trivial
  · refine SameCover.covered thread ⟨rfl, rfl, rfl, rfl, rfl, rfl⟩ update_others ?_ ?_
    · rintro other (here | here) safe
      · rw [at_] at here
        cases here
        exact .sending thread call (.inr (by simp [State.release, State.enter])) safe
      · simp [at_] at here
    · intro other here
      simp [at_] at here

theorem setArm_inv (inv : Inv state) (clock : Clock) {call : SetCall}
    (at_ : state.callers thread = .setArm call) :
    Inv { state.enter thread .setReply with
      manager := state.manager.arm clock state.tsc call.generation (atLeastOne call.ns) } := by
  have fits := inv.callers thread
  rw [at_] at fits
  refine ⟨locked_stay inv (by simp [Caller.holds]), arm_issued inv fits, inv.armedIssued,
    inv.armedLive, inv.cancelledIssued, ?_, inv.serviceFits, ?_⟩
  · intro other
    simp only [State.enter, Function.update_apply]
    split
    next here => trivial
    next elsewhere => exact inv.callers other
  · intro armed
    refine arm_covered state rfl rfl rfl rfl rfl (.inl rfl) ?_ (inv.covered armed)
    intro other
    by_cases here : other = thread
    · exact .inr ⟨call, here ▸ at_, rfl⟩
    · exact .inl (update_others other here)

theorem freeCancel_inv (inv : Inv state) {generation : Nat}
    (at_ : state.callers thread = .freeCancel generation) :
    Inv { state.enter thread .freeDrain with manager := state.manager.cancel generation } := by
  have fits := inv.callers thread
  rw [at_] at fits
  have old : generation ≤ state.cancelled := fits
  refine ⟨locked_stay inv (by simp [Caller.holds]), ?_, inv.armedIssued,
    inv.armedLive, inv.cancelledIssued, ?_, inv.serviceFits, ?_⟩
  · have issued : state.Issued generation :=
      ⟨Nat.le_trans old inv.cancelledIssued,
        fun armed => Nat.le_of_lt (Nat.lt_of_le_of_lt old (inv.armedLive armed))⟩
    simp only [Manager.cancel]
    split
    next stale => exact inv.managerIssued
    next accepted => exact issued
  · intro other
    simp only [State.enter, Function.update_apply]
    split
    next here => trivial
    next elsewhere => exact inv.callers other
  · intro armed
    exact cancel_covered state old update_others (by rw [at_]; rfl) rfl rfl rfl rfl rfl rfl
      (inv.covered armed)

end Callers

/-! ## Steps of the service thread and of the interrupt thread -/

section Service

variable {state target : State Thread}

variable (state) in
/-- The service thread moves under a call: each thing the call relies on carries over. -/
theorem callerFits_imp {caller : Caller} (generation : target.generation = state.generation)
    (cancelled : target.cancelled = state.cancelled)
    (epoch : ∀ epoch arms, state.EpochRead epoch arms → target.EpochRead epoch arms)
    (old : ∀ call, state.EpochRead call.epoch 1 → state.OldRead call → target.OldRead call)
    (issued : ∀ generation, state.Issued generation → target.Issued generation)
    (fits : state.CallerFits caller) : target.CallerFits caller := by
  have newest : ∀ generation, state.Newest generation → target.Newest generation := by
    intro other
    simp only [State.Newest, generation, cancelled]
    exact id
  cases caller <;> simp only [State.CallerFits, generation, cancelled] at fits ⊢
  case setEpoch call => exact newest _ fits
  case setOldGeneration call => exact ⟨newest _ fits.1, epoch _ _ fits.2⟩
  case setOldDeadline call =>
    exact ⟨newest _ fits.1, epoch _ _ fits.2.1, old _ fits.2.1 fits.2.2⟩
  case setDeadline call =>
    exact ⟨newest _ fits.1, epoch _ _ fits.2.1, old _ fits.2.1 fits.2.2⟩
  case setArmed call =>
    exact ⟨newest _ fits.1, epoch _ _ fits.2.1, old _ fits.2.1 fits.2.2⟩
  case setDecide call => exact ⟨newest _ fits.1, epoch _ _ fits.2.1, issued _ fits.2.2⟩
  case setUnlock call defer => exact issued _ fits
  case setArm call => exact issued _ fits
  all_goals exact fits

theorem uncounted_eq_zero {service : Service}
    (elsewhere : ∀ generation, service ≠ .bumpEpoch generation) : service.uncounted = 0 := by
  cases service with
  | bumpEpoch generation => exact absurd rfl (elsewhere generation)
  | _ => rfl

/-- The service thread moves while it is not between clearing and counting. -/
theorem service_inv (inv : Inv state) {service : Service} {ntfn : Bool} {manager : Manager}
    (from_ : ∀ generation, state.service ≠ .bumpEpoch generation)
    (to_ : ∀ generation, service ≠ .bumpEpoch generation)
    (issued : state.Issued manager.generation)
    (fits : { state with service }.ServiceFits)
    (covered : state.armedGeneration ≠ 0 → { state with service, ntfn, manager }.Covered) :
    Inv { state with service, ntfn, manager } := by
  refine ⟨inv.locked, issued, inv.armedIssued, inv.armedLive, inv.cancelledIssued, ?_, fits,
    covered⟩
  intro thread
  refine callerFits_imp state rfl rfl ?_ ?_ (fun _ => id) (inv.callers thread)
  · intro epoch arms read
    simpa only [State.EpochRead, State.increments, uncounted_eq_zero from_, uncounted_eq_zero to_]
      using read
  · rintro call _ (none | same | ⟨cleared, bumping | moved⟩)
    · exact .inl none
    · exact .inr (.inl same)
    · exact absurd bumping (from_ _)
    · exact .inr (.inr ⟨cleared, .inr moved⟩)

/-- Evidence that does not come from the service thread or from one that is
about to be counted. -/
theorem covered_of_idle_service {service : Service} (covered : state.Covered)
    (rests : state.service.rechecks = false)
    (from_ : ∀ generation, state.service ≠ .bumpEpoch generation) :
    { state with service }.Covered := by
  cases covered with
  | manager armed child later => exact .manager armed child later
  | signal signalled => exact .signal signalled
  | pending notified => exact .pending notified
  | looking at_ => simp [at_, Service.rechecks] at rests
  | clearing generation at_ => simp [at_, Service.rechecks] at rests
  | rearming generation at_ safe =>
      rcases at_ with at_ | ⟨_, at_⟩ | ⟨_, at_⟩ <;> simp [at_, Service.rechecks] at rests
  | sending thread call at_ safe => exact .sending thread call at_ safe
  | undecided thread call at_ will =>
      refine .undecided thread call at_ ?_
      rcases will with arms | moved | bumping
      · exact .inl arms
      · exact .inr (.inl moved)
      · exact absurd bumping (from_ _)

/-- The service thread is on its way from an armed generation to a new arm or to the clear. -/
theorem covered_of_rearming {generation : Nat} {service : Service} (covered : state.Covered)
    (from_ : state.service = .loadDeadline generation ∨
      ∃ deadline, state.service = .compare generation deadline)
    (to_ : (∃ deadline, service = .compare generation deadline) ∨
      (∃ remaining, service = .rearm generation remaining) ∨ service = .clear generation) :
    { state with service }.Covered := by
  cases covered with
  | manager armed child later => exact .manager armed child later
  | signal signalled => exact .signal signalled
  | pending notified => exact .pending notified
  | looking at_ => rcases from_ with from_ | ⟨_, from_⟩ <;> simp [at_] at from_
  | clearing other at_ => rcases from_ with from_ | ⟨_, from_⟩ <;> simp [at_] at from_
  | rearming other at_ safe =>
      have equal : other = generation := by
        rcases from_ with from_ | ⟨_, from_⟩ <;>
          rcases at_ with at_ | ⟨_, at_⟩ | ⟨_, at_⟩ <;> simp_all
      subst equal
      rcases to_ with compares | rearms | clears
      · exact .rearming other (.inr (.inl compares)) safe
      · exact .rearming other (.inr (.inr rearms)) safe
      · exact .clearing other clears
  | sending thread call at_ safe => exact .sending thread call at_ safe
  | undecided thread call at_ will =>
      refine .undecided thread call at_ ?_
      rcases will with arms | moved | bumping
      · exact .inl arms
      · exact .inr (.inl moved)
      · rcases from_ with from_ | ⟨_, from_⟩ <;> simp [bumping] at from_

/-- The compare-and-swap succeeds: the arm is gone and not yet counted. -/
theorem clear_inv (inv : Inv state) (at_ : state.service = .clear state.armedGeneration) :
    Inv { state with armedGeneration := 0, service := .bumpEpoch state.armedGeneration } := by
  have nonzero : state.armedGeneration ≠ 0 := by
    simpa only [State.ServiceFits, at_] using inv.serviceFits
  have issued : ∀ generation, state.Issued generation →
      { state with armedGeneration := 0, service := .bumpEpoch state.armedGeneration
        }.Issued generation :=
    fun generation issued => Issued.mono issued (Nat.le_refl _) fun armed => absurd rfl armed
  refine ⟨inv.locked, issued _ inv.managerIssued, Nat.zero_le _, fun armed => absurd rfl armed,
    inv.cancelledIssued, ?_, trivial, fun armed => absurd rfl armed⟩
  intro thread
  refine callerFits_imp state rfl rfl ?_ ?_ issued (inv.callers thread)
  · intro epoch arms read
    simpa [State.EpochRead, State.increments, Service.uncounted, at_, nonzero] using read
  · rintro call _ (none | same | ⟨cleared, _⟩)
    · exact .inl none
    · exact .inr (.inr ⟨rfl, .inl (by rw [same])⟩)
    · exact absurd cleared nonzero

/-- The clear is counted: whoever saw it coming sees it in the epoch now. -/
theorem bumpEpoch_inv (inv : Inv state) {generation : Nat}
    (at_ : state.service = .bumpEpoch generation) :
    Inv { state with clearEpoch := state.clearEpoch + 1, service := .setRunning generation } := by
  refine ⟨inv.locked, inv.managerIssued, inv.armedIssued, inv.armedLive, inv.cancelledIssued, ?_,
    trivial, ?_⟩
  · intro thread
    refine callerFits_imp state rfl rfl ?_ ?_ (fun _ => id) (inv.callers thread)
    · rintro epoch arms ⟨low, high⟩
      simp only [State.increments, at_, Service.uncounted] at high
      refine ⟨Nat.le_succ_of_le low, ?_⟩
      simp only [State.increments, Service.uncounted]
      omega
    · rintro call ⟨low, _⟩ (none | same | ⟨cleared, _⟩)
      · exact .inl none
      · exact .inr (.inl same)
      · exact .inr (.inr ⟨cleared, .inr (Nat.lt_succ_of_le low)⟩)
  · intro armed
    cases inv.covered armed with
    | manager isArmed child later => exact .manager isArmed child later
    | signal signalled => exact .signal signalled
    | pending notified => exact .pending notified
    | looking elsewhere => simp [at_] at elsewhere
    | clearing other elsewhere => simp [at_] at elsewhere
    | rearming other elsewhere safe =>
        rcases elsewhere with elsewhere | ⟨_, elsewhere⟩ | ⟨_, elsewhere⟩ <;>
          simp [at_] at elsewhere
    | sending thread call here safe => exact .sending thread call here safe
    | undecided thread call here will =>
        refine .undecided thread call here ?_
        have fits := inv.callers thread
        rw [here] at fits
        rcases will with arms | moved | _
        · exact .inl arms
        · exact .inr (.inl (Nat.lt_succ_of_lt moved))
        · exact .inr (.inl (Nat.lt_succ_of_le fits.2.1.1))

theorem stepService_inv (inv : Inv state) (clock : Clock)
    (moved : stepService clock state = some target) : Inv target := by
  have fits := inv.serviceFits
  unfold stepService at moved
  unfold State.ServiceFits at fits
  cases at_ : state.service with
  | unstarted => simp [at_] at moved
  | wait =>
      simp only [at_] at moved
      split at moved
      next notified =>
        cases moved
        exact service_inv inv (by simp [at_]) (by simp) inv.managerIssued trivial
          fun _ => .looking rfl
      next blocked => cases moved
  | loadArmed =>
      simp only [at_, Option.some.injEq] at moved
      subst moved
      by_cases armed : state.armedGeneration = 0
      · rw [if_pos armed]
        exact service_inv inv (by simp [at_]) (by simp) inv.managerIssued trivial
          fun nonzero => absurd armed nonzero
      · rw [if_neg armed]
        refine service_inv inv (by simp [at_]) (by simp) inv.managerIssued
          ⟨armed, inv.armedIssued, fun _ => Nat.le_refl _⟩ fun _ => ?_
        exact .rearming _ (.inl rfl) ⟨inv.managerIssued.2 armed, inv.armedLive armed⟩
  | loadDeadline generation =>
      simp only [at_, Option.some.injEq] at moved fits
      subst moved
      exact service_inv inv (by simp [at_]) (by simp) inv.managerIssued fits fun armed =>
        covered_of_rearming (inv.covered armed) (.inl at_) (.inl ⟨_, rfl⟩)
  | compare generation deadline =>
      simp only [at_, Option.some.injEq] at moved fits
      subst moved
      split
      next early =>
        exact service_inv inv (by simp [at_]) (by simp) inv.managerIssued fits fun armed =>
          covered_of_rearming (inv.covered armed) (.inr ⟨_, at_⟩) (.inr (.inl ⟨_, rfl⟩))
      next due =>
        exact service_inv inv (by simp [at_]) (by simp) inv.managerIssued fits.1 fun armed =>
          covered_of_rearming (inv.covered armed) (.inr ⟨_, at_⟩) (.inr (.inr rfl))
  | rearm generation remaining =>
      simp only [at_, Option.some.injEq] at moved fits
      subst moved
      exact service_inv inv (by simp [at_]) (by simp) (arm_issued inv fits.2) trivial fun armed =>
        arm_covered state rfl rfl rfl rfl rfl (.inr ⟨remaining, at_⟩) (fun _ => .inl rfl)
          (inv.covered armed)
  | clear generation =>
      simp only [at_] at moved
      split at moved
      next same =>
        subst same
        cases moved
        exact clear_inv inv at_
      next newer =>
        cases moved
        exact service_inv inv (by simp [at_]) (by simp) inv.managerIssued trivial
          fun _ => .looking rfl
  | bumpEpoch generation =>
      simp only [at_, Option.some.injEq] at moved
      subst moved
      exact bumpEpoch_inv inv at_
  | setRunning generation =>
      simp only [at_, Option.some.injEq] at moved
      subst moved
      have after : Inv { state with service := .checkGeneration generation } :=
        service_inv inv (by simp [at_]) (by simp) inv.managerIssued trivial fun armed =>
          covered_of_idle_service (inv.covered armed) (by simp [at_, Service.rechecks])
            (by simp [at_])
      exact after.with_words _ _ _ _
  | checkGeneration generation =>
      simp only [at_, Option.some.injEq] at moved
      subst moved
      refine service_inv inv (by simp [at_]) ?_ inv.managerIssued ?_ fun armed =>
        covered_of_idle_service (inv.covered armed) (by simp [at_, Service.rechecks])
          (by simp [at_])
      · split <;> simp
      · split <;> trivial
  | checkAllocated =>
      simp only [at_, Option.some.injEq] at moved
      subst moved
      refine service_inv inv (by simp [at_]) ?_ inv.managerIssued ?_ fun armed =>
        covered_of_idle_service (inv.covered armed) (by simp [at_, Service.rechecks])
          (by simp [at_])
      · split <;> simp
      · split <;> trivial
  | callback =>
      simp only [at_, Option.some.injEq] at moved
      subst moved
      exact service_inv inv (by simp [at_]) (by simp) inv.managerIssued trivial fun armed =>
        covered_of_idle_service (inv.covered armed) (by simp [at_, Service.rechecks])
          (by simp [at_])
  | clearRunning =>
      simp only [at_, Option.some.injEq] at moved
      subst moved
      have after : Inv { state with service := .wait } :=
        service_inv inv (by simp [at_]) (by simp) inv.managerIssued trivial fun armed =>
          covered_of_idle_service (inv.covered armed) (by simp [at_, Service.rechecks])
            (by simp [at_])
      exact after.with_words _ _ _ _

/-- The interrupt thread turns an armed one-shot into a signal. -/
theorem stepIrq_inv (inv : Inv state) : Inv (stepIrq state) := by
  have same : ∀ (armed irqSignal ntfn : Bool), (state.armedGeneration ≠ 0 →
      { state with manager := { state.manager with armed }, irqSignal, ntfn }.Covered) →
      Inv { state with manager := { state.manager with armed }, irqSignal, ntfn } :=
    fun armed irqSignal ntfn covered =>
      ⟨inv.locked, inv.managerIssued, inv.armedIssued, inv.armedLive, inv.cancelledIssued,
        inv.callers, inv.serviceFits, covered⟩
  unfold stepIrq
  split
  next signals => exact same state.manager.armed false true fun _ => .pending rfl
  next =>
    split
    next due =>
      refine same false state.manager.childNtfn state.ntfn fun armed => ?_
      cases inv.covered armed with
      | manager isArmed child later => exact .signal child
      | signal signalled => simp_all
      | pending notified => exact .pending notified
      | looking at_ => exact .looking at_
      | clearing generation at_ => exact .clearing generation at_
      | rearming generation at_ safe => exact .rearming generation at_ safe
      | sending thread call at_ safe => exact .sending thread call at_ safe
      | undecided thread call at_ will => exact .undecided thread call at_ will
    next early => exact inv

end Service

section Step

variable [DecidableEq Thread] {state target : State Thread} {thread : Thread}

theorem stepCaller_inv (inv : Inv state) (clock : Clock) {startable : Bool}
    (guard : ClearGuard state (.caller thread startable))
    (moved : stepCaller clock state thread startable = some target) : Inv target := by
  have fits := inv.callers thread
  unfold stepCaller at moved
  unfold ClearGuard at guard
  cases at_ : state.callers thread with
  | idle => simp [at_] at moved
  | setLock handle ns =>
      simp only [at_] at moved
      refine acquire_inv inv (by rw [at_]; rfl) ?_ moved
      trivial
  | setCheck handle ns =>
      simp only [at_, Option.some.injEq] at moved
      subst moved
      refine enter_inv inv (by rw [at_]; rfl) (fun _ => by rw [at_]; rfl) ?_
      split <;> trivial
  | setBump ns =>
      simp only [at_] at moved guard
      rw [word_succ guard] at moved
      cases moved
      refine bump_inv inv (by rw [at_]; rfl) (by rw [at_]; rfl) ⟨rfl, ?_⟩
      exact Nat.lt_succ_of_le inv.cancelledIssued
  | setEpoch call =>
      simp only [at_, Option.some.injEq] at moved fits
      subst moved
      refine enter_inv inv (by rw [at_]; rfl) (fun _ => by rw [at_]; rfl)
        ⟨fits, Nat.le_refl _, ?_⟩
      have atMostOne : (if state.armedGeneration = 0 then 0 else 1) ≤ 1 := by split <;> simp
      have atMostOneClear : state.service.uncounted ≤ 1 := by
        cases state.service <;> simp [Service.uncounted]
      simp only [State.increments]
      omega
  | setOldGeneration call =>
      simp only [at_, Option.some.injEq] at moved fits
      subst moved
      exact enter_inv inv (by rw [at_]; rfl) (fun _ => by rw [at_]; rfl)
        ⟨fits.1, fits.2, .inr (.inl rfl)⟩
  | setOldDeadline call =>
      simp only [at_, Option.some.injEq] at moved fits
      subst moved
      exact enter_inv inv (by rw [at_]; rfl) (fun _ => by rw [at_]; rfl) fits
  | setDeadline call =>
      simp only [at_, Option.some.injEq] at moved
      subst moved
      exact setDeadline_inv inv at_ _
  | setArmed call =>
      simp only [at_, Option.some.injEq] at moved
      subst moved
      exact setArmed_inv inv at_
  | setDecide call =>
      simp only [at_, Option.some.injEq] at moved guard
      subst moved
      exact setDecide_inv inv at_ guard
  | setUnlock call defer =>
      simp only [at_, Option.some.injEq] at moved
      subst moved
      exact setUnlock_inv inv at_
  | setDeferred =>
      simp only [at_, Option.some.injEq] at moved
      subst moved
      exact enter_inv inv (by rw [at_]; rfl) (by simp [Caller.holds]) trivial
  | setArm call =>
      simp only [at_, Option.some.injEq] at moved
      subst moved
      exact setArm_inv inv clock at_
  | setReply =>
      simp only [at_, Option.some.injEq] at moved
      subst moved
      exact enter_inv inv (by rw [at_]; rfl) (by simp [Caller.holds]) trivial
  | allocLock =>
      simp only [at_] at moved
      refine acquire_inv inv (by rw [at_]; rfl) ?_ moved
      trivial
  | allocCheck =>
      simp only [at_, Option.some.injEq] at moved
      subst moved
      refine enter_inv inv (by rw [at_]; rfl) (fun _ => by rw [at_]; rfl) ?_
      split <;> trivial
  | allocBump =>
      simp only [at_] at moved guard
      rw [word_succ guard] at moved
      cases moved
      exact bump_inv inv (by rw [at_]; rfl) (by rw [at_]; rfl) trivial
  | allocArmed =>
      simp only [at_, Option.some.injEq] at moved
      subst moved
      exact disarm_inv inv (by rw [at_]; rfl) (Nat.le_refl _) inv.cancelledIssued trivial
  | allocPublish =>
      simp only [at_, Option.some.injEq] at moved
      subst moved
      have entered : Inv (state.enter thread .allocStart) :=
        enter_inv inv (by rw [at_]; rfl) (fun _ => by rw [at_]; rfl) trivial
      exact entered.with_words _ _ _ _
  | allocStart =>
      have entered : Inv (state.enter thread .unlock) :=
        enter_inv inv (by rw [at_]; rfl) (fun _ => by rw [at_]; rfl) trivial
      simp only [at_] at moved
      split at moved
      next unstarted =>
        split at moved
        next started =>
          cases moved
          have rests : ∀ generation, (state.enter thread .unlock).service ≠ .bumpEpoch generation := by
            simp [State.enter, unstarted]
          exact service_inv entered rests (by simp) entered.managerIssued trivial fun armed =>
            covered_of_idle_service (entered.covered armed)
              (by simp [State.enter, unstarted, Service.rechecks]) rests
        next failed =>
          cases moved
          exact entered.with_words _ _ _ _
      next running =>
        cases moved
        exact entered
  | freeLock handle =>
      simp only [at_] at moved
      refine acquire_inv inv (by rw [at_]; rfl) ?_ moved
      trivial
  | freeCheck handle =>
      simp only [at_, Option.some.injEq] at moved
      subst moved
      refine enter_inv inv (by rw [at_]; rfl) (fun _ => by rw [at_]; rfl) ?_
      split <;> trivial
  | freeAllocated =>
      simp only [at_, Option.some.injEq] at moved
      subst moved
      have entered : Inv (state.enter thread .freeBump) :=
        enter_inv inv (by rw [at_]; rfl) (fun _ => by rw [at_]; rfl) trivial
      exact entered.with_words _ _ _ _
  | freeBump =>
      simp only [at_] at moved guard
      rw [word_succ guard] at moved
      cases moved
      exact bump_inv inv (by rw [at_]; rfl) (by rw [at_]; rfl) rfl
  | freeArmed generation =>
      simp only [at_, Option.some.injEq] at moved fits
      subst moved
      have issued : generation = state.generation := fits
      subst issued
      exact disarm_inv inv (by rw [at_]; rfl) inv.cancelledIssued (Nat.le_refl _) (Nat.le_refl _)
  | freeUnlock generation =>
      simp only [at_, Option.some.injEq] at moved fits
      subst moved
      exact release_inv inv (by rw [at_]; rfl) rfl fits
        (SameCover.covered_of_silent _ ⟨rfl, rfl, rfl, rfl, rfl, rfl⟩ update_others (by rw [at_]; rfl))
  | freeCancel generation =>
      simp only [at_, Option.some.injEq] at moved
      subst moved
      exact freeCancel_inv inv at_
  | freeDrain =>
      simp only [at_] at moved
      split at moved
      next running => cases moved
      next drained =>
        cases moved
        exact enter_inv inv (by rw [at_]; rfl) (by simp [Caller.holds]) trivial
  | unlock =>
      simp only [at_, Option.some.injEq] at moved
      subst moved
      exact release_inv inv (by rw [at_]; rfl) rfl trivial
        (SameCover.covered_of_silent _ ⟨rfl, rfl, rfl, rfl, rfl, rfl⟩ update_others (by rw [at_]; rfl))

theorem next_inv (clock : Clock) (state : State Thread) (action : Action Thread)
    (target : State Thread) (inv : Inv state) (guard : ClearGuard state action)
    (moved : next clock state action = some target) : Inv target := by
  cases action with
  | tick cycles =>
      cases moved
      exact inv.with_words _ _ _ _
  | call thread request =>
      simp only [next] at moved
      split at moved
      next idle =>
        cases moved
        refine enter_inv inv (by rw [idle]; rfl) ?_ ?_
        · cases request <;> simp [start, Caller.holds]
        · cases request <;> trivial
      next busy => cases moved
  | caller thread startable => exact stepCaller_inv inv clock guard moved
  | service => exact stepService_inv inv clock moved
  | irq =>
      cases moved
      exact stepIrq_inv inv

end Step

/-! ## Results -/

theorem Inv.neverLost {state : State Thread} (inv : Inv state) : state.NeverLost := by
  intro _ armed quiet waiting
  cases inv.covered armed with
  | manager isArmed child _ => exact .inr (.inr ⟨isArmed, child⟩)
  | signal signalled => exact .inr (.inl signalled)
  | pending notified => exact .inl notified
  | looking at_ => simp [waiting] at at_
  | clearing generation at_ => simp [waiting] at at_
  | rearming generation at_ _ => simp [waiting] at at_
  | sending thread call at_ _ =>
      have isQuiet := quiet thread
      rcases at_ with at_ | at_ <;> simp [at_, Caller.quiet] at isQuiet
  | undecided thread call at_ _ =>
      have isQuiet := quiet thread
      simp [at_, Caller.quiet] at isQuiet

theorem Inv.defersSafely {state : State Thread} (inv : Inv state) : state.DefersSafely := by
  intro _ _ armed
  cases inv.covered armed with
  | manager isArmed child _ => exact .inl (.inr (.inr ⟨isArmed, child⟩))
  | signal signalled => exact .inl (.inr (.inl signalled))
  | pending notified => exact .inl (.inl notified)
  | looking at_ => exact .inr (.inl (by simp [at_, Service.rechecks]))
  | clearing generation at_ => exact .inr (.inl (by simp [at_, Service.rechecks]))
  | rearming generation at_ _ =>
      refine .inr (.inl ?_)
      rcases at_ with at_ | ⟨_, at_⟩ | ⟨_, at_⟩ <;> simp [at_, Service.rechecks]
  | sending other call at_ _ =>
      refine .inr (.inr ⟨other, ?_⟩)
      rcases at_ with at_ | at_ <;> simp [at_, State.Sends]
  | undecided other call at_ will => exact .inr (.inr ⟨other, by rwa [at_]⟩)

/-- In every run in which no deferring call tests the epoch between the clear of
the generation it relies on and its count, no armed timer is lost. -/
theorem timer_correct_of_clearGuard [DecidableEq Thread] (clock : Clock) (state : State Thread)
    (reached : (system clock).Reach ClearGuard state) : state.Correct := by
  have inv : Inv state := System.Reach.invariant _ initial_inv (next_inv clock) reached
  exact ⟨inv.neverLost, inv.defersSafely⟩

/-- One cycle per nanosecond. -/
theorem gigahertz_pos : 0 < 1000000000 := by decide

def exampleClock : Clock := ⟨1000000000, 0, gigahertz_pos⟩

def fresh : State Bool :=
  ⟨0, none, false, false, 0, 0, 0, 0, false, .unstarted, fun _ => .idle, ⟨false, false, 0, 0⟩,
    false, 0⟩

/-- One thread allocates the timer and arms it for 5 ms; the interrupt comes and
the service thread wakes up and finds the deadline passed. -/
def firstShot : List (Action Bool) :=
  [.call true .alloc] ++ List.replicate 7 (.caller true true) ++
    [.call true (.setOneshot true 5000000)] ++ List.replicate 12 (.caller true true) ++
    [.tick 5000000, .irq, .irq] ++ List.replicate 4 .service

theorem timer_correct_after_firstShot :
    ∃ state : State Bool, (system exampleClock).Reach ClearGuard state ∧
      state.service = .clear 2 ∧ state.Correct := by
  obtain ⟨state, reached, atClear⟩ := System.exists_reach_of_exec
    (system exampleClock) ClearGuard fresh firstShot (fun state => state.service == .clear 2)
    ⟨rfl, rfl, rfl, rfl, rfl, fun _ => rfl, rfl, rfl, rfl⟩ (by decide +kernel)
  exact ⟨state, reached, by simpa using atClear,
    timer_correct_of_clearGuard exampleClock state reached⟩

/-- A second call has read the armed generation when the service thread clears
it, and tests the epoch before the clear is counted: it defers to an arm that is
gone, and nothing will wake the service thread. -/
theorem timer_lost :
    ¬ ∀ state : State Bool, (system exampleClock).Reachable state → state.Correct := by
  intro always
  obtain ⟨state, reached, lost⟩ := System.exists_reach_of_exec
    (system exampleClock) (fun _ _ => True) fresh
    (firstShot ++
      [.call false (.setOneshot true 5000000)] ++ List.replicate 6 (.caller false true) ++
      [.service] ++ List.replicate 5 (.caller false true) ++ List.replicate 4 .service)
    (fun state => state.allocated && state.armedGeneration != 0 &&
      (state.callers true).quiet && (state.callers false).quiet && state.service == .wait &&
      !state.ntfn && !state.irqSignal && !state.manager.armed)
    ⟨rfl, rfl, rfl, rfl, rfl, fun _ => rfl, rfl, rfl, rfl⟩ (by decide +kernel)
  simp only [Bool.and_eq_true, bne_iff_ne, ne_eq, beq_iff_eq, Bool.not_eq_true'] at lost
  obtain ⟨⟨⟨⟨⟨⟨⟨allocated, armed⟩, first⟩, second⟩, waiting⟩, ntfn⟩, irqSignal⟩, manager⟩ := lost
  have quiet : ∀ thread, (state.callers thread).quiet = true := by
    rintro (_ | _)
    · exact second
    · exact first
  rcases (always state reached).1 allocated armed quiet waiting with pending | signal | arming
  · simp [ntfn] at pending
  · simp [irqSignal] at signal
  · simp [manager] at arming

end Luna.Timer
