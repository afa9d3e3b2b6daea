import Luna.TimerManager

/-!
# Deactivation and the interrupt thread

`timer_irq_thread`, the manager's main thread and the network poll thread share the
timer under `timer_lock`.  `handle_timer_irq` takes the child's notification out of
the timer under the lock and signals it after it unlocked, so a
`luna_timer_manager_deactivate` that runs in between can return before the signal.
`CapturesNone` excludes exactly such a return.
-/

namespace Luna.TimerManager

open Interleaving

variable {Ntfn : Type}

/-- Program counter of `timer_irq_thread`. -/
inductive IrqThread (Ntfn : Type) where
  | wait
  | lock
  | body
  | unlock (wakes : Wakes Ntfn)
  | signalChild (wakes : Wakes Ntfn)
  | signalNetwork (wakes : Wakes Ntfn)
  | ack
  | suspended
  deriving DecidableEq, Repr

/-- Program counter of the main thread in `luna_timer_manager_service` and
`luna_timer_manager_deactivate`; `registered` is history, the notification the
section found. -/
inductive MainThread (Ntfn : Type) where
  | idle
  | serviceReady (message : Message Ntfn)
  | serviceLock (message : Message Ntfn)
  | serviceBody (message : Message Ntfn)
  | serviceUnlock (error : Bool)
  | serviceReply (error : Bool)
  | deactivateReady
  | deactivateLock
  | deactivateBody
  | deactivateUnlock (registered : Option Ntfn)
  | deactivateReturn (registered : Option Ntfn)
  deriving DecidableEq, Repr

/-- Program counter of the poll thread in `luna_timer_manager_schedule_network` and
`luna_timer_manager_cancel_network`. -/
inductive PollThread where
  | idle
  | scheduleReady (timeoutNs : Nat)
  | scheduleLock (timeoutNs : Nat)
  | scheduleBody (timeoutNs : Nat)
  | cancelReady
  | cancelArmed
  | cancelLock
  | cancelBody
  | unlock
  deriving DecidableEq, Repr

inductive Party where
  | irq
  | main
  | poll
  deriving DecidableEq, Repr

inductive Signal (Ntfn : Type) where
  | child (ntfn : Ntfn)
  | network
  deriving DecidableEq, Repr

/-- `retired` is history: the notifications registered before a deactivation that
has returned, until a `TIMER_ARM` is served.  `signals` is history: each signal
with the notifications that were retired when it was made. -/
structure State (Ntfn : Type) where
  lock : Option Party
  ready : Bool
  timer : Timer Ntfn
  irq : IrqThread Ntfn
  main : MainThread Ntfn
  poll : PollThread
  retired : List Ntfn
  signals : List (Signal Ntfn × List Ntfn)
  deriving DecidableEq, Repr

inductive MainCall (Ntfn : Type) where
  | service (message : Message Ntfn)
  | deactivate
  deriving DecidableEq, Repr

inductive PollCall where
  | schedule (timeoutNs : Nat)
  | cancel
  deriving DecidableEq, Repr

inductive Action (Ntfn : Type) where
  | callMain (call : MainCall Ntfn)
  | callPoll (call : PollCall)
  | irq (answers : Answers) (acknowledged : Bool)
  | main (answers : Answers)
  | poll (answers : Answers)
  deriving DecidableEq, Repr

/-- `timer_lock` succeeds only when the lock is free. -/
def State.acquire (state : State Ntfn) (party : Party) (entered : State Ntfn) :
    Option (State Ntfn) :=
  if state.lock = none then some { entered with lock := some party } else none

def State.signal (state : State Ntfn) (signal : Signal Ntfn) : State Ntfn :=
  { state with signals := state.signals ++ [(signal, state.retired)] }

/-- One step of `timer_irq_thread`.  Interrupts arrive at any time. -/
def stepIrq (hardware : Hardware) (state : State Ntfn) (answers : Answers)
    (acknowledged : Bool) : Option (State Ntfn) :=
  match state.irq with
  | .wait => some { state with irq := .lock }
  | .lock => state.acquire .irq { state with irq := .body }
  | .body =>
      let handled := state.timer.handleTimerIrq hardware answers
      some { state with timer := handled.1, irq := .unlock handled.2 }
  | .unlock wakes => some { state with lock := none, irq := .signalChild wakes }
  | .signalChild wakes =>
      match wakes.child with
      | some ntfn => some { state.signal (.child ntfn) with irq := .signalNetwork wakes }
      | none => some { state with irq := .signalNetwork wakes }
  | .signalNetwork wakes =>
      if wakes.network then some { state.signal .network with irq := .ack }
      else some { state with irq := .ack }
  | .ack =>
      if acknowledged then some { state with irq := .wait }
      else some { state with ready := false, irq := .suspended }
  | .suspended => none

variable [DecidableEq Ntfn]

/-- Whether the section of `luna_timer_manager_service` stores an arm. -/
def Timer.Arms (timer : Timer Ntfn) (message : Message Ntfn) : Prop :=
  message.event = .arm ∧ message.timeoutNs ≠ 0 ∧ ¬ timer.Foreign message ∧
    timer.generation ≤ message.generation

instance (timer : Timer Ntfn) (message : Message Ntfn) : Decidable (timer.Arms message) :=
  inferInstanceAs (Decidable (_ ∧ _ ∧ _ ∧ _))

/-- One step of the main thread.  A null generation is answered without the lock. -/
def stepMain (hardware : Hardware) (state : State Ntfn) (answers : Answers) :
    Option (State Ntfn) :=
  match state.main with
  | .idle => none
  | .serviceReady message =>
      if state.ready ∧ message.generation ≠ 0 then
        some { state with main := .serviceLock message }
      else some { state with main := .serviceReply true }
  | .serviceLock message => state.acquire .main { state with main := .serviceBody message }
  | .serviceBody message =>
      let served := state.timer.service hardware message answers
      some { state with
        timer := served.1
        main := .serviceUnlock (!served.2)
        retired := if state.timer.Arms message then [] else state.retired }
  | .serviceUnlock error => some { state with lock := none, main := .serviceReply error }
  | .serviceReply _ => some { state with main := .idle }
  | .deactivateReady =>
      if state.ready then some { state with main := .deactivateLock }
      else some { state with main := .deactivateReturn state.timer.childNtfn }
  | .deactivateLock => state.acquire .main { state with main := .deactivateBody }
  | .deactivateBody =>
      some { state with
        timer := state.timer.deactivate answers.pitSucceeds
        main := .deactivateUnlock state.timer.childNtfn }
  | .deactivateUnlock registered =>
      some { state with lock := none, main := .deactivateReturn registered }
  | .deactivateReturn registered =>
      some { state with main := .idle, retired := state.retired ++ registered.toList }

omit [DecidableEq Ntfn] in
/-- One step of the poll thread. -/
def stepPoll (hardware : Hardware) (state : State Ntfn) (answers : Answers) :
    Option (State Ntfn) :=
  match state.poll with
  | .idle => none
  | .scheduleReady timeoutNs =>
      if state.ready ∧ timeoutNs ≠ 0 then some { state with poll := .scheduleLock timeoutNs }
      else some { state with poll := .idle }
  | .scheduleLock timeoutNs => state.acquire .poll { state with poll := .scheduleBody timeoutNs }
  | .scheduleBody timeoutNs =>
      some { state with
        timer := (state.timer.scheduleNetwork hardware timeoutNs answers).1
        poll := .unlock }
  | .cancelReady => some { state with poll := if state.ready then .cancelArmed else .idle }
  | .cancelArmed =>
      some { state with poll := if state.timer.networkArmed then .cancelLock else .idle }
  | .cancelLock => state.acquire .poll { state with poll := .cancelBody }
  | .cancelBody =>
      some { state with
        timer := (state.timer.cancelNetwork hardware answers).1
        poll := .unlock }
  | .unlock => some { state with lock := none, poll := .idle }

def next (hardware : Hardware) (state : State Ntfn) : Action Ntfn → Option (State Ntfn)
  | .callMain (.service message) =>
      if state.main = .idle then some { state with main := .serviceReady message } else none
  | .callMain .deactivate =>
      if state.main = .idle then some { state with main := .deactivateReady } else none
  | .callPoll (.schedule timeoutNs) =>
      if state.poll = .idle then some { state with poll := .scheduleReady timeoutNs } else none
  | .callPoll .cancel =>
      if state.poll = .idle then some { state with poll := .cancelReady } else none
  | .irq answers acknowledged => stepIrq hardware state answers acknowledged
  | .main answers => stepMain hardware state answers
  | .poll answers => stepPoll hardware state answers

/-- `luna_timer_manager_init` has returned. -/
def start (Ntfn : Type) : State Ntfn where
  lock := none
  ready := true
  timer := .cleared Ntfn
  irq := .wait
  main := .idle
  poll := .idle
  retired := []
  signals := []

def system (hardware : Hardware) : System (State Ntfn) (Action Ntfn) where
  init state := state = start Ntfn
  next := next hardware

/-- No signal was made on a notification retired by then. -/
def SignalsLive (state : State Ntfn) : Prop :=
  ∀ made ∈ state.signals, ∀ ntfn ∈ made.2, made.1 ≠ .child ntfn

instance (state : State Ntfn) : Decidable (SignalsLive state) :=
  inferInstanceAs (Decidable (∀ made ∈ state.signals, ∀ ntfn ∈ made.2, made.1 ≠ .child ntfn))

/-- The notification of a child the interrupt thread has taken out of the timer and
not yet signalled. -/
def IrqThread.captured : IrqThread Ntfn → Option Ntfn
  | .unlock wakes | .signalChild wakes => wakes.child
  | _ => none

def MainThread.returning : MainThread Ntfn → Bool
  | .deactivateReturn _ => true
  | _ => false

/-- `luna_timer_manager_deactivate` does not return while the interrupt thread is
about to signal a child. -/
def CapturesNone (state : State Ntfn) : Action Ntfn → Prop
  | .main _ => state.main.returning → state.irq.captured = none
  | _ => True

instance (state : State Ntfn) : (action : Action Ntfn) → Decidable (CapturesNone state action)
  | .main _ => inferInstanceAs (Decidable (_ → _))
  | .callMain _ | .callPoll _ | .irq _ _ | .poll _ => isTrue trivial

/-- The interrupt thread has no child to signal and will find none. -/
def State.ChildGone (state : State Ntfn) : Prop :=
  state.irq = .suspended ∨ state.timer.childNtfn = none

structure DeactivateInv (state : State Ntfn) : Prop where
  ready : state.ready = false → state.irq = .suspended
  deactivated : ∀ registered, state.main = .deactivateUnlock registered ∨
    state.main = .deactivateReturn registered → state.ChildGone
  retired : state.retired ≠ [] → state.ChildGone ∧ state.irq.captured = none
  live : SignalsLive state

section Sections

variable (timer : Timer Ntfn) (hardware : Hardware)

omit [DecidableEq Ntfn]

theorem Timer.programNext_childNtfn (now : Nat) (pitSucceeds : Bool) :
    (timer.programNext hardware now pitSucceeds).1.childNtfn = timer.childNtfn := by
  unfold Timer.programNext
  split
  · split <;> rfl
  · rfl

theorem Timer.expireChild_childNtfn (now : Nat) :
    (timer.expireChild now).1.childNtfn = timer.childNtfn := by
  unfold Timer.expireChild
  split <;> rfl

theorem Timer.expireNetwork_childNtfn (now : Nat) :
    (timer.expireNetwork now).1.childNtfn = timer.childNtfn := by
  unfold Timer.expireNetwork
  split <;> rfl

theorem Timer.reprogram_childNtfn (now : Nat) (pitSucceeds : Bool) :
    (timer.reprogram hardware now pitSucceeds).childNtfn = timer.childNtfn := by
  have kept := timer.programNext_childNtfn hardware now pitSucceeds
  unfold Timer.reprogram
  split
  · split <;> simp_all
  · rfl

theorem Timer.handleTimerIrq_childNtfn (answers : Answers) :
    (timer.handleTimerIrq hardware answers).1.childNtfn = timer.childNtfn := by
  unfold Timer.handleTimerIrq
  rw [Timer.reprogram_childNtfn, Timer.expireNetwork_childNtfn, Timer.expireChild_childNtfn]

theorem Timer.handleTimerIrq_wakes_none (answers : Answers) (gone : timer.childNtfn = none) :
    (timer.handleTimerIrq hardware answers).2.child = none := by
  unfold Timer.handleTimerIrq Timer.expireChild
  split
  · exact gone
  · rfl

theorem Timer.scheduleNetwork_childNtfn (timeoutNs : Nat) (answers : Answers) :
    (timer.scheduleNetwork hardware timeoutNs answers).1.childNtfn = timer.childNtfn := by
  unfold Timer.scheduleNetwork
  split
  · rfl
  · dsimp only
    split
    all_goals
      next programmed outcome =>
        have kept := congrArg (fun result => result.1.childNtfn) outcome
        dsimp only at kept
        rw [Timer.programNext_childNtfn] at kept
        exact kept.symm

theorem Timer.cancelNetwork_childNtfn (answers : Answers) :
    (timer.cancelNetwork hardware answers).1.childNtfn = timer.childNtfn := by
  unfold Timer.cancelNetwork
  split
  · rw [Timer.programNext_childNtfn]
  · rfl

variable [DecidableEq Ntfn]

/-- Only an accepted arm registers a child. -/
theorem Timer.service_childNtfn {message : Message Ntfn} (answers : Answers)
    (refused : ¬ timer.Arms message) :
    (timer.service hardware message answers).1.childNtfn = timer.childNtfn := by
  unfold Timer.service
  split
  next isArm =>
    split
    · rfl
    next own =>
      split
      · rfl
      next fresh => exact absurd ⟨isArm.1, isArm.2, own, Nat.not_lt.mp fresh⟩ refused
  next notArm =>
    split
    · split
      · rfl
      · split
        · rfl
        · exact Timer.programNext_childNtfn _ hardware _ _
    · rfl

end Sections

section Steps

variable {hardware : Hardware} {state target : State Ntfn} {answers : Answers}

omit [DecidableEq Ntfn] in
theorem State.acquire_eq {party : Party} {entered : State Ntfn}
    (taken : state.acquire party entered = some target) :
    target = { entered with lock := some party } := by
  unfold State.acquire at taken
  split at taken
  next free => exact (Option.some.inj taken).symm
  next held => cases taken

omit [DecidableEq Ntfn] in
/-- What neither the interrupt thread nor the timer's registration changes. -/
theorem DeactivateInv.framed (inv : DeactivateInv state) (ready : target.ready = state.ready)
    (irq : target.irq = state.irq) (registered : target.timer.childNtfn = state.timer.childNtfn)
    (main : ∀ registered, target.main = .deactivateUnlock registered ∨
      target.main = .deactivateReturn registered → target.ChildGone)
    (retired : target.retired = state.retired) (signals : target.signals = state.signals) :
    DeactivateInv target := by
  refine ⟨?_, main, ?_, ?_⟩
  · rw [ready, irq]
    exact inv.ready
  · rw [retired, irq]
    intro some
    have gone := inv.retired some
    exact ⟨by rw [State.ChildGone, irq, registered]; exact gone.1, gone.2⟩
  · rw [SignalsLive, signals]
    exact inv.live

omit [DecidableEq Ntfn] in
theorem SignalsLive.signal {signal : Signal Ntfn} (live : SignalsLive state)
    (apart : ∀ ntfn ∈ state.retired, signal ≠ .child ntfn) : SignalsLive (state.signal signal) := by
  intro made member
  rcases List.mem_append.mp member with old | new
  · exact live made old
  · rw [List.mem_singleton.mp new]
    exact apart

omit [DecidableEq Ntfn] in
theorem DeactivateInv.stepIrq {acknowledged : Bool} (inv : DeactivateInv state)
    (moved : stepIrq hardware state answers acknowledged = some target) :
    DeactivateInv target := by
  -- Every step but the section and the signals only moves the program counter.
  have advances : ∀ irq : IrqThread Ntfn, ∀ lock : Option Party, state.irq ≠ .suspended →
      (state.retired ≠ [] → irq.captured = none) →
      DeactivateInv { state with irq, lock } := by
    intro irq lock running captured
    have ready : state.ready ≠ false := fun stopped => running (inv.ready stopped)
    refine ⟨fun stopped => absurd stopped ready, fun registered stands => ?_, fun some => ?_,
      inv.live⟩
    · exact .inr ((inv.deactivated registered stands).resolve_left running)
    · exact ⟨.inr ((inv.retired some).1.resolve_left running), captured some⟩
  unfold TimerManager.stepIrq at moved
  cases stands : state.irq with
  | wait =>
      rw [stands] at moved
      cases moved
      exact advances _ _ (by rw [stands]; nofun) fun _ => rfl
  | lock =>
      rw [stands] at moved
      rw [State.acquire_eq moved]
      exact advances _ _ (by rw [stands]; nofun) fun _ => rfl
  | body =>
      rw [stands] at moved
      cases moved
      have running : state.irq ≠ .suspended := by rw [stands]; nofun
      have kept := state.timer.handleTimerIrq_childNtfn hardware answers
      refine ⟨fun stopped => absurd (inv.ready stopped) running, fun registered standing => ?_,
        fun some => ?_, inv.live⟩
      · exact .inr (kept.trans ((inv.deactivated registered standing).resolve_left running))
      · have gone := (inv.retired some).1.resolve_left running
        exact ⟨.inr (kept.trans gone),
          state.timer.handleTimerIrq_wakes_none hardware answers gone⟩
  | unlock wakes =>
      rw [stands] at moved
      cases moved
      refine advances _ _ (by rw [stands]; nofun) fun some => ?_
      have captured := (inv.retired some).2
      rw [stands] at captured
      exact captured
  | signalChild wakes =>
      rw [stands] at moved
      dsimp only at moved
      have running : state.irq ≠ .suspended := by rw [stands]; nofun
      cases child : wakes.child with
      | none =>
          rw [child] at moved
          cases moved
          exact advances _ _ running fun _ => rfl
      | some ntfn =>
          rw [child] at moved
          cases moved
          have advanced := advances (.signalNetwork wakes) state.lock running fun _ => rfl
          -- A retired notification would mean that nothing was captured.
          have none : state.retired = [] := by
            by_contra some
            have captured := (inv.retired some).2
            rw [stands] at captured
            exact nomatch child.symm.trans captured
          exact ⟨advanced.ready, advanced.deactivated, advanced.retired,
            inv.live.signal fun ntfn member => by rw [none] at member; cases member⟩
  | signalNetwork wakes =>
      rw [stands] at moved
      dsimp only at moved
      have advanced := advances .ack state.lock (by rw [stands]; nofun) fun _ => rfl
      split at moved
      · cases moved
        exact ⟨advanced.ready, advanced.deactivated, advanced.retired,
          inv.live.signal fun _ _ => nofun⟩
      · cases moved
        exact advanced
  | ack =>
      rw [stands] at moved
      dsimp only at moved
      split at moved
      · cases moved
        exact advances _ _ (by rw [stands]; nofun) fun _ => rfl
      · cases moved
        exact ⟨fun _ => rfl, fun _ _ => .inl rfl, fun _ => ⟨.inl rfl, rfl⟩, inv.live⟩
  | suspended =>
      rw [stands] at moved
      cases moved

theorem DeactivateInv.stepMain (inv : DeactivateInv state)
    (clear : CapturesNone state (.main answers))
    (moved : stepMain hardware state answers = some target) : DeactivateInv target := by
  unfold TimerManager.stepMain at moved
  cases stands : state.main with
  | idle =>
      rw [stands] at moved
      cases moved
  | serviceReady message =>
      rw [stands] at moved
      dsimp only at moved
      split at moved <;> cases moved <;> exact inv.framed rfl rfl rfl nofun rfl rfl
  | serviceLock message | deactivateLock =>
      rw [stands] at moved
      rw [State.acquire_eq moved]
      exact inv.framed rfl rfl rfl nofun rfl rfl
  | serviceBody message =>
      rw [stands] at moved
      cases moved
      by_cases arms : state.timer.Arms message
      · refine ⟨inv.ready, nofun, fun some => ?_, inv.live⟩
        rw [if_pos arms] at some
        exact absurd rfl some
      · have kept := state.timer.service_childNtfn hardware answers arms
        exact inv.framed rfl rfl kept nofun (if_neg arms) rfl
  | serviceUnlock error | serviceReply error =>
      rw [stands] at moved
      cases moved
      exact inv.framed rfl rfl rfl nofun rfl rfl
  | deactivateReady =>
      rw [stands] at moved
      dsimp only at moved
      split at moved
      · cases moved
        exact inv.framed rfl rfl rfl nofun rfl rfl
      next stopped =>
        cases moved
        have suspended := inv.ready (Bool.eq_false_iff.mpr stopped)
        exact inv.framed rfl rfl rfl (fun _ _ => .inl suspended) rfl rfl
  | deactivateBody =>
      rw [stands] at moved
      cases moved
      refine ⟨inv.ready, fun _ _ => .inr rfl, fun some => ⟨.inr rfl, ?_⟩, inv.live⟩
      exact (inv.retired some).2
  | deactivateUnlock registered =>
      rw [stands] at moved
      cases moved
      have gone := inv.deactivated registered (.inl stands)
      exact inv.framed rfl rfl rfl (fun _ _ => gone) rfl rfl
  | deactivateReturn registered =>
      rw [stands] at moved
      cases moved
      have gone := inv.deactivated registered (.inr stands)
      exact ⟨inv.ready, nofun, fun _ => ⟨gone, clear (by rw [stands]; rfl)⟩, inv.live⟩

omit [DecidableEq Ntfn] in
theorem DeactivateInv.stepPoll (inv : DeactivateInv state)
    (moved : stepPoll hardware state answers = some target) : DeactivateInv target := by
  -- The poll thread moves and leaves the registration of the child.
  have moves : ∀ poll : PollThread, ∀ lock : Option Party, ∀ timer : Timer Ntfn,
      timer.childNtfn = state.timer.childNtfn → DeactivateInv { state with poll, lock, timer } := by
    intro poll lock timer kept
    refine inv.framed rfl rfl kept (fun registered standing => ?_) rfl rfl
    rw [State.ChildGone, kept]
    exact inv.deactivated registered standing
  unfold TimerManager.stepPoll at moved
  cases stands : state.poll with
  | idle =>
      rw [stands] at moved
      cases moved
  | scheduleReady timeoutNs =>
      rw [stands] at moved
      dsimp only at moved
      split at moved <;> cases moved <;> exact moves _ _ _ rfl
  | scheduleLock timeoutNs =>
      rw [stands] at moved
      rw [State.acquire_eq moved]
      exact moves _ _ _ rfl
  | cancelLock =>
      rw [stands] at moved
      rw [State.acquire_eq moved]
      exact moves _ _ _ rfl
  | scheduleBody timeoutNs =>
      rw [stands] at moved
      cases moved
      exact moves _ _ _ (state.timer.scheduleNetwork_childNtfn hardware timeoutNs answers)
  | cancelBody =>
      rw [stands] at moved
      cases moved
      exact moves _ _ _ (state.timer.cancelNetwork_childNtfn hardware answers)
  | cancelReady | cancelArmed | unlock =>
      rw [stands] at moved
      cases moved
      exact moves _ _ _ rfl

theorem DeactivateInv.step {action : Action Ntfn} (inv : DeactivateInv state)
    (clear : CapturesNone state action) (moved : next hardware state action = some target) :
    DeactivateInv target := by
  cases action with
  | callMain call =>
      cases call
      all_goals
        obtain ⟨-, called⟩ := Option.ite_none_right_eq_some.mp moved
        cases called
        exact inv.framed rfl rfl rfl nofun rfl rfl
  | callPoll call =>
      cases call
      all_goals
        obtain ⟨-, called⟩ := Option.ite_none_right_eq_some.mp moved
        cases called
        exact inv.framed rfl rfl rfl inv.deactivated rfl rfl
  | irq answers acknowledged => exact inv.stepIrq moved
  | main answers => exact inv.stepMain clear moved
  | poll answers => exact inv.stepPoll moved

end Steps

omit [DecidableEq Ntfn] in
theorem deactivateInv_start : DeactivateInv (start Ntfn) :=
  ⟨nofun, nofun, fun some => absurd rfl some, nofun⟩

/-- A destroyed child is never signalled by the timer, as long as no deactivation
returns between the interrupt thread's section and its signal. -/
theorem deactivated_child_unsignalled (hardware : Hardware) {state : State Ntfn}
    (reached : (system hardware).Reach CapturesNone state) : SignalsLive state := by
  have inv : DeactivateInv state := by
    refine System.Reach.invariant DeactivateInv ?_ ?_ reached
    · rintro state rfl
      exact deactivateInv_start
    · intro state action target inv clear moved
      exact inv.step clear moved
  exact inv.live

/-- A child arms its timer for one nanosecond. -/
def armRun (answers : Answers) : List (Action Unit) :=
  .callMain (.service ⟨(), .arm, 1, 1⟩) :: List.replicate 5 (.main answers)

/-- The interrupt thread handles an interrupt up to its signals. -/
def irqRun (answers : Answers) : List (Action Unit) :=
  List.replicate 4 (.irq answers true)

def deactivateRun (answers : Answers) : List (Action Unit) :=
  .callMain .deactivate :: List.replicate 5 (.main answers)

theorem deactivated_child_unsignalled_after_wake :
    ∃ state : State Unit, (system pitHardware).Reach CapturesNone state ∧
      state.retired = [()] ∧ state.signals = [(.child (), [])] ∧ SignalsLive state := by
  obtain ⟨state, reached, ends⟩ := System.exists_reach_of_exec (system pitHardware) CapturesNone
    (start Unit)
    (armRun ⟨0, 0, true⟩ ++ irqRun ⟨5, 5, true⟩ ++ [.irq ⟨5, 5, true⟩ true] ++
      deactivateRun ⟨6, 6, true⟩)
    (fun state => decide (state.retired = [()] ∧ state.signals = [(.child (), [])])) rfl
    (by decide +kernel)
  obtain ⟨retired, signals⟩ := of_decide_eq_true ends
  exact ⟨state, reached, retired, signals, deactivated_child_unsignalled pitHardware reached⟩

/-- The deactivation runs between the section and the signal. -/
theorem deactivated_child_signalled :
    ¬ ∀ state : State Unit, (system pitHardware).Reachable state → SignalsLive state := by
  intro live
  obtain ⟨state, reached, ends⟩ := System.exists_reach_of_exec (system pitHardware)
    (fun _ _ => True) (start Unit)
    (armRun ⟨0, 0, true⟩ ++ irqRun ⟨5, 5, true⟩ ++ deactivateRun ⟨6, 6, true⟩ ++
      [.irq ⟨5, 5, true⟩ true])
    (fun state => decide (¬ SignalsLive state)) rfl (by decide +kernel)
  exact of_decide_eq_true ends (live state reached)

end Luna.TimerManager
