import Luna.Lib.Tally
import Luna.TimerDeadlines

/-!
# The counters of the network deadline

Threads call into `isolation_timer.c`; the unlocked check of
`luna_timer_manager_cancel_network`, the section under `timer_lock` and the counting of
`handle_timer_irq` after it unlocked are steps of their own.  The smoke gate compares
`network_arm_count` with the other two counters.  `luna_timer_manager_deactivate` takes an
armed network deadline away and counts nothing.
-/

namespace Luna.TimerManager

open Interleaving

inductive Phase (Ntfn : Type) where
  | idle
  | entered (operation : Operation Ntfn)
  /-- `handle_timer_irq` unlocked and has yet to signal and count. -/
  | counting (wakes : Wakes Ntfn)
  deriving DecidableEq, Repr

/-- The manager's timer with the counters of the network deadline. -/
structure Statistics (Ntfn Thread : Type) where
  timer : Timer Ntfn
  networkArmCount : UInt64
  networkCancelCount : UInt64
  networkWakeCount : UInt64
  phases : Thread → Phase Ntfn

inductive StatisticsAction (Ntfn Thread : Type) where
  | call (thread : Thread) (operation : Operation Ntfn)
  | locked (thread : Thread)
  | count (thread : Thread)
  deriving DecidableEq, Repr

variable {Ntfn Thread : Type}

def counted (answer : Bool) : UInt64 := if answer then 1 else 0

/-- Whether the section counts an arm. -/
def Timer.armsNetwork (timer : Timer Ntfn) (hardware : Hardware) : Operation Ntfn → Bool
  | .scheduleNetwork timeoutNs answers =>
      decide (timeoutNs ≠ 0) && !timer.networkArmed &&
        (timer.scheduleNetwork hardware timeoutNs answers).2
  | _ => false

/-- Whether the section counts a cancel. -/
def Timer.cancelsNetwork (timer : Timer Ntfn) (hardware : Hardware) : Operation Ntfn → Bool
  | .cancelNetwork answers => timer.networkArmed && (timer.cancelNetwork hardware answers).2
  | _ => false

/-- Whether the section takes an armed deadline away uncounted. -/
def Timer.dropsNetwork (timer : Timer Ntfn) : Operation Ntfn → Bool
  | .deactivate _ => timer.networkArmed
  | _ => false

/-- `luna_timer_manager_cancel_network` returns 0 before it locks. -/
def Timer.returnsEarly (timer : Timer Ntfn) : Operation Ntfn → Bool
  | .cancelNetwork _ => !timer.networkArmed
  | _ => false

/-- What a thread does after its section. -/
def Operation.after (wakes : Wakes Ntfn) : Operation Ntfn → Phase Ntfn
  | .interrupt _ _ => .counting wakes
  | _ => .idle

section Steps

variable [DecidableEq Ntfn] [DecidableEq Thread]

def Statistics.next (hardware : Hardware) (state : Statistics Ntfn Thread) :
    StatisticsAction Ntfn Thread → Option (Statistics Ntfn Thread)
  | .call thread operation =>
    match state.phases thread with
    | .idle =>
      if state.timer.returnsEarly operation then some state
      else some { state with phases := Function.update state.phases thread (.entered operation) }
    | _ => none
  | .locked thread =>
    match state.phases thread with
    | .entered operation =>
      let result := state.timer.perform hardware operation
      some
        { timer := result.1
          networkArmCount :=
            state.networkArmCount + counted (state.timer.armsNetwork hardware operation)
          networkCancelCount :=
            state.networkCancelCount + counted (state.timer.cancelsNetwork hardware operation)
          networkWakeCount := state.networkWakeCount
          phases := Function.update state.phases thread (operation.after result.2) }
    | _ => none
  | .count thread =>
    match state.phases thread with
    | .counting wakes =>
      some
        { state with
          networkWakeCount := state.networkWakeCount + counted wakes.network
          phases := Function.update state.phases thread .idle }
    | _ => none

end Steps

structure Statistics.Initial (state : Statistics Ntfn Thread) : Prop where
  timer : state.timer = Timer.cleared Ntfn
  arms : state.networkArmCount = 0
  cancels : state.networkCancelCount = 0
  wakes : state.networkWakeCount = 0
  phases : ∀ thread, state.phases thread = .idle

/-- No operation is in progress. -/
def Statistics.Quiet (state : Statistics Ntfn Thread) : Prop :=
  ∀ thread, state.phases thread = .idle

/-- The equation of the smoke gate. -/
def Statistics.Balanced (state : Statistics Ntfn Thread) : Prop :=
  state.networkArmCount =
    state.networkCancelCount + state.networkWakeCount + counted state.timer.networkArmed

instance (state : Statistics Ntfn Thread) : Decidable state.Balanced :=
  inferInstanceAs (Decidable (_ = _))

section Runs

variable [DecidableEq Ntfn] [DecidableEq Thread]

def statistics (hardware : Hardware) :
    System (Statistics Ntfn Thread) (StatisticsAction Ntfn Thread) :=
  ⟨Statistics.Initial, Statistics.next hardware⟩

/-- The PIT driver succeeds. -/
def PitSucceeds (_ : Statistics Ntfn Thread) : StatisticsAction Ntfn Thread → Prop
  | .call _ operation => operation.answers.pitSucceeds = true
  | _ => True

instance (state : Statistics Ntfn Thread) (action : StatisticsAction Ntfn Thread) :
    Decidable (PitSucceeds state action) := by
  cases action <;> unfold PitSucceeds <;> infer_instance

/-- Whether a step is the section of a `luna_timer_manager_deactivate` that finds the network
deadline armed. -/
def Statistics.drops (state : Statistics Ntfn Thread) :
    StatisticsAction Ntfn Thread → Bool
  | .locked thread =>
    match state.phases thread with
    | .entered operation => state.timer.dropsNetwork operation
    | _ => false
  | _ => false

/-- How many steps of a run do. -/
def Statistics.dropped (hardware : Hardware) :
    Statistics Ntfn Thread → List (StatisticsAction Ntfn Thread) → Nat
  | _, [] => 0
  | state, action :: rest =>
    (state.drops action).toNat +
      match state.next hardware action with
      | some target => dropped hardware target rest
      | none => 0

end Runs

/-- Wakes of the poll loop that are signalled and not counted yet. -/
def Phase.uncounted : Phase Ntfn → Nat
  | .counting wakes => wakes.network.toNat
  | _ => 0

theorem counted_eq (answer : Bool) : counted answer = UInt64.ofNat answer.toNat := by
  cases answer <;> rfl

section Sections

variable (timer : Timer Ntfn) (hardware : Hardware)

theorem Timer.scheduleNetwork_answer (timeoutNs : Nat) (answers : Answers)
    (succeeds : answers.pitSucceeds = true) :
    (timer.scheduleNetwork hardware timeoutNs answers).2 = true := by
  unfold Timer.scheduleNetwork
  split
  · rfl
  · dsimp only
    split
    next programmed succeeded => rfl
    next programmed failed =>
      have fails := (Timer.programNext_eq failed).1
      rw [succeeds] at fails
      cases fails

theorem Timer.cancelNetwork_answer (answers : Answers) (succeeds : answers.pitSucceeds = true) :
    (timer.cancelNetwork hardware answers).2 = true := by
  cases cancels : timer.cancelNetwork hardware answers with
  | mk programmed done =>
    unfold Timer.cancelNetwork at cancels
    split at cancels
    · rw [(Timer.programNext_eq cancels).1]
      exact succeeds
    · cases cancels
      rfl

/-- Whoever armed the deadline named the notification. -/
def Timer.Notified (timer : Timer Ntfn) : Prop :=
  timer.networkArmed = true → timer.networkNtfn = true

variable [DecidableEq Ntfn]

/-- Every section accounts for the deadline: it stays armed, is taken by an interrupt that
will count it, is cancelled, or is dropped. -/
theorem Timer.perform_accounted {operation : Operation Ntfn}
    (succeeds : operation.answers.pitSucceeds = true) (notified : timer.Notified) :
    (timer.perform hardware operation).1.Notified ∧
    (timer.perform hardware operation).1.networkArmed.toNat +
        (operation.after (timer.perform hardware operation).2).uncounted +
        (timer.cancelsNetwork hardware operation).toNat + (timer.dropsNetwork operation).toNat =
      timer.networkArmed.toNat + (timer.armsNetwork hardware operation).toNat := by
  cases operation with
  | service message answers =>
    by_cases refused : message.generation = 0
    · have unchanged : timer.perform hardware (.service message answers) = (timer, .none) :=
        if_pos refused
      rw [unchanged]
      exact ⟨notified, rfl⟩
    · have served : timer.perform hardware (.service message answers) =
          ((timer.service hardware message answers).1, .none) := if_neg refused
      obtain ⟨armed, ntfn⟩ := Timer.service_network timer hardware message answers
      rw [served]
      refine ⟨?_, ?_⟩
      · unfold Timer.Notified
        dsimp only
        rw [armed, ntfn]
        exact notified
      · dsimp only
        rw [armed]
        rfl
  | scheduleNetwork timeoutNs answers =>
    by_cases refused : timeoutNs = 0
    · have unchanged : timer.perform hardware (.scheduleNetwork timeoutNs answers) =
          (timer, .none) := if_pos refused
      rw [unchanged]
      refine ⟨notified, ?_⟩
      simp [Timer.armsNetwork, refused, Timer.cancelsNetwork, Timer.dropsNetwork, Operation.after,
        Phase.uncounted]
    · have scheduled : timer.perform hardware (.scheduleNetwork timeoutNs answers) =
          ((timer.scheduleNetwork hardware timeoutNs answers).1, .none) := if_neg refused
      obtain ⟨armed, ntfn⟩ :=
        Timer.scheduleNetwork_network timer hardware timeoutNs answers succeeds notified
      have answer := Timer.scheduleNetwork_answer timer hardware timeoutNs answers succeeds
      rw [scheduled]
      refine ⟨fun _ => ntfn, ?_⟩
      dsimp only
      rw [armed]
      cases before : timer.networkArmed <;>
        simp [Timer.armsNetwork, refused, before, answer, Timer.cancelsNetwork,
          Timer.dropsNetwork, Operation.after, Phase.uncounted]
  | cancelNetwork answers =>
    have cancelled : timer.perform hardware (.cancelNetwork answers) =
        ((timer.cancelNetwork hardware answers).1, .none) := rfl
    have disarmed := Timer.cancelNetwork_network timer hardware answers
    have answer := Timer.cancelNetwork_answer timer hardware answers succeeds
    rw [cancelled]
    refine ⟨?_, ?_⟩
    · intro armed
      rw [disarmed] at armed
      cases armed
    · dsimp only
      rw [disarmed]
      cases before : timer.networkArmed <;>
        simp [Timer.armsNetwork, before, answer, Timer.cancelsNetwork,
          Timer.dropsNetwork, Operation.after, Phase.uncounted]
  | deactivate answers =>
    refine ⟨?_, ?_⟩
    · intro armed
      cases armed
    · have disarmed : (timer.perform hardware (.deactivate answers)).1.networkArmed = false := rfl
      rw [disarmed]
      simp [Timer.armsNetwork, Timer.cancelsNetwork, Timer.dropsNetwork, Operation.after,
        Phase.uncounted]
  | interrupt fired answers =>
    have handled : timer.perform hardware (.interrupt fired answers) =
        (timer.fire fired).handleTimerIrq hardware answers := rfl
    obtain ⟨armed, ntfn, woken⟩ :=
      Timer.handleTimerIrq_network (timer.fire fired) hardware answers succeeds
    have sameArmed : (timer.fire fired).networkArmed = timer.networkArmed := rfl
    have sameNtfn : (timer.fire fired).networkNtfn = timer.networkNtfn := rfl
    rw [handled]
    refine ⟨?_, ?_⟩
    · intro still
      rw [armed, Bool.and_eq_true] at still
      rw [ntfn]
      exact notified still.1
    · rw [armed]
      simp only [Operation.after, Phase.uncounted, woken, sameArmed, sameNtfn, Timer.armsNetwork,
        Timer.cancelsNetwork, Timer.dropsNetwork]
      cases before : timer.networkArmed with
      | false => rfl
      | true =>
        rw [notified before]
        rcases Nat.lt_or_ge answers.second (timer.fire fired).networkDeadlineCycles with early | due
        · simp [early, Nat.not_le_of_lt early]
        · simp [due, Nat.not_lt_of_le due]

end Sections

section Invariant

variable [DecidableEq Thread] [Fintype Thread]

structure StatisticsInv (dropped : Nat) (state : Statistics Ntfn Thread) : Prop where
  notified : state.timer.Notified
  succeed : ∀ thread operation, state.phases thread = .entered operation →
    operation.answers.pitSucceeds = true
  balance : state.networkArmCount = state.networkCancelCount + state.networkWakeCount +
    UInt64.ofNat (state.timer.networkArmed.toNat +
      Tally.total Phase.uncounted state.phases + dropped)

omit [DecidableEq Thread] in
theorem initial_statisticsInv {state : Statistics Ntfn Thread} (initial : state.Initial) :
    StatisticsInv 0 state where
  notified := by
    intro armed
    rw [initial.timer] at armed
    cases armed
  succeed := by
    intro thread operation entered
    rw [initial.phases thread] at entered
    cases entered
  balance := by
    have none : Tally.total Phase.uncounted state.phases = 0 := by
      apply (Tally.total_eq_zero_iff _ _).mpr
      intro thread
      rw [initial.phases thread]
      rfl
    rw [initial.arms, initial.cancels, initial.wakes, initial.timer, none]
    rfl

variable {state target : Statistics Ntfn Thread} {dropped : Nat}

omit [Fintype Thread] in
theorem entered_update {phases : Thread → Phase Ntfn} {thread other : Thread}
    {phase : Phase Ntfn} {operation : Operation Ntfn}
    (succeed : ∀ thread operation, phases thread = .entered operation →
      operation.answers.pitSucceeds = true)
    (moved : ∀ operation, phase = .entered operation → operation.answers.pitSucceeds = true)
    (entered : Function.update phases thread phase other = .entered operation) :
    operation.answers.pitSucceeds = true := by
  by_cases same : other = thread
  · subst same
    rw [Function.update_self] at entered
    exact moved operation entered
  · rw [Function.update_of_ne same] at entered
    exact succeed other operation entered

theorem account_step {arms cancels wakes : UInt64} {held after armed cancelled : Nat}
    (balance : arms = cancels + wakes + UInt64.ofNat held)
    (account : after + cancelled = held + armed) :
    arms + UInt64.ofNat armed =
      cancels + UInt64.ofNat cancelled + wakes + UInt64.ofNat after := by
  have sums : UInt64.ofNat after + UInt64.ofNat cancelled =
      UInt64.ofNat held + UInt64.ofNat armed := by
    rw [← UInt64.ofNat_add, ← UInt64.ofNat_add, account]
  grind

theorem wake_step {arms cancels wakes : UInt64} {held after woken : Nat}
    (balance : arms = cancels + wakes + UInt64.ofNat held) (account : after + woken = held) :
    arms = cancels + (wakes + UInt64.ofNat woken) + UInt64.ofNat after := by
  have sums : UInt64.ofNat after + UInt64.ofNat woken = UInt64.ofNat held := by
    rw [← UInt64.ofNat_add, account]
  grind

variable [DecidableEq Ntfn]

/-- A step keeps the account, with one more drop if it is one. -/
theorem statisticsInv_next {hardware : Hardware} {action : StatisticsAction Ntfn Thread}
    (inv : StatisticsInv dropped state) (succeeds : PitSucceeds state action)
    (moved : state.next hardware action = some target) :
    StatisticsInv (dropped + (state.drops action).toNat) target := by
  cases action with
  | call thread operation =>
    unfold Statistics.next at moved
    dsimp only at moved
    split at moved
    next idle =>
      split at moved
      · cases moved
        exact inv
      · cases moved
        refine ⟨inv.notified, ?_, ?_⟩
        · intro other otherOperation entered
          refine entered_update inv.succeed ?_ entered
          intro moving same
          cases same
          exact succeeds
        · have total := Tally.total_update Phase.uncounted state.phases thread (.entered operation)
          rw [idle] at total
          dsimp only
          rw [show Tally.total Phase.uncounted
            (Function.update state.phases thread (.entered operation)) =
              Tally.total Phase.uncounted state.phases from total]
          exact inv.balance
    next => cases moved
  | locked thread =>
    unfold Statistics.next at moved
    dsimp only at moved
    split at moved
    next operation entered =>
      cases moved
      have pit := inv.succeed thread operation entered
      obtain ⟨notified, account⟩ :=
        Timer.perform_accounted state.timer hardware pit inv.notified
      have drops : state.drops (.locked thread) = state.timer.dropsNetwork operation := by
        unfold Statistics.drops
        dsimp only
        rw [entered]
      have total := Tally.total_update Phase.uncounted state.phases thread
        (operation.after (state.timer.perform hardware operation).2)
      rw [entered] at total
      refine ⟨notified, ?_, ?_⟩
      · intro other otherOperation enteredOther
        refine entered_update inv.succeed ?_ enteredOther
        intro moving same
        cases operation <;> cases same
      · rw [drops]
        dsimp only
        rw [counted_eq, counted_eq]
        apply account_step inv.balance
        have silent : (Phase.entered operation).uncounted = 0 := rfl
        omega
    next => cases moved
  | count thread =>
    unfold Statistics.next at moved
    dsimp only at moved
    split at moved
    next wakes counting =>
      cases moved
      have total := Tally.total_update Phase.uncounted state.phases thread .idle
      rw [counting] at total
      refine ⟨inv.notified, ?_, ?_⟩
      · intro other otherOperation entered
        refine entered_update inv.succeed ?_ entered
        intro moving same
        cases same
      · dsimp only
        rw [counted_eq]
        apply wake_step inv.balance
        simp only [Phase.uncounted] at total
        have dropsNone : (state.drops (.count thread)).toNat = 0 := rfl
        omega
    next => cases moved

theorem statisticsInv_exec {hardware : Hardware} {actions : List (StatisticsAction Ntfn Thread)}
    (inv : StatisticsInv dropped state)
    (performed : (statistics hardware).exec PitSucceeds state actions = some target) :
    StatisticsInv (dropped + state.dropped hardware actions) target := by
  induction actions generalizing state dropped with
  | nil =>
    cases performed
    exact inv
  | cons action rest inductionHypothesis =>
    unfold System.exec at performed
    split at performed
    next succeeds =>
      obtain ⟨middle, moved, remaining⟩ := Option.bind_eq_some_iff.mp performed
      have stepped := inductionHypothesis (statisticsInv_next inv succeeds moved) remaining
      have drops : state.dropped hardware (action :: rest) =
          (state.drops action).toNat + middle.dropped hardware rest := by
        have next : state.next hardware action = some middle := moved
        rw [Statistics.dropped, next]
      rw [drops, ← Nat.add_assoc]
      exact stepped
    next => cases performed

/-- In a quiet state at the end of a run the counters balance exactly when no armed deadline
was dropped; the counters are words, so drops count modulo their size. -/
theorem network_statistics_balance (hardware : Hardware) (start : Statistics Ntfn Thread)
    (initial : start.Initial) (actions : List (StatisticsAction Ntfn Thread))
    (performed : (statistics hardware).exec PitSucceeds start actions = some target)
    (quiet : target.Quiet) :
    target.Balanced ↔ 2 ^ 64 ∣ start.dropped hardware actions := by
  have inv := statisticsInv_exec (initial_statisticsInv initial) performed
  have none : Tally.total Phase.uncounted target.phases = 0 := by
    apply (Tally.total_eq_zero_iff _ _).mpr
    intro thread
    rw [quiet thread]
    rfl
  have balance := inv.balance
  rw [none, Nat.zero_add, Nat.add_zero, UInt64.ofNat_add, ← counted_eq] at balance
  unfold Statistics.Balanced
  constructor
  · intro balanced
    have zero : UInt64.ofNat (start.dropped hardware actions) = 0 := by grind
    have word := congrArg UInt64.toNat zero
    rw [UInt64.toNat_ofNat'] at word
    exact Nat.dvd_of_mod_eq_zero word
  · intro multiple
    have zero : UInt64.ofNat (start.dropped hardware actions) = 0 := by
      apply UInt64.toNat_inj.mp
      rw [UInt64.toNat_ofNat']
      exact Nat.mod_eq_zero_of_dvd multiple
    rw [zero] at balance
    grind

end Invariant

section Restart

/-- The manager before its first child. -/
def freshStatistics : Statistics Unit Unit where
  timer := Timer.cleared Unit
  networkArmCount := 0
  networkCancelCount := 0
  networkWakeCount := 0
  phases := fun _ => .idle

/-- One thread makes one call to its end. -/
def wholeCall (operation : Operation Unit) : List (StatisticsAction Unit Unit) :=
  [.call () operation, .locked ()]

def recheckAnswers : Answers := ⟨100, 110, true⟩

theorem network_statistics_balance_cancelled :
    ∃ state : Statistics Unit Unit,
      (statistics pitHardware).exec PitSucceeds freshStatistics
        (wholeCall (.scheduleNetwork 5000000 recheckAnswers) ++
          wholeCall (.cancelNetwork recheckAnswers)) = some state ∧ state.Balanced := by
  refine ⟨_, rfl, ?_⟩
  refine (network_statistics_balance pitHardware freshStatistics ⟨rfl, rfl, rfl, rfl, fun _ => rfl⟩
    (wholeCall (.scheduleNetwork 5000000 recheckAnswers) ++
      wholeCall (.cancelNetwork recheckAnswers)) rfl fun _ => rfl).mpr ?_
  decide

/-- A child is destroyed while the recheck of its pending TX batch is armed. -/
theorem deactivate_unbalances :
    ∃ state : Statistics Unit Unit,
      (statistics pitHardware).exec PitSucceeds freshStatistics
        (wholeCall (.scheduleNetwork 5000000 recheckAnswers) ++
          wholeCall (.deactivate recheckAnswers)) = some state ∧
      state.Quiet ∧ ¬ state.Balanced := by
  refine ⟨_, rfl, fun _ => rfl, ?_⟩
  decide

end Restart

end Luna.TimerManager
