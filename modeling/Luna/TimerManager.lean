import Mathlib.Algebra.Ring.Nat
import Luna.Lib.Interleaving

/-!
# The manager's one-shot service

`isolation_timer.c`: one PIT serves the deadline of the child and the deadline of
the network poll loop.  The fields of `luna_timer_state` are changed under
`timer_lock` only, and each section under the lock is a function here.  The time
stamps it reads and the answer of the PIT driver are arguments.  Statistics
counters, start and destruction of the interrupt thread are left out.
-/

namespace Luna.TimerManager

def word (value : Nat) : Nat := value % 2 ^ 64

/-- `ns_to_cycles` at a given `tsc_frequency`. -/
def nsToCycles (frequency ns : Nat) : Nat :=
  let seconds := ns / 1000000000
  let remainder := ns % 1000000000
  word (word (seconds * frequency) + word (remainder * frequency + 999999999) / 1000000000)

/-- `tsc_frequency` and the limits of the PIT driver. -/
structure Hardware where
  tscFrequency : Nat
  pitMinNs : Nat
  pitMaxNs : Nat
  positive : 0 < tscFrequency
  ordered : pitMinNs ≤ pitMaxNs

def Hardware.nsToCycles (hardware : Hardware) (ns : Nat) : Nat :=
  TimerManager.nsToCycles hardware.tscFrequency ns

def Hardware.cyclesToNs (hardware : Hardware) (cycles : Nat) : Nat :=
  let seconds := cycles / hardware.tscFrequency
  let remainder := cycles % hardware.tscFrequency
  word (word (seconds * 1000000000) + word (remainder * 1000000000) / hardware.tscFrequency)

/-- A PIT of 1193182 ticks a second beside a counter of one gigahertz. -/
def pitHardware : Hardware where
  tscFrequency := 1000000000
  pitMinNs := 1676
  pitMaxNs := 54918330
  positive := by decide
  ordered := by decide

/-- A timeout the PIT was given: when, and for how long. -/
structure Shot where
  start : Nat
  ns : Nat
  deriving DecidableEq, Repr

/-- What the lock protects.  `none` is `seL4_CapNull`; the only notification the
network timer is given is `poll_kick_ntfn`. -/
structure Timer (Ntfn : Type) where
  armed : Bool
  childNtfn : Option Ntfn
  generation : Nat
  deadlineCycles : Nat
  networkArmed : Bool
  networkNtfn : Bool
  networkDeadlineCycles : Nat
  pit : Option Shot
  deriving DecidableEq, Repr

/-- `calloc` in `luna_timer_manager_init`. -/
def Timer.cleared (Ntfn : Type) : Timer Ntfn where
  armed := false
  childNtfn := none
  generation := 0
  deadlineCycles := 0
  networkArmed := false
  networkNtfn := false
  networkDeadlineCycles := 0
  pit := none

/-- Two reads of the time stamp counter and whether the PIT driver succeeds. -/
structure Answers where
  first : Nat
  second : Nat
  pitSucceeds : Bool
  deriving DecidableEq, Repr

variable {Ntfn : Type}

/-- The deadline `program_next` chooses; zero stands for none. -/
def Timer.nextDeadline (timer : Timer Ntfn) : Nat :=
  let deadline := if timer.armed then timer.deadlineCycles else 0
  if timer.networkArmed ∧ (deadline = 0 ∨ timer.networkDeadlineCycles < deadline) then
    timer.networkDeadlineCycles
  else deadline

/-- The timeout `program_next` asks for. -/
def Hardware.timeout (hardware : Hardware) (deadline now : Nat) : Nat :=
  let remaining := hardware.cyclesToNs (deadline - now)
  min hardware.pitMaxNs (max hardware.pitMinNs remaining)

/-- `program_next`, and whether it returns 0. -/
def Timer.programNext (timer : Timer Ntfn) (hardware : Hardware) (now : Nat)
    (pitSucceeds : Bool) : Timer Ntfn × Bool :=
  if pitSucceeds then
    if timer.nextDeadline = 0 then ({ timer with pit := none }, true)
    else ({ timer with pit := some ⟨now, hardware.timeout timer.nextDeadline now⟩ }, true)
  else (timer, false)

/-- Programming changes nothing but the PIT. -/
theorem Timer.programNext_eq {timer programmed : Timer Ntfn} {hardware : Hardware} {now : Nat}
    {pitSucceeds done : Bool}
    (moved : timer.programNext hardware now pitSucceeds = (programmed, done)) :
    done = pitSucceeds ∧ ∃ pit, programmed = { timer with pit := pit } := by
  unfold Timer.programNext at moved
  split at moved
  next succeeds =>
    split at moved <;> cases moved
    · exact ⟨succeeds.symm, _, rfl⟩
    · exact ⟨succeeds.symm, _, rfl⟩
  next fails =>
    cases moved
    exact ⟨by simpa using fails, _, rfl⟩

/-- The notifications `handle_timer_irq` signals after it unlocked. -/
structure Wakes (Ntfn : Type) where
  child : Option Ntfn
  network : Bool
  deriving DecidableEq, Repr

/-- The section of `handle_timer_irq` for the child's deadline. -/
def Timer.expireChild (timer : Timer Ntfn) (now : Nat) : Timer Ntfn × Option Ntfn :=
  if timer.armed ∧ timer.deadlineCycles ≤ now then
    ({ timer with armed := false }, timer.childNtfn)
  else (timer, none)

/-- The section of `handle_timer_irq` for the deadline of the poll loop. -/
def Timer.expireNetwork (timer : Timer Ntfn) (now : Nat) : Timer Ntfn × Bool :=
  if timer.networkArmed ∧ timer.networkDeadlineCycles ≤ now then
    ({ timer with networkArmed := false }, timer.networkNtfn)
  else (timer, false)

/-- The end of the section: an armed deadline that cannot be programmed is lost. -/
def Timer.reprogram (timer : Timer Ntfn) (hardware : Hardware) (now : Nat)
    (pitSucceeds : Bool) : Timer Ntfn :=
  if timer.armed ∨ timer.networkArmed then
    match timer.programNext hardware now pitSucceeds with
    | (programmed, true) => programmed
    | (programmed, false) => { programmed with armed := false, networkArmed := false }
  else timer

def Timer.handleTimerIrq (timer : Timer Ntfn) (hardware : Hardware) (answers : Answers) :
    Timer Ntfn × Wakes Ntfn :=
  let child := timer.expireChild answers.first
  let network := child.1.expireNetwork answers.second
  (network.1.reprogram hardware answers.second answers.pitSucceeds, ⟨child.2, network.2⟩)

def Timer.deactivate (timer : Timer Ntfn) (pitSucceeds : Bool) : Timer Ntfn :=
  { Timer.cleared Ntfn with pit := if pitSucceeds then none else timer.pit }

/-- `LUNA_ISOLATION_EVENT_TIMER_ARM` and `LUNA_ISOLATION_EVENT_TIMER_CANCEL`. -/
inductive Event where
  | arm
  | cancel
  deriving DecidableEq, Repr

/-- A message of the child; `childNtfn` is the notification of its timer slot. -/
structure Message (Ntfn : Type) where
  childNtfn : Ntfn
  event : Event
  generation : Nat
  timeoutNs : Nat
  deriving DecidableEq, Repr

section Service

variable [DecidableEq Ntfn]

/-- The stores of an accepted `TIMER_ARM`. -/
def Timer.arm (timer : Timer Ntfn) (hardware : Hardware) (message : Message Ntfn)
    (answers : Answers) : Timer Ntfn × Bool :=
  let cycles := hardware.nsToCycles message.timeoutNs
  let stored := { timer with
    childNtfn := some message.childNtfn
    generation := message.generation
    deadlineCycles := word (answers.first + if cycles = 0 then 1 else cycles)
    armed := true }
  match stored.programNext hardware answers.second answers.pitSucceeds with
  | (programmed, true) => (programmed, true)
  | (programmed, false) => ({ programmed with armed := false }, false)

/-- The stores of an accepted `TIMER_CANCEL`. -/
def Timer.cancel (timer : Timer Ntfn) (hardware : Hardware) (message : Message Ntfn)
    (answers : Answers) : Timer Ntfn × Bool :=
  { timer with generation := message.generation, armed := false }.programNext hardware
    answers.second answers.pitSucceeds

/-- A message of another child than the registered one. -/
def Timer.Foreign (timer : Timer Ntfn) (message : Message Ntfn) : Prop :=
  ∃ current ∈ timer.childNtfn, current ≠ message.childNtfn

instance (timer : Timer Ntfn) (message : Message Ntfn) : Decidable (timer.Foreign message) :=
  inferInstanceAs (Decidable (∃ current ∈ timer.childNtfn, current ≠ message.childNtfn))

/-- The section of `luna_timer_manager_service`, and whether it answers 0. -/
def Timer.service (timer : Timer Ntfn) (hardware : Hardware) (message : Message Ntfn)
    (answers : Answers) : Timer Ntfn × Bool :=
  if message.event = .arm ∧ message.timeoutNs ≠ 0 then
    if timer.Foreign message then (timer, false)
    else if message.generation < timer.generation then (timer, true)
    else timer.arm hardware message answers
  else if message.event = .cancel ∧ message.timeoutNs = 0 then
    if timer.Foreign message then (timer, false)
    else if message.generation < timer.generation then (timer, true)
    else timer.cancel hardware message answers
  else (timer, false)

end Service

/-- The section of `luna_timer_manager_schedule_network`. -/
def Timer.scheduleNetwork (timer : Timer Ntfn) (hardware : Hardware) (timeoutNs : Nat)
    (answers : Answers) : Timer Ntfn × Bool :=
  if timer.networkArmed then (timer, true)
  else
    let cycles := hardware.nsToCycles timeoutNs
    let stored := { timer with
      networkNtfn := true
      networkDeadlineCycles := word (answers.first + if cycles = 0 then 1 else cycles)
      networkArmed := true }
    match stored.programNext hardware answers.second answers.pitSucceeds with
    | (programmed, true) => (programmed, true)
    | (programmed, false) => ({ programmed with networkArmed := false }, false)

/-- The section of `luna_timer_manager_cancel_network`. -/
def Timer.cancelNetwork (timer : Timer Ntfn) (hardware : Hardware) (answers : Answers) :
    Timer Ntfn × Bool :=
  if timer.networkArmed then
    { timer with networkArmed := false, networkNtfn := false }.programNext hardware
      answers.second answers.pitSucceeds
  else (timer, true)

/-! ## The network deadline -/

section Network

variable (timer : Timer Ntfn) (hardware : Hardware)

/-- Messages of the child leave the network deadline alone. -/
theorem Timer.service_network [DecidableEq Ntfn] (message : Message Ntfn) (answers : Answers) :
    (timer.service hardware message answers).1.networkArmed = timer.networkArmed ∧
      (timer.service hardware message answers).1.networkNtfn = timer.networkNtfn := by
  have arms : (timer.arm hardware message answers).1.networkArmed = timer.networkArmed ∧
      (timer.arm hardware message answers).1.networkNtfn = timer.networkNtfn := by
    unfold Timer.arm
    dsimp only
    split
    next programmed succeeded =>
      obtain ⟨_, pit, rfl⟩ := Timer.programNext_eq succeeded
      exact ⟨rfl, rfl⟩
    next programmed failed =>
      obtain ⟨_, pit, rfl⟩ := Timer.programNext_eq failed
      exact ⟨rfl, rfl⟩
  have cancels : (timer.cancel hardware message answers).1.networkArmed = timer.networkArmed ∧
      (timer.cancel hardware message answers).1.networkNtfn = timer.networkNtfn := by
    cases programs : timer.cancel hardware message answers with
    | mk programmed done =>
        obtain ⟨_, pit, rfl⟩ := Timer.programNext_eq programs
        exact ⟨rfl, rfl⟩
  unfold Timer.service
  split
  · split
    · exact ⟨rfl, rfl⟩
    · split
      · exact ⟨rfl, rfl⟩
      · exact arms
  · split
    · split
      · exact ⟨rfl, rfl⟩
      · split
        · exact ⟨rfl, rfl⟩
        · exact cancels
    · exact ⟨rfl, rfl⟩

/-- The network deadline after an interrupt: still armed, or taken. -/
theorem Timer.handleTimerIrq_network (answers : Answers) (succeeds : answers.pitSucceeds = true) :
    (timer.handleTimerIrq hardware answers).1.networkArmed =
        (timer.networkArmed && decide (answers.second < timer.networkDeadlineCycles)) ∧
      (timer.handleTimerIrq hardware answers).1.networkNtfn = timer.networkNtfn ∧
      (timer.handleTimerIrq hardware answers).2.network =
        (timer.networkArmed && timer.networkNtfn &&
          decide (timer.networkDeadlineCycles ≤ answers.second)) := by
  have child : (timer.expireChild answers.first).1.networkArmed = timer.networkArmed ∧
      (timer.expireChild answers.first).1.networkNtfn = timer.networkNtfn ∧
      (timer.expireChild answers.first).1.networkDeadlineCycles = timer.networkDeadlineCycles := by
    unfold Timer.expireChild
    split <;> exact ⟨rfl, rfl, rfl⟩
  have programmed : ∀ timer : Timer Ntfn,
      (timer.reprogram hardware answers.second answers.pitSucceeds).networkArmed =
        timer.networkArmed ∧
      (timer.reprogram hardware answers.second answers.pitSucceeds).networkNtfn =
        timer.networkNtfn := by
    intro timer
    unfold Timer.reprogram
    split
    next armed =>
      split
      next next succeeded =>
        obtain ⟨_, pit, rfl⟩ := Timer.programNext_eq succeeded
        exact ⟨rfl, rfl⟩
      next next failed =>
        have fails := (Timer.programNext_eq failed).1
        rw [succeeds] at fails
        cases fails
    next => exact ⟨rfl, rfl⟩
  obtain ⟨armed, ntfn, deadline⟩ := child
  unfold Timer.handleTimerIrq
  dsimp only
  rw [(programmed _).1, (programmed _).2]
  unfold Timer.expireNetwork
  rw [armed, ntfn, deadline]
  by_cases expires : timer.networkArmed = true ∧ timer.networkDeadlineCycles ≤ answers.second
  · rw [if_pos expires]
    simp [expires]
  · rw [if_neg expires]
    rw [not_and_or] at expires
    rcases expires with idle | early
    · simp [armed, ntfn, idle]
    · simp [armed, ntfn, early, Nat.lt_of_not_le early]

theorem Timer.scheduleNetwork_network (timeoutNs : Nat) (answers : Answers)
    (succeeds : answers.pitSucceeds = true)
    (notified : timer.networkArmed = true → timer.networkNtfn = true) :
    (timer.scheduleNetwork hardware timeoutNs answers).1.networkArmed = true ∧
      (timer.scheduleNetwork hardware timeoutNs answers).1.networkNtfn = true := by
  unfold Timer.scheduleNetwork
  split
  next armed => exact ⟨armed, notified armed⟩
  next idle =>
    dsimp only
    split
    next programmed succeeded =>
      obtain ⟨_, pit, rfl⟩ := Timer.programNext_eq succeeded
      exact ⟨rfl, rfl⟩
    next programmed failed =>
      have fails := (Timer.programNext_eq failed).1
      rw [succeeds] at fails
      cases fails

theorem Timer.cancelNetwork_network (answers : Answers) :
    (timer.cancelNetwork hardware answers).1.networkArmed = false := by
  cases cancels : timer.cancelNetwork hardware answers with
  | mk programmed done =>
      unfold Timer.cancelNetwork at cancels
      split at cancels
      next armed =>
        obtain ⟨_, pit, rfl⟩ := Timer.programNext_eq cancels
        rfl
      next idle =>
        cases cancels
        simpa using idle

end Network

end Luna.TimerManager
