import Luna.TimerManager

/-!
# One PIT for two deadlines

Every run of sections under `timer_lock`, with the log of what each section meant
for the two deadlines.  `liveChild` and `liveNetwork` read from the log alone which
arming is still to be signalled; the timer's own fields are compared with them.
-/

namespace Luna.TimerManager

open Interleaving

variable {Ntfn : Type}

/-- A section under `timer_lock`.  An interrupt is that of the shot the PIT is
pending with (`fired`), or one raised before the PIT was programmed again. -/
inductive Operation (Ntfn : Type) where
  | service (message : Message Ntfn) (answers : Answers)
  | scheduleNetwork (timeoutNs : Nat) (answers : Answers)
  | cancelNetwork (answers : Answers)
  | deactivate (answers : Answers)
  | interrupt (fired : Bool) (answers : Answers)
  deriving DecidableEq, Repr

def Operation.answers : Operation Ntfn → Answers
  | .service _ answers | .scheduleNetwork _ answers | .cancelNetwork answers
  | .deactivate answers | .interrupt _ answers => answers

def Wakes.none : Wakes Ntfn := ⟨Option.none, false⟩

/-- The interrupt of the PIT's shot uses it up. -/
def Timer.fire (timer : Timer Ntfn) (fired : Bool) : Timer Ntfn :=
  { timer with pit := if fired then none else timer.pit }

section Perform

variable [DecidableEq Ntfn]

/-- What an operation does to the timer, and whom it signals. -/
def Timer.perform (timer : Timer Ntfn) (hardware : Hardware) :
    Operation Ntfn → Timer Ntfn × Wakes Ntfn
  | .service message answers =>
      if message.generation = 0 then (timer, .none)
      else ((timer.service hardware message answers).1, .none)
  | .scheduleNetwork timeoutNs answers =>
      if timeoutNs = 0 then (timer, .none)
      else ((timer.scheduleNetwork hardware timeoutNs answers).1, .none)
  | .cancelNetwork answers => ((timer.cancelNetwork hardware answers).1, .none)
  | .deactivate answers => (timer.deactivate answers.pitSucceeds, .none)
  | .interrupt fired answers => (timer.fire fired).handleTimerIrq hardware answers

end Perform

/-- A time stamp and a converted timeout, without the wrap of the addition. -/
def Hardware.deadline (hardware : Hardware) (timeoutNs now : Nat) : Nat :=
  now + if hardware.nsToCycles timeoutNs = 0 then 1 else hardware.nsToCycles timeoutNs

/-- What an operation means for the deadlines. -/
inductive Mark (Ntfn : Type) where
  | childArmed (ntfn : Ntfn) (deadline : Nat)
  | childEnded
  | networkArmed (deadline : Nat)
  | networkEnded
  | deactivated
  | interrupt (fired : Bool) (first second : Nat) (wakes : Wakes Ntfn)
  | ignored
  deriving DecidableEq, Repr

section Marks

variable [DecidableEq Ntfn]

/-- A message is ignored when it is malformed, foreign or stale. -/
def Timer.markMessage (timer : Timer Ntfn) (hardware : Hardware) (message : Message Ntfn)
    (now : Nat) : Mark Ntfn :=
  if message.generation = 0 ∨ timer.Foreign message ∨ message.generation < timer.generation then
    .ignored
  else match message.event with
    | .arm =>
        if message.timeoutNs = 0 then .ignored
        else .childArmed message.childNtfn (hardware.deadline message.timeoutNs now)
    | .cancel => if message.timeoutNs = 0 then .childEnded else .ignored

def Timer.mark (timer : Timer Ntfn) (hardware : Hardware) : Operation Ntfn → Mark Ntfn
  | .service message answers => timer.markMessage hardware message answers.first
  | .scheduleNetwork timeoutNs answers =>
      if timeoutNs = 0 ∨ timer.networkArmed then .ignored
      else .networkArmed (hardware.deadline timeoutNs answers.first)
  | .cancelNetwork _ => .networkEnded
  | .deactivate _ => .deactivated
  | .interrupt fired answers =>
      .interrupt fired answers.first answers.second
        ((timer.fire fired).handleTimerIrq hardware answers).2

end Marks

/-- The child's arming that is still to be signalled; the newest mark is first. -/
def liveChild : List (Mark Ntfn) → Option (Ntfn × Nat)
  | [] => none
  | .childArmed ntfn deadline :: _ => some (ntfn, deadline)
  | .childEnded :: _ | .deactivated :: _ => none
  | .interrupt _ first _ _ :: earlier =>
      (liveChild earlier).filter fun live => decide (first < live.2)
  | _ :: earlier => liveChild earlier

/-- The network arming that is still to be signalled. -/
def liveNetwork : List (Mark Ntfn) → Option Nat
  | [] => none
  | .networkArmed deadline :: _ => some deadline
  | .networkEnded :: _ | .deactivated :: _ => none
  | .interrupt _ _ second _ :: earlier =>
      (liveNetwork earlier).filter fun deadline => decide (second < deadline)
  | _ :: earlier => liveNetwork earlier

/-- Nothing is left to be signalled. -/
def idle (log : List (Mark Ntfn)) : Bool := (liveChild log).isNone && (liveNetwork log).isNone

/-- An interrupt raised before the PIT was last programmed took the last deadline, and
nothing has programmed the PIT or used its shot up since. -/
def overtaken : List (Mark Ntfn) → Bool
  | [] => false
  | .interrupt fired first second wakes :: earlier =>
      !fired && (overtaken earlier ||
        (!idle earlier && idle (.interrupt fired first second wakes :: earlier)))
  | .networkEnded :: earlier | .ignored :: earlier => overtaken earlier
  | .childArmed _ _ :: _ | .childEnded :: _ | .networkArmed _ :: _ | .deactivated :: _ => false

/-- The timer with its log and the last time stamp read. -/
structure Record (Ntfn : Type) where
  timer : Timer Ntfn
  log : List (Mark Ntfn)
  now : Nat
  deriving DecidableEq, Repr

section Runs

variable [DecidableEq Ntfn]

def Record.next (hardware : Hardware) (record : Record Ntfn) (operation : Operation Ntfn) :
    Option (Record Ntfn) :=
  if operation matches .interrupt true _ ∧ record.timer.pit = none then none
  else some {
    timer := (record.timer.perform hardware operation).1
    log := record.timer.mark hardware operation :: record.log
    now := operation.answers.second }

def recordStart (Ntfn : Type) : Record Ntfn := ⟨Timer.cleared Ntfn, [], 0⟩

def recordSystem (Ntfn : Type) [DecidableEq Ntfn] (hardware : Hardware) :
    System (Record Ntfn) (Operation Ntfn) :=
  ⟨fun record => record = recordStart Ntfn, Record.next hardware⟩

/-- The converted timeout and the time stamp it is added to do not wrap. -/
def Operation.Fits (hardware : Hardware) : Operation Ntfn → Prop
  | .service message answers => hardware.deadline message.timeoutNs answers.first < 2 ^ 64
  | .scheduleNetwork timeoutNs answers => hardware.deadline timeoutNs answers.first < 2 ^ 64
  | _ => True

/-- The PIT driver succeeds, no deadline wraps and time does not go back. -/
def Timely (hardware : Hardware) (record : Record Ntfn) (operation : Operation Ntfn) : Prop :=
  operation.answers.pitSucceeds = true ∧ operation.Fits hardware ∧
    record.now ≤ operation.answers.first ∧ operation.answers.first ≤ operation.answers.second

instance (hardware : Hardware) (operation : Operation Ntfn) :
    Decidable (operation.Fits hardware) := by
  unfold Operation.Fits
  split <;> infer_instance

instance (hardware : Hardware) (record : Record Ntfn) (operation : Operation Ntfn) :
    Decidable (Timely hardware record operation) := by
  unfold Timely
  infer_instance

end Runs

/-! ## What is claimed -/

/-- A deadline that is armed. -/
def Timer.Waits (timer : Timer Ntfn) (deadline : Nat) : Prop :=
  (timer.armed = true ∧ deadline = timer.deadlineCycles) ∨
    (timer.networkArmed = true ∧ deadline = timer.networkDeadlineCycles)

/-- The shot fires no later than the deadline, or after the shortest time the PIT
can be given. -/
def Shot.OnTime (shot : Shot) (hardware : Hardware) (deadline : Nat) : Prop :=
  shot.ns = hardware.pitMinNs ∨
    shot.ns * hardware.tscFrequency ≤ (deadline - shot.start) * 1000000000

/-- An interrupt signals the armings that are live and due, and no other. -/
structure SignalsDue (earlier : List (Mark Ntfn)) (first second : Nat) (wakes : Wakes Ntfn) :
    Prop where
  child : ∀ ntfn, wakes.child = some ntfn ↔
    ∃ deadline, liveChild earlier = some (ntfn, deadline) ∧ deadline ≤ first
  network : wakes.network = true ↔ ∃ deadline, liveNetwork earlier = some deadline ∧
    deadline ≤ second

/-- The PIT is pending exactly while a deadline is armed. -/
def PitExact (record : Record Ntfn) : Prop :=
  record.timer.pit ≠ none ↔ record.timer.armed = true ∨ record.timer.networkArmed = true

structure DeadlinesServed (hardware : Hardware) (record : Record Ntfn) : Prop where
  child : ∀ ntfn deadline, liveChild record.log = some (ntfn, deadline) ↔
    record.timer.armed = true ∧ record.timer.childNtfn = some ntfn ∧
      record.timer.deadlineCycles = deadline
  network : ∀ deadline, liveNetwork record.log = some deadline ↔
    record.timer.networkArmed = true ∧ record.timer.networkDeadlineCycles = deadline
  pending : ∀ deadline, record.timer.Waits deadline →
    ∃ shot, record.timer.pit = some shot ∧ shot.OnTime hardware deadline
  exact : PitExact record ↔ overtaken record.log = false
  signals : ∀ later fired first second wakes earlier,
    record.log = later ++ .interrupt fired first second wakes :: earlier →
    SignalsDue earlier first second wakes

/-! ## Programming the PIT -/

section Programming

variable {timer programmed : Timer Ntfn} {hardware : Hardware}

theorem word_le (value : Nat) : word value ≤ value := Nat.mod_le _ _

theorem Hardware.cyclesToNs_le (hardware : Hardware) (cycles : Nat) :
    hardware.cyclesToNs cycles * hardware.tscFrequency ≤ cycles * 1000000000 := by
  unfold Hardware.cyclesToNs
  dsimp only
  have whole := Nat.div_add_mod cycles hardware.tscFrequency
  generalize cycles / hardware.tscFrequency = seconds at whole ⊢
  generalize cycles % hardware.tscFrequency = remainder at whole ⊢
  have rounded : word (remainder * 1000000000) / hardware.tscFrequency * hardware.tscFrequency ≤
      remainder * 1000000000 :=
    Nat.le_trans (Nat.div_mul_le_self _ _) (word_le _)
  calc word (word (seconds * 1000000000) +
        word (remainder * 1000000000) / hardware.tscFrequency) * hardware.tscFrequency
      ≤ (seconds * 1000000000 + word (remainder * 1000000000) / hardware.tscFrequency) *
          hardware.tscFrequency :=
        Nat.mul_le_mul_right _ (Nat.le_trans (word_le _) (Nat.add_le_add_right (word_le _) _))
    _ = seconds * 1000000000 * hardware.tscFrequency +
          word (remainder * 1000000000) / hardware.tscFrequency * hardware.tscFrequency :=
        Nat.add_mul _ _ _
    _ ≤ seconds * 1000000000 * hardware.tscFrequency + remainder * 1000000000 :=
        Nat.add_le_add_left rounded _
    _ = cycles * 1000000000 := by
        rw [← whole, Nat.add_mul, Nat.mul_right_comm, Nat.mul_comm seconds]

theorem Hardware.timeout_onTime (hardware : Hardware) {next deadline now : Nat}
    (earlier : next ≤ deadline) :
    Shot.OnTime ⟨now, hardware.timeout next now⟩ hardware deadline := by
  unfold Shot.OnTime Hardware.timeout
  dsimp only
  have remaining := hardware.cyclesToNs_le (next - now)
  have ordered := hardware.ordered
  generalize hardware.cyclesToNs (next - now) = ns at remaining ⊢
  by_cases short : ns ≤ hardware.pitMinNs
  · left
    omega
  · right
    have least : min hardware.pitMaxNs (max hardware.pitMinNs ns) ≤ ns := by omega
    calc min hardware.pitMaxNs (max hardware.pitMinNs ns) * hardware.tscFrequency
        ≤ ns * hardware.tscFrequency := Nat.mul_le_mul_right _ least
      _ ≤ (next - now) * 1000000000 := remaining
      _ ≤ (deadline - now) * 1000000000 := Nat.mul_le_mul_right _ (by omega)

/-- An armed deadline is never zero. -/
def Timer.Positive (timer : Timer Ntfn) : Prop := ∀ deadline, timer.Waits deadline → 0 < deadline

theorem Timer.nextDeadline_le (positive : timer.Positive) {deadline : Nat}
    (waits : timer.Waits deadline) : 0 < timer.nextDeadline ∧ timer.nextDeadline ≤ deadline := by
  have child : timer.armed = true → 0 < timer.deadlineCycles :=
    fun armed => positive _ (.inl ⟨armed, rfl⟩)
  have network : timer.networkArmed = true → 0 < timer.networkDeadlineCycles :=
    fun armed => positive _ (.inr ⟨armed, rfl⟩)
  unfold Timer.nextDeadline
  rcases waits with ⟨armed, rfl⟩ | ⟨armed, rfl⟩
  · have later := child armed
    simp only [armed, if_true]
    split
    next both =>
      have soon := network both.1
      omega
    next => omega
  · have soon := network armed
    simp only [armed, true_and]
    by_cases both : timer.armed = true
    · have later := child both
      simp only [both, if_true]
      split <;> omega
    · simpa [both] using soon

theorem Timer.nextDeadline_idle (child : timer.armed = false) (network : timer.networkArmed = false) :
    timer.nextDeadline = 0 := by
  simp [Timer.nextDeadline, child, network]

/-- The PIT is pending for the armed deadlines, and for nothing else. -/
structure Programmed (hardware : Hardware) (timer : Timer Ntfn) : Prop where
  pending : ∀ deadline, timer.Waits deadline →
    ∃ shot, timer.pit = some shot ∧ shot.OnTime hardware deadline
  idle : timer.armed = false → timer.networkArmed = false → timer.pit = none

theorem Timer.programNext_programs {now : Nat} {done : Bool} (positive : timer.Positive)
    (moved : timer.programNext hardware now true = (programmed, done)) :
    done = true ∧ (∃ pit, programmed = { timer with pit := pit }) ∧
      Programmed hardware programmed := by
  obtain ⟨succeeded, kept⟩ := Timer.programNext_eq moved
  refine ⟨succeeded, kept, ?_⟩
  unfold Timer.programNext at moved
  rw [if_pos rfl] at moved
  split at moved
  next none =>
    cases moved
    refine ⟨fun deadline waits => ?_, fun _ _ => rfl⟩
    have next := (Timer.nextDeadline_le positive waits).1
    omega
  next some =>
    cases moved
    refine ⟨fun deadline waits => ⟨_, rfl, hardware.timeout_onTime ?_⟩, fun child network => ?_⟩
    · exact (Timer.nextDeadline_le positive waits).2
    · exact absurd (Timer.nextDeadline_idle child network) some

end Programming

/-! ## The invariant -/

structure DeadlineInv (hardware : Hardware) (record : Record Ntfn) : Prop where
  child : ∀ ntfn deadline, liveChild record.log = some (ntfn, deadline) ↔
    record.timer.armed = true ∧ record.timer.childNtfn = some ntfn ∧
      record.timer.deadlineCycles = deadline
  network : ∀ deadline, liveNetwork record.log = some deadline ↔
    record.timer.networkArmed = true ∧ record.timer.networkDeadlineCycles = deadline
  positive : record.timer.Positive
  owned : record.timer.armed = true → record.timer.childNtfn ≠ none
  notified : record.timer.networkArmed = true → record.timer.networkNtfn = true
  pending : ∀ deadline, record.timer.Waits deadline →
    ∃ shot, record.timer.pit = some shot ∧ shot.OnTime hardware deadline
  leftover : overtaken record.log = true ↔ record.timer.armed = false ∧
    record.timer.networkArmed = false ∧ record.timer.pit ≠ none
  signals : ∀ later fired first second wakes earlier,
    record.log = later ++ .interrupt fired first second wakes :: earlier →
    SignalsDue earlier first second wakes

section Preserved

variable {hardware : Hardware} {record : Record Ntfn} {timer : Timer Ntfn}

theorem idle_iff {log : List (Mark Ntfn)}
    (child : ∀ ntfn deadline, liveChild log = some (ntfn, deadline) ↔
      timer.armed = true ∧ timer.childNtfn = some ntfn ∧ timer.deadlineCycles = deadline)
    (network : ∀ deadline, liveNetwork log = some deadline ↔
      timer.networkArmed = true ∧ timer.networkDeadlineCycles = deadline)
    (owned : timer.armed = true → timer.childNtfn ≠ none) :
    idle log = true ↔ timer.armed = false ∧ timer.networkArmed = false := by
  unfold idle
  rw [Bool.and_eq_true, Option.isNone_iff_eq_none, Option.isNone_iff_eq_none,
    Option.eq_none_iff_forall_ne_some, Option.eq_none_iff_forall_ne_some]
  constructor
  · rintro ⟨noChild, noNetwork⟩
    constructor
    · by_contra armed
      rw [Bool.not_eq_false] at armed
      obtain ⟨ntfn, owner⟩ := Option.ne_none_iff_exists'.mp (owned armed)
      exact noChild (ntfn, timer.deadlineCycles) ((child _ _).mpr ⟨armed, owner, rfl⟩)
    · by_contra armed
      rw [Bool.not_eq_false] at armed
      exact noNetwork _ ((network _).mpr ⟨armed, rfl⟩)
  · rintro ⟨childIdle, networkIdle⟩
    refine ⟨fun live some => ?_, fun deadline some => ?_⟩
    · rw [((child live.1 live.2).mp some).1] at childIdle
      cases childIdle
    · rw [((network deadline).mp some).1] at networkIdle
      cases networkIdle

/-- A new mark that is not an interrupt, or one that signals what is due. -/
theorem signals_cons {mark : Mark Ntfn} (inv : DeadlineInv hardware record)
    (due : ∀ fired first second wakes, mark = .interrupt fired first second wakes →
      SignalsDue record.log first second wakes) :
    ∀ later fired first second wakes earlier,
      mark :: record.log = later ++ .interrupt fired first second wakes :: earlier →
      SignalsDue earlier first second wakes := by
  intro later fired first second wakes earlier split
  cases later with
  | nil =>
      rw [List.nil_append, List.cons.injEq] at split
      obtain ⟨rfl, rfl⟩ := split
      exact due _ _ _ _ rfl
  | cons head rest =>
      rw [List.cons_append, List.cons.injEq] at split
      exact inv.signals rest fired first second wakes earlier split.2

/-- While a deadline is armed the PIT's shot is current. -/
theorem DeadlineInv.current (inv : DeadlineInv hardware record)
    (armed : record.timer.armed = true ∨ record.timer.networkArmed = true) :
    overtaken record.log = false := by
  rw [← Bool.not_eq_true, inv.leftover]
  rintro ⟨childIdle, networkIdle, _⟩
  rcases armed with child | network
  · rw [childIdle] at child
    cases child
  · rw [networkIdle] at network
    cases network

theorem not_idle (busy : ¬ (timer.armed = false ∧ timer.networkArmed = false)) :
    timer.armed = true ∨ timer.networkArmed = true := by
  rw [not_and_or, Bool.not_eq_false, Bool.not_eq_false] at busy
  exact busy

/-- While a deadline is armed the PIT is pending. -/
theorem DeadlineInv.pends (inv : DeadlineInv hardware record)
    (armed : record.timer.armed = true ∨ record.timer.networkArmed = true) :
    record.timer.pit ≠ none := by
  have waits : ∃ deadline, record.timer.Waits deadline := by
    rcases armed with child | network
    · exact ⟨_, .inl ⟨child, rfl⟩⟩
    · exact ⟨_, .inr ⟨network, rfl⟩⟩
  obtain ⟨deadline, waiting⟩ := waits
  obtain ⟨shot, pending, _⟩ := inv.pending deadline waiting
  rw [pending]
  nofun

/-- The PIT was programmed anew. -/
theorem DeadlineInv.programmed {mark : Mark Ntfn} {now : Nat} (inv : DeadlineInv hardware record)
    (programs : Programmed hardware timer) (positive : timer.Positive)
    (child : ∀ ntfn deadline, liveChild (mark :: record.log) = some (ntfn, deadline) ↔
      timer.armed = true ∧ timer.childNtfn = some ntfn ∧ timer.deadlineCycles = deadline)
    (network : ∀ deadline, liveNetwork (mark :: record.log) = some deadline ↔
      timer.networkArmed = true ∧ timer.networkDeadlineCycles = deadline)
    (owned : timer.armed = true → timer.childNtfn ≠ none)
    (notified : timer.networkArmed = true → timer.networkNtfn = true)
    (current : overtaken (mark :: record.log) = false)
    (due : ∀ fired first second wakes, mark = .interrupt fired first second wakes →
      SignalsDue record.log first second wakes) :
    DeadlineInv hardware ⟨timer, mark :: record.log, now⟩ := by
  refine ⟨child, network, positive, owned, notified, programs.pending, ?_, signals_cons inv due⟩
  rw [current]
  exact ⟨nofun, fun ⟨childIdle, networkIdle, pending⟩ =>
    absurd (programs.idle childIdle networkIdle) pending⟩

/-- Nothing happened. -/
theorem DeadlineInv.unchanged {mark : Mark Ntfn} {now : Nat} (inv : DeadlineInv hardware record)
    (child : liveChild (mark :: record.log) = liveChild record.log)
    (network : liveNetwork (mark :: record.log) = liveNetwork record.log)
    (same : overtaken (mark :: record.log) =
      overtaken record.log)
    (silent : ∀ fired first second wakes, mark ≠ .interrupt fired first second wakes) :
    DeadlineInv hardware ⟨record.timer, mark :: record.log, now⟩ := by
  refine ⟨?_, ?_, inv.positive, inv.owned, inv.notified, inv.pending, ?_,
    signals_cons inv fun _ _ _ _ here => absurd here (silent _ _ _ _)⟩
  · rw [child]
    exact inv.child
  · rw [network]
    exact inv.network
  · rw [same]
    exact inv.leftover

theorem deadline_pos (hardware : Hardware) (timeoutNs now : Nat) :
    0 < hardware.deadline timeoutNs now := by
  unfold Hardware.deadline
  split <;> omega

theorem deadline_word {timeoutNs now : Nat} (fits : hardware.deadline timeoutNs now < 2 ^ 64) :
    word (now + if hardware.nsToCycles timeoutNs = 0 then 1
      else hardware.nsToCycles timeoutNs) = hardware.deadline timeoutNs now :=
  Nat.mod_eq_of_lt fits

theorem DeadlineInv.arm {message : Message Ntfn} {answers : Answers} {now : Nat}
    (inv : DeadlineInv hardware record) (succeeds : answers.pitSucceeds = true)
    (fits : hardware.deadline message.timeoutNs answers.first < 2 ^ 64) :
    DeadlineInv hardware ⟨(record.timer.arm hardware message answers).1,
      .childArmed message.childNtfn (hardware.deadline message.timeoutNs answers.first) ::
        record.log, now⟩ := by
  unfold Timer.arm
  dsimp only
  rw [deadline_word fits, succeeds]
  have positive : Timer.Positive { record.timer with
      childNtfn := some message.childNtfn
      generation := message.generation
      deadlineCycles := hardware.deadline message.timeoutNs answers.first
      armed := true } := by
    rintro deadline (⟨_, rfl⟩ | network)
    · exact deadline_pos hardware message.timeoutNs answers.first
    · exact inv.positive deadline (.inr network)
  split
  next programmed moved =>
    obtain ⟨_, ⟨pit, rfl⟩, programs⟩ := Timer.programNext_programs positive moved
    refine inv.programmed programs positive ?_ inv.network nofun inv.notified rfl nofun
    intro ntfn deadline
    simp [liveChild]
  next programmed moved =>
    cases (Timer.programNext_programs positive moved).1

theorem DeadlineInv.cancel {message : Message Ntfn} {answers : Answers} {now : Nat}
    (inv : DeadlineInv hardware record) (succeeds : answers.pitSucceeds = true) :
    DeadlineInv hardware ⟨(record.timer.cancel hardware message answers).1,
      .childEnded :: record.log, now⟩ := by
  have positive : Timer.Positive { record.timer with
      generation := message.generation
      armed := false } := by
    rintro deadline (⟨armed, _⟩ | network)
    · cases armed
    · exact inv.positive deadline (.inr network)
  cases moved : record.timer.cancel hardware message answers with
  | mk programmed done =>
      unfold Timer.cancel at moved
      rw [succeeds] at moved
      obtain ⟨_, ⟨pit, rfl⟩, programs⟩ := Timer.programNext_programs positive moved
      exact inv.programmed programs positive (by simp [liveChild]) inv.network nofun
        inv.notified rfl nofun

variable [DecidableEq Ntfn]

/-- A foreign or stale message leaves the timer alone. -/
theorem Timer.service_rejected {message : Message Ntfn} {answers : Answers}
    (rejected : timer.Foreign message ∨ message.generation < timer.generation) :
    (timer.service hardware message answers).1 = timer := by
  unfold Timer.service
  by_cases foreign : timer.Foreign message
  · rw [if_pos foreign, if_pos foreign]
    split
    · rfl
    · split <;> rfl
  · rw [if_neg foreign, if_neg foreign, if_pos (rejected.resolve_left foreign),
      if_pos (rejected.resolve_left foreign)]
    split
    · rfl
    · split <;> rfl

theorem Timer.service_arm {message : Message Ntfn} {answers : Answers}
    (own : ¬ timer.Foreign message) (fresh : ¬ message.generation < timer.generation)
    (event : message.event = .arm) (timeout : message.timeoutNs ≠ 0) :
    timer.service hardware message answers = timer.arm hardware message answers := by
  unfold Timer.service
  rw [if_pos ⟨event, timeout⟩, if_neg own, if_neg fresh]

theorem Timer.service_cancel {message : Message Ntfn} {answers : Answers}
    (own : ¬ timer.Foreign message) (fresh : ¬ message.generation < timer.generation)
    (event : message.event = .cancel) (timeout : message.timeoutNs = 0) :
    timer.service hardware message answers = timer.cancel hardware message answers := by
  unfold Timer.service
  rw [if_neg (fun arms => absurd timeout arms.2), if_pos ⟨event, timeout⟩, if_neg own,
    if_neg fresh]

/-- A timer message without a timeout is no arming, one with a timeout no cancel. -/
theorem Timer.service_malformed {message : Message Ntfn} {answers : Answers}
    (arms : message.event = .arm → message.timeoutNs = 0)
    (cancels : message.event = .cancel → message.timeoutNs ≠ 0) :
    (timer.service hardware message answers).1 = timer := by
  unfold Timer.service
  rw [if_neg (fun here => here.2 (arms here.1)), if_neg (fun here => cancels here.1 here.2)]

theorem DeadlineInv.message {message : Message Ntfn} {answers : Answers} {now : Nat}
    (inv : DeadlineInv hardware record) (succeeds : answers.pitSucceeds = true)
    (fits : hardware.deadline message.timeoutNs answers.first < 2 ^ 64) :
    DeadlineInv hardware ⟨(record.timer.perform hardware (.service message answers)).1,
      record.timer.markMessage hardware message answers.first :: record.log, now⟩ := by
  have ignored : DeadlineInv hardware ⟨record.timer, .ignored :: record.log, now⟩ :=
    inv.unchanged rfl rfl rfl nofun
  unfold Timer.perform Timer.markMessage
  dsimp only
  by_cases zero : message.generation = 0
  · rw [if_pos zero, if_pos (.inl zero)]
    exact ignored
  · rw [if_neg zero]
    by_cases rejected : record.timer.Foreign message ∨
        message.generation < record.timer.generation
    · rw [if_pos (.inr rejected), Timer.service_rejected rejected]
      exact ignored
    · rw [if_neg (not_or.mpr ⟨zero, rejected⟩)]
      obtain ⟨own, fresh⟩ := not_or.mp rejected
      cases event : message.event with
      | arm =>
          dsimp only
          by_cases timeout : message.timeoutNs = 0
          · rw [if_pos timeout, Timer.service_malformed (fun _ => timeout) (by simp [event])]
            exact ignored
          · rw [if_neg timeout, Timer.service_arm own fresh event timeout]
            exact inv.arm succeeds fits
      | cancel =>
          dsimp only
          by_cases timeout : message.timeoutNs = 0
          · rw [if_pos timeout, Timer.service_cancel own fresh event timeout]
            exact inv.cancel succeeds
          · rw [if_neg timeout, Timer.service_malformed (by simp [event]) (fun _ => timeout)]
            exact ignored

theorem DeadlineInv.schedule {timeoutNs : Nat} {answers : Answers} {now : Nat}
    (inv : DeadlineInv hardware record) (succeeds : answers.pitSucceeds = true)
    (fits : hardware.deadline timeoutNs answers.first < 2 ^ 64) :
    DeadlineInv hardware
      ⟨(record.timer.perform hardware (.scheduleNetwork timeoutNs answers)).1,
        record.timer.mark hardware (.scheduleNetwork timeoutNs answers) :: record.log, now⟩ := by
  have ignored : DeadlineInv hardware ⟨record.timer, .ignored :: record.log, now⟩ :=
    inv.unchanged rfl rfl rfl nofun
  unfold Timer.perform Timer.mark
  dsimp only
  by_cases zero : timeoutNs = 0
  · rw [if_pos zero, if_pos (.inl zero)]
    exact ignored
  · rw [if_neg zero]
    unfold Timer.scheduleNetwork
    by_cases armed : record.timer.networkArmed = true
    · rw [if_pos armed, if_pos (Or.inr armed)]
      exact ignored
    · rw [if_neg armed, if_neg (not_or.mpr ⟨zero, armed⟩)]
      dsimp only
      rw [deadline_word fits, succeeds]
      have positive : Timer.Positive { record.timer with
          networkNtfn := true
          networkDeadlineCycles := hardware.deadline timeoutNs answers.first
          networkArmed := true } := by
        rintro deadline (child | ⟨_, rfl⟩)
        · exact inv.positive deadline (.inl child)
        · exact deadline_pos hardware timeoutNs answers.first
      split
      next programmed moved =>
        obtain ⟨_, ⟨pit, rfl⟩, programs⟩ := Timer.programNext_programs positive moved
        exact inv.programmed programs positive inv.child (by simp [liveNetwork]) inv.owned
          (fun _ => rfl) rfl nofun
      next programmed moved =>
        cases (Timer.programNext_programs positive moved).1

omit [DecidableEq Ntfn] in
theorem DeadlineInv.cancelNetwork {answers : Answers} {now : Nat}
    (inv : DeadlineInv hardware record) (succeeds : answers.pitSucceeds = true) :
    DeadlineInv hardware ⟨(record.timer.cancelNetwork hardware answers).1,
      .networkEnded :: record.log, now⟩ := by
  have positive : Timer.Positive { record.timer with
      networkArmed := false
      networkNtfn := false } := by
    rintro deadline (child | ⟨armed, _⟩)
    · exact inv.positive deadline (.inl child)
    · cases armed
  cases moved : record.timer.cancelNetwork hardware answers with
  | mk programmed done =>
      unfold Timer.cancelNetwork at moved
      split at moved
      next armed =>
        rw [succeeds] at moved
        obtain ⟨_, ⟨pit, rfl⟩, programs⟩ := Timer.programNext_programs positive moved
        refine inv.programmed programs positive inv.child (by simp [liveNetwork]) inv.owned
          nofun ?_ nofun
        exact inv.current (.inr armed)
      next idle =>
        cases moved
        refine inv.unchanged rfl ?_ rfl nofun
        show none = liveNetwork record.log
        cases live : liveNetwork record.log with
        | none => rfl
        | some deadline => exact absurd ((inv.network deadline).mp live).1 idle

omit [DecidableEq Ntfn] in
theorem DeadlineInv.deactivate {answers : Answers} {now : Nat}
    (inv : DeadlineInv hardware record) (succeeds : answers.pitSucceeds = true) :
    DeadlineInv hardware ⟨record.timer.deactivate answers.pitSucceeds,
      .deactivated :: record.log, now⟩ := by
  rw [succeeds]
  have waits : ∀ deadline, ¬ (Timer.deactivate record.timer true).Waits deadline := by
    rintro deadline (⟨armed, _⟩ | ⟨armed, _⟩) <;> cases armed
  have stopped : Programmed hardware (Timer.deactivate record.timer true) :=
    ⟨fun deadline armed => absurd armed (waits deadline), fun _ _ => rfl⟩
  refine inv.programmed stopped (fun deadline armed => absurd armed (waits deadline)) ?_ ?_ nofun
    nofun rfl nofun
  · intro ntfn deadline
    simp [liveChild, Timer.deactivate, Timer.cleared]
  · intro deadline
    simp [liveNetwork, Timer.deactivate, Timer.cleared]

/-- What an interrupt leaves armed. -/
def Timer.expired (timer : Timer Ntfn) (first second : Nat) : Timer Ntfn :=
  { timer with
    armed := timer.armed && decide (first < timer.deadlineCycles)
    networkArmed := timer.networkArmed && decide (second < timer.networkDeadlineCycles) }

omit [DecidableEq Ntfn] in
theorem Timer.expireChild_eq (timer : Timer Ntfn) (now : Nat) : timer.expireChild now =
    ({ timer with armed := timer.armed && decide (now < timer.deadlineCycles) },
      if timer.armed ∧ timer.deadlineCycles ≤ now then timer.childNtfn else none) := by
  unfold Timer.expireChild
  by_cases due : timer.armed ∧ timer.deadlineCycles ≤ now
  · rw [if_pos due, if_pos due]
    simp [due]
  · rw [if_neg due, if_neg due]
    have kept : (timer.armed && decide (now < timer.deadlineCycles)) = timer.armed := by
      rcases not_and_or.mp due with idle | early
      · simp [idle]
      · simp [Nat.lt_of_not_le early]
    rw [kept]

omit [DecidableEq Ntfn] in
theorem Timer.expireNetwork_eq (timer : Timer Ntfn) (now : Nat) : timer.expireNetwork now =
    ({ timer with
        networkArmed := timer.networkArmed && decide (now < timer.networkDeadlineCycles) },
      if timer.networkArmed ∧ timer.networkDeadlineCycles ≤ now then timer.networkNtfn
      else false) := by
  unfold Timer.expireNetwork
  by_cases due : timer.networkArmed ∧ timer.networkDeadlineCycles ≤ now
  · rw [if_pos due, if_pos due]
    simp [due]
  · rw [if_neg due, if_neg due]
    have kept : (timer.networkArmed && decide (now < timer.networkDeadlineCycles)) =
        timer.networkArmed := by
      rcases not_and_or.mp due with idle | early
      · simp [idle]
      · simp [Nat.lt_of_not_le early]
    rw [kept]

omit [DecidableEq Ntfn] in
theorem Timer.handleTimerIrq_expired (timer : Timer Ntfn) (hardware : Hardware)
    (answers : Answers) :
    timer.handleTimerIrq hardware answers =
      ((timer.expired answers.first answers.second).reprogram hardware answers.second
          answers.pitSucceeds,
        ⟨if timer.armed ∧ timer.deadlineCycles ≤ answers.first then timer.childNtfn else none,
          if timer.networkArmed ∧ timer.networkDeadlineCycles ≤ answers.second then
            timer.networkNtfn else false⟩) := by
  unfold Timer.handleTimerIrq
  rw [Timer.expireChild_eq]
  dsimp only
  rw [Timer.expireNetwork_eq]
  rfl

omit [DecidableEq Ntfn] in
/-- After an interrupt the PIT is programmed for what is left, or left as it is. -/
theorem Timer.reprogram_programs {timer : Timer Ntfn} (hardware : Hardware) (now : Nat)
    (positive : timer.Positive) :
    ((timer.armed = true ∨ timer.networkArmed = true) ∧
        (∃ pit, timer.reprogram hardware now true = { timer with pit := pit }) ∧
        Programmed hardware (timer.reprogram hardware now true)) ∨
      (timer.reprogram hardware now true = timer ∧ timer.armed = false ∧
        timer.networkArmed = false) := by
  unfold Timer.reprogram
  split
  next waits =>
    left
    split
    next programmed moved =>
      obtain ⟨_, kept, programs⟩ := Timer.programNext_programs positive moved
      exact ⟨waits, kept, programs⟩
    next programmed moved => cases (Timer.programNext_programs positive moved).1
  next idle =>
    obtain ⟨child, network⟩ := not_or.mp idle
    exact .inr ⟨rfl, by simpa using child, by simpa using network⟩

omit [DecidableEq Ntfn] in
/-- What an interrupt signals is what was live and due. -/
theorem DeadlineInv.due (inv : DeadlineInv hardware record) (first second : Nat) :
    SignalsDue record.log first second
      ⟨if record.timer.armed ∧ record.timer.deadlineCycles ≤ first then record.timer.childNtfn
        else none,
        if record.timer.networkArmed ∧ record.timer.networkDeadlineCycles ≤ second then
          record.timer.networkNtfn else false⟩ where
  child ntfn := by
    dsimp only
    constructor
    · intro signalled
      split at signalled
      next due =>
        exact ⟨_, (inv.child _ _).mpr ⟨due.1, signalled, rfl⟩, due.2⟩
      next => cases signalled
    · rintro ⟨deadline, live, due⟩
      obtain ⟨armed, owner, rfl⟩ := (inv.child _ _).mp live
      rw [if_pos ⟨armed, due⟩, owner]
  network := by
    dsimp only
    constructor
    · intro signalled
      split at signalled
      next due => exact ⟨_, (inv.network _).mpr ⟨due.1, rfl⟩, due.2⟩
      next => cases signalled
    · rintro ⟨deadline, live, due⟩
      obtain ⟨armed, rfl⟩ := (inv.network _).mp live
      rw [if_pos ⟨armed, due⟩, inv.notified armed]

omit [DecidableEq Ntfn] in
/-- The deadlines an interrupt leaves are those still live. -/
theorem DeadlineInv.expired (inv : DeadlineInv hardware record) (fired : Bool)
    (first second : Nat) (wakes : Wakes Ntfn) :
    (∀ ntfn deadline,
      liveChild (.interrupt fired first second wakes :: record.log) = some (ntfn, deadline) ↔
        (record.timer.expired first second).armed = true ∧ record.timer.childNtfn = some ntfn ∧
          record.timer.deadlineCycles = deadline) ∧
    ∀ deadline,
      liveNetwork (.interrupt fired first second wakes :: record.log) = some deadline ↔
        (record.timer.expired first second).networkArmed = true ∧
          record.timer.networkDeadlineCycles = deadline := by
  unfold Timer.expired
  refine ⟨fun ntfn deadline => ?_, fun deadline => ?_⟩
  · simp only [liveChild, Option.filter_eq_some_iff, inv.child, Bool.and_eq_true,
      decide_eq_true_eq]
    constructor
    · rintro ⟨⟨armed, owner, rfl⟩, early⟩
      exact ⟨⟨armed, early⟩, owner, rfl⟩
    · rintro ⟨⟨armed, early⟩, owner, rfl⟩
      exact ⟨⟨armed, owner, rfl⟩, early⟩
  · simp only [liveNetwork, Option.filter_eq_some_iff, inv.network, Bool.and_eq_true,
      decide_eq_true_eq]
    constructor
    · rintro ⟨⟨armed, rfl⟩, early⟩
      exact ⟨⟨armed, early⟩, rfl⟩
    · rintro ⟨⟨armed, early⟩, rfl⟩
      exact ⟨⟨armed, rfl⟩, early⟩

omit [DecidableEq Ntfn] in
theorem DeadlineInv.reprogrammed {fired : Bool} {first second : Nat} {wakes : Wakes Ntfn}
    {now : Nat} (inv : DeadlineInv hardware record)
    (signals : SignalsDue record.log first second wakes) :
    DeadlineInv hardware
      ⟨((record.timer.fire fired).expired first second).reprogram hardware second true,
        .interrupt fired first second wakes :: record.log, now⟩ := by
  have positive : ((record.timer.fire fired).expired first second).Positive := by
    rintro deadline (⟨armed, rfl⟩ | ⟨armed, rfl⟩)
    · exact inv.positive _ (.inl ⟨((Bool.and_eq_true _ _).mp armed).1, rfl⟩)
    · exact inv.positive _ (.inr ⟨((Bool.and_eq_true _ _).mp armed).1, rfl⟩)
  have notified : ((record.timer.fire fired).expired first second).networkArmed = true →
      record.timer.networkNtfn = true :=
    fun armed => inv.notified ((Bool.and_eq_true _ _).mp armed).1
  have owned : ((record.timer.fire fired).expired first second).armed = true →
      record.timer.childNtfn ≠ none :=
    fun armed => inv.owned ((Bool.and_eq_true _ _).mp armed).1
  obtain ⟨child, network⟩ := inv.expired fired first second wakes
  have after := idle_iff child network owned
  have before := idle_iff inv.child inv.network inv.owned
  have due : ∀ fired' first' second' wakes',
      Mark.interrupt fired first second wakes = .interrupt fired' first' second' wakes' →
      SignalsDue record.log first' second' wakes' := by
    rintro _ _ _ _ ⟨⟩
    exact signals
  rcases Timer.reprogram_programs hardware second positive with
    ⟨waits, ⟨pit, kept⟩, programs⟩ | ⟨kept, childIdle, networkIdle⟩
  · rw [kept] at programs ⊢
    refine inv.programmed programs positive child network owned notified ?_ due
    have waited : record.timer.armed = true ∨ record.timer.networkArmed = true :=
      waits.imp (fun armed => ((Bool.and_eq_true _ _).mp armed).1)
        fun armed => ((Bool.and_eq_true _ _).mp armed).1
    have busy : idle (.interrupt fired first second wakes :: record.log) = false := by
      rw [← Bool.not_eq_true, after]
      rintro ⟨childIdle, networkIdle⟩
      rcases waits with armed | armed
      · cases childIdle.symm.trans armed
      · cases networkIdle.symm.trans armed
    rw [overtaken, inv.current waited, busy]
    simp
  · rw [kept]
    refine ⟨child, network, positive, owned, notified, ?_, ?_, signals_cons inv due⟩
    · rintro deadline (⟨armed, _⟩ | ⟨armed, _⟩)
      · cases childIdle.symm.trans armed
      · cases networkIdle.symm.trans armed
    · rw [overtaken, after.mpr ⟨childIdle, networkIdle⟩, Bool.and_true]
      cases fired with
      | true => exact ⟨nofun, fun ⟨_, _, pending⟩ => absurd rfl pending⟩
      | false =>
          rw [Bool.not_false, Bool.true_and, Bool.or_eq_true, Bool.not_eq_true',
            ← Bool.not_eq_true, before, inv.leftover]
          constructor
          · rintro (⟨_, _, pending⟩ | busy)
            · exact ⟨childIdle, networkIdle, pending⟩
            · exact ⟨childIdle, networkIdle, inv.pends (not_idle busy)⟩
          · rintro ⟨_, _, pending⟩
            by_cases quiet : record.timer.armed = false ∧ record.timer.networkArmed = false
            · exact .inl ⟨quiet.1, quiet.2, pending⟩
            · exact .inr quiet

theorem DeadlineInv.interrupt {fired : Bool} {answers : Answers} {now : Nat}
    (inv : DeadlineInv hardware record) (succeeds : answers.pitSucceeds = true) :
    DeadlineInv hardware
      ⟨(record.timer.perform hardware (.interrupt fired answers)).1,
        record.timer.mark hardware (.interrupt fired answers) :: record.log, now⟩ := by
  unfold Timer.perform Timer.mark
  dsimp only
  rw [Timer.handleTimerIrq_expired, succeeds]
  exact inv.reprogrammed (inv.due _ _)

theorem DeadlineInv.next {operation : Operation Ntfn} {target : Record Ntfn}
    (inv : DeadlineInv hardware record) (timely : Timely hardware record operation)
    (moved : record.next hardware operation = some target) : DeadlineInv hardware target := by
  obtain ⟨succeeds, fits, _, _⟩ := timely
  unfold Record.next at moved
  obtain ⟨_, moved⟩ := Option.ite_none_left_eq_some.mp moved
  cases moved
  cases operation with
  | service message answers => exact inv.message succeeds fits
  | scheduleNetwork timeoutNs answers => exact inv.schedule succeeds fits
  | cancelNetwork answers => exact inv.cancelNetwork succeeds
  | deactivate answers => exact inv.deactivate succeeds
  | interrupt fired answers => exact inv.interrupt succeeds

omit [DecidableEq Ntfn] in
theorem deadlineInv_start : DeadlineInv hardware (recordStart Ntfn) where
  child ntfn deadline := by simp [recordStart, liveChild, Timer.cleared]
  network deadline := by simp [recordStart, liveNetwork, Timer.cleared]
  positive := by rintro deadline (⟨armed, _⟩ | ⟨armed, _⟩) <;> cases armed
  notified := nofun
  pending := by rintro deadline (⟨armed, _⟩ | ⟨armed, _⟩) <;> cases armed
  owned := nofun
  leftover := by simp [recordStart, overtaken, Timer.cleared]
  signals later fired first second wakes earlier split := by
    cases later <;> cases split

/-- In every timely run the PIT is pending in time for what is armed, it is pending for
nothing else unless its shot was overtaken, and each arming is signalled once, by the
first interrupt at or after its deadline. -/
theorem deadlines_served (hardware : Hardware) {record : Record Ntfn}
    (reached : (recordSystem Ntfn hardware).Reach (Timely hardware) record) :
    DeadlinesServed hardware record := by
  have inv : DeadlineInv hardware record := by
    refine System.Reach.invariant (DeadlineInv hardware) ?_ ?_ reached
    · rintro record rfl
      exact deadlineInv_start
    · intro record operation target inv timely moved
      exact inv.next timely moved
  refine ⟨inv.child, inv.network, inv.pending, ?_, inv.signals⟩
  rw [← Bool.not_eq_true, inv.leftover]
  constructor
  · rintro exact ⟨childIdle, networkIdle, pending⟩
    rcases exact.mp pending with armed | armed
    · cases childIdle.symm.trans armed
    · cases networkIdle.symm.trans armed
  · intro current
    refine ⟨fun pending => ?_, inv.pends⟩
    by_contra nothing
    obtain ⟨child, network⟩ := not_or.mp nothing
    exact current ⟨by simpa using child, by simpa using network, pending⟩

end Preserved

/-- The child arms for 3 ms and the network for 1 ms, the network deadline is served
late and the child's at its time. -/
theorem deadlines_served_both :
    ∃ record, (recordSystem Unit pitHardware).Reach (Timely pitHardware) record ∧
      record.log.length = 4 ∧ record.timer.pit = none ∧ DeadlinesServed pitHardware record := by
  obtain ⟨record, reached, ends⟩ := System.exists_reach_of_exec (recordSystem Unit pitHardware)
    (Timely pitHardware) (recordStart Unit)
    [.service ⟨(), .arm, 1, 3000000⟩ ⟨10, 11, true⟩, .scheduleNetwork 1000000 ⟨20, 21, true⟩,
      .interrupt true ⟨1500000, 1500001, true⟩, .interrupt true ⟨3000010, 3000011, true⟩]
    (fun record => decide (record.log.length = 4 ∧ record.timer.pit = none)) rfl
    (by decide +kernel)
  obtain ⟨length, stopped⟩ := of_decide_eq_true ends
  exact ⟨record, reached, length, stopped, deadlines_served pitHardware reached⟩

/-- The child arms for a nanosecond, the PIT is given its shortest time, and an interrupt
raised before takes the deadline at once: the PIT is pending for nothing. -/
theorem pit_overtaken : ¬ ∀ record,
    (recordSystem Unit pitHardware).Reach (Timely pitHardware) record → PitExact record := by
  intro always
  obtain ⟨record, reached, ends⟩ := System.exists_reach_of_exec (recordSystem Unit pitHardware)
    (Timely pitHardware) (recordStart Unit)
    [.scheduleNetwork 5000000 ⟨0, 1, true⟩, .service ⟨(), .arm, 1, 1⟩ ⟨4999999, 5000000, true⟩,
      .interrupt false ⟨5000001, 5000002, true⟩]
    (fun record => decide (record.timer.armed = false ∧ record.timer.networkArmed = false ∧
      record.timer.pit ≠ none)) rfl (by decide +kernel)
  obtain ⟨child, network, pending⟩ := of_decide_eq_true ends
  rcases (always record reached).mp pending with armed | armed
  · cases child.symm.trans armed
  · cases network.symm.trans armed

end Luna.TimerManager
