import Luna.Net.RxDelivery

/-!
# Wakeups on the receive path

The child arms `rx_waiting`, compares the counters and sleeps; the poll thread
takes `rx_waiting` after it has counted a packet and signals.  While the
notification is masked the signal is dropped, and unmasking makes up for it
only when the ring is not empty.  So a signal that is dropped while the ring is
empty, with the child already asleep, is lost for good.
-/

namespace Luna.Net

open Interleaving

/-- The child sleeps in `seL4_Wait`, or will as far as it can see. -/
def RxState.asleep (state : RxState) : Bool :=
  match state.child with
  | .loadProduced => decide (state.header.rxProduced = state.header.rxConsumed)
  | .loadConsumed produced => decide (produced = state.header.rxConsumed)
  | .wait => true
  | _ => false

/-- The next step of `receive_complete` takes the masked branch of `signal_rx`
for a child that sleeps without `rx_waiting`, and no packet in the ring. -/
def RxState.Swallows (state : RxState) : Prop :=
  state.poll = .signalMasked ∧ state.masked = true ∧ state.head = state.tail ∧
    state.header.rxWaiting = 0 ∧ state.ntfn = false ∧ state.asleep = true

instance (state : RxState) : Decidable state.Swallows :=
  inferInstanceAs (Decidable (_ ∧ _))

/-- No signal is swallowed. -/
def RxGuard (state : RxState) (action : RxAction) : Prop :=
  match action with
  | .poll => ¬ state.Swallows
  | _ => True

instance (state : RxState) (action : RxAction) : Decidable (RxGuard state action) := by
  unfold RxGuard
  cases action <;> infer_instance

/-- What the receive path promises in a state. -/
structure RxCorrect (state : RxState) : Prop where
  ordered : ∀ (index : Nat) entry, state.delivered[index]? = some entry →
    ∃ bytes, state.accepted[index]? = some bytes ∧ entry.1 = bytes.take entry.2
  kept : state.main = .idle → state.accepted.drop state.delivered.length =
    (List.range state.staged).map (fun index => state.bytesAt (state.rxIndex + index)) ++
    (CircularBuffer.contents lunaNetRxQueueCount state.queue state.head state.tail).map Packet.bytes
  accounted : state.poll = .idle → state.completions = state.handled.map Prod.fst ∧
    state.accepted = (state.handled.filter Prod.snd).map Prod.fst ∧
    state.header.rxProduced = state.handled.countP Prod.snd % 2 ^ 64 ∧
    state.drops = state.handled.countP (fun entry => !entry.2) % 2 ^ 64
  lengths : state.main ≠ .rxBadLength
  polls : state.failures = 0
  wakes : state.masked = false → state.head ≠ state.tail → state.child = .wait →
    state.poll = .idle → state.main = .idle → state.ntfn = true

def RxPoll.signalling : RxPoll → Bool
  | .signalMasked | .signalActive | .signal => true
  | _ => false

/-- The main thread is unmasking and will signal. -/
def RxState.replaying (state : RxState) : Prop :=
  match state.main with
  | .controlHead => state.taken < state.accepted.length
  | .controlTail head => head ≠ state.tail
  | .signalMasked | .signalActive | .signal => True
  | _ => False

/-- Packets counted in `rx_produced`. -/
def RxState.counted (state : RxState) : Nat := state.handled.countP Prod.snd

/-- Why a sleeping child will be woken. -/
inductive Covered (state : RxState) : Prop where
  | signalled (ntfn : state.ntfn = true)
  | signalling (signals : state.poll.signalling = true)
  | replaying (replays : state.replaying)
  | armed (waiting : state.header.rxWaiting ≠ 0)
      (fresh : state.counted ≤ state.taken ∨ state.poll = .exchange)
  | masked (mask : state.masked = true) (nonempty : state.taken < state.accepted.length)

structure RxWake (state : RxState) : Prop where
  covered : state.asleep = true → Covered state
  early : ∀ completion, state.child = .loadProduced → state.poll = .produce completion →
    state.accepted.length ≤ state.taken → state.header.rxWaiting ≠ 0

section Steps

variable {state : RxState}

theorem RxInv.counted_eq (inv : RxInv state) :
    state.accepted.length = state.counted + state.poll.inserted.length := by
  rw [inv.enqueued, RxState.counted, List.length_append, List.length_map,
    List.countP_eq_length_filter]

theorem asleep_child (asleep : state.asleep = true) : state.child ≠ .call := by
  intro called
  simp [RxState.asleep, called] at asleep

/-- Outside a request the counters agree modulo a word exactly when they agree. -/
theorem RxInv.drained_of_eq (inv : RxInv state) (elsewhere : state.child ≠ .call)
    (same : state.header.rxProduced = state.header.rxConsumed) : state.counted = state.taken := by
  obtain ⟨moved, _, unconsumed⟩ := inv.not_serving elsewhere
  have produced := inv.produced
  have consumed := inv.consumed
  have length := inv.counted_eq
  have room := inv.room
  have filled := inv.filled
  have inserted : state.poll.inserted.length ≤ 1 := by
    cases state.poll <;> simp [RxPoll.inserted]
  rw [← RxState.counted] at produced
  simp only [lunaNetRxQueueCount, moved, unconsumed, Nat.sub_zero] at *
  omega

/-- A step that leaves flags, counters and the sleeping child alone. -/
theorem RxWake.frame (wake : RxWake state) {later : RxState}
    (asleep : later.asleep = true → state.asleep = true)
    (covered : Covered state → Covered later)
    (early : ∀ completion, later.child = .loadProduced → later.poll = .produce completion →
      later.accepted.length ≤ later.taken → later.header.rxWaiting ≠ 0) : RxWake later :=
  ⟨fun sleeps => covered (wake.covered (asleep sleeps)), early⟩

/-- The poll thread moves on outside the signalling part. -/
theorem RxWake.poll_quiet (wake : RxWake state) {poll : RxPoll} {queue : Nat → Packet} {drops : Nat}
    {completions : List (List UInt8)}
    (before : state.poll.signalling = false) (notLast : state.poll ≠ .exchange)
    (notNew : ∀ completion, poll ≠ .produce completion) :
    RxWake { state with poll, queue, drops, completions } := by
  refine wake.frame id (fun covered => ?_) fun completion _ at_ => absurd at_ (notNew completion)
  cases covered with
  | signalled ntfn => exact .signalled ntfn
  | signalling signals => simp [before] at signals
  | replaying replays => exact .replaying replays
  | armed waiting fresh => exact .armed waiting (.inl (fresh.resolve_right notLast))
  | masked mask nonempty => exact .masked mask nonempty

/-- A dropped signal leaves the child signalled or armed, or a packet for the unmasking. -/
theorem dropped (inv : RxInv state) (guard : ¬ state.Swallows) (at_ : state.poll = .signalMasked)
    (mask : state.masked = true) (sleeps : state.asleep = true) :
    state.ntfn = true ∨ state.header.rxWaiting ≠ 0 ∧ state.counted ≤ state.taken ∨
      state.taken < state.accepted.length := by
  have length := inv.counted_eq
  have filled := inv.filled
  have room := inv.room
  have moved := (inv.not_serving (asleep_child sleeps)).1
  rw [at_] at length
  simp only [moved, RxPoll.inserted, List.length_nil, Nat.add_zero] at length filled
  by_cases empty : state.head = state.tail
  · by_cases quiet : state.header.rxWaiting = 0
    · left
      by_contra silent
      exact guard ⟨at_, mask, empty, quiet, by simpa using silent, sleeps⟩
    · refine .inr (.inl ⟨quiet, ?_⟩)
      rw [inv.head, inv.tail] at empty
      simp only [lunaNetRxQueueCount] at empty room
      omega
  · refine .inr (.inr (Nat.lt_of_le_of_ne filled fun same => empty ?_))
    rw [inv.head, inv.tail, same]

theorem stepRxPoll_wake (inv : RxInv state) (wake : RxWake state) (guard : ¬ state.Swallows)
    {target : RxState} (moved : stepRxPoll state = some target) : RxWake target := by
  have filled := inv.filled
  have length := inv.counted_eq
  unfold stepRxPoll at moved
  cases at_ : state.poll <;> simp only [at_, reduceCtorEq, Option.some.injEq] at moved <;>
    subst moved
  case loadHead completion =>
    exact wake.poll_quiet (by rw [at_]; rfl) (by simp [at_]) (by simp)
  case loadTail completion head =>
    refine wake.poll_quiet (by rw [at_]; rfl) (by simp [at_]) fun other => ?_
    split <;> simp
  case checkActive completion head tail =>
    refine wake.poll_quiet (by rw [at_]; rfl) (by simp [at_]) fun other => ?_
    split <;> simp
  case recheckActive completion =>
    refine wake.poll_quiet (by rw [at_]; rfl) (by simp [at_]) fun other => ?_
    split <;> simp
  case copy completion head =>
    exact wake.poll_quiet (by rw [at_]; rfl) (by simp [at_]) (by simp)
  case storeLength completion head =>
    exact wake.poll_quiet (by rw [at_]; rfl) (by simp [at_]) (by simp)
  case storeHead completion head =>
    -- The ring is not empty any more, so only `taken < accepted.length` gains.
    refine wake.frame id (fun covered => ?_) fun _ _ _ few => ?_
    · cases covered with
      | signalled ntfn => exact .signalled ntfn
      | signalling signals => simp [at_, RxPoll.signalling] at signals
      | replaying replays =>
          refine .replaying ?_
          unfold RxState.replaying at replays ⊢
          cases main_ : state.main <;> simp only [main_, List.length_append] at replays ⊢
          case controlHead => omega
          all_goals exact replays
      | armed waiting fresh => exact .armed waiting (.inl (fresh.resolve_right (by simp [at_])))
      | masked mask nonempty =>
          refine .masked mask ?_
          simp only [List.length_append]
          omega
    · simp only [List.length_append, List.length_cons, List.length_nil] at few
      omega
  case produce completion =>
    have more : (state.handled ++ [(payload completion, true)]).countP Prod.snd =
        state.counted + 1 := by simp [RxState.counted]
    rw [at_] at length
    simp only [RxPoll.inserted, List.length_cons, List.length_nil] at length
    refine ⟨fun sleeps => ?_, by simp⟩
    by_cases slept : state.asleep = true
    · cases wake.covered slept with
      | signalled ntfn => exact .signalled ntfn
      | signalling signals => simp [at_, RxPoll.signalling] at signals
      | replaying replays => exact .replaying replays
      | armed waiting fresh => exact .armed waiting (.inr rfl)
      | masked mask nonempty => exact .masked mask nonempty
    · -- The child falls asleep only now, when the count catches up with what it has fetched.
      unfold RxState.asleep at sleeps slept
      cases child_ : state.child <;> simp only [child_, reduceCtorEq] at sleeps slept
      case loadProduced =>
        have later : RxInv { state with
            header := { state.header with rxProduced := (state.header.rxProduced + 1) % 2 ^ 64 }
            handled := state.handled ++ [(payload completion, true)], poll := .exchange } :=
          stepRxPoll_inv inv (by simp [stepRxPoll, at_])
        have same : state.counted + 1 = state.taken :=
          more.symm.trans (later.drained_of_eq (by simp [child_]) (of_decide_eq_true sleeps))
        exact .armed (wake.early completion child_ at_ (by omega)) (.inr rfl)
      all_goals exact absurd sleeps slept
  case exchange =>
    refine wake.frame id (fun covered => ?_) fun _ _ at_ => ?_
    · cases covered with
      | signalled ntfn => exact .signalled ntfn
      | signalling signals => simp [at_, RxPoll.signalling] at signals
      | replaying replays => exact .replaying replays
      | armed waiting fresh =>
          refine .signalling ?_
          simp [waiting, RxPoll.signalling]
      | masked mask nonempty => exact .masked mask nonempty
    · simp only at at_
      split at at_ <;> cases at_
  case signalMasked =>
    refine ⟨fun sleeps => ?_, fun _ _ at_ => ?_⟩
    · cases wake.covered sleeps with
      | signalled ntfn => exact .signalled ntfn
      | replaying replays => exact .replaying replays
      | armed waiting fresh =>
          exact .armed waiting (.inl (fresh.resolve_right (by simp [at_])))
      | masked mask nonempty => exact .masked mask nonempty
      | signalling signals =>
          by_cases mask : state.masked = true
          · -- A dropped signal: the guard leaves a packet in the ring or the child armed.
            rcases dropped inv guard at_ mask sleeps with ntfn | ⟨waiting, fresh⟩ | nonempty
            · exact .signalled ntfn
            · exact .armed waiting (.inl fresh)
            · exact .masked mask nonempty
          · exact .signalling (by simp [mask, RxPoll.signalling])
    · simp only at at_
      split at at_ <;> cases at_
  case signalActive =>
    rw [if_pos inv.active]
    refine wake.frame id (fun covered => .signalling rfl) (by simp)
  case signal => exact wake.frame id (fun _ => .signalled rfl) (by simp)
  case drop completion =>
    refine wake.frame id (fun covered => ?_) (by simp)
    cases covered with
    | signalled ntfn => exact .signalled ntfn
    | signalling signals => simp [at_, RxPoll.signalling] at signals
    | replaying replays => exact .replaying replays
    | armed waiting fresh =>
        refine .armed waiting (.inl ?_)
        simpa [RxState.counted] using fresh.resolve_right (by simp [at_])
    | masked mask nonempty => exact .masked mask nonempty

/-- The child does not sleep and is not about to. -/
theorem wake_of_awake {later : RxState} (awake : later.asleep = false)
    (elsewhere : later.child ≠ .loadProduced) : RxWake later :=
  ⟨by simp [awake], fun _ waits => absurd waits elsewhere⟩

theorem wake_of_called {later : RxState} (called : later.child = .call) : RxWake later :=
  wake_of_awake (by simp [RxState.asleep, called]) (by simp [called])

/-- The main thread is in `service_control`. -/
theorem RxWake.control (wake : RxWake state) {main : RxMain} {masked ntfn : Bool}
    (covered : Covered state → Covered { state with main, masked, ntfn }) :
    RxWake { state with main, masked, ntfn } :=
  wake.frame id covered wake.early

theorem stepRxMain_wake (inv : RxInv state) (wake : RxWake state) {target : RxState}
    (moved : stepRxMain state = some target) : RxWake target := by
  have fits := inv.main
  unfold stepRxMain at moved
  cases at_ : state.main <;> simp only [at_] at moved fits
  case idle =>
    split at moved
    next called =>
      cases moved
      exact wake_of_called called
    next => cases moved
  case rxEmpty =>
    cases moved
    exact wake_of_called fits
  case rxTail | rxHead | rxLength | rxCopy | rxCount | rxStoreTail | rxConsume =>
    cases moved
    exact wake_of_called fits.1
  case rxStoreLength | rxClear =>
    cases moved
    exact wake_of_called fits.1.1
  case rxBadLength => exact fits.elim
  case reply served packets =>
    cases moved
    exact wake_of_awake rfl (by simp)
  case controlMask control =>
    cases moved
    refine wake.control fun covered => ?_
    cases covered with
    | signalled ntfn => exact .signalled ntfn
    | signalling signals => exact .signalling signals
    | replaying replays => simp [RxState.replaying, at_] at replays
    | armed waiting fresh => exact .armed waiting fresh
    | masked mask nonempty =>
        -- Unmasking takes over from the mask.
        by_cases unmask : control = 0
        · exact .replaying (by simpa [RxState.replaying, unmask] using nonempty)
        · exact .masked (by simpa using unmask) nonempty
  case controlHead =>
    cases moved
    have unmasked : state.masked = false := fits
    refine wake.control fun covered => ?_
    cases covered with
    | signalled ntfn => exact .signalled ntfn
    | signalling signals => exact .signalling signals
    | replaying replays =>
        refine .replaying ?_
        simp only [RxState.replaying, at_] at replays ⊢
        have room := inv.room
        rw [inv.head, inv.tail]
        exact (slot_ne replays room).symm
    | armed waiting fresh => exact .armed waiting fresh
    | masked mask nonempty => exact absurd mask (by simp [unmasked])
  case controlTail head =>
    cases moved
    have unmasked : state.masked = false := fits
    refine wake.control fun covered => ?_
    cases covered with
    | signalled ntfn => exact .signalled ntfn
    | signalling signals => exact .signalling signals
    | replaying replays =>
        have different : head ≠ state.tail := by simpa [RxState.replaying, at_] using replays
        exact .replaying (by simp [RxState.replaying, different])
    | armed waiting fresh => exact .armed waiting fresh
    | masked mask nonempty => exact absurd mask (by simp [unmasked])
  case signalMasked =>
    cases moved
    have unmasked : state.masked = false := fits
    exact wake.control fun _ => .replaying (by simp [RxState.replaying, unmasked])
  case signalActive =>
    cases moved
    exact wake.control fun _ => .replaying (by simp [RxState.replaying, inv.active])
  case signal =>
    cases moved
    exact wake.control fun _ => .signalled rfl

/-- What covers a sleeping child does not depend on where it sleeps. -/
theorem Covered.child (covered : Covered state) {child : RxChild} {hup : Bool} :
    Covered { state with child, hup } := by
  cases covered with
  | signalled ntfn => exact .signalled ntfn
  | signalling signals => exact .signalling signals
  | replaying replays => exact .replaying replays
  | armed waiting fresh => exact .armed waiting fresh
  | masked mask nonempty => exact .masked mask nonempty

theorem stepRxChild_wake (inv : RxInv state) (wake : RxWake state) {target : RxState}
    (moved : stepRxChild state = some target) : RxWake target := by
  unfold stepRxChild at moved
  cases at_ : state.child <;> simp only [at_] at moved
  case outside => cases moved
  case pollHup =>
    cases moved
    refine wake_of_awake ?_ ?_ <;> cases state.hup <;> simp [RxState.asleep]
  case pollIndex =>
    split at moved
    · split at moved <;> cases moved <;> exact wake_of_awake rfl (by simp)
    · cases moved
      exact wake_of_awake rfl (by simp)
  case setWaiting =>
    cases moved
    refine ⟨fun sleeps => ?_, fun _ _ _ _ => Nat.one_ne_zero⟩
    have same := inv.drained_of_eq (by simp [at_])
      (by simpa [RxState.asleep] using sleeps)
    exact .armed Nat.one_ne_zero (.inl (Nat.le_of_eq same))
  case loadProduced =>
    cases moved
    refine wake.frame (fun sleeps => ?_) (fun covered => covered.child) (by simp)
    simpa [RxState.asleep, at_] using sleeps
  case loadConsumed produced =>
    cases moved
    split
    next same =>
      refine wake.frame (fun _ => ?_) (fun covered => covered.child) (by simp)
      simp [RxState.asleep, at_, same]
    next different => exact wake_of_awake rfl (by simp)
  case wait =>
    split at moved
    · cases moved
      exact wake_of_awake rfl (by simp)
    · cases moved
  case reloadProduced | reloadConsumed | clearWaiting =>
    cases moved
    exact wake_of_awake rfl (by simp)
  case checkHup produced consumed =>
    cases moved
    refine wake_of_awake ?_ ?_
    all_goals
      simp only [RxState.asleep]
      cases state.hup
      · by_cases same : produced = consumed <;> simp [same]
      · simp
  case call => cases moved
  case answered served packets =>
    split at moved
    · cases moved
      exact wake_of_awake rfl (by simp)
    · split at moved <;> cases moved <;> exact wake_of_awake rfl (by simp)
  case rxCopy iov capacity offset remaining copied =>
    cases iov with
    | nil =>
        cases moved
        exact wake_of_awake rfl (by simp [finishRx])
    | cons base rest =>
        simp only at moved
        split at moved
        next => cases moved; exact wake_of_awake rfl (by simp [finishRx])
        next => cases base <;> cases moved <;> exact wake_of_awake rfl (by simp)

end Steps

/-! ## Whole runs -/

section Runs

variable {state : RxState}

theorem rxNext_wake {action : RxAction} {target : RxState} (inv : RxInv state)
    (wake : RxWake state) (guard : RxGuard state action)
    (moved : rxNext state action = some target) : RxWake target := by
  cases action with
  | completion completion =>
      simp only [rxNext] at moved
      split at moved
      next idle =>
        cases moved
        exact wake.poll_quiet (by rw [idle]; rfl) (by simp [idle]) (by simp)
      next => cases moved
  | poll => exact stepRxPoll_wake inv wake guard moved
  | control control =>
      simp only [rxNext] at moved
      split at moved
      next free =>
        cases moved
        refine wake.control fun covered => ?_
        cases covered with
        | signalled ntfn => exact .signalled ntfn
        | signalling signals => exact .signalling signals
        | replaying replays => simp [RxState.replaying, free.1] at replays
        | armed waiting fresh => exact .armed waiting fresh
        | masked mask nonempty => exact .masked mask nonempty
      next => cases moved
  | main => exact stepRxMain_wake inv wake moved
  | taskNetPoll =>
      simp only [rxNext] at moved
      split at moved
      · cases moved
        exact wake_of_awake rfl (by simp)
      · cases moved
  | taskNetRx iov =>
      simp only [rxNext] at moved
      split at moved
      · cases moved
        exact wake_of_awake rfl (by simp)
      · cases moved
  | child => exact stepRxChild_wake inv wake moved
  | hup =>
      cases moved
      exact wake.frame id (fun covered => covered.child) wake.early
  | wake =>
      simp only [rxNext] at moved
      split at moved
      · cases moved
        exact wake.frame id (fun _ => .signalled rfl) wake.early
      · cases moved

theorem RxWake.wakes (wake : RxWake state) (inv : RxInv state) (unmasked : state.masked = false)
    (nonempty : state.head ≠ state.tail) (waits : state.child = .wait)
    (poll : state.poll = .idle) (main : state.main = .idle) : state.ntfn = true := by
  have length := inv.counted_eq
  have filled := inv.filled
  cases wake.covered (by simp [RxState.asleep, waits]) with
  | signalled ntfn => exact ntfn
  | signalling signals => simp [poll, RxPoll.signalling] at signals
  | replaying replays => simp [RxState.replaying, main] at replays
  | armed waiting fresh =>
      have few := fresh.resolve_right (by simp [poll])
      rw [poll] at length
      rw [main] at filled
      simp only [RxPoll.inserted, RxMain.moved, List.length_nil, Nat.add_zero] at length filled
      refine absurd ?_ nonempty
      rw [inv.head, inv.tail, show state.accepted.length = state.taken by omega]
  | masked mask _ => simp [unmasked] at mask

/-- In every run in which no signal is swallowed, packets are delivered in
order, every valid completion is accounted for and no wakeup is lost. -/
theorem rx_correct_of_guard (state : RxState) (reached : rxSystem.Reach RxGuard state) :
    RxCorrect state := by
  have both : RxInv state ∧ RxWake state := by
    refine System.Reach.invariant (fun state => RxInv state ∧ RxWake state) ?_ ?_ reached
    · intro start initial
      refine ⟨rxInitial_inv initial, ?_, ?_⟩
      all_goals
        obtain ⟨_, _, _, _, _, _, _, _, _, _, _, _, _, _, child, _⟩ := initial
        simp [RxState.asleep, child]
    · rintro before action after ⟨inv, wake⟩ guard moved
      exact ⟨rxNext_inv inv moved, rxNext_wake inv wake guard moved⟩
  obtain ⟨inv, wake⟩ := both
  refine ⟨inv.delivered, inv.kept, fun idle => ?_, fun bad => ?_, inv.failures, wake.wakes inv⟩
  · have completions := inv.completions
    have enqueued := inv.enqueued
    rw [idle] at completions enqueued
    simp only [RxPoll.pending, RxPoll.inserted, List.append_nil] at completions enqueued
    exact ⟨completions, enqueued, inv.produced, inv.drops⟩
  · have fits := inv.main
    rwa [bad] at fits

/-- The receive path right after the child has been started. -/
def rxStart : RxState where
  header := ⟨0, 0, 0, 0, 0, 0, 0, 0, fun _ => 0, fun _ => 0⟩
  window := fun _ _ => 0
  queue := fun _ => ⟨0, fun _ => 0⟩
  head := 0
  tail := 0
  masked := false
  childActive := true
  ntfn := false
  drops := 0
  hup := false
  rxIndex := 0
  rxCount := 0
  pendingRx := 0
  poll := .idle
  main := .idle
  child := .outside
  completions := []
  handled := []
  accepted := []
  taken := 0
  delivered := []
  failures := 0

theorem rxStart_initial : RxInitial rxStart := by simp [RxInitial, rxStart]

/-- Two packets arrive, are fetched by one `task_net_poll` and copied out by two
calls of `task_net_rx`; the child sleeps in the end. -/
def rxTwoPackets : List RxAction :=
  System.repeated [(1, .completion [some [7]]), (8, .poll), (1, .completion [some [8, 9]]),
    (8, .poll), (1, .taskNetPoll), (7, .child), (15, .main), (3, .child),
    (1, .taskNetRx [some 2048]), (2, .child), (1, .taskNetPoll), (2, .child),
    (1, .taskNetRx [some 2048]), (2, .child), (1, .taskNetPoll), (5, .child)]

theorem rx_correct_two_packets : ∃ state, rxSystem.Reach RxGuard state ∧
    state.delivered = [([7], 2048), ([8, 9], 2048)] ∧ state.child = .wait ∧
      RxCorrect state := by
  have run : ∃ state, rxSystem.Reach RxGuard state ∧
      decide (state.delivered = [([7], 2048), ([8, 9], 2048)] ∧ state.child = .wait) = true :=
    System.exists_reach_of_exec _ _ _ rxTwoPackets _ rxStart_initial (by decide +kernel)
  obtain ⟨state, reached, ends⟩ := run
  obtain ⟨delivered, waits⟩ := of_decide_eq_true ends
  exact ⟨state, reached, delivered, waits, rx_correct_of_guard state reached⟩

/-- The poll thread takes `rx_waiting` only when the child, which has fetched
the packet already, sleeps again.  The mask drops the signal, unmasking finds
the ring empty, and the next packet finds `rx_waiting` clear. -/
def rxLostRun : List RxAction :=
  System.repeated [(1, .control 1), (1, .main), (1, .completion [some [7]]), (7, .poll),
    (1, .taskNetPoll), (7, .child), (11, .main), (3, .child), (1, .taskNetRx [some 2048]),
    (2, .child), (1, .taskNetPoll), (5, .child), (2, .poll), (1, .control 0), (3, .main),
    (1, .completion [some [8]]), (8, .poll)]

theorem rx_wakeup_lost : ∃ state, rxSystem.Reachable state ∧ ¬ RxCorrect state := by
  have run : ∃ state, rxSystem.Reachable state ∧
      decide (state.masked = false ∧ state.head ≠ state.tail ∧ state.child = .wait ∧
        state.poll = .idle ∧ state.main = .idle ∧ state.ntfn = false) = true :=
    System.exists_reach_of_exec _ (fun _ _ => True) _ rxLostRun _ rxStart_initial
      (by decide +kernel)
  obtain ⟨state, reached, ends⟩ := run
  obtain ⟨unmasked, nonempty, waits, poll, main, silent⟩ := of_decide_eq_true ends
  refine ⟨state, reached, fun correct => ?_⟩
  have signalled := correct.wakes unmasked nonempty waits poll main
  simp [silent] at signalled

end Runs

end Luna.Net
