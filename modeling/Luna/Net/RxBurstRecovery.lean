import Mathlib.Data.Finset.Card
import Luna.Lib.Interleaving
import Luna.Net.RxBurst

/-!
# Recovery of receive bursts

The child's bursts, the peer and the network between them.  A datagram that was sent may
arrive never, once or many times and whenever it likes: what was sent stays in a list
and each arrival takes one from it.
-/

namespace Luna.RxBurst

open ByteOrder Interleaving

/-- How a burst ends; `task_net_receive_burst` returns 0 or -1. -/
inductive Outcome where
  | complete
  | rejected
  | failedCall
  | exhausted
  deriving DecidableEq, Repr

def Outcome.code : Outcome → Int
  | .complete => 0
  | _ => -1

theorem rejected_code : Outcome.rejected.code ≠ 0 := by decide

/-- Where `task_net_receive_burst` is: before `sendto` or in front of `poll`. -/
inductive Phase where
  | idle
  | asking (burst : Burst)
  | waiting (burst : Burst)
  deriving DecidableEq, Repr

/-- A trigger on its way.  Beside its bytes it has the burst it was sent for, by number
and generation, what was asked for and what the burst had received by then. -/
structure Sent where
  serial : Nat
  generation : BitVec 32
  missing : BitVec 64
  received : List Bytes
  bytes : Bytes

/-- A burst that ended, with the packets it received. -/
structure Ended where
  serial : Nat
  generation : BitVec 32
  received : List Bytes
  outcome : Outcome

/-- `drawn` counts the bursts.  `received`, `sent` and `ended` are history; `sent` and
`replies` are what the network may deliver as well. -/
structure State where
  generation : BitVec 32
  drawn : Nat
  trigger : Bytes
  phase : Phase
  received : List Bytes
  sent : List Sent
  replies : List Bytes
  ended : List Ended

/-- What the child's calls answer and what the network delivers; a `foreign` packet is not
from the peer. -/
inductive Action where
  | begin
  | send (whole : Bool)
  | timeout
  | failedCall
  | receive (reply : Nat)
  | foreign (packet : Bytes)
  | peer (trigger : Nat) (source checksum : BitVec 16)
  deriving DecidableEq, Repr

namespace State

def finish (state : State) (burst : Burst) (outcome : Outcome) : State :=
  { state with
    phase := .idle
    ended := state.ended ++ [⟨state.drawn, burst.generation, state.received, outcome⟩] }

/-- The beginning of `task_net_receive_burst`. -/
def beginBurst (state : State) : State :=
  let generation := taskNetNextRxGeneration state.generation
  { state with
    generation
    drawn := state.drawn + 1
    trigger := patch state.trigger 12 (littleEndian 4 (taskHtonl generation).toNat)
    phase := .asking ⟨generation, 0, 0, 0⟩
    received := [] }

/-- One round of the outer loop, up to `lkl_sys_sendto`. -/
def ask (state : State) (burst : Burst) (whole : Bool) : State :=
  let expected := 1#64 <<< taskNetThroughputPackets - 1
  let missing := expected &&& ~~~burst.seen
  let trigger := taskNetSetMissing state.trigger missing
  let asked := { state with trigger }
  if whole then
    { asked with
      phase := .waiting burst
      sent := state.sent ++ [⟨state.drawn, burst.generation, missing, state.received, trigger⟩] }
  else asked.finish burst .failedCall

/-- `poll` times out. -/
def retry (state : State) (burst : Burst) : State :=
  if burst.retry < taskNetRxRetryLimit then
    { state with phase := .asking { burst with retry := burst.retry + 1 } }
  else state.finish burst .exhausted

/-- A reply arrives; `recv` gives what fits into the packet. -/
def arrive (state : State) (burst : Burst) (reply : Bytes) : State :=
  let packet := reply.take lunaNetStressPayload
  let state := { state with received := state.received ++ [packet] }
  match receive burst packet with
  | .rejected => state.finish burst .rejected
  | .again burst => { state with phase := .waiting burst }
  | .complete burst => state.finish burst .complete

/-- The peer sends what it makes of a datagram. -/
def answer (state : State) : Handled → State
  | .replies segments => { state with replies := state.replies ++ segments.map Segment.payload }
  | _ => state

def next (state : State) : Action → Option State
  | .begin =>
      match state.phase with
      | .idle => some state.beginBurst
      | _ => none
  | .send whole =>
      match state.phase with
      | .asking burst => some (state.ask burst whole)
      | _ => none
  | .timeout =>
      match state.phase with
      | .waiting burst => some (state.retry burst)
      | _ => none
  | .failedCall =>
      match state.phase with
      | .waiting burst => some (state.finish burst .failedCall)
      | _ => none
  | .receive reply =>
      match state.phase with
      | .waiting burst => state.replies[reply]?.map (state.arrive burst)
      | _ => none
  | .foreign packet =>
      match state.phase with
      | .waiting burst => some (state.arrive burst packet)
      | _ => none
  | .peer trigger source checksum => state.sent[trigger]?.map fun sent =>
      state.answer (handleUdp (udpDatagram source checksum sent.bytes))

end State

def system : System State Action where
  init state := state = ⟨0, 0, preparedTrigger, .idle, [], [], [], []⟩
  next := State.next

/-- Fewer bursts than there are generations. -/
def FewGenerations (state : State) : Action → Prop
  | .begin => state.drawn + 1 < 2 ^ 32 - 1
  | _ => True

/-- The sequence numbers whose bodies, of the generation, are among the packets. -/
def present (generation : BitVec 32) (received : List Bytes) : Finset Nat :=
  (Finset.range taskNetThroughputPackets).filter fun sequence =>
    bodyOf generation sequence ∈ received

/-- The packet is one the peer makes. -/
def IsBody (packet : Bytes) : Prop :=
  ∃ generation, ∃ sequence < taskNetThroughputPackets, packet = bodyOf generation sequence

/-- A trigger that was sent is decoded and answered as it was meant, and asks for what
its burst had not received. -/
structure Sent.Right (sent : Sent) : Prop where
  numbered : sent.generation.toNat = sent.serial
  decoded : unpackRequest sent.bytes =
    ⟨taskNetThroughputPackets, lunaNetStressPayload, sent.generation.toNat, sent.missing.toNat⟩
  answered : ∀ source checksum, handleUdp (udpDatagram source checksum sent.bytes) =
    .replies ((asked sent.missing).map fun sequence =>
      ⟨udpPort, source.toNat, bodyOf sent.generation sequence,
        (sent.generation.toNat + sequence) % 2 ^ 16⟩)
  unseen : ∀ sequence, sent.missing.getLsbD sequence = true ↔
    sequence < taskNetThroughputPackets ∧ bodyOf sent.generation sequence ∉ sent.received

/-- A burst ends with 0 exactly when every body of its generation was received, and a
packet is rejected only if the peer does not make it. -/
structure Ended.Right (ended : Ended) : Prop where
  numbered : ended.generation.toNat = ended.serial
  completed : ended.outcome.code = 0 ↔
    present ended.generation ended.received = Finset.range taskNetThroughputPackets
  accepted : ended.outcome = .rejected → ∃ packet ∈ ended.received, ¬ IsBody packet

/-- What a burst counts while it runs: each sequence number of its own generation once. -/
structure Burst.Right (burst : Burst) (state : State) : Prop where
  numbered : burst.generation.toNat = state.drawn
  counted : burst.received = (present burst.generation state.received).card
  unfinished : burst.received < taskNetThroughputPackets
  seen : ∀ sequence, burst.seen.getLsbD sequence = true ↔
    sequence ∈ present burst.generation state.received

/-- What the recovery of bursts comes to. -/
structure Recovers (state : State) : Prop where
  sent : ∀ sent ∈ state.sent, sent.Right
  replies : ∀ reply ∈ state.replies, IsBody reply
  running : ∀ burst, state.phase = .asking burst ∨ state.phase = .waiting burst →
    burst.Right state
  ended : ∀ ended ∈ state.ended, ended.Right

/-- The trigger between the calls of the child. -/
structure Prepared (state : State) : Prop where
  few : state.drawn < 2 ^ 32 - 1
  numbered : state.generation.toNat = state.drawn
  length : state.trigger.length = taskNetBurstTriggerSize
  head : state.trigger.take 12 = triggerHead
  stored : ∀ burst, state.phase = .asking burst ∨ state.phase = .waiting burst →
    state.trigger.take 16 = triggerHead ++ bigEndian 4 burst.generation.toNat

variable {state : State} {burst : Burst}

theorem present_subset (generation : BitVec 32) (received : List Bytes) :
    present generation received ⊆ Finset.range taskNetThroughputPackets :=
  Finset.filter_subset _ _

theorem mem_present {generation : BitVec 32} {received : List Bytes} {sequence : Nat} :
    sequence ∈ present generation received ↔
      sequence < taskNetThroughputPackets ∧ bodyOf generation sequence ∈ received := by
  unfold present
  rw [Finset.mem_filter, Finset.mem_range]

/-- A packet that is no body of the generation counts for nothing. -/
theorem present_other {generation : BitVec 32} {received : List Bytes} {packet : Bytes}
    (foreign : ∀ sequence < taskNetThroughputPackets, packet ≠ bodyOf generation sequence) :
    present generation (received ++ [packet]) = present generation received := by
  ext sequence
  rw [mem_present, mem_present]
  refine and_congr_right fun inside => ?_
  rw [List.mem_append, List.mem_singleton]
  exact or_iff_left fun same => foreign sequence inside same.symm

theorem present_body {generation : BitVec 32} {received : List Bytes} {sequence : Nat}
    (inside : sequence < taskNetThroughputPackets) :
    present generation (received ++ [bodyOf generation sequence]) =
      insert sequence (present generation received) := by
  ext other
  rw [Finset.mem_insert, mem_present, mem_present, List.mem_append, List.mem_singleton]
  constructor
  · rintro ⟨insideToo, earlier | last⟩
    · exact .inr ⟨insideToo, earlier⟩
    · exact .inl (bodyOf_inj insideToo inside last).1
  · rintro (rfl | ⟨insideToo, earlier⟩)
    · exact ⟨inside, .inr rfl⟩
    · exact ⟨insideToo, .inl earlier⟩

/-- A burst that has not received everything does not end with 0. -/
theorem Burst.Right.present_ne (right : burst.Right state) :
    present burst.generation state.received ≠ Finset.range taskNetThroughputPackets := by
  intro all
  have counted := right.counted
  rw [all, Finset.card_range] at counted
  exact absurd right.unfinished (Nat.not_lt.mpr counted.ge)

/-! ## The steps -/

theorem Recovers.finish {outcome : Outcome} (recovers : Recovers state)
    (right : Ended.Right ⟨state.drawn, burst.generation, state.received, outcome⟩) :
    Recovers (state.finish burst outcome) where
  sent := recovers.sent
  replies := recovers.replies
  running other busy := by
    rcases busy with asking | waiting
    · cases asking
    · cases waiting
  ended ended member := by
    rcases List.mem_append.mp member with earlier | last
    · exact recovers.ended ended earlier
    · rw [List.mem_singleton.mp last]
      exact right

theorem Burst.Right.giveUp {outcome : Outcome} (right : burst.Right state)
    (failed : outcome.code ≠ 0) (accepted : outcome ≠ .rejected) :
    Ended.Right ⟨state.drawn, burst.generation, state.received, outcome⟩ where
  numbered := right.numbered
  completed := iff_of_false failed right.present_ne
  accepted rejected := absurd rejected accepted

theorem Prepared.finish {outcome : Outcome} (prepared : Prepared state) :
    Prepared (state.finish burst outcome) where
  few := prepared.few
  numbered := prepared.numbered
  length := prepared.length
  head := prepared.head
  stored other busy := by
    rcases busy with asking | waiting
    · cases asking
    · cases waiting

/-- The generation is the number of the burst. -/
theorem toNat_nextGeneration {generation : BitVec 32} (few : generation.toNat + 1 < 2 ^ 32 - 1) :
    (taskNetNextRxGeneration generation).toNat = generation.toNat + 1 := by
  have next : (generation + 1).toNat = generation.toNat + 1 := by
    have one : (1 : BitVec 32).toNat = 1 := rfl
    rw [BitVec.toNat_add, one]
    exact Nat.mod_eq_of_lt (by omega)
  unfold taskNetNextRxGeneration
  dsimp only
  rw [if_neg, next]
  intro zero
  have values := congrArg BitVec.toNat zero
  rw [next] at values
  cases values

theorem prepared_begin (prepared : Prepared state) (few : state.drawn + 1 < 2 ^ 32 - 1) :
    Prepared state.beginBurst := by
  have numbered := prepared.numbered
  have long : state.trigger.length = 24 := prepared.length
  have word := littleEndian_taskHtonl (taskNetNextRxGeneration state.generation)
  have width := length_bigEndian 4 (taskNetNextRxGeneration state.generation).toNat
  have ends := take_patch_end state.trigger
    (bigEndian 4 (taskNetNextRxGeneration state.generation).toNat) (by omega : 12 ≤ _)
  rw [width, prepared.head] at ends
  unfold State.beginBurst
  dsimp only
  rw [word]
  constructor
  case few => exact few
  case numbered =>
    dsimp only
    rw [toNat_nextGeneration (by omega), numbered]
  case length =>
    dsimp only
    rw [length_patch (by omega), prepared.length]
  case head =>
    dsimp only
    rw [take_patch (Nat.le_refl 12) (by omega), prepared.head]
  case stored =>
    rintro burst (isFirst | waiting)
    · cases isFirst
      exact ends
    · cases waiting

theorem recovers_begin (prepared : Prepared state) (recovers : Recovers state)
    (few : state.drawn + 1 < 2 ^ 32 - 1) : Recovers state.beginBurst where
  sent := recovers.sent
  replies := recovers.replies
  running burst busy := by
    have isFirst : burst = ⟨taskNetNextRxGeneration state.generation, 0, 0, 0⟩ := by
      rcases busy with asking | waiting
      · cases asking
        rfl
      · cases waiting
    have numbered := prepared.numbered
    have next : (taskNetNextRxGeneration state.generation).toNat = state.drawn + 1 := by
      rw [toNat_nextGeneration (by omega), numbered]
    have nothing : present (taskNetNextRxGeneration state.generation) [] = ∅ :=
      Finset.filter_eq_empty_iff.mpr fun _ _ => List.not_mem_nil
    rw [isFirst]
    refine ⟨next, ?_, Nat.succ_pos _, fun sequence => ?_⟩
    · exact (Finset.card_eq_zero.mpr nothing).symm
    · refine iff_of_false (by simp) fun member => ?_
      exact absurd (nothing ▸ member) (Finset.notMem_empty sequence)
  ended := recovers.ended

/-- What the child asks for, bit by bit. -/
theorem getLsbD_missing (seen : BitVec 64) (sequence : Nat) :
    ((1#64 <<< taskNetThroughputPackets - 1) &&& ~~~seen).getLsbD sequence = true ↔
      sequence < taskNetThroughputPackets ∧ ¬ seen.getLsbD sequence = true := by
  have expected : 1#64 <<< taskNetThroughputPackets - 1 = BitVec.ofNat 64 (2 ^ 24 - 1) := by
    decide
  rw [expected, BitVec.getLsbD_and, BitVec.getLsbD_not, BitVec.getLsbD_ofNat,
    Nat.testBit_two_pow_sub_one]
  unfold taskNetThroughputPackets
  simp only [Bool.and_eq_true, decide_eq_true_eq, Bool.not_eq_true', Bool.not_eq_true]
  constructor
  · rintro ⟨⟨-, inside⟩, -, unseen⟩
    exact ⟨inside, unseen⟩
  · rintro ⟨inside, unseen⟩
    exact ⟨⟨by omega, inside⟩, by omega, unseen⟩

/-- A trigger is sent. -/
theorem Burst.Right.asks (right : burst.Right state) (prepared : Prepared state)
    (asking : state.phase = .asking burst) :
    Sent.Right ⟨state.drawn, burst.generation,
      (1#64 <<< taskNetThroughputPackets - 1) &&& ~~~burst.seen, state.received,
      taskNetSetMissing state.trigger
        ((1#64 <<< taskNetThroughputPackets - 1) &&& ~~~burst.seen)⟩ := by
  have unseen : ∀ sequence,
      ((1#64 <<< taskNetThroughputPackets - 1) &&& ~~~burst.seen).getLsbD sequence = true ↔
        sequence < taskNetThroughputPackets ∧
          bodyOf burst.generation sequence ∉ state.received := by
    intro sequence
    rw [getLsbD_missing, right.seen, mem_present]
    exact and_congr_right fun inside => not_congr (and_iff_right inside)
  have bytes := taskNetSetMissing_eq prepared.length
    ((1#64 <<< taskNetThroughputPackets - 1) &&& ~~~burst.seen)
  rw [prepared.stored burst (.inl asking)] at bytes
  generalize (1#64 <<< taskNetThroughputPackets - 1) &&& ~~~burst.seen = missing at unseen bytes ⊢
  have isTrigger : taskNetSetMissing state.trigger missing =
      triggerOf burst.generation missing := bytes
  have something : missing ≠ 0 := by
    rintro rfl
    refine right.present_ne ((present_subset _ _).antisymm fun sequence member => ?_)
    have inside := Finset.mem_range.mp member
    have notMissing := mt (unseen sequence).mpr (by simp)
    rw [mem_present]
    exact ⟨inside, not_not.mp fun absent => notMissing ⟨inside, absent⟩⟩
  refine ⟨right.numbered, ?_, ?_, unseen⟩
  · dsimp only
    rw [isTrigger, unpackRequest_triggerOf]
  · intro source checksum
    dsimp only
    rw [isTrigger]
    exact handleUdp_triggerOf source checksum burst.generation something
      fun sequence set => ((unseen sequence).mp set).1

theorem prepared_ask {whole : Bool} (prepared : Prepared state)
    (asking : state.phase = .asking burst) : Prepared (state.ask burst whole) := by
  have stored := prepared.stored burst (.inl asking)
  have kept : Prepared { state with
      trigger := taskNetSetMissing state.trigger
        ((1#64 <<< taskNetThroughputPackets - 1) &&& ~~~burst.seen) } := by
    constructor
    case few => exact prepared.few
    case numbered => exact prepared.numbered
    case length => exact length_taskNetSetMissing prepared.length _
    case head =>
      dsimp only
      rw [take_taskNetSetMissing prepared.length _ (by decide), prepared.head]
    case stored =>
      intro other busy
      dsimp only at busy ⊢
      rw [take_taskNetSetMissing prepared.length _ (Nat.le_refl 16), prepared.stored other busy]
  unfold State.ask
  dsimp only
  split
  · refine ⟨kept.few, kept.numbered, kept.length, kept.head, ?_⟩
    rintro other (isAsking | isWaiting)
    · cases isAsking
    · cases isWaiting
      exact kept.stored burst (.inl asking)
  · exact kept.finish

theorem recovers_ask {whole : Bool} (prepared : Prepared state) (recovers : Recovers state)
    (asking : state.phase = .asking burst) : Recovers (state.ask burst whole) := by
  have right := recovers.running burst (.inl asking)
  have sent := right.asks prepared asking
  unfold State.ask
  dsimp only
  split
  · constructor
    case sent =>
      intro other member
      rcases List.mem_append.mp member with earlier | last
      · exact recovers.sent other earlier
      · rw [List.mem_singleton.mp last]
        exact sent
    case replies => exact recovers.replies
    case running =>
      rintro other (isAsking | isWaiting)
      · cases isAsking
      · cases isWaiting
        exact ⟨right.numbered, right.counted, right.unfinished, right.seen⟩
    case ended => exact recovers.ended
  · refine Recovers.finish ⟨recovers.sent, recovers.replies, ?_, recovers.ended⟩ ?_
    · intro other busy
      obtain ⟨numbered, counted, unfinished, seen⟩ := recovers.running other busy
      exact ⟨numbered, counted, unfinished, seen⟩
    · exact right.giveUp (by decide) nofun

theorem recovers_retry (recovers : Recovers state) (waiting : state.phase = .waiting burst) :
    Recovers (state.retry burst) := by
  have right := recovers.running burst (.inr waiting)
  unfold State.retry
  split
  · refine ⟨recovers.sent, recovers.replies, ?_, recovers.ended⟩
    rintro other (isAsking | isWaiting)
    · cases isAsking
      exact ⟨right.numbered, right.counted, right.unfinished, right.seen⟩
    · cases isWaiting
  · exact recovers.finish (right.giveUp (by decide) nofun)

theorem prepared_retry (prepared : Prepared state) (waiting : state.phase = .waiting burst) :
    Prepared (state.retry burst) := by
  unfold State.retry
  split
  · refine ⟨prepared.few, prepared.numbered, prepared.length, prepared.head, ?_⟩
    rintro other (isAsking | isWaiting)
    · cases isAsking
      exact prepared.stored burst (.inr waiting)
    · cases isWaiting
  · exact prepared.finish

theorem prepared_arrive (prepared : Prepared state) (waiting : state.phase = .waiting burst)
    (reply : Bytes) : Prepared (state.arrive burst reply) := by
  have stored := prepared.stored burst (.inr waiting)
  have kept : Prepared { state with
      received := state.received ++ [reply.take lunaNetStressPayload] } :=
    ⟨prepared.few, prepared.numbered, prepared.length, prepared.head, prepared.stored⟩
  have same := receive_generation burst (reply.take lunaNetStressPayload)
  unfold State.arrive
  dsimp only
  cases taken : receive burst (reply.take lunaNetStressPayload) with
  | rejected => exact kept.finish
  | again later =>
      refine ⟨kept.few, kept.numbered, kept.length, kept.head, ?_⟩
      rintro other (isAsking | isWaiting)
      · cases isAsking
      · cases isWaiting
        rw [same later (.inl taken)]
        exact stored
  | complete later => exact kept.finish

/-- A packet that is no body of the burst changes nothing that counts. -/
theorem Burst.Right.skips {packet : Bytes} (right : burst.Right state)
    (foreign : ∀ sequence < taskNetThroughputPackets, packet ≠ bodyOf burst.generation sequence) :
    burst.Right { state with received := state.received ++ [packet] } where
  numbered := right.numbered
  counted := by rw [present_other foreign, right.counted]
  unfinished := right.unfinished
  seen := by
    intro sequence
    rw [present_other foreign, right.seen]

/-- Nor does a body that was seen. -/
theorem Burst.Right.again {sequence : Nat} (right : burst.Right state)
    (inside : sequence < taskNetThroughputPackets)
    (seen : burst.seen.getLsbD sequence = true) :
    burst.Right { state with
      received := state.received ++ [bodyOf burst.generation sequence] } := by
  have same : present burst.generation (state.received ++ [bodyOf burst.generation sequence]) =
      present burst.generation state.received := by
    rw [present_body inside, Finset.insert_eq_of_mem ((right.seen sequence).mp seen)]
  refine ⟨right.numbered, ?_, right.unfinished, fun other => ?_⟩
  · dsimp only
    rw [same, right.counted]
  · dsimp only
    rw [same, right.seen]

/-- A body that was not seen counts once. -/
theorem Burst.Right.counts {sequence : Nat} (right : burst.Right state)
    (inside : sequence < taskNetThroughputPackets)
    (unseen : ¬ burst.seen.getLsbD sequence = true) :
    (burst.take sequence).received = (present burst.generation
        (state.received ++ [bodyOf burst.generation sequence])).card ∧
      ∀ other, (burst.take sequence).seen.getLsbD other = true ↔
        other ∈ present burst.generation
          (state.received ++ [bodyOf burst.generation sequence]) := by
  rw [present_body inside]
  constructor
  · have fresh := mt (right.seen sequence).mpr unseen
    rw [Finset.card_insert_of_notMem fresh, ← right.counted]
    rfl
  · intro other
    rw [getLsbD_take inside, Finset.mem_insert, right.seen, or_comm]

theorem recovers_arrive (recovers : Recovers state) (waiting : state.phase = .waiting burst)
    (reply : Bytes) : Recovers (state.arrive burst reply) := by
  have right := recovers.running burst (.inr waiting)
  unfold State.arrive
  dsimp only
  generalize reply.take lunaNetStressPayload = packet
  -- the burst that waits next, or that ends, is the only one that runs
  have continues : ∀ later : Burst,
      later.Right { state with received := state.received ++ [packet] } →
        Recovers { state with
          received := state.received ++ [packet]
          phase := .waiting later } := by
    intro later laterRight
    refine ⟨recovers.sent, recovers.replies, ?_, recovers.ended⟩
    rintro other (isAsking | isWaiting)
    · cases isAsking
    · cases isWaiting
      exact ⟨laterRight.numbered, laterRight.counted, laterRight.unfinished, laterRight.seen⟩
  have ends : ∀ (later : Burst) (outcome : Outcome),
      Ended.Right ⟨state.drawn, later.generation, state.received ++ [packet], outcome⟩ →
        Recovers (State.finish { state with received := state.received ++ [packet] }
          later outcome) := by
    intro later outcome ended
    refine ⟨recovers.sent, recovers.replies, ?_, ?_⟩
    · rintro other (isAsking | isWaiting)
      · cases isAsking
      · cases isWaiting
    · intro other member
      rcases List.mem_append.mp member with earlier | last
      · exact recovers.ended other earlier
      · rw [List.mem_singleton.mp last]
        exact ended
  by_cases foreign : ∀ sequence < taskNetThroughputPackets,
      packet ≠ bodyOf burst.generation sequence
  · have skips := right.skips foreign
    rcases receive_other foreign with rejected | again
    · rw [rejected]
      refine ends burst .rejected ⟨right.numbered, iff_of_false rejected_code skips.present_ne,
        fun _ => ⟨packet, List.mem_append_right _ (List.mem_singleton_self packet), ?_⟩⟩
      rintro ⟨generation, sequence, inside, rfl⟩
      by_cases own : generation = burst.generation
      · exact foreign sequence inside (by rw [own])
      · rw [receive_stale inside own] at rejected
        cases rejected
    · rw [again]
      exact continues burst skips
  · obtain ⟨sequence, inside, rfl⟩ : ∃ sequence < taskNetThroughputPackets,
        packet = bodyOf burst.generation sequence := by
      by_contra none
      exact foreign fun sequence inside same => none ⟨sequence, inside, same⟩
    rw [receive_bodyOf inside]
    by_cases seen : burst.seen.getLsbD sequence = true
    · rw [if_pos seen]
      exact continues burst (right.again inside seen)
    · obtain ⟨counted, seenNow⟩ := right.counts inside seen
      rw [if_neg seen]
      by_cases finished : (burst.take sequence).received = taskNetThroughputPackets
      · rw [if_pos finished]
        refine ends (burst.take sequence) .complete ⟨right.numbered, iff_of_true rfl ?_, nofun⟩
        refine Finset.eq_of_subset_of_card_le (present_subset _ _) ?_
        rw [Finset.card_range]
        exact (counted.symm.trans finished).ge
      · rw [if_neg finished]
        have bound := right.unfinished
        have oneMore : (burst.take sequence).received = burst.received + 1 := rfl
        exact continues (burst.take sequence) ⟨right.numbered, counted, by omega, seenNow⟩

theorem recovers_answer (recovers : Recovers state) {sent : Sent} (member : sent ∈ state.sent)
    (source checksum : BitVec 16) :
    Recovers (state.answer (handleUdp (udpDatagram source checksum sent.bytes))) := by
  rw [(recovers.sent sent member).answered source checksum]
  refine ⟨recovers.sent, fun reply isReply => ?_, fun burst busy => ?_, recovers.ended⟩
  · rcases List.mem_append.mp isReply with earlier | answered
    · exact recovers.replies reply earlier
    · obtain ⟨segment, isSegment, rfl⟩ := List.mem_map.mp answered
      obtain ⟨sequence, isAsked, rfl⟩ := List.mem_map.mp isSegment
      have inside := List.mem_range.mp (List.mem_filter.mp isAsked).1
      exact ⟨sent.generation, sequence, inside, rfl⟩
  · obtain ⟨numbered, counted, unfinished, seen⟩ := recovers.running burst busy
    exact ⟨numbered, counted, unfinished, seen⟩

theorem prepared_answer (prepared : Prepared state) (handled : Handled) :
    Prepared (state.answer handled) := by
  cases handled with
  | ignored => exact prepared
  | txStream source payload => exact prepared
  | replies segments =>
      exact ⟨prepared.few, prepared.numbered, prepared.length, prepared.head, prepared.stored⟩

theorem recovers_next {action : Action} {target : State} (prepared : Prepared state)
    (recovers : Recovers state) (few : FewGenerations state action)
    (step : system.next state action = some target) : Prepared target ∧ Recovers target := by
  cases action with
  | begin =>
      simp only [system, State.next] at step
      split at step
      next =>
        cases step
        exact ⟨prepared_begin prepared few, recovers_begin prepared recovers few⟩
      next => cases step
  | send whole =>
      simp only [system, State.next] at step
      split at step
      next burst asking =>
        cases step
        exact ⟨prepared_ask prepared asking, recovers_ask prepared recovers asking⟩
      next => cases step
  | timeout =>
      simp only [system, State.next] at step
      split at step
      next burst waiting =>
        cases step
        exact ⟨prepared_retry prepared waiting, recovers_retry recovers waiting⟩
      next => cases step
  | failedCall =>
      simp only [system, State.next] at step
      split at step
      next burst waiting =>
        cases step
        have right := recovers.running burst (.inr waiting)
        exact ⟨prepared.finish, recovers.finish (right.giveUp (by decide) nofun)⟩
      next => cases step
  | receive reply =>
      simp only [system, State.next] at step
      split at step
      next burst waiting =>
        obtain ⟨datagram, -, rfl⟩ := Option.map_eq_some_iff.mp step
        exact ⟨prepared_arrive prepared waiting datagram,
          recovers_arrive recovers waiting datagram⟩
      next => cases step
  | foreign packet =>
      simp only [system, State.next] at step
      split at step
      next burst waiting =>
        cases step
        exact ⟨prepared_arrive prepared waiting packet, recovers_arrive recovers waiting packet⟩
      next => cases step
  | peer trigger source checksum =>
      obtain ⟨sent, found, rfl⟩ := Option.map_eq_some_iff.mp step
      exact ⟨prepared_answer prepared _,
        recovers_answer recovers (List.mem_of_getElem? found) source checksum⟩

/-- Over any network that loses, repeats, delays and reorders datagrams, and whatever else
arrives at the child's socket. -/
theorem bursts_recover (reached : system.Reach FewGenerations state) : Recovers state := by
  suffices both : Prepared state ∧ Recovers state from both.2
  refine System.Reach.invariant (fun state => Prepared state ∧ Recovers state) ?_ ?_ reached
  · rintro _ rfl
    have running : ∀ burst, Phase.idle ≠ .asking burst ∧ Phase.idle ≠ .waiting burst :=
      fun burst => ⟨nofun, nofun⟩
    constructor
    · exact ⟨by decide, rfl, take_preparedTrigger.1, take_preparedTrigger.2,
        fun burst busy => absurd busy (not_or.mpr (running burst))⟩
    · exact ⟨nofun, nofun, fun burst busy => absurd busy (not_or.mpr (running burst)), nofun⟩
  · intro state action target holds few step
    exact recovers_next holds.1 holds.2 few step

instance (state : State) (action : Action) : Decidable (FewGenerations state action) :=
  match action with
  | .begin => inferInstanceAs (Decidable (_ < _))
  | .send _ | .timeout | .failedCall | .receive _ | .foreign _ | .peer .. => .isTrue trivial

/-! ## Completion -/

/-- A body that was not seen counts, and the last one completes the burst. -/
theorem arrive_unseen {sequence : Nat} (inside : sequence < taskNetThroughputPackets)
    (unseen : ¬ burst.seen.getLsbD sequence = true) :
    let later := { state with
      received := state.received ++ [bodyOf burst.generation sequence] }
    state.arrive burst (bodyOf burst.generation sequence) =
      if (burst.take sequence).received = taskNetThroughputPackets then
        later.finish (burst.take sequence) .complete
      else { later with phase := .waiting (burst.take sequence) } := by
  have whole : (bodyOf burst.generation sequence).take lunaNetStressPayload =
      bodyOf burst.generation sequence := List.take_of_length_le (length_bodyOf _ _).le
  unfold State.arrive
  dsimp only
  rw [whole, receive_bodyOf inside, if_neg unseen]
  by_cases finished : (burst.take sequence).received = taskNetThroughputPackets
  · rw [if_pos finished, if_pos finished]
  · rw [if_neg finished, if_neg finished]

theorem Burst.Right.exists_unseen (right : burst.Right state) :
    ∃ sequence < taskNetThroughputPackets, ¬ burst.seen.getLsbD sequence = true := by
  by_contra all
  refine right.present_ne (Finset.Subset.antisymm (present_subset _ _) fun sequence member => ?_)
  by_contra absent
  exact all ⟨sequence, Finset.mem_range.mp member, mt (right.seen sequence).mp absent⟩

/-- A waiting burst whose missing bodies are on their way can complete. -/
theorem Recovers.completes (recovers : Recovers state) (waiting : state.phase = .waiting burst)
    (onWay : ∀ sequence < taskNetThroughputPackets, ¬ burst.seen.getLsbD sequence = true →
      bodyOf burst.generation sequence ∈ state.replies) :
    ∃ target, system.Leads FewGenerations state target ∧ target.sent = state.sent ∧
      ∃ received, target.ended =
        state.ended ++ [⟨state.drawn, burst.generation, received, .complete⟩] := by
  -- by the number of bodies still missing
  induction missing : taskNetThroughputPackets - burst.received generalizing state burst with
  | zero =>
      have unfinished := (recovers.running burst (.inr waiting)).unfinished
      omega
  | succ missing inductionHypothesis =>
      obtain ⟨sequence, inside, unseen⟩ := (recovers.running burst (.inr waiting)).exists_unseen
      obtain ⟨index, found⟩ := List.mem_iff_getElem?.mp (onWay sequence inside unseen)
      have moved : system.next state (.receive index) =
          some (state.arrive burst (bodyOf burst.generation sequence)) := by
        simp [system, State.next, waiting, found]
      have arrived := recovers_arrive recovers waiting (bodyOf burst.generation sequence)
      rw [arrive_unseen inside unseen] at moved arrived
      have leads : system.Leads FewGenerations state _ :=
        System.Leads.next (.receive index) trivial moved
      by_cases finished : (burst.take sequence).received = taskNetThroughputPackets
      · rw [if_pos finished] at leads
        exact ⟨_, leads, rfl, _, rfl⟩
      · rw [if_neg finished] at leads arrived
        have fewer : (burst.take sequence).received = burst.received + 1 := rfl
        obtain ⟨target, further, sent, ends⟩ := inductionHypothesis arrived rfl
          (fun other below left => onWay other below fun seen =>
            left ((getLsbD_take inside other).mpr (.inl seen))) (by omega)
        exact ⟨target, leads.trans further, sent, ends⟩

theorem answer_keeps (state : State) (handled : Handled) :
    (state.answer handled).phase = state.phase ∧ (state.answer handled).sent = state.sent ∧
      (state.answer handled).ended = state.ended := by
  cases handled <;> exact ⟨rfl, rfl, rfl⟩

/-- The peer's answer to a trigger brings what the trigger asks for. -/
theorem Sent.Right.brings {sent : Sent} (right : sent.Right) (state : State)
    (source checksum : BitVec 16) {sequence : Nat} (wanted : sequence ∈ asked sent.missing) :
    bodyOf sent.generation sequence ∈
      (state.answer (handleUdp (udpDatagram source checksum sent.bytes))).replies := by
  rw [right.answered source checksum]
  refine List.mem_append_right _ (List.mem_map.mpr ⟨_, List.mem_map.mpr ⟨sequence, wanted, rfl⟩, ?_⟩)
  rfl

/-- Of the bodies only the second arrives, twice, and the retry does not ask for it. -/
def retriedRun : List Action :=
  [.begin, .send true, .peer 0 4000 0, .receive 1, .receive 1, .timeout, .send true]

/-- The answer to the retry completes the burst. -/
theorem bursts_recover_retry :
    ∃ state, system.Reach FewGenerations state ∧
      state.sent.map Sent.missing = [0xffffff#64, 0xfffffd#64] ∧
      state.ended.map Ended.outcome = [.complete] ∧ Recovers state := by
  obtain ⟨state, reached, ends⟩ := System.exists_reach_of_exec system FewGenerations
    ⟨0, 0, preparedTrigger, .idle, [], [], [], []⟩ retriedRun
    (fun state => decide (state.phase = .waiting ⟨1, 2, 1, 1⟩ ∧
      state.sent.map (fun sent => (sent.generation, sent.missing)) =
        [(1, 0xffffff#64), (1, 0xfffffd#64)] ∧ state.ended.length = 0)) rfl (by decide +kernel)
  obtain ⟨waiting, sent, none⟩ := of_decide_eq_true ends
  have second : state.sent[1]?.map (fun sent => (sent.generation, sent.missing)) =
      some (1, 0xfffffd#64) := by
    rw [← List.getElem?_map, sent]
    rfl
  obtain ⟨retry, found, asks⟩ := Option.map_eq_some_iff.mp second
  obtain ⟨generation, missing⟩ := Prod.mk.inj asks
  have right := (bursts_recover reached).sent retry (List.mem_of_getElem? found)
  obtain ⟨phase, keptSent, keptEnded⟩ :=
    answer_keeps state (handleUdp (udpDatagram 4000 0 retry.bytes))
  have moved : system.next state (.peer 1 4000 0) =
      some (state.answer (handleUdp (udpDatagram 4000 0 retry.bytes))) := by
    simp [system, State.next, found]
  have answered : system.Reach FewGenerations _ :=
    .step reached (show FewGenerations state (.peer 1 4000 0) from trivial) moved
  have missed : ∀ sequence < taskNetThroughputPackets, ¬ (2#64).getLsbD sequence = true →
      sequence ∈ asked 0xfffffd#64 := by decide
  obtain ⟨target, leads, sentStays, received, completed⟩ :=
    (bursts_recover answered).completes (phase.trans waiting) fun sequence inside unseen => by
      rw [← missing] at missed
      have brought := right.brings state 4000 0 (missed sequence inside unseen)
      rwa [generation] at brought
  have ending := answered.leads leads
  refine ⟨target, ending, ?_, ?_, bursts_recover ending⟩
  · have missings := congrArg (List.map Prod.snd) sent
    rw [List.map_map] at missings
    rw [sentStays, keptSent]
    exact missings
  · rw [completed, keptEnded, List.eq_nil_of_length_eq_zero none]
    rfl

end Luna.RxBurst
