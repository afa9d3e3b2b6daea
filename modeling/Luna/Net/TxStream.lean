import Mathlib.Data.Finset.Card
import Mathlib.Data.Finset.Range
import Luna.Lib.Interleaving
import Luna.Net.RxBurst

/-!
# Transmitted streams

`luna_lkl_task_net_tx_pressure_smoke` and `task_net_tx_throughput_benchmark` send streams of
numbered packets, and the peer's `handle_tx_stream` acknowledges a stream that is complete.
Between them is a network that may lose, duplicate, delay and reorder what is sent, and
others may send to the peer as well.
-/

namespace Luna.TxStream

open ByteOrder Interleaving
open RxBurst (Bytes taskHtonl taskNtohl load32 Segment txUdpPort)

def lunaNetTxStressPackets : Nat := 2048
def lunaNetTxStressPayload : Nat := 1200
def taskNetTxThroughputRounds : Nat := 1
def taskNetTxThroughputPackets : Nat := 32768
def taskNetTxAttempts : Nat := 3

/-- `LUNATX25`. -/
def txMagic : Bytes := [76, 85, 78, 65, 84, 88, 50, 53]

/-- `LUNATXOK`. -/
def txAckMagic : Bytes := [76, 85, 78, 65, 84, 88, 79, 75]

/-! ## The peer -/

/-- A stream: its source port and how many packets it has. -/
abbrev Key := Nat × Nat

/-- `tx_streams` and `tx_completed`; a key without an entry has the empty set. -/
structure Peer where
  txStreams : Key → Finset Nat
  txCompleted : Key → Bool

def Peer.fresh : Peer := ⟨fun _ => ∅, fun _ => false⟩

/-- The checks of `handle_tx_stream`: the packet's sequence number and count. -/
def parse (payload : Bytes) : Option (Nat × Nat) :=
  if payload.length ≠ 1200 ∨ payload.take 8 ≠ txMagic then none
  else
    let sequence := ofBigEndian ((payload.drop 8).take 4)
    let count := ofBigEndian ((payload.drop 12).take 4)
    if ¬(1 ≤ count ∧ count ≤ 65536) ∨ count ≤ sequence then none
    else if payload.drop 16 ≠
        List.replicate (payload.length - 16) (UInt8.ofNat (sequence % 256)) then none
    else some (sequence, count)

/-- What an acknowledgement consists of. -/
def ackPayload (count : Nat) : Bytes :=
  txAckMagic ++ (bigEndian 4 count ++ bigEndian 4 (count * 1200))

def ackSegment (source count : Nat) : Segment :=
  ⟨txUdpPort, source, ackPayload count, 0x4000⟩

def handleTxStream (peer : Peer) (source : Nat) (payload : Bytes) : Peer × Option Segment :=
  match parse payload with
  | none => (peer, none)
  | some (sequence, count) =>
      let key := (source, count)
      if peer.txCompleted key then (peer, some (ackSegment source count))
      else
        let received := insert sequence (peer.txStreams key)
        if received.card ≠ count then
          ({ peer with txStreams := Function.update peer.txStreams key received }, none)
        else
          ({ txStreams := Function.update peer.txStreams key ∅
             txCompleted := Function.update peer.txCompleted key true },
            some (ackSegment source count))

/-- The peer after some datagrams, each with its source port. -/
def Peer.after (datagrams : List (Nat × Bytes)) : Peer :=
  datagrams.foldl (fun peer datagram => (handleTxStream peer datagram.1 datagram.2).1) .fresh

/-- The sequence numbers of a stream among some datagrams. -/
def arrived (datagrams : List (Nat × Bytes)) (key : Key) : Finset Nat :=
  ((datagrams.filter fun datagram => decide (datagram.1 = key.1)).filterMap fun datagram =>
    (parse datagram.2).bind fun fields =>
      if fields.2 = key.2 then some fields.1 else none).toFinset

/-- All of a stream has arrived. -/
def Whole (datagrams : List (Nat × Bytes)) (key : Key) : Prop :=
  0 < key.2 ∧ Finset.range key.2 ⊆ arrived datagrams key

theorem mem_arrived {datagrams : List (Nat × Bytes)} {key : Key} {sequence : Nat} :
    sequence ∈ arrived datagrams key ↔
      ∃ payload, (key.1, payload) ∈ datagrams ∧ parse payload = some (sequence, key.2) := by
  simp only [arrived, List.mem_toFinset, List.mem_filterMap, List.mem_filter, decide_eq_true_eq,
    Option.bind_eq_some_iff]
  constructor
  · rintro ⟨⟨source, payload⟩, ⟨member, rfl⟩, ⟨found, count⟩, parsed, same⟩
    split at same
    next here =>
      cases same
      exact ⟨payload, member, by rw [parsed, ← here]⟩
    next => cases same
  · rintro ⟨payload, member, parsed⟩
    exact ⟨(key.1, payload), ⟨member, rfl⟩, (sequence, key.2), parsed, if_pos rfl⟩

theorem parse_bounds {payload : Bytes} {sequence count : Nat}
    (parsed : parse payload = some (sequence, count)) :
    0 < count ∧ count ≤ 65536 ∧ sequence < count := by
  unfold parse at parsed
  split at parsed
  · cases parsed
  dsimp only at parsed
  split at parsed
  · cases parsed
  next bounds =>
    split at parsed
    · cases parsed
    · cases parsed
      omega

/-! ## When the peer acknowledges -/

section Arrivals

variable {datagrams : List (Nat × Bytes)} {source : Nat} {payload : Bytes} {key : Key}
  {sequence count : Nat}

theorem arrived_subset : arrived datagrams key ⊆ Finset.range key.2 := by
  intro sequence member
  obtain ⟨payload, -, parsed⟩ := mem_arrived.mp member
  exact Finset.mem_range.mpr (parse_bounds parsed).2.2

theorem arrived_same (parsed : parse payload = some (sequence, count)) :
    arrived (datagrams ++ [(source, payload)]) (source, count) =
      insert sequence (arrived datagrams (source, count)) := by
  ext other
  rw [Finset.mem_insert, mem_arrived, mem_arrived]
  constructor
  · rintro ⟨found, member, foundParsed⟩
    rcases List.mem_append.mp member with old | new
    · exact .inr ⟨found, old, foundParsed⟩
    · obtain rfl : found = payload := by simpa using new
      rw [parsed] at foundParsed
      exact .inl (by simpa using foundParsed.symm)
  · rintro (rfl | ⟨found, old, foundParsed⟩)
    · exact ⟨payload, by simp, parsed⟩
    · exact ⟨found, List.mem_append_left _ old, foundParsed⟩

theorem arrived_other (different : ∀ sequence, parse payload = some (sequence, key.2) →
    key.1 ≠ source) :
    arrived (datagrams ++ [(source, payload)]) key = arrived datagrams key := by
  ext other
  rw [mem_arrived, mem_arrived]
  constructor
  · rintro ⟨found, member, foundParsed⟩
    rcases List.mem_append.mp member with old | new
    · exact ⟨found, old, foundParsed⟩
    · obtain ⟨same, rfl⟩ : key.1 = source ∧ found = payload := by simpa using new
      exact absurd same (different other foundParsed)
  · rintro ⟨found, old, foundParsed⟩
    exact ⟨found, List.mem_append_left _ old, foundParsed⟩

theorem Whole.append (whole : Whole datagrams key) (more : List (Nat × Bytes)) :
    Whole (datagrams ++ more) key := by
  refine ⟨whole.1, fun sequence member => ?_⟩
  obtain ⟨payload, old, parsed⟩ := mem_arrived.mp (whole.2 member)
  exact mem_arrived.mpr ⟨payload, List.mem_append_left _ old, parsed⟩

/-- As many as the stream has are all of them. -/
theorem whole_iff_card (positive : 0 < key.2) :
    Whole datagrams key ↔ (arrived datagrams key).card = key.2 := by
  constructor
  · intro whole
    rw [Finset.Subset.antisymm arrived_subset whole.2, Finset.card_range]
  · intro full
    refine ⟨positive, ?_⟩
    rw [Finset.eq_of_subset_of_card_le arrived_subset (by rw [full, Finset.card_range])]

/-- What the peer knows of every stream. -/
structure Knows (peer : Peer) (datagrams : List (Nat × Bytes)) : Prop where
  completed : ∀ key, peer.txCompleted key = true ↔ Whole datagrams key
  streams : ∀ key, ¬Whole datagrams key → peer.txStreams key = arrived datagrams key

variable {peer : Peer}

theorem Knows.ignore (knows : Knows peer datagrams) (ignored : parse payload = none) :
    Knows peer (datagrams ++ [(source, payload)]) := by
  have same : ∀ key, arrived (datagrams ++ [(source, payload)]) key = arrived datagrams key :=
    fun key => arrived_other fun sequence parsed => by simp [ignored] at parsed
  have whole : ∀ key, Whole (datagrams ++ [(source, payload)]) key ↔ Whole datagrams key :=
    fun key => by unfold Whole; rw [same]
  refine ⟨fun key => ?_, fun key missing => ?_⟩
  · rw [whole]
    exact knows.completed key
  · rw [same]
    exact knows.streams key (mt (whole key).mpr missing)

/-- What concerns one stream leaves the others as they are. -/
theorem Knows.onward {after : Peer} {more : List (Nat × Bytes)} (knows : Knows peer datagrams)
    (others : ∀ other, other ≠ key → arrived (datagrams ++ more) other = arrived datagrams other)
    (completed : ∀ other, other ≠ key → after.txCompleted other = peer.txCompleted other)
    (streams : ∀ other, other ≠ key → after.txStreams other = peer.txStreams other)
    (completedHere : after.txCompleted key = true ↔ Whole (datagrams ++ more) key)
    (streamsHere : ¬Whole (datagrams ++ more) key →
      after.txStreams key = arrived (datagrams ++ more) key) :
    Knows after (datagrams ++ more) := by
  have elsewhere : ∀ other, other ≠ key →
      (Whole (datagrams ++ more) other ↔ Whole datagrams other) := by
    intro other differs
    unfold Whole
    rw [others other differs]
  refine ⟨fun other => ?_, fun other missing => ?_⟩
  · by_cases here : other = key
    · subst here
      exact completedHere
    · rw [elsewhere other here, completed other here]
      exact knows.completed other
  · by_cases here : other = key
    · subst here
      exact streamsHere missing
    · rw [others other here, streams other here]
      exact knows.streams other (mt (elsewhere other here).mpr missing)

/-- One datagram: what is acknowledged is whole, and the peer goes on knowing. -/
theorem Knows.handle (knows : Knows peer datagrams) (source : Nat) (payload : Bytes) :
    Knows (handleTxStream peer source payload).1 (datagrams ++ [(source, payload)]) ∧
      ∀ segment, (handleTxStream peer source payload).2 = some segment ↔
        ∃ sequence count, parse payload = some (sequence, count) ∧
          Whole (datagrams ++ [(source, payload)]) (source, count) ∧
          segment = ackSegment source count := by
  unfold handleTxStream
  cases parsed : parse payload with
  | none => exact ⟨knows.ignore parsed, by simp⟩
  | some fields =>
      obtain ⟨sequence, count⟩ := fields
      have positive : 0 < count := (parse_bounds parsed).1
      have others : ∀ key, key ≠ (source, count) →
          arrived (datagrams ++ [(source, payload)]) key = arrived datagrams key := by
        intro key differs
        refine arrived_other fun found foundParsed same => differs ?_
        rw [parsed] at foundParsed
        obtain ⟨-, rfl⟩ : sequence = found ∧ count = key.2 := by simpa using foundParsed
        exact Prod.ext same rfl
      have answers : Whole (datagrams ++ [(source, payload)]) (source, count) → ∀ segment,
          some (ackSegment source count) = some segment ↔
            ∃ found size, some (sequence, count) = some (found, size) ∧
              Whole (datagrams ++ [(source, payload)]) (source, size) ∧
              segment = ackSegment source size := by
        intro whole segment
        constructor
        · intro answered
          cases answered
          exact ⟨sequence, count, rfl, whole, rfl⟩
        · rintro ⟨_, _, same, -, rfl⟩
          cases same
          rfl
      dsimp only
      split
      next done =>
        have whole := ((knows.completed _).mp done).append [(source, payload)]
        exact ⟨knows.onward others (fun _ _ => rfl) (fun _ _ => rfl) (iff_of_true done whole)
          (absurd whole), answers whole⟩
      next pending =>
        have missing : ¬Whole datagrams (source, count) := mt (knows.completed _).mpr pending
        rw [knows.streams _ missing, ← arrived_same parsed]
        split
        next short =>
          have stillMissing : ¬Whole (datagrams ++ [(source, payload)]) (source, count) :=
            mt (whole_iff_card positive).mp short
          refine ⟨knows.onward others (fun _ _ => rfl)
            (fun _ differs => Function.update_of_ne differs ..)
            (iff_of_false pending stillMissing) (fun _ => Function.update_self ..),
            fun segment => ⟨by simp, ?_⟩⟩
          rintro ⟨_, _, same, whole, -⟩
          cases same
          exact absurd whole stillMissing
        next full =>
          have whole : Whole (datagrams ++ [(source, payload)]) (source, count) :=
            (whole_iff_card positive).mpr (not_not.mp full)
          exact ⟨knows.onward others (fun _ differs => Function.update_of_ne differs ..)
            (fun _ differs => Function.update_of_ne differs ..)
            (iff_of_true (Function.update_self ..) whole) (absurd whole), answers whole⟩

theorem knows_after (datagrams : List (Nat × Bytes)) :
    Knows (Peer.after datagrams) datagrams := by
  induction datagrams using List.reverseRecOn with
  | nil =>
      refine ⟨fun key => iff_of_false (by simp [Peer.after, Peer.fresh]) fun whole => ?_,
        fun key _ => rfl⟩
      obtain ⟨payload, member, -⟩ :=
        mem_arrived.mp (whole.2 (Finset.mem_range.mpr whole.1))
      cases member
  | append_singleton before last inductionHypothesis =>
      unfold Peer.after
      rw [List.foldl_append]
      exact (inductionHypothesis.handle last.1 last.2).1

/-- Whatever has been sent to the peer by whomever: it acknowledges a packet exactly when,
with it, every packet of its stream has arrived, and it acknowledges the whole stream. -/
theorem acknowledges_iff (datagrams : List (Nat × Bytes)) (source : Nat) (payload : Bytes)
    (segment : Segment) :
    (handleTxStream (Peer.after datagrams) source payload).2 = some segment ↔
      ∃ sequence count, parse payload = some (sequence, count) ∧
        Whole (datagrams ++ [(source, payload)]) (source, count) ∧
        segment = ackSegment source count :=
  ((knows_after datagrams).handle source payload).2 segment

end Arrivals

/-! ## Packets -/

/-- What the child puts into a packet. -/
def txPacket (sequence count : BitVec 32) : Bytes :=
  txMagic ++ (littleEndian 4 (taskHtonl sequence).toNat ++
    (littleEndian 4 (taskHtonl count).toNat ++
      List.replicate (lunaNetTxStressPayload - 16) (UInt8.ofNat sequence.toNat)))

theorem txPacket_eq (sequence count : BitVec 32) : txPacket sequence count =
    txMagic ++ (bigEndian 4 sequence.toNat ++ (bigEndian 4 count.toNat ++
      List.replicate 1184 (UInt8.ofNat sequence.toNat))) := by
  unfold txPacket
  rw [RxBurst.littleEndian_taskHtonl, RxBurst.littleEndian_taskHtonl]
  rfl

/-- The fields of a packet and the rest of it. -/
theorem txPacket_drop (sequence count : BitVec 32) :
    (txPacket sequence count).length = 1200 ∧
      (txPacket sequence count).drop 8 = bigEndian 4 sequence.toNat ++
        (bigEndian 4 count.toNat ++ List.replicate 1184 (UInt8.ofNat sequence.toNat)) ∧
      (txPacket sequence count).drop 12 =
        bigEndian 4 count.toNat ++ List.replicate 1184 (UInt8.ofNat sequence.toNat) ∧
      (txPacket sequence count).drop 16 = List.replicate 1184 (UInt8.ofNat sequence.toNat) := by
  have eight : (txPacket sequence count).drop 8 = bigEndian 4 sequence.toNat ++
      (bigEndian 4 count.toNat ++ List.replicate 1184 (UInt8.ofNat sequence.toNat)) := by
    rw [txPacket_eq]
    exact List.drop_left' rfl
  have twelve : (txPacket sequence count).drop 12 =
      bigEndian 4 count.toNat ++ List.replicate 1184 (UInt8.ofNat sequence.toNat) := by
    rw [← List.drop_drop (i := 4) (j := 8), eight, RxBurst.drop_bigEndian_append]
  refine ⟨?_, eight, twelve, ?_⟩
  · rw [txPacket_eq, List.length_append, List.length_append, List.length_append,
      length_bigEndian, length_bigEndian, List.length_replicate]
    rfl
  · rw [← List.drop_drop (i := 4) (j := 12), twelve, RxBurst.drop_bigEndian_append]

/-- The peer reads what the child wrote. -/
theorem parse_txPacket {sequence count : BitVec 32} (positive : 1 ≤ count.toNat)
    (small : count.toNat ≤ 65536) (within : sequence.toNat < count.toNat) :
    parse (txPacket sequence count) = some (sequence.toNat, count.toNat) := by
  obtain ⟨length, eight, twelve, sixteen⟩ := txPacket_drop sequence count
  have magic : (txPacket sequence count).take 8 = txMagic := by
    rw [txPacket_eq]
    exact List.take_left' rfl
  have sequenceIs : sequence.toNat % 256 ^ 4 = sequence.toNat := Nat.mod_eq_of_lt sequence.isLt
  have countIs : count.toNat % 256 ^ 4 = count.toNat := Nat.mod_eq_of_lt count.isLt
  have byte : UInt8.ofNat (sequence.toNat % 256) = UInt8.ofNat sequence.toNat := by
    apply UInt8.toNat_inj.mp
    simp
  unfold parse
  rw [if_neg (by simp [length, magic]), eight, twelve, sixteen,
    RxBurst.take_bigEndian_append, RxBurst.take_bigEndian_append, ofBigEndian_bigEndian,
    ofBigEndian_bigEndian, sequenceIs, countIs]
  dsimp only
  rw [if_neg (by omega), length, byte, if_neg (not_not_intro rfl)]

/-- A packet the peer accepts is the child's, byte by byte. -/
theorem eq_txPacket {payload : Bytes} {sequence count : Nat}
    (parsed : parse payload = some (sequence, count)) :
    payload = txPacket (BitVec.ofNat 32 sequence) (BitVec.ofNat 32 count) := by
  obtain ⟨-, small, within⟩ := parse_bounds parsed
  have sequenceIs : (BitVec.ofNat 32 sequence).toNat = sequence := by
    rw [BitVec.toNat_ofNat]
    omega
  have countIs : (BitVec.ofNat 32 count).toNat = count := by
    rw [BitVec.toNat_ofNat]
    omega
  unfold parse at parsed
  split at parsed
  · cases parsed
  next shape =>
    obtain ⟨length, magic⟩ := not_or.mp shape
    rw [not_not] at length magic
    dsimp only at parsed
    split at parsed
    · cases parsed
    split at parsed
    · cases parsed
    next fill =>
      obtain ⟨rfl, rfl⟩ := by simpa using parsed
      have byte : UInt8.ofNat (ofBigEndian ((payload.drop 8).take 4) % 256) =
          UInt8.ofNat (ofBigEndian ((payload.drop 8).take 4)) := by
        apply UInt8.toNat_inj.mp
        simp
      rw [not_not, length, byte] at fill
      have second : (payload.drop 8).drop 4 = payload.drop 12 := List.drop_drop ..
      have third : (payload.drop 12).drop 4 = payload.drop 16 := List.drop_drop ..
      have sequenceBytes : bigEndian 4 (ofBigEndian ((payload.drop 8).take 4)) =
          (payload.drop 8).take 4 := by
        have bytes := bigEndian_ofBigEndian ((payload.drop 8).take 4)
        rwa [List.length_take, List.length_drop, length] at bytes
      have countBytes : bigEndian 4 (ofBigEndian ((payload.drop 12).take 4)) =
          (payload.drop 12).take 4 := by
        have bytes := bigEndian_ofBigEndian ((payload.drop 12).take 4)
        rwa [List.length_take, List.length_drop, length] at bytes
      rw [txPacket_eq, sequenceIs, countIs, sequenceBytes, countBytes, ← magic]
      calc payload = payload.take 8 ++ payload.drop 8 := (List.take_append_drop 8 payload).symm
        _ = payload.take 8 ++ ((payload.drop 8).take 4 ++ payload.drop 12) := by
            rw [← second, List.take_append_drop 4 (payload.drop 8)]
        _ = payload.take 8 ++ ((payload.drop 8).take 4 ++
              ((payload.drop 12).take 4 ++ payload.drop 16)) := by
            rw [← third, List.take_append_drop 4 (payload.drop 12)]
        _ = _ := by rw [fill]

/-- Of a whole stream, every packet has arrived as the child sends it. -/
theorem Whole.packets {datagrams : List (Nat × Bytes)} {key : Key} (whole : Whole datagrams key)
    {sequence : Nat} (within : sequence < key.2) :
    (key.1, txPacket (BitVec.ofNat 32 sequence) (BitVec.ofNat 32 key.2)) ∈ datagrams := by
  obtain ⟨payload, member, parsed⟩ := mem_arrived.mp (whole.2 (Finset.mem_range.mpr within))
  rwa [eq_txPacket parsed] at member

/-! ## The child -/

/-- The streams, one after the other: the pressure smoke's and those of the benchmark. -/
inductive Stage where
  | pressure
  | throughput (round : Nat)
  deriving DecidableEq, Repr

def Stage.count : Stage → Nat
  | .pressure => lunaNetTxStressPackets
  | .throughput round => taskNetTxThroughputPackets - round

/-- What comes behind a stage. -/
def Stage.next : Stage → Option Stage
  | .pressure => if 0 < taskNetTxThroughputRounds then some (.throughput 0) else none
  | .throughput round =>
      if round + 1 < taskNetTxThroughputRounds then some (.throughput (round + 1)) else none

/-- How often a stage sends its stream before it gives up. -/
def Stage.attempts : Stage → Nat
  | .pressure => taskNetTxAttempts
  | .throughput _ => 1

/-- Where the child is: before `socket`, before `sendto`, at `poll`, or at its return. -/
inductive Pc where
  | socket (stage : Stage)
  | sending (stage : Stage) (port attempt sequence : Nat)
  | polling (stage : Stage) (port attempt : Nat)
  | returned (result : Int)
  deriving DecidableEq, Repr

/-- The checks of an acknowledgement, behind a `recv` of 16 bytes. -/
def acknowledged (count : Nat) (packet : Bytes) : Bool :=
  decide (packet.length = 16 ∧ packet.take 8 = txAckMagic) &&
    decide ((taskNtohl (load32 packet 8)).toNat = count ∧
      (taskNtohl (load32 packet 12)).toNat = count * lunaNetTxStressPayload)

/-- `sent` and `answers` are what the network may deliver, each with its port; `arrivals`, what
the peer has got, and `accepted`, the stages with their ports, are history. -/
structure State where
  pc : Pc
  peer : Peer
  sent : List (Nat × Bytes)
  answers : List Segment
  arrivals : List (Nat × Bytes)
  accepted : List (Stage × Nat)

/-- What the child's calls answer and what the network delivers; `done` says whether the calls
behind an acknowledgement succeed.  A `foreign` datagram to the peer is not the child's. -/
inductive Action where
  | socket (port : Option Nat)
  | send (whole : Bool)
  | timeout
  | failedCall
  | receive (answer : Nat) (done : Bool)
  | deliver (datagram : Nat)
  | foreign (source : Nat) (payload : Bytes)
  deriving DecidableEq, Repr

namespace State

/-- Behind an acknowledged stage, whose last calls succeed or not. -/
def goOn (state : State) (stage : Stage) (port : Nat) (done : Bool) : State :=
  { state with
    accepted := state.accepted ++ [(stage, port)]
    pc := if done then match stage.next with
        | some next => .socket next
        | none => .returned 0
      else .returned (-1) }

/-- A datagram reaches the peer. -/
def reach (state : State) (source : Nat) (payload : Bytes) : State :=
  let handled := handleTxStream state.peer source payload
  { state with
    peer := handled.1
    answers := state.answers ++ handled.2.toList
    arrivals := state.arrivals ++ [(source, payload)] }

def next (state : State) : Action → Option State
  | .socket port =>
      match state.pc, port with
      | .socket stage, some port => some { state with pc := .sending stage port 0 0 }
      | .socket _, none => some { state with pc := .returned (-1) }
      | _, _ => none
  | .send whole =>
      match state.pc with
      | .sending stage port attempt sequence =>
          if !whole then some { state with pc := .returned (-1) }
          else
            let packet :=
              txPacket (BitVec.ofNat 32 sequence) (BitVec.ofNat 32 stage.count)
            let pc := if sequence + 1 < stage.count then
              .sending stage port attempt (sequence + 1) else .polling stage port attempt
            some { state with pc := pc, sent := state.sent ++ [(port, packet)] }
      | _ => none
  | .timeout =>
      match state.pc with
      | .polling stage port attempt =>
          if attempt + 1 < stage.attempts then
            some { state with pc := .sending stage port (attempt + 1) 0 }
          else some { state with pc := .returned (-1) }
      | _ => none
  | .failedCall =>
      match state.pc with
      | .polling _ _ _ => some { state with pc := .returned (-1) }
      | _ => none
  | .receive answer done =>
      match state.pc, state.answers[answer]? with
      | .polling stage port _, some segment =>
          if segment.destination ≠ port then none
          else if acknowledged stage.count (segment.payload.take 16) then
            some (state.goOn stage port done)
          else some { state with pc := .returned (-1) }
      | _, _ => none
  | .deliver datagram =>
      match state.sent[datagram]? with
      | some (source, payload) => some (state.reach source payload)
      | none => none
  | .foreign source payload => some (state.reach source payload)

end State

/-- Before the pressure smoke, next to a fresh peer. -/
def initialState : State := ⟨.socket .pressure, .fresh, [], [], [], []⟩

def txSystem : System State Action where
  init state := state = initialState
  next := State.next

/-! ## What a run keeps -/

/-- The stages that lie behind. -/
def Stage.before : Stage → List Stage
  | .pressure => []
  | .throughput round => .pressure :: (List.range round).map .throughput

def allStages : List Stage := .pressure :: (List.range taskNetTxThroughputRounds).map .throughput

def Stage.Valid : Stage → Prop
  | .pressure => True
  | .throughput round => round < taskNetTxThroughputRounds

/-- What has been accepted by the time the child is at a stage, or has returned. -/
def Passed : Pc → List Stage → Prop
  | .socket stage, accepted | .sending stage _ _ _, accepted | .polling stage _ _, accepted =>
      accepted = stage.before ∧ stage.Valid
  | .returned result, accepted => result = 0 → accepted = allStages

structure TxInv (state : State) : Prop where
  knows : Knows state.peer state.arrivals
  answers : ∀ segment ∈ state.answers, ∃ count, Whole state.arrivals (segment.destination, count) ∧
    segment = ackSegment segment.destination count
  accepted : ∀ stage port, (stage, port) ∈ state.accepted →
    Whole state.arrivals (port, stage.count)
  passed : Passed state.pc (state.accepted.map Prod.fst)

variable {state target : State}

theorem Whole.count_le {datagrams : List (Nat × Bytes)} {key : Key}
    (whole : Whole datagrams key) : key.2 ≤ 65536 := by
  obtain ⟨payload, -, parsed⟩ := mem_arrived.mp (whole.2 (Finset.mem_range.mpr whole.1))
  exact (parse_bounds parsed).2.1

/-- The child reads the count that the peer acknowledges. -/
theorem acknowledged_count {acknowledgedCount count : Nat} (small : acknowledgedCount ≤ 65536)
    (accepts : acknowledged count ((ackPayload acknowledgedCount).take 16) = true) :
    acknowledgedCount = count := by
  have length : (ackPayload acknowledgedCount).length = 16 := by
    unfold ackPayload
    rw [List.length_append, List.length_append, length_bigEndian, length_bigEndian]
    rfl
  have eight : (ackPayload acknowledgedCount).drop 8 =
      bigEndian 4 acknowledgedCount ++ bigEndian 4 (acknowledgedCount * 1200) :=
    List.drop_left' rfl
  unfold acknowledged at accepts
  rw [List.take_of_length_le length.le, Bool.and_eq_true, decide_eq_true_eq, decide_eq_true_eq,
    RxBurst.taskNtohl_load32 (by omega), eight, RxBurst.take_bigEndian_append,
    ofBigEndian_bigEndian] at accepts
  have read := accepts.2.1
  rwa [Nat.mod_eq_of_lt (by omega)] at read

/-- An accepted stage is followed by the next one, or was the last. -/
theorem Stage.passed_next (stage : Stage) (valid : stage.Valid) :
    Passed (match stage.next with
      | some next => .socket next
      | none => .returned 0) (stage.before ++ [stage]) := by
  cases stage with
  | pressure =>
      simp only [Stage.next]
      split
      next following more =>
        split at more
        next some =>
          cases more
          exact ⟨rfl, some⟩
        next => cases more
      next last =>
        split at last
        next => cases last
        next none =>
          have none : taskNetTxThroughputRounds = 0 := by omega
          exact fun _ => by simp [Stage.before, allStages, none]
  | throughput round =>
      simp only [Stage.next]
      split
      next following more =>
        split at more
        next some =>
          cases more
          exact ⟨by simp [Stage.before, List.range_succ], some⟩
        next => cases more
      next last =>
        split at last
        next => cases last
        next none =>
          have reached : round < taskNetTxThroughputRounds := valid
          have last : taskNetTxThroughputRounds = round + 1 := by omega
          exact fun _ => by simp [Stage.before, allStages, last, List.range_succ]

theorem initial_inv : TxInv initialState :=
  ⟨knows_after [], by simp [initialState], by simp [initialState], rfl, trivial⟩

theorem TxInv.reach (inv : TxInv state) (source : Nat) (payload : Bytes) :
    TxInv (state.reach source payload) := by
  obtain ⟨knows, answered⟩ := inv.knows.handle source payload
  refine ⟨knows, fun segment member => ?_, fun stage port member => ?_, inv.passed⟩
  · rcases List.mem_append.mp member with old | new
    · obtain ⟨count, whole, same⟩ := inv.answers segment old
      exact ⟨count, whole.append _, same⟩
    · obtain ⟨sequence, count, -, whole, rfl⟩ :=
        (answered segment).mp (Option.mem_toList.mp new)
      exact ⟨count, whole, rfl⟩
  · exact (inv.accepted stage port member).append _

theorem TxInv.receive (inv : TxInv state) {stage : Stage} {port attempt answer : Nat}
    {segment : Segment} (polling : state.pc = .polling stage port attempt)
    (found : state.answers[answer]? = some segment) (mine : segment.destination = port)
    (accepts : acknowledged stage.count (segment.payload.take 16) = true) (done : Bool) :
    TxInv (state.goOn stage port done) := by
  have passed := inv.passed
  rw [polling] at passed
  obtain ⟨before, valid⟩ := passed
  obtain ⟨count, whole, same⟩ := inv.answers segment (List.mem_of_getElem? found)
  have counted : count = stage.count := by
    rw [same] at accepts
    exact acknowledged_count whole.count_le accepts
  refine ⟨inv.knows, inv.answers, fun other otherPort member => ?_, ?_⟩
  · rcases List.mem_append.mp member with old | new
    · exact inv.accepted other otherPort old
    · obtain ⟨rfl, rfl⟩ : other = stage ∧ otherPort = port := by simpa using new
      rwa [mine, counted] at whole
  · cases done with
    | true =>
        have next := stage.passed_next valid
        simpa [State.goOn, before] using next
    | false => exact fun success => absurd success (by decide)

/-- The child leaves without success. -/
theorem TxInv.giveUp (inv : TxInv state) : TxInv { state with pc := .returned (-1) } :=
  ⟨inv.knows, inv.answers, inv.accepted, fun success => absurd success (by simp)⟩

/-- The child stays at its stage. -/
theorem TxInv.move (inv : TxInv state) (pc : Pc)
    (stays : Passed state.pc (state.accepted.map Prod.fst) →
      Passed pc (state.accepted.map Prod.fst)) (sent : List (Nat × Bytes)) :
    TxInv { state with pc := pc, sent := sent } :=
  ⟨inv.knows, inv.answers, inv.accepted, stays inv.passed⟩

theorem TxInv.next (inv : TxInv state) (action : Action)
    (moved : state.next action = some target) : TxInv target := by
  cases action with
  | socket port =>
      simp only [State.next] at moved
      split at moved
      next stage port here =>
        cases moved
        exact inv.move _ (fun passed => by rwa [here] at passed) _
      next => cases moved; exact inv.giveUp
      next => cases moved
  | send whole =>
      simp only [State.next] at moved
      split at moved
      next stage port attempt sequence here =>
        split at moved
        next => cases moved; exact inv.giveUp
        next =>
          cases moved
          refine inv.move _ (fun passed => ?_) _
          rw [here] at passed
          split <;> exact passed
      next => cases moved
  | timeout =>
      simp only [State.next] at moved
      split at moved
      next stage port attempt here =>
        split at moved
        next =>
          cases moved
          exact inv.move _ (fun passed => by rwa [here] at passed) _
        next => cases moved; exact inv.giveUp
      next => cases moved
  | failedCall =>
      simp only [State.next] at moved
      split at moved
      next => cases moved; exact inv.giveUp
      next => cases moved
  | receive answer done =>
      simp only [State.next] at moved
      split at moved
      next stage port attempt segment here found =>
        split at moved
        next => cases moved
        next mine =>
          split at moved
          next accepts =>
            cases moved
            exact inv.receive here found (not_not.mp mine) accepts done
          next => cases moved; exact inv.giveUp
      next => cases moved
  | deliver datagram =>
      simp only [State.next] at moved
      split at moved
      next source payload found =>
        cases moved
        exact inv.reach source payload
      next => cases moved
  | foreign source payload =>
      cases moved
      exact inv.reach source payload

/-! ## What is acknowledged has arrived -/

/-- Of every accepted stream every packet has arrived at the peer, byte by byte, and a child
that returns 0 has had all its streams accepted. -/
structure Delivered (state : State) : Prop where
  packets : ∀ stage port, (stage, port) ∈ state.accepted → ∀ sequence < stage.count,
    (port, txPacket (BitVec.ofNat 32 sequence) (BitVec.ofNat 32 stage.count)) ∈ state.arrivals
  stages : state.pc = .returned 0 → state.accepted.map Prod.fst = allStages

/-- Whatever the network loses, repeats, delays or reorders and whatever others send to the
peer, and also when streams share a port. -/
theorem streams_delivered {state : State} (reached : txSystem.Reachable state) :
    Delivered state := by
  have inv : TxInv state := by
    refine reached.invariant TxInv ?_ fun state action target inv moved => inv.next action moved
    rintro _ rfl
    exact initial_inv
  refine ⟨fun stage port member sequence within => ?_, fun returned => ?_⟩
  · exact (inv.accepted stage port member).packets within
  · have passed := inv.passed
    rw [returned] at passed
    exact passed rfl

/-! ## A network that delivers -/

theorem acknowledged_ackPayload {count : Nat} (small : count ≤ 65536) :
    acknowledged count ((ackPayload count).take 16) = true := by
  have length : (ackPayload count).length = 16 := by
    unfold ackPayload
    rw [List.length_append, List.length_append, length_bigEndian, length_bigEndian]
    rfl
  have eight : (ackPayload count).drop 8 = bigEndian 4 count ++ bigEndian 4 (count * 1200) :=
    List.drop_left' rfl
  have twelve : (ackPayload count).drop 12 = bigEndian 4 (count * 1200) := by
    rw [← List.drop_drop (i := 4) (j := 8), eight, RxBurst.drop_bigEndian_append]
  have last : (bigEndian 4 (count * 1200)).take 4 = bigEndian 4 (count * 1200) :=
    List.take_of_length_le (length_bigEndian 4 _).le
  have magic : (ackPayload count).take 8 = txAckMagic := List.take_left' rfl
  unfold acknowledged
  rw [List.take_of_length_le length.le, Bool.and_eq_true, decide_eq_true_eq, decide_eq_true_eq,
    RxBurst.taskNtohl_load32 (by omega), RxBurst.taskNtohl_load32 (by omega), eight, twelve,
    RxBurst.take_bigEndian_append, last, ofBigEndian_bigEndian, ofBigEndian_bigEndian]
  refine ⟨⟨length, magic⟩, Nat.mod_eq_of_lt (by omega), ?_⟩
  unfold lunaNetTxStressPayload
  exact Nat.mod_eq_of_lt (by omega)

theorem Stage.count_bounds {stage : Stage} (valid : stage.Valid) :
    0 < stage.count ∧ stage.count ≤ 65536 := by
  cases stage with
  | pressure => decide
  | throughput round =>
      have few : round < 1 := valid
      simp only [Stage.count, taskNetTxThroughputPackets]
      omega

theorem parse_packet {sequence count : Nat} (positive : 0 < count) (small : count ≤ 65536)
    (within : sequence < count) :
    parse (txPacket (BitVec.ofNat 32 sequence) (BitVec.ofNat 32 count)) =
      some (sequence, count) := by
  have sequenceIs : (BitVec.ofNat 32 sequence).toNat = sequence := by
    rw [BitVec.toNat_ofNat]
    omega
  have countIs : (BitVec.ofNat 32 count).toNat = count := by
    rw [BitVec.toNat_ofNat]
    omega
  rw [parse_txPacket (by omega) (by omega) (by omega), sequenceIs, countIs]

theorem whole_of_packets {datagrams : List (Nat × Bytes)} {port count : Nat} (positive : 0 < count)
    (small : count ≤ 65536) (packets : ∀ sequence < count,
      (port, txPacket (BitVec.ofNat 32 sequence) (BitVec.ofNat 32 count)) ∈ datagrams) :
    Whole datagrams (port, count) := by
  refine ⟨positive, fun sequence member => mem_arrived.mpr ?_⟩
  have within := Finset.mem_range.mp member
  exact ⟨_, packets sequence within, parse_packet positive small within⟩

/-- Behind a packet that was sent and delivered at once. -/
def State.carried (state : State) (stage : Stage) (port sequence : Nat) : State :=
  let packet := txPacket (BitVec.ofNat 32 sequence) (BitVec.ofNat 32 stage.count)
  { state with
    pc := if sequence + 1 < stage.count then .sending stage port 0 (sequence + 1)
      else .polling stage port 0
    sent := state.sent ++ [(port, packet)] }.reach port packet

theorem leads_carried {stage : Stage} {port sequence : Nat}
    (sending : state.pc = .sending stage port 0 sequence) :
    txSystem.Leads (fun _ _ => True) state (state.carried stage port sequence) := by
  let packet := txPacket (BitVec.ofNat 32 sequence) (BitVec.ofNat 32 stage.count)
  let middle : State := { state with
    pc := if sequence + 1 < stage.count then .sending stage port 0 (sequence + 1)
      else .polling stage port 0
    sent := state.sent ++ [(port, packet)] }
  have sends : txSystem.next state (.send true) = some middle := by
    change State.next state (.send true) = _
    simp only [State.next, sending]
    rfl
  have found : middle.sent[state.sent.length]? = some (port, packet) :=
    List.getElem?_concat_length
  have delivers : txSystem.next middle (.deliver state.sent.length) =
      some (state.carried stage port sequence) := by
    change State.next middle (.deliver state.sent.length) = _
    simp only [State.next, found]
    rfl
  exact (System.Leads.next _ trivial sends).trans (System.Leads.next _ trivial delivers)

theorem TxInv.leads (inv : TxInv state) {guard : State → Action → Prop}
    (leads : txSystem.Leads guard state target) : TxInv target :=
  leads.invariant (fun _ action _ inv _ moved => inv.next action moved) inv

/-- Every packet is delivered as soon as it was sent, from `sequence` on. -/
theorem leads_polling {stage : Stage} (valid : stage.Valid) (port left : Nat) :
    ∀ {state : State} {sequence : Nat}, TxInv state →
      state.pc = .sending stage port 0 sequence → sequence + (left + 1) = stage.count →
      (∀ earlier < sequence, (port, txPacket (BitVec.ofNat 32 earlier)
        (BitVec.ofNat 32 stage.count)) ∈ state.arrivals) →
      ∃ target, txSystem.Leads (fun _ _ => True) state target ∧ TxInv target ∧
        target.pc = .polling stage port 0 ∧ ackSegment port stage.count ∈ target.answers := by
  obtain ⟨positive, small⟩ := Stage.count_bounds valid
  induction left with
  | zero =>
      intro state sequence inv sending reaches earlier
      refine ⟨state.carried stage port sequence, leads_carried sending,
        inv.leads (leads_carried sending), if_neg (by omega), ?_⟩
      have whole : Whole (state.arrivals ++ [(port, txPacket (BitVec.ofNat 32 sequence)
          (BitVec.ofNat 32 stage.count))]) (port, stage.count) := by
        refine whole_of_packets positive small fun other within => ?_
        rcases Nat.lt_or_ge other sequence with before | behind
        · exact List.mem_append_left _ (earlier other before)
        · obtain rfl : other = sequence := by omega
          exact List.mem_append_right _ (List.mem_singleton_self _)
      have parsed : parse (txPacket (BitVec.ofNat 32 sequence) (BitVec.ofNat 32 stage.count)) =
          some (sequence, stage.count) := parse_packet positive small (by omega)
      have answered :=
        ((inv.knows.handle port _).2 _).mpr ⟨sequence, stage.count, parsed, whole, rfl⟩
      exact List.mem_append_right _ (Option.mem_toList.mpr answered)
  | succ left inductionHypothesis =>
      intro state sequence inv sending reaches earlier
      have carried := leads_carried sending
      have arrived : ∀ other < sequence + 1, (port, txPacket (BitVec.ofNat 32 other)
          (BitVec.ofNat 32 stage.count)) ∈ (state.carried stage port sequence).arrivals := by
        intro other within
        rcases Nat.lt_succ_iff_lt_or_eq.mp within with before | rfl
        · exact List.mem_append_left _ (earlier other before)
        · exact List.mem_append_right _ (List.mem_singleton_self _)
      obtain ⟨target, onward, rest⟩ :=
        inductionHypothesis (inv.leads carried) (if_pos (by omega)) (by omega) arrived
      exact ⟨target, carried.trans onward, rest⟩

/-- An undisturbed stage is accepted. -/
theorem leads_accepted {stage : Stage} (inv : TxInv state) (valid : stage.Valid) (port : Nat)
    (opening : state.pc = .socket stage) :
    ∃ target, txSystem.Leads (fun _ _ => True) state target ∧ TxInv target ∧
      target.pc = match stage.next with
        | some next => .socket next
        | none => .returned 0 := by
  obtain ⟨positive, small⟩ := Stage.count_bounds valid
  let opened : State := { state with pc := .sending stage port 0 0 }
  have opens : txSystem.Leads (fun _ _ => True) state opened := by
    refine System.Leads.next (.socket (some port)) trivial ?_
    change State.next state (.socket (some port)) = _
    simp only [State.next, opening]
    rfl
  obtain ⟨polled, sends, polledInv, polling, answer⟩ :=
    leads_polling valid port (stage.count - 1) (inv.leads opens) rfl (by omega) (by simp)
  obtain ⟨index, found⟩ := List.mem_iff_getElem?.mp answer
  have accepts : acknowledged stage.count
      ((ackSegment port stage.count).payload.take 16) = true := acknowledged_ackPayload small
  have receives : txSystem.Leads (fun _ _ => True) polled (polled.goOn stage port true) := by
    refine System.Leads.next (.receive index true) trivial ?_
    change State.next polled (.receive index true) = _
    simp only [State.next, polling, found, accepts]
    exact if_neg (not_not_intro rfl)
  exact ⟨_, (opens.trans sends).trans receives, polledInv.leads receives, rfl⟩

theorem streams_delivered_undisturbed : ∃ state, txSystem.Reachable state ∧
    state.pc = .returned 0 ∧ Delivered state := by
  have pressure : Stage.pressure.Valid := trivial
  have throughput : (Stage.throughput 0).Valid := Nat.zero_lt_one
  obtain ⟨middle, first, middleInv, middlePc⟩ := leads_accepted initial_inv pressure 4000 rfl
  obtain ⟨last, second, -, lastPc⟩ := leads_accepted middleInv throughput 4001 middlePc
  have reached : txSystem.Reachable last := ((System.Reach.init rfl).leads first).leads second
  exact ⟨last, reached, lastPc, streams_delivered reached⟩

end Luna.TxStream
