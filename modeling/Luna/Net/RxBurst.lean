import Mathlib.Data.Nat.Bitwise
import Mathlib.Tactic.IntervalCases
import Luna.Lib.ByteOrder

/-!
# The trigger and the bodies of a burst

What `task_net_receive_burst` sends and receives and what the peer's `handle_udp` makes
of it.  The child stores words in the order of the host, which is little-endian; the
peer packs and unpacks in the order of the network.
-/

namespace Luna.RxBurst

open ByteOrder

abbrev Bytes := List UInt8

def taskNetThroughputPackets : Nat := 24
def lunaNetStressPayload : Nat := 1200
def taskNetBurstTriggerSize : Nat := 24
def taskNetRxRetryLimit : Nat := 3
def taskNetUdpPort : Nat := 18081

/-! ## The child -/

def taskHtons (value : BitVec 16) : BitVec 16 := (value <<< 8) ||| (value >>> 8)

def taskNtohs (value : BitVec 16) : BitVec 16 := taskHtons value

def taskHtonl (value : BitVec 32) : BitVec 32 :=
  ((value &&& 0x000000ff#32) <<< 24) ||| ((value &&& 0x0000ff00#32) <<< 8) |||
    ((value &&& 0x00ff0000#32) >>> 8) ||| ((value &&& 0xff000000#32) >>> 24)

def taskNtohl (value : BitVec 32) : BitVec 32 := taskHtonl value

/-- The next value of `task_net_rx_generation`. -/
def taskNetNextRxGeneration (generation : BitVec 32) : BitVec 32 :=
  let next := generation + 1
  if next = 0 then next + 1 else next

/-- `memcpy` to an offset of an array. -/
def patch (bytes : Bytes) (offset : Nat) (stored : Bytes) : Bytes :=
  bytes.take offset ++ stored ++ bytes.drop (offset + stored.length)

def taskNetSetMissing (trigger : Bytes) (missing : BitVec 64) : Bytes :=
  let high := taskHtonl ((missing >>> 32).truncate 32)
  let low := taskHtonl (missing.truncate 32)
  patch (patch trigger 16 (littleEndian 4 high.toNat)) 20 (littleEndian 4 low.toNat)

/-- `LUNABRST`. -/
def burstMagic : Bytes := [76, 85, 78, 65, 66, 82, 83, 84]

/-- The trigger as the benchmarks set it up. -/
def preparedTrigger : Bytes :=
  let trigger := patch (List.replicate taskNetBurstTriggerSize 0) 0 burstMagic
  let burst := taskHtons (BitVec.ofNat 16 taskNetThroughputPackets)
  let payload := taskHtons (BitVec.ofNat 16 lunaNetStressPayload)
  patch (patch trigger 8 (littleEndian 2 burst.toNat)) 10 (littleEndian 2 payload.toNat)

/-- The variables of `task_net_receive_burst`. -/
structure Burst where
  generation : BitVec 32
  seen : BitVec 64
  received : Nat
  retry : Nat
  deriving DecidableEq, Repr

/-- What the child makes of a packet. -/
inductive Reception where
  | rejected
  | again (burst : Burst)
  | complete (burst : Burst)
  deriving DecidableEq, Repr

def load16 (packet : Bytes) (offset : Nat) : BitVec 16 :=
  BitVec.ofNat 16 (ofLittleEndian ((packet.drop offset).take 2))

def load32 (packet : Bytes) (offset : Nat) : BitVec 32 :=
  BitVec.ofNat 32 (ofLittleEndian ((packet.drop offset).take 4))

/-- The body of the receive loop of `task_net_receive_burst`, behind `lkl_sys_recv`. -/
def receive (burst : Burst) (packet : Bytes) : Reception :=
  if packet.length ≠ lunaNetStressPayload then .rejected
  else
    let sequence := (taskNtohs (load16 packet 0)).toNat
    let count := (taskNtohs (load16 packet 2)).toNat
    let packetGeneration := taskNtohl (load32 packet 4)
    if packetGeneration ≠ burst.generation then .again burst
    else if count ≠ taskNetThroughputPackets ∨ taskNetThroughputPackets ≤ sequence then .rejected
    else if ∃ byte ∈ packet.drop 8, byte ≠ UInt8.ofNat sequence then .rejected
    else
      let bit := 1#64 <<< sequence
      if burst.seen &&& bit ≠ 0 then .again burst
      else
        let next := { burst with
          seen := burst.seen ||| bit
          received := burst.received + 1 }
        if next.received = taskNetThroughputPackets then .complete next else .again next

/-! ## The peer -/

def udpPort : Nat := 18081
def txUdpPort : Nat := 18082

/-- What `udp_segment` puts into a segment. -/
structure Segment where
  source : Nat
  destination : Nat
  payload : Bytes
  ident : Nat
  deriving DecidableEq, Repr

/-- What `handle_udp` does: nothing, leave it to `handle_tx_stream`, or reply. -/
inductive Handled where
  | ignored
  | txStream (source : Nat) (payload : Bytes)
  | replies (segments : List Segment)
  deriving DecidableEq, Repr

/-- The fields of a trigger. -/
structure Request where
  count : Nat
  payloadSize : Nat
  generation : Nat
  missing : Nat
  deriving DecidableEq, Repr

/-- `struct.unpack("!HHIQ", payload[8:24])`. -/
def unpackRequest (payload : Bytes) : Request where
  count := ofBigEndian ((payload.drop 8).take 2)
  payloadSize := ofBigEndian ((payload.drop 10).take 2)
  generation := ofBigEndian ((payload.drop 12).take 4)
  missing := ofBigEndian ((payload.drop 16).take 8)

/-- The body for one sequence number. -/
def body (request : Request) (sequence : Nat) : Bytes :=
  let header := bigEndian 2 sequence ++ bigEndian 2 request.count ++
    bigEndian 4 request.generation
  header ++ List.replicate (request.payloadSize - header.length) (UInt8.ofNat (sequence % 256))

/-- The loop over the sequence numbers. -/
def answers (source : Nat) (request : Request) : List Segment :=
  ((List.range request.count).filter fun sequence =>
    decide (request.missing &&& (1 <<< sequence) ≠ 0)).map fun sequence =>
      ⟨udpPort, source, body request sequence, (request.generation + sequence) % 2 ^ 16⟩

def handleUdp (ipPayload : Bytes) : Handled :=
  if ipPayload.length < 8 then .ignored
  else
    let source := ofBigEndian (ipPayload.take 2)
    let destination := ofBigEndian ((ipPayload.drop 2).take 2)
    let length := ofBigEndian ((ipPayload.drop 4).take 2)
    if length < 8 ∨ ipPayload.length < length then .ignored
    else
      let payload := (ipPayload.take length).drop 8
      if destination = txUdpPort then .txStream source payload
      else if destination ≠ udpPort then .ignored
      else if payload.length ≠ 24 ∨ payload.take 8 ≠ burstMagic then .ignored
      else
        let request := unpackRequest payload
        if ¬ (1 ≤ request.count ∧ request.count ≤ 64) ∨
            ¬ (8 ≤ request.payloadSize ∧ request.payloadSize ≤ 1400) then .ignored
        else
          let valid := 1 <<< request.count - 1
          if request.missing = 0 ∨ Nat.ldiff request.missing valid ≠ 0 then .ignored
          else .replies (answers source request)

/-- The datagram the kernel makes of a payload for the peer. -/
def udpDatagram (source checksum : BitVec 16) (payload : Bytes) : Bytes :=
  bigEndian 2 source.toNat ++ bigEndian 2 taskNetUdpPort ++
    bigEndian 2 (8 + payload.length) ++ bigEndian 2 checksum.toNat ++ payload

/-! ## Words and bytes -/

theorem ofNat_div {bits : Nat} (word : BitVec bits) (shift : Nat) :
    UInt8.ofNat (word.toNat / 2 ^ shift) = .ofBitVec (word.extractLsb' shift 8) := by
  apply UInt8.toNat_inj.mp
  rw [UInt8.toNat_ofNat', UInt8.toNat_ofBitVec, BitVec.extractLsb'_toNat,
    Nat.shiftRight_eq_div_pow]

theorem bigEndian_two (word : BitVec 16) : bigEndian 2 word.toNat =
    [.ofBitVec (word.extractLsb' 8 8), .ofBitVec (word.extractLsb' 0 8)] := by
  rw [← ofNat_div, ← ofNat_div, Nat.pow_zero, Nat.div_one]
  rfl

theorem bigEndian_four (word : BitVec 32) : bigEndian 4 word.toNat =
    [.ofBitVec (word.extractLsb' 24 8), .ofBitVec (word.extractLsb' 16 8),
      .ofBitVec (word.extractLsb' 8 8), .ofBitVec (word.extractLsb' 0 8)] := by
  rw [← ofNat_div, ← ofNat_div, ← ofNat_div, ← ofNat_div, Nat.pow_zero, Nat.div_one]
  have nested : bigEndian 4 word.toNat = [UInt8.ofNat (word.toNat / 256 / 256 / 256),
      UInt8.ofNat (word.toNat / 256 / 256), UInt8.ofNat (word.toNat / 256),
      UInt8.ofNat word.toNat] := rfl
  rw [nested, Nat.div_div_eq_div_mul, Nat.div_div_eq_div_mul, Nat.div_div_eq_div_mul]
  rfl

/-- The bytes of a swapped word, from the last. -/
theorem extract_taskHtons (word : BitVec 16) :
    (taskHtons word).extractLsb' 0 8 = word.extractLsb' 8 8 ∧
      (taskHtons word).extractLsb' 8 8 = word.extractLsb' 0 8 := by
  constructor <;>
  · ext bit bound
    simp only [taskHtons, BitVec.getElem_extractLsb', BitVec.getLsbD_or, BitVec.getLsbD_shiftLeft,
      BitVec.getLsbD_ushiftRight]
    interval_cases bit <;> simp

theorem extract_taskHtonl (word : BitVec 32) :
    (taskHtonl word).extractLsb' 0 8 = word.extractLsb' 24 8 ∧
      (taskHtonl word).extractLsb' 8 8 = word.extractLsb' 16 8 ∧
      (taskHtonl word).extractLsb' 16 8 = word.extractLsb' 8 8 ∧
      (taskHtonl word).extractLsb' 24 8 = word.extractLsb' 0 8 := by
  refine ⟨?_, ?_, ?_, ?_⟩ <;>
  · ext bit bound
    simp only [taskHtonl, BitVec.getElem_extractLsb', BitVec.getLsbD_or, BitVec.getLsbD_and,
      BitVec.getLsbD_shiftLeft, BitVec.getLsbD_ushiftRight]
    interval_cases bit <;> simp

theorem littleEndian_taskHtons (word : BitVec 16) :
    littleEndian 2 (taskHtons word).toNat = bigEndian 2 word.toNat := by
  obtain ⟨low, high⟩ := extract_taskHtons word
  unfold littleEndian
  rw [bigEndian_two, bigEndian_two, low, high]
  rfl

theorem littleEndian_taskHtonl (word : BitVec 32) :
    littleEndian 4 (taskHtonl word).toNat = bigEndian 4 word.toNat := by
  obtain ⟨first, second, third, fourth⟩ := extract_taskHtonl word
  unfold littleEndian
  rw [bigEndian_four, bigEndian_four, first, second, third, fourth]
  rfl

/-- What the child loads and swaps is what the bytes say. -/
theorem taskNtohs_load16 {packet : Bytes} {offset : Nat} (inside : offset + 2 ≤ packet.length) :
    (taskNtohs (load16 packet offset)).toNat = ofBigEndian ((packet.drop offset).take 2) := by
  refine toNat_swap_ofLittleEndian (by decide) littleEndian_taskHtons ?_
  rw [List.length_take, List.length_drop]
  omega

theorem taskNtohl_load32 {packet : Bytes} {offset : Nat} (inside : offset + 4 ≤ packet.length) :
    (taskNtohl (load32 packet offset)).toNat = ofBigEndian ((packet.drop offset).take 4) := by
  refine toNat_swap_ofLittleEndian (by decide) littleEndian_taskHtonl ?_
  rw [List.length_take, List.length_drop]
  omega

/-! ## The trigger -/

theorem length_patch {bytes stored : Bytes} {offset : Nat}
    (inside : offset + stored.length ≤ bytes.length) :
    (patch bytes offset stored).length = bytes.length := by
  unfold patch
  rw [List.length_append, List.length_append, List.length_take, List.length_drop]
  omega

theorem take_patch {bytes stored : Bytes} {offset limit : Nat} (before : limit ≤ offset)
    (inside : offset ≤ bytes.length) : (patch bytes offset stored).take limit = bytes.take limit := by
  unfold patch
  rw [List.append_assoc, List.take_append_of_le_length, List.take_take, Nat.min_eq_left before]
  rw [List.length_take]
  omega

/-- What is patched at the end of what is kept. -/
theorem take_patch_end (bytes stored : Bytes) {offset : Nat} (inside : offset ≤ bytes.length) :
    (patch bytes offset stored).take (offset + stored.length) = bytes.take offset ++ stored := by
  unfold patch
  refine List.take_left' ?_
  rw [List.length_append, List.length_take, Nat.min_eq_left inside]

theorem patch_last {bytes stored : Bytes} {offset : Nat}
    (ends : bytes.length = offset + stored.length) :
    patch bytes offset stored = bytes.take offset ++ stored := by
  unfold patch
  rw [List.drop_eq_nil_of_le ends.le, List.append_nil]

/-- The fields of a trigger that stay the same. -/
def triggerHead : Bytes :=
  burstMagic ++ bigEndian 2 taskNetThroughputPackets ++ bigEndian 2 lunaNetStressPayload

/-- The trigger of a burst that lacks the given sequence numbers. -/
def triggerOf (generation : BitVec 32) (missing : BitVec 64) : Bytes :=
  triggerHead ++ bigEndian 4 generation.toNat ++ bigEndian 8 missing.toNat

theorem take_preparedTrigger :
    preparedTrigger.length = taskNetBurstTriggerSize ∧ preparedTrigger.take 12 = triggerHead := by
  decide +kernel

/-- `task_net_set_missing` stores the bitmap behind what the trigger has. -/
theorem taskNetSetMissing_eq {trigger : Bytes} (length : trigger.length = 24)
    (missing : BitVec 64) :
    taskNetSetMissing trigger missing = trigger.take 16 ++ bigEndian 8 missing.toNat := by
  have high : ((missing >>> 32).truncate 32).toNat = missing.toNat / 256 ^ 4 := by
    have bound := missing.isLt
    rw [BitVec.truncate_eq_setWidth, BitVec.toNat_setWidth, BitVec.toNat_ushiftRight,
      Nat.shiftRight_eq_div_pow, Nat.mod_eq_of_lt (by omega)]
    rfl
  have low : bigEndian 4 (missing.truncate 32).toNat = bigEndian 4 missing.toNat := by
    rw [BitVec.truncate_eq_setWidth, BitVec.toNat_setWidth]
    exact bigEndian_mod 4 missing.toNat
  have whole : bigEndian 8 missing.toNat =
      bigEndian 4 (missing.toNat / 256 ^ 4) ++ bigEndian 4 missing.toNat :=
    bigEndian_add 4 4 missing.toNat
  unfold taskNetSetMissing
  dsimp only
  rw [littleEndian_taskHtonl, littleEndian_taskHtonl, high, low]
  have inner : (patch trigger 16 (bigEndian 4 (missing.toNat / 256 ^ 4))).length = 24 := by
    rw [length_patch (by rw [length, length_bigEndian]; decide), length]
  have kept : (patch trigger 16 (bigEndian 4 (missing.toNat / 256 ^ 4))).take 20 =
      trigger.take 16 ++ bigEndian 4 (missing.toNat / 256 ^ 4) := by
    have ends : 20 = 16 + (bigEndian 4 (missing.toNat / 256 ^ 4)).length := by
      rw [length_bigEndian]
    rw [ends, take_patch_end _ _ (by omega)]
  rw [patch_last (by rw [inner, length_bigEndian]), kept, whole, List.append_assoc]

theorem length_taskNetSetMissing {trigger : Bytes} (length : trigger.length = 24)
    (missing : BitVec 64) : (taskNetSetMissing trigger missing).length = 24 := by
  rw [taskNetSetMissing_eq length, List.length_append, List.length_take, length_bigEndian, length]
  decide

/-- What is before the bitmap stays. -/
theorem take_taskNetSetMissing {trigger : Bytes} (length : trigger.length = 24)
    (missing : BitVec 64) {limit : Nat} (before : limit ≤ 16) :
    (taskNetSetMissing trigger missing).take limit = trigger.take limit := by
  rw [taskNetSetMissing_eq length, List.take_append_of_le_length, List.take_take,
    Nat.min_eq_left before]
  rw [List.length_take]
  omega

/-! ## The peer's answer -/

theorem take_bigEndian_append (width value : Nat) (rest : Bytes) :
    (bigEndian width value ++ rest).take width = bigEndian width value :=
  List.take_left' (length_bigEndian width value)

theorem drop_bigEndian_append (width value : Nat) (rest : Bytes) :
    (bigEndian width value ++ rest).drop width = rest :=
  List.drop_left' (length_bigEndian width value)

/-- The peer unpacks what the child packed. -/
theorem unpackRequest_triggerOf (generation : BitVec 32) (missing : BitVec 64) :
    unpackRequest (triggerOf generation missing) =
      ⟨taskNetThroughputPackets, lunaNetStressPayload, generation.toNat, missing.toNat⟩ := by
  have eight : (triggerOf generation missing).drop 8 =
      bigEndian 2 taskNetThroughputPackets ++ (bigEndian 2 lunaNetStressPayload ++
        (bigEndian 4 generation.toNat ++ bigEndian 8 missing.toNat)) := by
    unfold triggerOf triggerHead
    rw [List.append_assoc, List.append_assoc, List.append_assoc]
    exact List.drop_left' rfl
  have ten : (triggerOf generation missing).drop 10 = bigEndian 2 lunaNetStressPayload ++
      (bigEndian 4 generation.toNat ++ bigEndian 8 missing.toNat) := by
    rw [← List.drop_drop (i := 2) (j := 8), eight, drop_bigEndian_append]
  have twelve : (triggerOf generation missing).drop 12 =
      bigEndian 4 generation.toNat ++ bigEndian 8 missing.toNat := by
    rw [← List.drop_drop (i := 2) (j := 10), ten, drop_bigEndian_append]
  have sixteen : (triggerOf generation missing).drop 16 = bigEndian 8 missing.toNat := by
    rw [← List.drop_drop (i := 4) (j := 12), twelve, drop_bigEndian_append]
  have whole : (bigEndian 8 missing.toNat).take 8 = bigEndian 8 missing.toNat :=
    List.take_of_length_le (length_bigEndian 8 _).le
  have generationFits : generation.toNat % 256 ^ 4 = generation.toNat :=
    Nat.mod_eq_of_lt generation.isLt
  have missingFits : missing.toNat % 256 ^ 8 = missing.toNat := Nat.mod_eq_of_lt missing.isLt
  unfold unpackRequest
  rw [eight, ten, twelve, sixteen, take_bigEndian_append, take_bigEndian_append,
    take_bigEndian_append, whole, ofBigEndian_bigEndian, ofBigEndian_bigEndian,
    ofBigEndian_bigEndian, ofBigEndian_bigEndian, generationFits, missingFits]
  rfl

theorem length_triggerOf (generation : BitVec 32) (missing : BitVec 64) :
    (triggerOf generation missing).length = taskNetBurstTriggerSize := by
  unfold triggerOf
  rw [List.length_append, List.length_append, length_bigEndian, length_bigEndian]
  rfl

/-- The sequence numbers a trigger asks for. -/
def asked (missing : BitVec 64) : List Nat :=
  (List.range taskNetThroughputPackets).filter fun sequence => missing.getLsbD sequence

/-- The body the peer makes for a sequence number of a burst. -/
def bodyOf (generation : BitVec 32) (sequence : Nat) : Bytes :=
  body ⟨taskNetThroughputPackets, lunaNetStressPayload, generation.toNat, 0⟩ sequence

/-- What the peer parses of a datagram from the child. -/
theorem handleUdp_udpDatagram (source checksum : BitVec 16) {payload : Bytes}
    (length : payload.length = taskNetBurstTriggerSize) (magic : payload.take 8 = burstMagic) :
    handleUdp (udpDatagram source checksum payload) =
      if ¬ (1 ≤ (unpackRequest payload).count ∧ (unpackRequest payload).count ≤ 64) ∨
          ¬ (8 ≤ (unpackRequest payload).payloadSize ∧
            (unpackRequest payload).payloadSize ≤ 1400) then .ignored
      else if (unpackRequest payload).missing = 0 ∨
          Nat.ldiff (unpackRequest payload).missing (1 <<< (unpackRequest payload).count - 1) ≠ 0
        then .ignored
      else .replies (answers source.toNat (unpackRequest payload)) := by
  have total : (udpDatagram source checksum payload).length = 32 := by
    unfold udpDatagram
    rw [List.length_append, List.length_append, List.length_append, List.length_append,
      length_bigEndian, length_bigEndian, length_bigEndian, length_bigEndian, length]
    rfl
  have whole : udpDatagram source checksum payload = bigEndian 2 source.toNat ++
      (bigEndian 2 taskNetUdpPort ++ (bigEndian 2 (8 + payload.length) ++
        (bigEndian 2 checksum.toNat ++ payload))) := by
    unfold udpDatagram
    rw [List.append_assoc, List.append_assoc, List.append_assoc]
  have two : (udpDatagram source checksum payload).drop 2 = bigEndian 2 taskNetUdpPort ++
      (bigEndian 2 (8 + payload.length) ++ (bigEndian 2 checksum.toNat ++ payload)) := by
    rw [whole, drop_bigEndian_append]
  have four : (udpDatagram source checksum payload).drop 4 = bigEndian 2 (8 + payload.length) ++
      (bigEndian 2 checksum.toNat ++ payload) := by
    rw [← List.drop_drop (i := 2) (j := 2), two, drop_bigEndian_append]
  have six : (udpDatagram source checksum payload).drop 6 =
      bigEndian 2 checksum.toNat ++ payload := by
    rw [← List.drop_drop (i := 2) (j := 4), four, drop_bigEndian_append]
  have eight : (udpDatagram source checksum payload).drop 8 = payload := by
    rw [← List.drop_drop (i := 2) (j := 6), six, drop_bigEndian_append]
  have sourceIs : ofBigEndian ((udpDatagram source checksum payload).take 2) = source.toNat := by
    rw [whole, take_bigEndian_append, ofBigEndian_bigEndian]
    exact Nat.mod_eq_of_lt source.isLt
  have destinationIs : ofBigEndian (((udpDatagram source checksum payload).drop 2).take 2) =
      udpPort := by
    rw [two, take_bigEndian_append, ofBigEndian_bigEndian]
    rfl
  have lengthIs : ofBigEndian (((udpDatagram source checksum payload).drop 4).take 2) = 32 := by
    rw [four, take_bigEndian_append, ofBigEndian_bigEndian, length]
    rfl
  have kept : (udpDatagram source checksum payload).take 32 =
      udpDatagram source checksum payload := List.take_of_length_le total.le
  unfold handleUdp
  rw [sourceIs, destinationIs, lengthIs, total, if_neg (by decide)]
  dsimp only
  rw [kept, eight, if_neg (by decide), if_neg (by decide), if_neg (by decide), if_neg]
  rintro (otherLength | otherMagic)
  · exact otherLength length
  · exact otherMagic magic

theorem and_shift_ne_zero (missing : BitVec 64) (sequence : Nat) :
    missing.toNat &&& (1 <<< sequence) ≠ 0 ↔ missing.getLsbD sequence = true := by
  rw [Nat.one_shiftLeft, Nat.and_two_pow, BitVec.testBit_toNat]
  cases missing.getLsbD sequence with
  | false => simp
  | true => simp

/-- A trigger that asks for something and for nothing beyond the burst is answered with
one body for each sequence number it asks for. -/
theorem handleUdp_triggerOf (source checksum : BitVec 16) (generation : BitVec 32)
    {missing : BitVec 64} (something : missing ≠ 0)
    (inside : ∀ sequence, missing.getLsbD sequence = true → sequence < taskNetThroughputPackets) :
    handleUdp (udpDatagram source checksum (triggerOf generation missing)) =
      .replies ((asked missing).map fun sequence =>
        ⟨udpPort, source.toNat, bodyOf generation sequence,
          (generation.toNat + sequence) % 2 ^ 16⟩) := by
  have magic : (triggerOf generation missing).take 8 = burstMagic := by
    unfold triggerOf triggerHead
    rw [List.append_assoc, List.append_assoc, List.append_assoc]
    exact List.take_left' rfl
  rw [handleUdp_udpDatagram source checksum (length_triggerOf generation missing) magic,
    unpackRequest_triggerOf]
  dsimp only
  rw [if_neg (by decide), if_neg]
  · unfold answers asked
    congr 2
    apply List.filter_congr
    intro sequence _
    rw [decide_eq_decide.mpr (and_shift_ne_zero missing sequence), Bool.decide_coe]
  · rintro (nothing | beyond)
    · exact something (BitVec.toNat_inj.mp nothing)
    · refine beyond (Nat.eq_of_testBit_eq fun bit => ?_)
      rw [Nat.testBit_ldiff, Nat.one_shiftLeft, Nat.testBit_two_pow_sub_one,
        BitVec.testBit_toNat, Nat.zero_testBit]
      cases set : missing.getLsbD bit with
      | false => rfl
      | true => simp [inside bit set]

/-! ## The child's reading of a packet -/

theorem bodyOf_eq (generation : BitVec 32) (sequence : Nat) :
    bodyOf generation sequence = bigEndian 2 sequence ++ (bigEndian 2 taskNetThroughputPackets ++
      (bigEndian 4 generation.toNat ++
        List.replicate (lunaNetStressPayload - 8) (UInt8.ofNat (sequence % 256)))) := by
  unfold bodyOf body
  dsimp only
  rw [List.length_append, List.length_append, length_bigEndian, length_bigEndian,
    length_bigEndian, List.append_assoc, List.append_assoc]

theorem length_bodyOf (generation : BitVec 32) (sequence : Nat) :
    (bodyOf generation sequence).length = lunaNetStressPayload := by
  rw [bodyOf_eq, List.length_append, List.length_append, List.length_append, length_bigEndian,
    length_bigEndian, length_bigEndian, List.length_replicate]
  rfl

/-- The fields of a body, as the child reads them. -/
theorem read_bodyOf (generation : BitVec 32) {sequence : Nat}
    (inside : sequence < taskNetThroughputPackets) :
    (taskNtohs (load16 (bodyOf generation sequence) 0)).toNat = sequence ∧
      (taskNtohs (load16 (bodyOf generation sequence) 2)).toNat = taskNetThroughputPackets ∧
      taskNtohl (load32 (bodyOf generation sequence) 4) = generation ∧
      (bodyOf generation sequence).drop 8 =
        List.replicate (lunaNetStressPayload - 8) (UInt8.ofNat sequence) := by
  have small : sequence < 24 := inside
  have two : (bodyOf generation sequence).drop 2 = bigEndian 2 taskNetThroughputPackets ++
      (bigEndian 4 generation.toNat ++
        List.replicate (lunaNetStressPayload - 8) (UInt8.ofNat (sequence % 256))) := by
    rw [bodyOf_eq, drop_bigEndian_append]
  have four : (bodyOf generation sequence).drop 4 = bigEndian 4 generation.toNat ++
      List.replicate (lunaNetStressPayload - 8) (UInt8.ofNat (sequence % 256)) := by
    rw [← List.drop_drop (i := 2) (j := 2), two, drop_bigEndian_append]
  have eight : (bodyOf generation sequence).drop 8 =
      List.replicate (lunaNetStressPayload - 8) (UInt8.ofNat (sequence % 256)) := by
    rw [← List.drop_drop (i := 4) (j := 4), four, drop_bigEndian_append]
  have length : (bodyOf generation sequence).length = 1200 := length_bodyOf generation sequence
  refine ⟨?_, ?_, ?_, ?_⟩
  · rw [taskNtohs_load16 (by omega), List.drop_zero, bodyOf_eq, take_bigEndian_append,
      ofBigEndian_bigEndian]
    omega
  · rw [taskNtohs_load16 (by omega), two, take_bigEndian_append, ofBigEndian_bigEndian]
    rfl
  · apply BitVec.toNat_inj.mp
    rw [taskNtohl_load32 (by omega), four, take_bigEndian_append, ofBigEndian_bigEndian]
    exact Nat.mod_eq_of_lt generation.isLt
  · rw [eight, Nat.mod_eq_of_lt (by omega)]

theorem bodyOf_inj {generation other : BitVec 32} {first second : Nat}
    (inside : first < taskNetThroughputPackets) (insideToo : second < taskNetThroughputPackets)
    (same : bodyOf generation first = bodyOf other second) :
    first = second ∧ generation = other := by
  obtain ⟨sequence, -, generationIs, -⟩ := read_bodyOf generation inside
  obtain ⟨sequenceToo, -, generationToo, -⟩ := read_bodyOf other insideToo
  rw [same] at sequence generationIs
  exact ⟨sequence.symm.trans sequenceToo, generationIs.symm.trans generationToo⟩

/-- A packet in which the child reads a body is that body. -/
theorem eq_bodyOf {packet : Bytes} {sequence : Nat} {generation : BitVec 32}
    (length : packet.length = lunaNetStressPayload)
    (sequenceIs : (taskNtohs (load16 packet 0)).toNat = sequence)
    (count : (taskNtohs (load16 packet 2)).toNat = taskNetThroughputPackets)
    (generationIs : taskNtohl (load32 packet 4) = generation)
    (inside : sequence < taskNetThroughputPackets)
    (filled : ∀ byte ∈ packet.drop 8, byte = UInt8.ofNat sequence) :
    packet = bodyOf generation sequence := by
  have long : packet.length = 1200 := length
  have small : sequence < 24 := inside
  rw [taskNtohs_load16 (by omega), List.drop_zero] at sequenceIs
  rw [taskNtohs_load16 (by omega)] at count
  have generationToo := congrArg BitVec.toNat generationIs
  rw [taskNtohl_load32 (by omega)] at generationToo
  have part : ∀ (width offset value : Nat), offset + width ≤ 1200 →
      ofBigEndian ((packet.drop offset).take width) = value →
        packet.drop offset = bigEndian width value ++ packet.drop (offset + width) := by
    intro width offset value fits valueIs
    have bytes := bigEndian_ofBigEndian ((packet.drop offset).take width)
    rw [valueIs, List.length_take, List.length_drop, long, Nat.min_eq_left (by omega)] at bytes
    rw [bytes, ← List.drop_drop, List.take_append_drop]
  have first := part 2 0 sequence (by decide) (by rw [List.drop_zero]; exact sequenceIs)
  have second := part 2 2 taskNetThroughputPackets (by decide) count
  have third := part 4 4 generation.toNat (by decide) generationToo
  have last : packet.drop 8 =
      List.replicate (lunaNetStressPayload - 8) (UInt8.ofNat (sequence % 256)) := by
    rw [Nat.mod_eq_of_lt (by omega)]
    refine List.eq_replicate_iff.mpr ⟨?_, filled⟩
    rw [List.length_drop, length]
  rw [List.drop_zero] at first
  rw [bodyOf_eq, first, second, third, last]

/-- The variables behind a packet that was not seen before. -/
def Burst.take (burst : Burst) (sequence : Nat) : Burst :=
  { burst with
    seen := burst.seen ||| 1#64 <<< sequence
    received := burst.received + 1 }

theorem and_bit_ne_zero (seen : BitVec 64) {sequence : Nat}
    (inside : sequence < taskNetThroughputPackets) :
    seen &&& 1#64 <<< sequence ≠ 0 ↔ seen.getLsbD sequence = true := by
  have small : sequence < 64 := Nat.lt_trans inside (by decide)
  have power : (1#64 <<< sequence).toNat = 1 <<< sequence := by
    rw [BitVec.toNat_shiftLeft, BitVec.toNat_ofNat, Nat.one_shiftLeft]
    exact Nat.mod_eq_of_lt (Nat.pow_lt_pow_right (by decide) small)
  have same : seen &&& 1#64 <<< sequence = 0 ↔ seen.toNat &&& (1 <<< sequence) = 0 := by
    rw [← BitVec.toNat_inj, BitVec.toNat_and, power]
    rfl
  exact (not_congr same).trans (and_shift_ne_zero seen sequence)

theorem getLsbD_take {burst : Burst} {sequence : Nat} (inside : sequence < taskNetThroughputPackets)
    (bit : Nat) : (burst.take sequence).seen.getLsbD bit = true ↔
      burst.seen.getLsbD bit = true ∨ bit = sequence := by
  have small : sequence < 64 := Nat.lt_trans inside (by decide)
  unfold Burst.take
  dsimp only
  rw [BitVec.getLsbD_or, Bool.or_eq_true, BitVec.getLsbD_shiftLeft]
  refine or_congr_right ?_
  rw [BitVec.getLsbD_one]
  simp only [Bool.and_eq_true, decide_eq_true_eq, Bool.not_eq_true', decide_eq_false_iff_not]
  omega

theorem receive_bodyOf {burst : Burst} {sequence : Nat}
    (inside : sequence < taskNetThroughputPackets) :
    receive burst (bodyOf burst.generation sequence) =
      if burst.seen.getLsbD sequence then .again burst
      else if (burst.take sequence).received = taskNetThroughputPackets then
        .complete (burst.take sequence)
      else .again (burst.take sequence) := by
  obtain ⟨sequenceIs, count, generation, rest⟩ := read_bodyOf burst.generation inside
  have filled : ¬ ∃ byte ∈ (bodyOf burst.generation sequence).drop 8,
      byte ≠ UInt8.ofNat sequence := by
    rw [rest]
    rintro ⟨byte, member, different⟩
    exact different (List.eq_of_mem_replicate member)
  unfold receive
  rw [if_neg (by rw [length_bodyOf]; exact not_not.mpr rfl)]
  dsimp only
  rw [sequenceIs, count, generation, if_neg (not_not.mpr rfl), if_neg, if_neg filled]
  · by_cases seen : burst.seen.getLsbD sequence = true
    · rw [if_pos ((and_bit_ne_zero _ inside).mpr seen), if_pos seen]
    · rw [if_neg (mt (and_bit_ne_zero _ inside).mp seen), if_neg seen]
      rfl
  · rintro (otherCount | beyond)
    · exact otherCount rfl
    · exact absurd inside (Nat.not_lt.mpr beyond)

theorem receive_stale {burst : Burst} {generation : BitVec 32} {sequence : Nat}
    (inside : sequence < taskNetThroughputPackets) (other : generation ≠ burst.generation) :
    receive burst (bodyOf generation sequence) = .again burst := by
  obtain ⟨-, -, generationIs, -⟩ := read_bodyOf generation inside
  unfold receive
  rw [if_neg (by rw [length_bodyOf]; exact not_not.mpr rfl)]
  dsimp only
  rw [generationIs, if_pos other]

/-- A packet that is no body of the burst is not taken. -/
theorem receive_other {burst : Burst} {packet : Bytes}
    (foreign : ∀ sequence < taskNetThroughputPackets, packet ≠ bodyOf burst.generation sequence) :
    receive burst packet = .rejected ∨ receive burst packet = .again burst := by
  unfold receive
  split
  next => exact .inl rfl
  next length =>
    dsimp only
    split
    next => exact .inr rfl
    next generation =>
      split
      next => exact .inl rfl
      next fields =>
        split
        next => exact .inl rfl
        next filled =>
          obtain ⟨count, inside⟩ := not_or.mp fields
          refine absurd (eq_bodyOf (not_not.mp length) rfl (not_not.mp count) (not_not.mp generation)
            (Nat.not_le.mp inside) fun byte member => ?_) (foreign _ (Nat.not_le.mp inside))
          by_contra different
          exact filled ⟨byte, member, different⟩

/-- The generation of a burst stays the same. -/
theorem receive_generation (burst : Burst) (packet : Bytes) (later : Burst)
    (taken : receive burst packet = .again later ∨ receive burst packet = .complete later) :
    later.generation = burst.generation := by
  by_cases foreign : ∀ sequence < taskNetThroughputPackets,
      packet ≠ bodyOf burst.generation sequence
  · rcases receive_other foreign with rejected | again
    · rw [rejected] at taken
      rcases taken with other | other <;> cases other
    · rw [again] at taken
      rcases taken with same | other
      · cases same
        rfl
      · cases other
  · push Not at foreign
    obtain ⟨sequence, inside, rfl⟩ := foreign
    rw [receive_bodyOf inside] at taken
    split at taken
    · rcases taken with same | other
      · cases same
        rfl
      · cases other
    · split at taken
      · rcases taken with other | same
        · cases other
        · cases same
          rfl
      · rcases taken with same | other
        · cases same
          rfl
        · cases other

end Luna.RxBurst
