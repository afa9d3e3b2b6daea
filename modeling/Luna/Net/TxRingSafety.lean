import Luna.Net.TxRing

/-!
# Safety of the TX ring

Positions in the ring are counted from its beginning: `tail ≤ submitted ≤
pushed`, and a slot is a position modulo 64.  The invariant says what each
stretch of positions holds: below `submitted` packets that are with the driver
or completed, from there to `pushed` the packets as they were accepted.  A
producer writes past `pushed` only, which is right as long as there is one
producer at a time.
-/

namespace Luna.Net

open Interleaving ByteMemory

/-! ## What is claimed -/

/-- The buffer that is with a `raw_tx` under way. -/
def Resume.transit : Resume → Option TxDma
  | .driver _ buffer => some buffer
  | _ => none

def PollThread.transit : PollThread → Option TxDma
  | .driver _ buffer => some buffer
  | .complete _ resume | .loadHead resume | .advance _ _ resume | .storeTail _ resume =>
      resume.transit
  | _ => none

/-- The poll thread is past the first part of `transmit_complete`. -/
def PollThread.completing : PollThread → Bool
  | .loadHead _ | .advance _ _ _ | .storeTail _ _ => true
  | _ => false

/-- The bytes `raw_tx` has been called with and not answered for. -/
def RingState.inTransit (state : RingState) : List (List UInt8) :=
  (state.poll.transit.map fun buffer => (state.dma buffer).data).toList

/-- `tx_submit` lies between `tx_tail` and `tx_head`, what is still to be
submitted has a length, and every accepted packet was handed over or is still in
its slot, in order. -/
structure RingSound (state : RingState) : Prop where
  between : CircularBuffer.used lunaNetTxQueueCount state.submit state.shared.tail ≤
    CircularBuffer.used lunaNetTxQueueCount state.shared.head state.shared.tail
  nonzero : ∀ offset < CircularBuffer.used lunaNetTxQueueCount state.shared.head state.submit,
    (state.shared.queue ((state.submit + offset) % lunaNetTxQueueCount)).length ≠ 0
  kept : state.shared.pushed.map Packet.bytes = state.handed ++ state.inTransit ++
    (CircularBuffer.contents lunaNetTxQueueCount state.shared.queue state.shared.head
      state.submit).map Packet.bytes

/-- The slots between `tx_tail` and `tx_submit` that are not completed. -/
def RingState.uncompleted (state : RingState) : Nat :=
  ((List.range (CircularBuffer.used lunaNetTxQueueCount state.submit state.shared.tail)).filter
    fun offset => decide ((state.shared.queue
      ((state.shared.tail + offset) % lunaNetTxQueueCount)).length ≠ 0)).length

/-! ## What is assumed of a run -/

def TxThread.producing : TxThread → Bool
  | .batchTail _ _ _ | .validate _ _ | .copyLength _ _ | .copyData _ _ _ | .storeLength _ _ _
  | .publish _ => true
  | _ => false

def PollThread.thread : PollThread → TxThread
  | .service thread => thread
  | _ => .idle

/-- A length that is read again for the copy is still a valid one. -/
def lengthsHold (state : RingState) : TxThread → Bool
  | .copyLength _ index => validLength (state.shared.header.txLengths index)
  | _ => true

def LengthsHold (state : RingState) : RingAction → Prop
  | .stepMain => lengthsHold state state.main = true
  | .stepPoll => lengthsHold state state.poll.thread = true
  | _ => True

/-- `raw_tx` does not fail for a buffer whose completion it has delivered. -/
def DriverHonest (state : RingState) : RingAction → Prop
  | .rawTx .failed => ∀ buffer, state.poll.transit = some buffer → (state.dma buffer).inUse = true
  | _ => True

def TxThread.loadsHead : TxThread → Bool
  | .batchHead _ _ => true
  | _ => false

/-- `tx_head` is not loaded while the other thread is between its load and its
store of it. -/
def ProducersApart (state : RingState) : RingAction → Prop
  | .stepMain => state.main.loadsHead = true → state.poll.thread.producing = false
  | .stepPoll => state.poll.thread.loadsHead = true → state.main.producing = false
  | _ => True

instance (state : RingState) (action : RingAction) : Decidable (LengthsHold state action) := by
  unfold LengthsHold
  split <;> infer_instance

instance (state : RingState) (action : RingAction) : Decidable (DriverHonest state action) := by
  unfold DriverHonest
  split <;> infer_instance

instance (state : RingState) (action : RingAction) : Decidable (ProducersApart state action) := by
  unfold ProducersApart
  split <;> infer_instance

/-! ## Positions -/

section Positions

theorem slot_inj {base first second : Nat} (firstAbove : base ≤ first)
    (firstBelow : first < base + lunaNetTxQueueCount) (secondAbove : base ≤ second)
    (secondBelow : second < base + lunaNetTxQueueCount)
    (same : first % lunaNetTxQueueCount = second % lunaNetTxQueueCount) : first = second := by
  unfold lunaNetTxQueueCount at *
  omega

theorem used_positions {head tail : Nat} (ordered : tail ≤ head)
    (room : head < tail + lunaNetTxQueueCount) :
    CircularBuffer.used lunaNetTxQueueCount (head % lunaNetTxQueueCount)
      (tail % lunaNetTxQueueCount) = head - tail := by
  unfold CircularBuffer.used lunaNetTxQueueCount at *
  omega

end Positions

/-! ## The invariant -/

section Invariant

def RingState.submitted (state : RingState) : Nat := state.handed.length + state.inTransit.length

/-- Where the cursors stand, and the packets still to be submitted. -/
structure Stretch (shared : TxShared) (submit submitted tail : Nat) : Prop where
  headAt : shared.head = shared.pushed.length % lunaNetTxQueueCount
  tailAt : shared.tail = tail % lunaNetTxQueueCount
  submitAt : submit = submitted % lunaNetTxQueueCount
  tailLe : tail ≤ submitted
  submittedLe : submitted ≤ shared.pushed.length
  room : shared.pushed.length < tail + lunaNetTxQueueCount
  queued : ∀ position, submitted ≤ position → position < shared.pushed.length →
    shared.pushed[position]? = some (shared.queue (position % lunaNetTxQueueCount))
  valid : ∀ packet ∈ shared.pushed, validLength packet.length = true

/-- The buffers in use are with the uncompleted positions below `submitted`, one
with each. -/
structure Flight (queue : Nat → Packet) (dma : TxDma → DmaBuffer) (pending submitted tail : Nat) :
    Prop where
  used : ∀ buffer, (dma buffer).inUse = true → ∃ position, tail ≤ position ∧ position < submitted ∧
    (dma buffer).queueIndex = position % lunaNetTxQueueCount ∧
    (queue (position % lunaNetTxQueueCount)).length ≠ 0
  distinct : ∀ first second, (dma first).inUse = true → (dma second).inUse = true →
    (dma first).queueIndex = (dma second).queueIndex → first = second
  covered : ∀ position, tail ≤ position → position < submitted →
    (queue (position % lunaNetTxQueueCount)).length ≠ 0 →
    ∃ buffer, (dma buffer).inUse = true ∧
      (dma buffer).queueIndex = position % lunaNetTxQueueCount
  pending : pending = Tally.total (fun entry : DmaBuffer => entry.inUse.toNat) dma

/-- `raw_tx` is under way for the packet after the handed ones; until its buffer is
completed the packet is in its slot. -/
structure Transit (state : RingState) (submit : Nat) (buffer : TxDma) : Prop where
  submitAt : submit = state.handed.length % lunaNetTxQueueCount
  data : (state.shared.pushed[state.handed.length]?).map Packet.bytes =
    some (state.dma buffer).data
  slot : (state.dma buffer).inUse = true → (state.dma buffer).queueIndex = submit ∧
    state.shared.pushed[state.handed.length]? = some (state.shared.queue submit)

def ResumeFits (state : RingState) : Resume → Prop
  | .driver submit buffer => Transit state submit buffer
  | _ => True

/-- The slots from `tail` up to `position` are completed. -/
def Cleared (queue : Nat → Packet) (tail position : Nat) : Prop :=
  ∀ other, tail ≤ other → other < position →
    (queue (other % lunaNetTxQueueCount)).length = 0

/-- `process_tx_queue` has chosen a free buffer for the next packet. -/
structure Chosen (state : RingState) (submit : Nat) (buffer : TxDma) : Prop where
  submitAt : submit = state.submit
  waiting : state.handed.length < state.shared.pushed.length
  free : (state.dma buffer).inUse = false

def PollStands (state : RingState) (tail : Nat) : PollThread → Prop
  | .service _ | .gate | .scan => True
  | .packetLength submit buffer => Chosen state submit buffer
  | .packetData submit buffer length =>
      Chosen state submit buffer ∧ length = (state.shared.queue submit).length
  | .hand submit buffer =>
      Chosen state submit buffer ∧ (state.dma buffer).data = (state.shared.queue submit).bytes
  | .driver submit buffer => Transit state submit buffer
  | .complete _ resume | .loadHead resume => ResumeFits state resume
  | .advance cursor limit resume => ResumeFits state resume ∧ ∃ position last,
      cursor = position % lunaNetTxQueueCount ∧ limit = last % lunaNetTxQueueCount ∧
      tail ≤ position ∧ position ≤ state.submitted ∧ state.submitted ≤ last ∧
      last ≤ state.shared.pushed.length ∧ Cleared state.shared.queue tail position
  | .storeTail cursor resume => ResumeFits state resume ∧ ∃ position,
      cursor = position % lunaNetTxQueueCount ∧ tail ≤ position ∧ position ≤ state.submitted ∧
      Cleared state.shared.queue tail position ∧ (position = state.submitted ∨
        (state.shared.queue (position % lunaNetTxQueueCount)).length ≠ 0)

/-- A batch that starts at the next position and has room. -/
structure BatchRoom (shared : TxShared) (tail : Nat) (batch : TxBatch) : Prop where
  first : batch.first = shared.pushed.length % lunaNetTxQueueCount
  fits : shared.pushed.length + batch.accepted < tail + lunaNetTxQueueCount

/-- The first `count` slots of a batch are filled. -/
def Written (shared : TxShared) (batch : TxBatch) (count : Nat) : Prop :=
  ∀ index < count, validLength (shared.queue (batch.slot index)).length = true

def Producer (shared : TxShared) (tail : Nat) : TxThread → Prop
  | .batchTail _ _ head => head = shared.pushed.length % lunaNetTxQueueCount
  | .validate batch index => BatchRoom shared tail batch ∧ index < batch.accepted
  | .copyLength batch index =>
      BatchRoom shared tail batch ∧ Written shared batch index ∧ index < batch.accepted
  | .copyData batch index length | .storeLength batch index length =>
      BatchRoom shared tail batch ∧ Written shared batch index ∧ index < batch.accepted ∧
        validLength length = true
  | .publish batch => BatchRoom shared tail batch ∧ Written shared batch batch.accepted
  | _ => True

/-- The invariant, with the number of positions reclaimed. -/
structure RingAt (tail : Nat) (state : RingState) : Prop where
  stretch : Stretch state.shared state.submit state.submitted tail
  flight : Flight state.shared.queue state.dma state.pending state.submitted tail
  handed : state.handed = (state.shared.pushed.take state.handed.length).map Packet.bytes
  poll : PollStands state tail state.poll
  settled : state.poll.completing = false → tail = state.submitted ∨
    (state.shared.queue (tail % lunaNetTxQueueCount)).length ≠ 0
  producers : Producer state.shared tail state.main ∧
    Producer state.shared tail state.poll.thread
  apart : ¬ (state.main.producing = true ∧ state.poll.thread.producing = true)

end Invariant

/-! ## Steps of the TX service -/

section Service

variable {shared after : TxShared} {thread next : TxThread} {tail : Nat}

/-- What a step of a TX thread does to the ring: it leaves the positions from
`tail` to the last accepted packet alone and may append packets. -/
structure TxEffect (shared after : TxShared) (tail : Nat) : Prop where
  tailAt : after.tail = shared.tail
  agree : ∀ position, tail ≤ position → position < shared.pushed.length →
    after.queue (position % lunaNetTxQueueCount) = shared.queue (position % lunaNetTxQueueCount)
  grows : ∃ more, after.pushed = shared.pushed ++ more
  headAt : after.head = after.pushed.length % lunaNetTxQueueCount
  room : after.pushed.length < tail + lunaNetTxQueueCount
  appended : ∀ position, shared.pushed.length ≤ position → position < after.pushed.length →
    after.pushed[position]? = some (after.queue (position % lunaNetTxQueueCount))
  valid : ∀ packet ∈ after.pushed, validLength packet.length = true

/-- The parts of the shared state that are the ring. -/
structure SameRing (shared after : TxShared) : Prop where
  queue : after.queue = shared.queue
  headAt : after.head = shared.head
  tailAt : after.tail = shared.tail
  pushed : after.pushed = shared.pushed

structure TxMove (shared : TxShared) (thread : TxThread) (after : TxShared) (next : TxThread)
    (tail : Nat) : Prop where
  effect : TxEffect shared after tail
  producer : Producer after tail next
  quiet : thread.producing = false → SameRing shared after
  becomes : next.producing = true → thread.producing = true ∨ thread.loadsHead = true

theorem producer_of_not_producing (idle : thread.producing = false) :
    Producer shared tail thread := by
  cases thread <;> trivial

/-- The slot of a batch's packet, as a position. -/
theorem BatchRoom.slot {batch : TxBatch} (room : BatchRoom shared tail batch) (index : Nat) :
    batch.slot index = (shared.pushed.length + index) % lunaNetTxQueueCount := by
  unfold TxBatch.slot
  rw [room.first, Nat.mod_add_mod]

/-- A change of the queue below the accepted packets does not reach a producer. -/
theorem Producer.agree (producer : Producer shared tail thread)
    (pushed : after.pushed = shared.pushed)
    (queue : ∀ position, shared.pushed.length ≤ position →
      position < tail + lunaNetTxQueueCount →
      after.queue (position % lunaNetTxQueueCount) =
        shared.queue (position % lunaNetTxQueueCount)) : Producer after tail thread := by
  have room : ∀ batch, BatchRoom shared tail batch → BatchRoom after tail batch := by
    intro batch room
    exact ⟨by rw [pushed]; exact room.first, by rw [pushed]; exact room.fits⟩
  have written : ∀ batch count, BatchRoom shared tail batch → count ≤ batch.accepted →
      Written shared batch count → Written after batch count := by
    intro batch count room small written index below
    have fits := room.fits
    rw [room.slot, queue _ (by omega) (by omega), ← room.slot]
    exact written index below
  cases thread with
  | batchTail caller requested head =>
      unfold Producer
      rw [pushed]
      exact producer
  | validate batch index => exact ⟨room _ producer.1, producer.2⟩
  | copyLength batch index =>
      exact ⟨room _ producer.1, written _ _ producer.1 (Nat.le_of_lt producer.2.2) producer.2.1,
        producer.2.2⟩
  | copyData batch index length =>
      exact ⟨room _ producer.1, written _ _ producer.1 (Nat.le_of_lt producer.2.2.1) producer.2.1,
        producer.2.2⟩
  | storeLength batch index length =>
      exact ⟨room _ producer.1, written _ _ producer.1 (Nat.le_of_lt producer.2.2.1) producer.2.1,
        producer.2.2⟩
  | publish batch =>
      exact ⟨room _ producer.1, written _ _ producer.1 (Nat.le_refl _) producer.2⟩
  | _ => trivial

theorem Producer.sameRing (producer : Producer shared tail thread) (same : SameRing shared after) :
    Producer after tail thread :=
  producer.agree same.pushed fun _ _ _ => by rw [same.queue]

variable {submit submitted : Nat}

theorem SameRing.effect (stretch : Stretch shared submit submitted tail)
    (same : SameRing shared after) : TxEffect shared after tail where
  tailAt := same.tailAt
  agree position _ _ := by rw [same.queue]
  grows := ⟨[], by rw [same.pushed, List.append_nil]⟩
  headAt := by
    rw [same.headAt, same.pushed]
    exact stretch.headAt
  room := by
    rw [same.pushed]
    exact stretch.room
  appended position above below := by
    rw [same.pushed] at below
    omega
  valid := by
    rw [same.pushed]
    exact stretch.valid

theorem TxMove.quietly (stretch : Stretch shared submit submitted tail)
    (same : SameRing shared after) (producer : Producer after tail next)
    (becomes : next.producing = true → thread.producing = true ∨ thread.loadsHead = true) :
    TxMove shared thread after next tail :=
  ⟨same.effect stretch, producer, fun _ => same, becomes⟩

/-- Filling a slot of the batch leaves what the ring holds alone. -/
theorem TxEffect.fill {batch : TxBatch} {index : Nat} (value : Packet)
    (stretch : Stretch shared submit submitted tail) (room : BatchRoom shared tail batch)
    (inside : index < batch.accepted)
    (queue : after.queue = Function.update shared.queue (batch.slot index) value)
    (headAt : after.head = shared.head) (tailAt : after.tail = shared.tail)
    (pushed : after.pushed = shared.pushed) : TxEffect shared after tail where
  tailAt := tailAt
  agree position above below := by
    rw [queue, Function.update_of_ne]
    rw [room.slot]
    intro same
    have fits := room.fits
    have equal := slot_inj above (by omega) (by omega) (by omega) same
    omega
  grows := ⟨[], by rw [pushed, List.append_nil]⟩
  headAt := by
    rw [headAt, pushed]
    exact stretch.headAt
  room := by
    rw [pushed]
    exact stretch.room
  appended position above below := by
    rw [pushed] at below
    omega
  valid := by
    rw [pushed]
    exact stretch.valid

theorem Written.fill {batch : TxBatch} {index count : Nat} {value : Packet}
    (room : BatchRoom shared tail batch) (inside : index < batch.accepted)
    (stretch : Stretch shared submit submitted tail)
    (written : Written shared batch count) (below : count ≤ index)
    (queue : after.queue = Function.update shared.queue (batch.slot index) value) :
    Written after batch count := by
  intro other small
  have fits := room.fits
  have ordered := stretch.tailLe
  have pushes := stretch.submittedLe
  rw [queue, Function.update_of_ne]
  · exact written other small
  · rw [room.slot, room.slot]
    intro same
    have equal := slot_inj (by omega : tail ≤ _) (by omega) (by omega : tail ≤ _) (by omega) same
    omega

theorem batchReturn_not_producing (caller : TxCaller) (result : Option Nat) :
    (batchReturn caller result).producing = false := by
  unfold batchReturn
  split <;> rfl

theorem serviceTxBatch_not_producing (caller : TxCaller) (requested : Nat) :
    (serviceTxBatch caller requested).producing = false := by
  unfold serviceTxBatch
  split
  · exact batchReturn_not_producing _ _
  · rfl

theorem serviceTx_not_producing (length : Nat) : (serviceTx length).producing = false := by
  unfold serviceTx
  split <;> rfl

/-- A step to a thread that does not produce, with the ring as it was. -/
theorem TxMove.aside (stretch : Stretch shared submit submitted tail)
    (same : SameRing shared after) (idle : next.producing = false) :
    TxMove shared thread after next tail :=
  .quietly stretch same (producer_of_not_producing idle) fun producing => by
    rw [idle] at producing
    cases producing

theorem batchTail_move {caller : TxCaller} {requested head : Nat}
    (stretch : Stretch shared submit submitted tail)
    (producer : Producer shared tail (.batchTail caller requested head))
    (moved : txStep shared (.batchTail caller requested head) = some (after, next)) :
    TxMove shared (.batchTail caller requested head) after next tail := by
  have headAt : head = shared.pushed.length % lunaNetTxQueueCount := producer
  have used : CircularBuffer.used lunaNetTxQueueCount head shared.tail =
      shared.pushed.length - tail := by
    rw [headAt, stretch.tailAt]
    exact used_positions (Nat.le_trans stretch.tailLe stretch.submittedLe) stretch.room
  simp only [txStep, used, Option.some.injEq, Prod.mk.injEq] at moved
  obtain ⟨rfl, rfl⟩ := moved
  split
  · exact .aside stretch ⟨rfl, rfl, rfl, rfl⟩ rfl
  · next some =>
      refine .quietly stretch ⟨rfl, rfl, rfl, rfl⟩ ⟨⟨headAt, ?_⟩, Nat.pos_of_ne_zero some⟩
        fun _ => .inl rfl
      have room := stretch.room
      have ordered := Nat.le_trans stretch.tailLe stretch.submittedLe
      have bound := Nat.min_le_right requested
        (lunaNetTxQueueCount - 1 - (shared.pushed.length - tail))
      dsimp only at *
      omega

theorem publish_move {batch : TxBatch} (stretch : Stretch shared submit submitted tail)
    (producer : Producer shared tail (.publish batch))
    (moved : txStep shared (.publish batch) = some (after, next)) :
    TxMove shared (.publish batch) after next tail := by
  simp only [txStep, Option.some.injEq, Prod.mk.injEq] at moved
  obtain ⟨rfl, rfl⟩ := moved
  obtain ⟨room, written⟩ := producer
  have count : (batch.packets shared.queue).length = batch.accepted := by
    simp [TxBatch.packets]
  refine ⟨⟨rfl, fun _ _ _ => rfl, ⟨_, rfl⟩, ?_, ?_, ?_, ?_⟩, trivial, nofun, nofun⟩
  · rw [List.length_append, count]
    exact room.slot _
  · rw [List.length_append, count]
    exact room.fits
  · intro position above below
    rw [List.length_append, count] at below
    rw [List.getElem?_append_right above]
    have slot : batch.slot (position - shared.pushed.length) = position % lunaNetTxQueueCount := by
      rw [room.slot]
      congr 1
      omega
    simp only [TxBatch.packets, List.getElem?_map]
    rw [List.getElem?_range (by omega)]
    simp [slot]
  · intro packet member
    rcases List.mem_append.mp member with old | new
    · exact stretch.valid packet old
    · obtain ⟨index, small, rfl⟩ := List.mem_map.mp new
      exact written index (List.mem_range.mp small)

theorem txStep_move (stretch : Stretch shared submit submitted tail)
    (producer : Producer shared tail thread) (state : RingState) (same : state.shared = shared)
    (lengths : lengthsHold state thread = true)
    (moved : txStep shared thread = some (after, next)) :
    TxMove shared thread after next tail := by
  subst same
  cases thread with
  | idle => cases moved
  | batchTail caller requested head => exact batchTail_move stretch producer moved
  | publish batch => exact publish_move stretch producer moved
  | batchHead caller requested =>
      simp only [txStep, Option.some.injEq, Prod.mk.injEq] at moved
      obtain ⟨rfl, rfl⟩ := moved
      exact .quietly stretch ⟨rfl, rfl, rfl, rfl⟩ stretch.headAt fun _ => .inr rfl
  | validate batch index =>
      obtain ⟨room, inside⟩ := producer
      simp only [txStep] at moved
      split at moved
      · cases moved
        refine .quietly stretch ⟨rfl, rfl, rfl, rfl⟩ ?_ fun _ => .inl rfl
        split
        · next more => exact ⟨⟨room.first, room.fits⟩, more⟩
        · exact ⟨⟨room.first, room.fits⟩, fun _ below => absurd below (Nat.not_lt_zero _),
            Nat.lt_of_le_of_lt (Nat.zero_le index) inside⟩
      · cases moved
        exact .aside stretch ⟨rfl, rfl, rfl, rfl⟩ (batchReturn_not_producing _ _)
  | copyLength batch index =>
      simp only [txStep, Option.some.injEq, Prod.mk.injEq] at moved
      obtain ⟨rfl, rfl⟩ := moved
      exact .quietly stretch ⟨rfl, rfl, rfl, rfl⟩
        ⟨producer.1, producer.2.1, producer.2.2, lengths⟩ fun _ => .inl rfl
  | copyData batch index length =>
      simp only [txStep, Option.some.injEq, Prod.mk.injEq] at moved
      obtain ⟨rfl, rfl⟩ := moved
      obtain ⟨room, written, inside, valid⟩ := producer
      have later : BatchRoom state.shared tail
          { batch with copied := state.shared.copies.length } := ⟨room.first, room.fits⟩
      exact ⟨.fill _ stretch room inside rfl rfl rfl rfl, ⟨⟨room.first, room.fits⟩,
        written.fill later inside stretch (Nat.le_refl _) rfl, inside, valid⟩, nofun,
        fun _ => .inl rfl⟩
  | storeLength batch index length =>
      simp only [txStep, Option.some.injEq, Prod.mk.injEq] at moved
      obtain ⟨rfl, rfl⟩ := moved
      obtain ⟨room, written, inside, valid⟩ := producer
      have filled : Written { state.shared with
          queue := Function.update state.shared.queue (batch.slot index)
            { state.shared.queue (batch.slot index) with length := length } } batch (index + 1) := by
        intro other small
        by_cases last : other = index
        · subst last
          simpa using valid
        · exact written.fill room inside stretch (Nat.le_refl _) rfl other (by omega)
      refine ⟨.fill _ stretch room inside rfl rfl rfl rfl, ?_, nofun, fun _ => .inl rfl⟩
      split
      · next more => exact ⟨⟨room.first, room.fits⟩, filled, more⟩
      · next last =>
          have count : batch.accepted = index + 1 := by omega
          exact ⟨⟨room.first, room.fits⟩, count ▸ filled⟩
  | _ =>
      simp only [txStep, Option.some.injEq, Prod.mk.injEq] at moved
      obtain ⟨rfl, rfl⟩ := moved
      refine .aside stretch ⟨rfl, rfl, rfl, rfl⟩ ?_
      first
        | rfl
        | exact batchReturn_not_producing _ _
        | exact serviceTxBatch_not_producing _ _
        | (split <;> first | rfl | exact batchReturn_not_producing _ _)

theorem TxEffect.getElem {position : Nat} (effect : TxEffect shared after tail)
    (below : position < shared.pushed.length) :
    after.pushed[position]? = shared.pushed[position]? := by
  obtain ⟨more, appended⟩ := effect.grows
  rw [appended, List.getElem?_append_left below]

theorem TxEffect.length_le (effect : TxEffect shared after tail) :
    shared.pushed.length ≤ after.pushed.length := by
  obtain ⟨more, appended⟩ := effect.grows
  rw [appended, List.length_append]
  omega

theorem Stretch.effect (stretch : Stretch shared submit submitted tail)
    (effect : TxEffect shared after tail) : Stretch after submit submitted tail where
  headAt := effect.headAt
  tailAt := by
    rw [effect.tailAt]
    exact stretch.tailAt
  submitAt := stretch.submitAt
  tailLe := stretch.tailLe
  submittedLe := Nat.le_trans stretch.submittedLe effect.length_le
  room := effect.room
  queued position above below := by
    by_cases old : position < shared.pushed.length
    · rw [effect.getElem old, effect.agree position (Nat.le_trans stretch.tailLe above) old]
      exact stretch.queued position above old
    · exact effect.appended position (Nat.le_of_not_lt old) below
  valid := effect.valid

theorem Flight.agree {queue other : Nat → Packet} {dma : TxDma → DmaBuffer} {pending : Nat}
    (flight : Flight queue dma pending submitted tail)
    (agree : ∀ position, tail ≤ position → position < submitted →
      other (position % lunaNetTxQueueCount) = queue (position % lunaNetTxQueueCount)) :
    Flight other dma pending submitted tail where
  used buffer inUse := by
    obtain ⟨position, above, below, slot, uncompleted⟩ := flight.used buffer inUse
    refine ⟨position, above, below, slot, ?_⟩
    rw [agree position above below]
    exact uncompleted
  distinct := flight.distinct
  covered position above below uncompleted := by
    rw [agree position above below] at uncompleted
    exact flight.covered position above below uncompleted
  pending := flight.pending

end Service

section Service

variable {state : RingState} {after : TxShared} {tail : Nat}

theorem RingState.submitted_of_transit {buffer : TxDma}
    (transit : state.poll.transit = some buffer) :
    state.submitted = state.handed.length + 1 := by
  simp [RingState.submitted, RingState.inTransit, transit]

theorem RingState.submitted_of_none (transit : state.poll.transit = none) :
    state.submitted = state.handed.length := by
  simp [RingState.submitted, RingState.inTransit, transit]

/-- While its buffer is in use, the packet in transit has not been reclaimed. -/
theorem RingAt.tail_le {buffer : TxDma} (at_ : RingAt tail state)
    (transit : state.poll.transit = some buffer)
    (inUse : (state.dma buffer).inUse = true) : tail ≤ state.handed.length := by
  obtain ⟨position, above, below, -, -⟩ := at_.flight.used buffer inUse
  rw [RingState.submitted_of_transit transit] at below
  omega

theorem Transit.effect {submit : Nat} {buffer : TxDma} {main : TxThread} (at_ : RingAt tail state)
    (effect : TxEffect state.shared after tail) (transit : state.poll.transit = some buffer)
    (fits : Transit state submit buffer) : Transit { state with
      shared := after
      main := main } submit buffer := by
  have below : state.handed.length < state.shared.pushed.length := by
    have bound := at_.stretch.submittedLe
    rw [RingState.submitted_of_transit transit] at bound
    omega
  refine ⟨fits.submitAt, ?_, fun inUse => ⟨(fits.slot inUse).1, ?_⟩⟩
  · dsimp only
    rw [effect.getElem below]
    exact fits.data
  · dsimp only
    rw [effect.getElem below, (fits.slot inUse).2, fits.submitAt,
      effect.agree _ (at_.tail_le transit inUse) below]

theorem ResumeFits.effect {main : TxThread} {resume : Resume} (at_ : RingAt tail state)
    (effect : TxEffect state.shared after tail) (transit : state.poll.transit = resume.transit)
    (fits : ResumeFits state resume) : ResumeFits { state with
      shared := after
      main := main } resume := by
  cases resume with
  | driver submit buffer => exact Transit.effect at_ effect transit fits
  | polled => trivial
  | loop => trivial

theorem Cleared.effect {position : Nat} (effect : TxEffect state.shared after tail)
    (below : position ≤ state.shared.pushed.length)
    (cleared : Cleared state.shared.queue tail position) : Cleared after.queue tail position := by
  intro other above inside
  rw [effect.agree other above (by omega)]
  exact cleared other above inside

theorem Chosen.effect {submit : Nat} {buffer : TxDma} {main : TxThread}
    (effect : TxEffect state.shared after tail) (chosen : Chosen state submit buffer) :
    Chosen { state with
      shared := after
      main := main } submit buffer :=
  ⟨chosen.submitAt, Nat.lt_of_lt_of_le chosen.waiting effect.length_le, chosen.free⟩

/-- The slot of the packet that `process_tx_queue` has chosen. -/
theorem Chosen.agree {submit : Nat} {buffer : TxDma} (at_ : RingAt tail state)
    (effect : TxEffect state.shared after tail) (chosen : Chosen state submit buffer)
    (transit : state.poll.transit = none) : after.queue submit = state.shared.queue submit := by
  have submitAt := at_.stretch.submitAt
  have ordered := at_.stretch.tailLe
  rw [RingState.submitted_of_none transit] at submitAt ordered
  rw [chosen.submitAt, submitAt]
  exact effect.agree _ ordered chosen.waiting

theorem PollStands.effect {main : TxThread} {thread : PollThread} (at_ : RingAt tail state)
    (effect : TxEffect state.shared after tail) (stands : state.poll = thread) :
    PollStands { state with
      shared := after
      main := main } tail thread := by
  have fits : PollStands state tail thread := stands ▸ at_.poll
  have transit : state.poll.transit = thread.transit := by rw [stands]
  have pushes := at_.stretch.submittedLe
  have grown := effect.length_le
  cases thread with
  | service thread => trivial
  | gate => trivial
  | scan => trivial
  | packetLength submit buffer => exact Chosen.effect effect fits
  | packetData submit buffer length =>
      refine ⟨fits.1.effect effect, ?_⟩
      dsimp only
      rw [fits.1.agree at_ effect transit]
      exact fits.2
  | hand submit buffer =>
      refine ⟨fits.1.effect effect, ?_⟩
      dsimp only
      rw [fits.1.agree at_ effect transit]
      exact fits.2
  | driver submit buffer => exact Transit.effect at_ effect transit fits
  | complete cookie resume => exact ResumeFits.effect at_ effect transit fits
  | loadHead resume => exact ResumeFits.effect at_ effect transit fits
  | advance cursor limit resume =>
      obtain ⟨resumes, position, last, cursorAt, limitAt, above, below, lastAbove, lastBelow,
        cleared⟩ := fits
      exact ⟨resumes.effect at_ effect transit, position, last, cursorAt, limitAt, above, below,
        lastAbove, Nat.le_trans lastBelow grown, cleared.effect effect (Nat.le_trans below pushes)⟩
  | storeTail cursor resume =>
      obtain ⟨resumes, position, cursorAt, above, below, cleared, stops⟩ := fits
      refine ⟨resumes.effect at_ effect transit, position, cursorAt, above, below,
        cleared.effect effect (Nat.le_trans below pushes), ?_⟩
      rcases Nat.lt_or_ge position state.submitted with inside | reached
      · right
        dsimp only
        rw [effect.agree position above (by omega)]
        rcases stops with equal | nonzero
        · omega
        · exact nonzero
      · exact .inl (Nat.le_antisymm below reached)

/-- The ring part of the invariant after a step of a TX thread. -/
theorem RingAt.handed_effect (at_ : RingAt tail state) (effect : TxEffect state.shared after tail) :
    state.handed = (after.pushed.take state.handed.length).map Packet.bytes := by
  obtain ⟨more, appended⟩ := effect.grows
  have bound : state.handed.length ≤ state.shared.pushed.length :=
    Nat.le_trans (Nat.le_add_right _ _) at_.stretch.submittedLe
  rw [appended, List.take_append_of_le_length bound]
  exact at_.handed

theorem RingAt.settled_effect (at_ : RingAt tail state) (effect : TxEffect state.shared after tail)
    (calm : state.poll.completing = false) : tail = state.submitted ∨
      (after.queue (tail % lunaNetTxQueueCount)).length ≠ 0 := by
  rcases Nat.lt_or_ge tail state.submitted with inside | reached
  · right
    rw [effect.agree tail (Nat.le_refl _) (Nat.lt_of_lt_of_le inside at_.stretch.submittedLe)]
    rcases at_.settled calm with equal | nonzero
    · omega
    · exact nonzero
  · exact .inl (Nat.le_antisymm at_.stretch.tailLe reached)

theorem RingAt.stepMain {next : TxThread} (at_ : RingAt tail state)
    (moved : TxMove state.shared state.main after next tail)
    (apart : state.main.loadsHead = true → state.poll.thread.producing = false) :
    RingAt tail { state with
      shared := after
      main := next } := by
  have others : state.main.producing = true → state.poll.thread.producing = false := by
    intro producing
    cases other : state.poll.thread.producing with
    | false => rfl
    | true => exact absurd ⟨producing, other⟩ at_.apart
  refine ⟨at_.stretch.effect moved.effect, ?_, at_.handed_effect moved.effect,
    PollStands.effect at_ moved.effect rfl, at_.settled_effect moved.effect, ⟨moved.producer, ?_⟩, ?_⟩
  · exact at_.flight.agree fun position above below =>
      moved.effect.agree position above (Nat.lt_of_lt_of_le below at_.stretch.submittedLe)
  · cases producing : state.main.producing with
    | false => exact at_.producers.2.sameRing (moved.quiet producing)
    | true => exact producer_of_not_producing (others producing)
  · rintro ⟨main, poll⟩
    have idle : state.poll.thread.producing = false := by
      rcases moved.becomes main with producing | loads
      · exact others producing
      · exact apart loads
    rw [idle] at poll
    cases poll

theorem RingAt.stepService {thread next : TxThread} (at_ : RingAt tail state)
    (stands : state.poll = .service thread)
    (moved : TxMove state.shared thread after next tail)
    (apart : thread.loadsHead = true → state.main.producing = false) :
    RingAt tail { state with
      shared := after
      poll := .service next } := by
  have calm : state.poll.completing = false := by rw [stands]; rfl
  have submitted : ({ state with
      shared := after
      poll := .service next } : RingState).submitted = state.submitted := by
    simp [RingState.submitted, RingState.inTransit, stands, PollThread.transit]
  have others : thread.producing = true → state.main.producing = false := by
    intro producing
    cases other : state.main.producing with
    | false => rfl
    | true => exact absurd ⟨other, by rw [stands]; exact producing⟩ at_.apart
  refine ⟨?_, ?_, at_.handed_effect moved.effect, trivial, fun _ => ?_, ⟨?_, moved.producer⟩, ?_⟩
  · rw [submitted]
    exact at_.stretch.effect moved.effect
  · rw [submitted]
    exact at_.flight.agree fun position above below =>
      moved.effect.agree position above (Nat.lt_of_lt_of_le below at_.stretch.submittedLe)
  · rw [submitted]
    exact at_.settled_effect moved.effect calm
  · cases producing : thread.producing with
    | false => exact at_.producers.1.sameRing (moved.quiet producing)
    | true => exact producer_of_not_producing (others producing)
  · rintro ⟨main, poll⟩
    have idle : state.main.producing = false := by
      rcases moved.becomes poll with producing | loads
      · exact others producing
      · exact apart loads
    have busy : state.main.producing = true := main
    rw [idle] at busy
    cases busy

end Service

/-! ## Steps of the poll thread -/

section Poll

variable {state : RingState} {tail : Nat}

theorem RingState.submitted_goto (state : RingState) {thread : PollThread}
    (transit : thread.transit = state.poll.transit) :
    ({ state with poll := thread } : RingState).submitted = state.submitted := by
  simp [RingState.submitted, RingState.inTransit, transit]

/-- The poll thread moves on and changes nothing else. -/
theorem RingAt.goto {thread : PollThread} (at_ : RingAt tail state)
    (transit : thread.transit = state.poll.transit)
    (fits : PollStands { state with poll := thread } tail thread)
    (calm : thread.completing = false → state.poll.completing = false)
    (idle : thread.thread.producing = false) : RingAt tail { state with poll := thread } := by
  have submitted := state.submitted_goto transit
  refine ⟨?_, ?_, at_.handed, fits, fun settled => ?_,
    ⟨at_.producers.1, producer_of_not_producing idle⟩, fun both => ?_⟩
  · rw [submitted]
    exact at_.stretch
  · rw [submitted]
    exact at_.flight
  · rw [submitted]
    exact at_.settled (calm settled)
  · have busy : thread.thread.producing = true := both.2
    rw [idle] at busy
    cases busy

theorem resumeFits_goto {resume : Resume} {thread : PollThread} (fits : ResumeFits state resume) :
    ResumeFits { state with poll := thread } resume := by
  cases resume with
  | driver submit buffer => exact ⟨fits.submitAt, fits.data, fits.slot⟩
  | polled => trivial
  | loop => trivial

theorem resume_transit (resume : Resume) : resume.thread.transit = resume.transit := by
  cases resume <;> rfl

theorem resume_idle (resume : Resume) : resume.thread.thread.producing = false := by
  cases resume <;> rfl

theorem resume_fits {resume : Resume} (fits : ResumeFits state resume) :
    PollStands state tail resume.thread := by
  cases resume with
  | driver submit buffer => exact fits
  | polled => trivial
  | loop => trivial

/-- Buffers that differ in their data only. -/
theorem Flight.data {queue : Nat → Packet} {dma : TxDma → DmaBuffer}
    {pending submitted : Nat} (buffer : TxDma) (data : List UInt8)
    (flight : Flight queue dma pending submitted tail) :
    Flight queue (Function.update dma buffer { dma buffer with data := data }) pending submitted
      tail := by
  have same : ∀ other, (Function.update dma buffer { dma buffer with data := data } other).inUse =
      (dma other).inUse ∧ (Function.update dma buffer { dma buffer with data := data }
        other).queueIndex = (dma other).queueIndex := by
    intro other
    by_cases equal : other = buffer
    · subst equal
      simp
    · simp [Function.update_of_ne equal]
  refine ⟨fun other inUse => ?_, fun first second firstUse secondUse slot => ?_,
    fun position above below nonzero => ?_, ?_⟩
  · rw [(same other).1] at inUse
    rw [(same other).2]
    exact flight.used other inUse
  · rw [(same _).1] at firstUse secondUse
    rw [(same _).2, (same _).2] at slot
    exact flight.distinct first second firstUse secondUse slot
  · obtain ⟨other, inUse, slot⟩ := flight.covered position above below nonzero
    exact ⟨other, (same other).1.trans inUse, (same other).2.trans slot⟩
  · have updated := Tally.total_update (fun entry : DmaBuffer => entry.inUse.toNat) dma buffer
      { dma buffer with data := data }
    have before := flight.pending
    dsimp only at updated ⊢
    omega

theorem pending_le (dma : TxDma → DmaBuffer) :
    Tally.total (fun entry : DmaBuffer => entry.inUse.toNat) dma ≤ 16 := by
  have bound : ∀ buffer : TxDma, (dma buffer).inUse.toNat ≤ 1 := fun buffer => Bool.toNat_le _
  have sum := Finset.sum_le_card_nsmul Finset.univ
    (fun buffer : TxDma => (dma buffer).inUse.toNat) 1 fun buffer _ => bound buffer
  simpa [Tally.total, lunaNetTxDmaCount] using sum

/-- A buffer is taken for the next position. -/
theorem Flight.take {queue : Nat → Packet} {dma : TxDma → DmaBuffer} {pending submitted : Nat}
    {buffer : TxDma} (flight : Flight queue dma pending submitted tail)
    (free : (dma buffer).inUse = false) (ordered : tail ≤ submitted)
    (room : submitted < tail + lunaNetTxQueueCount)
    (nonzero : (queue (submitted % lunaNetTxQueueCount)).length ≠ 0) :
    Flight queue (Function.update dma buffer { dma buffer with
      inUse := true
      queueIndex := submitted % lunaNetTxQueueCount }) ((pending + 1) % 2 ^ 32) (submitted + 1)
      tail := by
  have others : ∀ other, other ≠ buffer → Function.update dma buffer { dma buffer with
      inUse := true
      queueIndex := submitted % lunaNetTxQueueCount } other = dma other :=
    fun other different => Function.update_of_ne different _ _
  have elsewhere : ∀ other, (dma other).inUse = true →
      (dma other).queueIndex ≠ submitted % lunaNetTxQueueCount := by
    intro other inUse same
    obtain ⟨position, above, below, slot, -⟩ := flight.used other inUse
    have equal := slot_inj above (by omega) ordered room (slot.symm.trans same)
    omega
  refine ⟨fun other inUse => ?_, fun first second firstUse secondUse slot => ?_,
    fun position above below uncompleted => ?_, ?_⟩
  · by_cases equal : other = buffer
    · subst equal
      refine ⟨submitted, ordered, Nat.lt_succ_self _, ?_, nonzero⟩
      rw [Function.update_self]
    · rw [others other equal] at inUse ⊢
      obtain ⟨position, above, below, slot, uncompleted⟩ := flight.used other inUse
      exact ⟨position, above, Nat.lt_succ_of_lt below, slot, uncompleted⟩
  · by_cases firstIs : first = buffer
    · by_cases secondIs : second = buffer
      · exact firstIs.trans secondIs.symm
      · rw [others second secondIs] at secondUse slot
        rw [firstIs, Function.update_self] at slot
        exact absurd slot.symm (elsewhere second secondUse)
    · rw [others first firstIs] at firstUse slot
      by_cases secondIs : second = buffer
      · rw [secondIs, Function.update_self] at slot
        exact absurd slot (elsewhere first firstUse)
      · rw [others second secondIs] at secondUse slot
        exact flight.distinct first second firstUse secondUse slot
  · by_cases last : position = submitted
    · subst last
      exact ⟨buffer, by rw [Function.update_self], by rw [Function.update_self]⟩
    · obtain ⟨other, inUse, slot⟩ := flight.covered position above (by omega) uncompleted
      have different : other ≠ buffer := by
        rintro rfl
        rw [free] at inUse
        cases inUse
      exact ⟨other, by rw [others other different]; exact inUse,
        by rw [others other different]; exact slot⟩
  · have updated := Tally.total_update (fun entry : DmaBuffer => entry.inUse.toNat) dma buffer
      { dma buffer with
        inUse := true
        queueIndex := submitted % lunaNetTxQueueCount }
    have bound := pending_le dma
    have before := flight.pending
    simp only [free, Bool.toNat_false, Bool.toNat_true, Nat.add_zero] at updated
    rw [updated, ← before, Nat.mod_eq_of_lt (by omega)]

/-- A buffer is given up: its position is completed or no longer submitted. -/
theorem Flight.drop {queue other : Nat → Packet} {dma : TxDma → DmaBuffer}
    {pending submitted remaining position : Nat} {buffer : TxDma}
    (flight : Flight queue dma pending submitted tail)
    (inUse : (dma buffer).inUse = true)
    (slot : (dma buffer).queueIndex = position % lunaNetTxQueueCount)
    (above : tail ≤ position) (below : position < submitted)
    (room : submitted ≤ tail + lunaNetTxQueueCount)
    (gone : position < remaining → (other (position % lunaNetTxQueueCount)).length = 0)
    (fewer : remaining ≤ submitted)
    (rest : ∀ kept, tail ≤ kept → kept < submitted → kept ≠ position → kept < remaining ∧
      other (kept % lunaNetTxQueueCount) = queue (kept % lunaNetTxQueueCount)) :
    Flight other (Function.update dma buffer { dma buffer with inUse := false })
      ((pending + (2 ^ 32 - 1)) % 2 ^ 32) remaining tail := by
  have others : ∀ entry, (Function.update dma buffer { dma buffer with inUse := false }
      entry).inUse = true → entry ≠ buffer ∧ (dma entry).inUse = true ∧
        Function.update dma buffer { dma buffer with inUse := false } entry = dma entry := by
    intro entry used
    have different : entry ≠ buffer := by
      rintro rfl
      rw [Function.update_self] at used
      cases used
    have kept := Function.update_of_ne different { dma buffer with inUse := false } dma
    rw [kept] at used
    exact ⟨different, used, kept⟩
  refine ⟨fun entry used => ?_, fun first second firstUse secondUse same => ?_,
    fun kept keptAbove keptBelow uncompleted => ?_, ?_⟩
  · obtain ⟨different, used, kept⟩ := others entry used
    obtain ⟨held, heldAbove, heldBelow, at_, uncompleted⟩ := flight.used entry used
    have elsewhere : held ≠ position := by
      rintro rfl
      exact different (flight.distinct entry buffer used inUse (at_.trans slot.symm))
    obtain ⟨remains, agrees⟩ := rest held heldAbove heldBelow elsewhere
    rw [kept]
    exact ⟨held, heldAbove, remains, at_, by rw [agrees]; exact uncompleted⟩
  · obtain ⟨-, firstUsed, firstKept⟩ := others first firstUse
    obtain ⟨-, secondUsed, secondKept⟩ := others second secondUse
    rw [firstKept, secondKept] at same
    exact flight.distinct first second firstUsed secondUsed same
  · have elsewhere : kept ≠ position := by
      rintro rfl
      exact uncompleted (gone keptBelow)
    have inside : kept < submitted := Nat.lt_of_lt_of_le keptBelow fewer
    rw [(rest kept keptAbove inside elsewhere).2] at uncompleted
    obtain ⟨entry, used, at_⟩ := flight.covered kept keptAbove inside uncompleted
    have different : entry ≠ buffer := by
      rintro rfl
      exact elsewhere (slot_inj keptAbove (by omega) above (by omega) (at_.symm.trans slot))
    refine ⟨entry, ?_, ?_⟩
    · rw [Function.update_of_ne different]
      exact used
    · rw [Function.update_of_ne different]
      exact at_
  · have updated := Tally.total_update (fun entry : DmaBuffer => entry.inUse.toNat) dma buffer
      { dma buffer with inUse := false }
    have bound := pending_le dma
    have before := flight.pending
    simp only [inUse, Bool.toNat_false, Bool.toNat_true, Nat.add_zero] at updated
    dsimp only
    omega

theorem Producer.mono {shared : TxShared} {thread : TxThread} {later : Nat}
    (producer : Producer shared tail thread) (grows : tail ≤ later) :
    Producer shared later thread := by
  have room : ∀ batch, BatchRoom shared tail batch → BatchRoom shared later batch := by
    intro batch room
    have fits := room.fits
    exact ⟨room.first, by omega⟩
  cases thread with
  | validate batch index => exact ⟨room _ producer.1, producer.2⟩
  | copyLength batch index => exact ⟨room _ producer.1, producer.2⟩
  | copyData batch index length => exact ⟨room _ producer.1, producer.2⟩
  | storeLength batch index length => exact ⟨room _ producer.1, producer.2⟩
  | publish batch => exact ⟨room _ producer.1, producer.2⟩
  | _ => exact producer

/-- The next packet to submit is in its slot. -/
theorem RingAt.next_packet {position : Nat} (at_ : RingAt tail state)
    (above : state.submitted ≤ position) (below : position < state.shared.pushed.length) :
    (state.shared.queue (position % lunaNetTxQueueCount)).length ≠ 0 := by
  have queued := at_.stretch.queued position above below
  have valid := at_.stretch.valid _ (List.mem_of_getElem? queued)
  simp only [validLength, decide_eq_true_eq] at valid
  omega

theorem RingAt.scan (at_ : RingAt tail state) (stands : state.poll = .scan) {target : RingState}
    (moved : pollStep state .scan = some target) : RingAt tail target := by
  have transit : state.poll.transit = none := by rw [stands]; rfl
  have calm : state.poll.completing = false := by rw [stands]; rfl
  have idle : RingAt tail { state with poll := .service .idle } :=
    at_.goto transit.symm trivial (fun _ => calm) rfl
  simp only [pollStep] at moved
  split at moved
  · cases moved
    exact idle
  · next different =>
      split at moved
      · cases moved
        exact idle
      · next buffer found =>
          cases moved
          refine at_.goto transit.symm ⟨rfl, ?_, ?_⟩ (fun _ => calm) rfl
          · have bound := at_.stretch.submittedLe
            have submitAt := at_.stretch.submitAt
            rw [RingState.submitted_of_none transit] at bound submitAt
            rw [submitAt, at_.stretch.headAt] at different
            refine Nat.lt_of_le_of_ne bound fun equal => different ?_
            rw [equal]
          · have free := List.find?_some found
            simpa using free

theorem RingAt.packetData {submit length : Nat} {buffer : TxDma} (at_ : RingAt tail state)
    (stands : state.poll = .packetData submit buffer length) :
    RingAt tail { state.setDma buffer { state.dma buffer with
        data := read (state.shared.queue submit).data 0 length } with
      poll := .hand submit buffer } := by
  have fits : PollStands state tail (.packetData submit buffer length) := stands ▸ at_.poll
  obtain ⟨chosen, isLength⟩ := fits
  have transit : state.poll.transit = none := by rw [stands]; rfl
  have submitted : ({ state.setDma buffer { state.dma buffer with
        data := read (state.shared.queue submit).data 0 length } with
      poll := .hand submit buffer } : RingState).submitted = state.submitted := by
    rw [RingState.submitted_of_none transit]
    exact RingState.submitted_of_none rfl
  refine ⟨?_, ?_, at_.handed, ⟨⟨chosen.submitAt, chosen.waiting, ?_⟩, ?_⟩, fun _ => ?_,
    ⟨at_.producers.1, trivial⟩, fun both => nomatch both.2⟩
  · rw [submitted]
    exact at_.stretch
  · rw [submitted]
    exact at_.flight.data buffer _
  · simp [RingState.setDma, chosen.free]
  · simp [RingState.setDma, Packet.bytes, isLength]
  · rw [submitted]
    exact at_.settled (by rw [stands]; rfl)

theorem RingAt.handOver {submit : Nat} {buffer : TxDma} (at_ : RingAt tail state)
    (stands : state.poll = .hand submit buffer) : RingAt tail (state.handOver submit buffer) := by
  have fits : PollStands state tail (.hand submit buffer) := stands ▸ at_.poll
  obtain ⟨chosen, data⟩ := fits
  have count : state.submitted = state.handed.length :=
    RingState.submitted_of_none (by rw [stands]; rfl)
  have submitted : (state.handOver submit buffer).submitted = state.submitted + 1 := by
    rw [count]
    rfl
  have submitAt : submit = state.submitted % lunaNetTxQueueCount :=
    chosen.submitAt.trans at_.stretch.submitAt
  have waiting : state.submitted < state.shared.pushed.length := count ▸ chosen.waiting
  have nonzero := at_.next_packet (Nat.le_refl _) waiting
  have queued := at_.stretch.queued _ (Nat.le_refl _) waiting
  have room := at_.stretch.room
  refine ⟨?_, ?_, at_.handed, ⟨?_, ?_, ?_⟩, fun _ => ?_, ⟨at_.producers.1, trivial⟩,
    fun both => nomatch both.2⟩
  · rw [submitted]
    refine ⟨at_.stretch.headAt, at_.stretch.tailAt, ?_, Nat.le_succ_of_le at_.stretch.tailLe,
      waiting, room, fun position above below => ?_, at_.stretch.valid⟩
    · dsimp only [RingState.handOver]
      rw [submitAt, Nat.mod_add_mod]
    · exact at_.stretch.queued position (Nat.le_of_succ_le above) below
  · rw [submitted]
    dsimp only [RingState.handOver, RingState.setDma]
    rw [submitAt]
    exact at_.flight.take chosen.free at_.stretch.tailLe (Nat.lt_trans waiting room) nonzero
  · rw [submitAt, count]
    rfl
  · simp only [RingState.handOver, RingState.setDma, Function.update_self]
    rw [← count, queued, data, submitAt]
    rfl
  · intro _
    simp only [RingState.handOver, RingState.setDma, Function.update_self, true_and]
    rw [← count, queued, submitAt]
  · rw [submitted]
    rcases at_.settled (by rw [stands]; rfl) with equal | uncompleted
    · right
      rw [equal]
      exact nonzero
    · exact .inr uncompleted

/-- A buffer in use is completed: its slot is cleared, and the tail is yet to be
advanced. -/
theorem RingAt.completed {cookie : Nat} {buffer : TxDma} {resume : Resume} (at_ : RingAt tail state)
    (stands : state.poll = .complete cookie resume) (inUse : (state.dma buffer).inUse = true) :
    RingAt tail { state.completed buffer with poll := .loadHead resume } := by
  have fits : PollStands state tail (.complete cookie resume) := stands ▸ at_.poll
  have transit : state.poll.transit = resume.transit := by rw [stands]; rfl
  have submitted : ({ state.completed buffer with poll := .loadHead resume } : RingState).submitted =
      state.submitted := by
    unfold RingState.submitted RingState.inTransit
    rw [transit]
    simp only [Option.length_toList, Option.isSome_map, PollThread.transit]
    rfl
  obtain ⟨position, above, below, slot, -⟩ := at_.flight.used buffer inUse
  have room := at_.stretch.room
  have pushes := at_.stretch.submittedLe
  -- Every other position in the ring keeps its slot.
  have elsewhere : ∀ other, tail ≤ other → other < tail + lunaNetTxQueueCount → other ≠ position →
      (state.completed buffer).shared.queue (other % lunaNetTxQueueCount) =
        state.shared.queue (other % lunaNetTxQueueCount) := by
    intro other otherAbove otherBelow different
    refine Function.update_of_ne ?_ _ _
    rw [slot]
    exact fun same => different (slot_inj otherAbove otherBelow above (by omega) same)
  refine ⟨?_, ?_, at_.handed, ?_, nofun, ⟨?_, trivial⟩, fun both => nomatch both.2⟩
  · rw [submitted]
    refine ⟨at_.stretch.headAt, at_.stretch.tailAt, at_.stretch.submitAt, at_.stretch.tailLe, pushes,
      room, fun other otherAbove otherBelow => ?_, at_.stretch.valid⟩
    have ordered := at_.stretch.tailLe
    rw [elsewhere other (by omega) (Nat.lt_trans otherBelow room) (by omega)]
    exact at_.stretch.queued other otherAbove otherBelow
  · rw [submitted]
    refine at_.flight.drop inUse slot above below (by omega) (fun _ => ?_) (Nat.le_refl _)
      fun kept keptAbove keptBelow different =>
        ⟨keptBelow, elsewhere kept keptAbove (by omega) different⟩
    dsimp only [RingState.completed]
    rw [slot, Function.update_self]
  · cases resume with
    | polled => trivial
    | loop => trivial
    | driver submit handing =>
        have transits : Transit state submit handing := fits
        refine ⟨transits.submitAt, ?_, fun used => ?_⟩
        · by_cases same : handing = buffer
          · subst same
            simpa [RingState.completed, RingState.setDma] using transits.data
          · simpa [RingState.completed, RingState.setDma, same] using transits.data
        · have different : handing ≠ buffer := by
            rintro rfl
            simp [RingState.completed, RingState.setDma] at used
          have kept : (state.completed buffer).dma handing = state.dma handing :=
            Function.update_of_ne different _ _
          have used' : (state.dma handing).inUse = true := kept ▸ used
          obtain ⟨handingSlot, packet⟩ := transits.slot used'
          refine ⟨by rw [← handingSlot]; exact congrArg DmaBuffer.queueIndex kept, ?_⟩
          have other : submit ≠ (state.dma buffer).queueIndex := fun same =>
            different (at_.flight.distinct _ _ used' inUse (handingSlot.trans same))
          refine packet.trans (congrArg some ?_)
          exact (Function.update_of_ne other _ _).symm
  · refine at_.producers.1.agree rfl fun other otherAbove otherBelow => ?_
    exact elsewhere other (by omega) otherBelow (by omega)

theorem RingAt.complete {cookie : Nat} {resume : Resume} {target : RingState}
    (at_ : RingAt tail state) (stands : state.poll = .complete cookie resume)
    (moved : pollStep state (.complete cookie resume) = some target) : RingAt tail target := by
  have fits : ResumeFits state resume := (stands ▸ at_.poll : PollStands state tail (.complete _ _))
  have ignored : RingAt tail { state with poll := resume.thread } := by
    refine at_.goto ?_ (resume_fits (resumeFits_goto fits)) (fun _ => by rw [stands]; rfl)
      (resume_idle resume)
    rw [resume_transit, stands]
    rfl
  simp only [pollStep] at moved
  split at moved
  · split at moved
    · next known found =>
        rw [Bool.and_eq_true] at found
        cases moved
        exact at_.completed stands found.1
    · cases moved
      exact ignored
  · cases moved
    exact ignored

theorem RingAt.loadHead {resume : Resume} (at_ : RingAt tail state)
    (stands : state.poll = .loadHead resume) : RingAt tail { state with
      poll := .advance state.shared.tail state.shared.head resume } := by
  have resumes : ResumeFits state resume := (stands ▸ at_.poll : PollStands state tail (.loadHead _))
  have transit : (PollThread.advance state.shared.tail state.shared.head resume).transit =
      state.poll.transit := by
    rw [stands]
    rfl
  refine at_.goto transit ⟨resumeFits_goto resumes, tail, state.shared.pushed.length,
    at_.stretch.tailAt, at_.stretch.headAt, Nat.le_refl _, ?_, ?_, Nat.le_refl _,
    fun other above below => absurd above (Nat.not_le.mpr below)⟩ nofun rfl
  · rw [state.submitted_goto transit]
    exact at_.stretch.tailLe
  · rw [state.submitted_goto transit]
    exact at_.stretch.submittedLe

/-- A slot that the loop of `transmit_complete` steps over was submitted. -/
theorem RingAt.advance_inside {position last : Nat} (at_ : RingAt tail state)
    (below : position ≤ state.submitted) (lastAbove : state.submitted ≤ last)
    (lastBelow : last ≤ state.shared.pushed.length)
    (short : position % lunaNetTxQueueCount ≠ last % lunaNetTxQueueCount)
    (cleared : (state.shared.queue (position % lunaNetTxQueueCount)).length = 0) :
    position < state.submitted := by
  refine Nat.lt_of_le_of_ne below fun reached => ?_
  have different : position ≠ last := fun equal => short (by rw [equal])
  exact at_.next_packet (Nat.le_of_eq reached.symm) (by omega) cleared

theorem RingAt.advance {cursor limit : Nat} {resume : Resume} {target : RingState}
    (at_ : RingAt tail state) (stands : state.poll = .advance cursor limit resume)
    (moved : pollStep state (.advance cursor limit resume) = some target) :
    RingAt tail target := by
  have fits : PollStands state tail (.advance cursor limit resume) := stands ▸ at_.poll
  obtain ⟨resumes, position, last, rfl, rfl, above, below, lastAbove, lastBelow, cleared⟩ := fits
  have room := at_.stretch.room
  simp only [pollStep, Option.some.injEq] at moved
  subst moved
  split
  · next goes =>
      have inside := at_.advance_inside below lastAbove lastBelow goes.1 goes.2
      have transit : (PollThread.advance ((position % lunaNetTxQueueCount + 1) % lunaNetTxQueueCount)
          (last % lunaNetTxQueueCount) resume).transit = state.poll.transit := by
        rw [stands]
        rfl
      refine at_.goto transit ⟨resumeFits_goto resumes, position + 1, last, Nat.mod_add_mod _ _ _,
        rfl, Nat.le_succ_of_le above, ?_, ?_, lastBelow, fun other otherAbove otherBelow => ?_⟩
        nofun rfl
      · rw [state.submitted_goto transit]
        exact inside
      · rw [state.submitted_goto transit]
        exact lastAbove
      · by_cases here : other = position
        · subst here
          exact goes.2
        · exact cleared other otherAbove (by omega)
  · next stops =>
      have transit : (PollThread.storeTail (position % lunaNetTxQueueCount) resume).transit =
          state.poll.transit := by
        rw [stands]
        rfl
      refine at_.goto transit ⟨resumeFits_goto resumes, position, rfl, above, ?_, cleared, ?_⟩
        nofun rfl
      · rw [state.submitted_goto transit]
        exact below
      · rw [state.submitted_goto transit]
        by_cases limit : position % lunaNetTxQueueCount = last % lunaNetTxQueueCount
        · left
          have equal := slot_inj above (by omega) (by omega) (by omega) limit
          omega
        · right
          exact fun zero => stops ⟨limit, zero⟩

theorem RingAt.storeTail {cursor : Nat} {resume : Resume} (at_ : RingAt tail state)
    (stands : state.poll = .storeTail cursor resume) :
    ∃ later, RingAt later { state with
      shared := { state.shared with
        tail := cursor
        txNtfn := true }
      poll := resume.thread } := by
  have fits : PollStands state tail (.storeTail cursor resume) := stands ▸ at_.poll
  obtain ⟨resumes, position, rfl, above, below, cleared, stops⟩ := fits
  have submitted : ({ state with
      shared := { state.shared with
        tail := position % lunaNetTxQueueCount
        txNtfn := true }
      poll := resume.thread } : RingState).submitted = state.submitted := by
    have transit : resume.thread.transit = state.poll.transit := by
      rw [resume_transit, stands]
      rfl
    exact state.submitted_goto transit
  have room := at_.stretch.room
  refine ⟨position, ?_, ?_, at_.handed, ?_, fun _ => ?_,
    ⟨(at_.producers.1.mono above).agree rfl fun _ _ _ => rfl,
      producer_of_not_producing (resume_idle resume)⟩, fun both => ?_⟩
  · rw [submitted]
    exact ⟨at_.stretch.headAt, rfl, at_.stretch.submitAt, below, at_.stretch.submittedLe,
      Nat.lt_of_lt_of_le room (Nat.add_le_add_right above _), at_.stretch.queued, at_.stretch.valid⟩
  · rw [submitted]
    refine ⟨fun buffer inUse => ?_, at_.flight.distinct, fun other otherAbove otherBelow =>
      at_.flight.covered other (Nat.le_trans above otherAbove) otherBelow, at_.flight.pending⟩
    obtain ⟨other, otherAbove, otherBelow, slot, uncompleted⟩ := at_.flight.used buffer inUse
    refine ⟨other, Nat.le_of_not_lt fun early => ?_, otherBelow, slot, uncompleted⟩
    exact uncompleted (cleared other otherAbove early)
  · cases resume with
    | driver submit buffer => exact ⟨resumes.submitAt, resumes.data, resumes.slot⟩
    | polled => trivial
    | loop => trivial
  · rw [submitted]
    exact stops
  · have busy : resume.thread.thread.producing = true := both.2
    rw [resume_idle resume] at busy
    cases busy

theorem RingAt.rollBack {submit : Nat} {buffer : TxDma} (at_ : RingAt tail state)
    (stands : state.poll = .driver submit buffer) (inUse : (state.dma buffer).inUse = true) :
    RingAt tail (state.rollBack submit buffer) := by
  have fits : Transit state submit buffer := (stands ▸ at_.poll : PollStands state tail (.driver _ _))
  have transit : state.poll.transit = some buffer := by rw [stands]; rfl
  have count := RingState.submitted_of_transit transit
  have submitted : (state.rollBack submit buffer).submitted = state.handed.length :=
    RingState.submitted_of_none rfl
  have ordered := at_.tail_le transit inUse
  have room := at_.stretch.room
  have pushes := at_.stretch.submittedLe
  obtain ⟨slot, packet⟩ := fits.slot inUse
  refine ⟨?_, ?_, at_.handed, trivial, fun _ => ?_, ⟨at_.producers.1, trivial⟩,
    fun both => nomatch both.2⟩
  · rw [submitted]
    refine ⟨at_.stretch.headAt, at_.stretch.tailAt, fits.submitAt, ordered, ?_, room,
      fun position above below => ?_, at_.stretch.valid⟩
    · dsimp only [RingState.rollBack, RingState.setDma]
      omega
    · by_cases first : position = state.handed.length
      · subst first
        rw [fits.submitAt] at packet
        exact packet
      · exact at_.stretch.queued position (by omega) below
  · rw [submitted]
    refine at_.flight.drop inUse (slot.trans fits.submitAt) ordered (by omega) (by omega)
      (fun inside => absurd inside (Nat.lt_irrefl _)) (by omega) fun kept _ keptBelow different =>
        ⟨by omega, rfl⟩
  · rw [submitted]
    rcases at_.settled (by rw [stands]; rfl) with equal | uncompleted
    · omega
    · exact .inr uncompleted

/-- `raw_tx` has taken the packet in transit. -/
theorem RingAt.accepted {submit : Nat} {buffer : TxDma} {thread : PollThread}
    (at_ : RingAt tail state) (stands : state.poll = .driver submit buffer)
    (transit : thread.transit = none)
    (fits : ∀ state : RingState, PollStands state tail thread)
    (idle : thread.thread.producing = false) : RingAt tail { state with
      handed := state.handed ++ [(state.dma buffer).data]
      poll := thread } := by
  have transits : Transit state submit buffer :=
    (stands ▸ at_.poll : PollStands state tail (.driver _ _))
  have count := RingState.submitted_of_transit (by rw [stands]; rfl : state.poll.transit = some buffer)
  have submitted : ({ state with
      handed := state.handed ++ [(state.dma buffer).data]
      poll := thread } : RingState).submitted = state.submitted := by
    rw [count, RingState.submitted_of_none transit, List.length_append]
    rfl
  refine ⟨?_, ?_, ?_, fits _, fun _ => ?_, ⟨at_.producers.1, producer_of_not_producing idle⟩,
    fun both => ?_⟩
  · rw [submitted]
    exact at_.stretch
  · rw [submitted]
    exact at_.flight
  · obtain ⟨packet, found, bytes⟩ := Option.map_eq_some_iff.mp transits.data
    dsimp only
    rw [List.length_append, List.length_singleton, List.take_add_one, found, List.map_append,
      ← at_.handed, ← bytes]
    rfl
  · rw [submitted]
    exact at_.settled (by rw [stands]; rfl)
  · have busy : thread.thread.producing = true := both.2
    rw [idle] at busy
    cases busy

theorem RingAt.pollStep {target : RingState} (at_ : RingAt tail state)
    (lengths : lengthsHold state state.poll.thread = true)
    (apart : state.poll.thread.loadsHead = true → state.main.producing = false)
    (moved : pollStep state state.poll = some target) : ∃ later, RingAt later target := by
  cases stands : state.poll with
  | service thread =>
      rw [stands] at moved lengths apart
      have producer := at_.producers.2
      rw [stands] at producer
      obtain ⟨⟨after, next⟩, stepped, rfl⟩ := Option.map_eq_some_iff.mp moved
      exact ⟨tail, at_.stepService stands
        (txStep_move at_.stretch producer state rfl lengths stepped) apart⟩
  | gate =>
      rw [stands] at moved
      cases moved
      refine ⟨tail, at_.goto ?_ ?_ (fun _ => by rw [stands]; rfl) ?_⟩
      · rw [stands]
        split <;> rfl
      · split <;> trivial
      · split <;> rfl
  | scan =>
      rw [stands] at moved
      exact ⟨tail, at_.scan stands moved⟩
  | packetLength submit buffer =>
      have chosen : Chosen state submit buffer :=
        (stands ▸ at_.poll : PollStands state tail (.packetLength _ _))
      rw [stands] at moved
      cases moved
      refine ⟨tail, at_.goto ?_ ?_ (fun _ => by rw [stands]; rfl) ?_⟩
      · rw [stands]
        split <;> rfl
      · split
        · exact ⟨⟨chosen.submitAt, chosen.waiting, chosen.free⟩, rfl⟩
        · trivial
      · split <;> rfl
  | packetData submit buffer length =>
      rw [stands] at moved
      cases moved
      exact ⟨tail, at_.packetData stands⟩
  | hand submit buffer =>
      rw [stands] at moved
      cases moved
      exact ⟨tail, at_.handOver stands⟩
  | driver submit buffer =>
      rw [stands] at moved
      cases moved
  | complete cookie resume =>
      rw [stands] at moved
      exact ⟨tail, at_.complete stands moved⟩
  | loadHead resume =>
      rw [stands] at moved
      cases moved
      exact ⟨tail, at_.loadHead stands⟩
  | advance cursor limit resume =>
      rw [stands] at moved
      exact ⟨tail, at_.advance stands moved⟩
  | storeTail cursor resume =>
      rw [stands] at moved
      cases moved
      exact at_.storeTail stands

theorem RingAt.rawTx {result : RawTx} {target : RingState} (at_ : RingAt tail state)
    (honest : DriverHonest state (.rawTx result))
    (moved : ringNext state (.rawTx result) = some target) : RingAt tail target := by
  simp only [ringNext] at moved
  split at moved
  · next submit buffer stands =>
      split at moved
      · cases moved
        exact at_.rollBack stands (honest buffer (by rw [stands]; rfl))
      · cases moved
        exact at_.accepted stands rfl (fun _ => trivial) rfl
      · cases moved
        exact at_.accepted stands rfl (fun _ => trivial) rfl
  · cases moved

theorem RingAt.enterPoll (thread : PollThread) {target : RingState} (at_ : RingAt tail state)
    (transit : thread.transit = none) (fits : ∀ state : RingState, PollStands state tail thread)
    (idle : thread.thread.producing = false) (moved : state.enterPoll thread = some target) :
    RingAt tail target := by
  unfold RingState.enterPoll at moved
  split at moved
  · next stands =>
      cases moved
      exact at_.goto (by rw [transit, stands]; rfl) (fits _) (fun _ => by rw [stands]; rfl) idle
  · cases moved

theorem RingAt.enterMain {thread : TxThread} {target : RingState} (at_ : RingAt tail state)
    (idle : thread.producing = false) (moved : state.enterMain thread = some target) :
    RingAt tail target := by
  unfold RingState.enterMain at moved
  split at moved
  · cases moved
    refine ⟨at_.stretch, at_.flight, at_.handed, PollStands.effect at_ (SameRing.effect at_.stretch
      ⟨rfl, rfl, rfl, rfl⟩) rfl, at_.settled, ⟨producer_of_not_producing idle, at_.producers.2⟩,
      fun both => ?_⟩
    have busy : thread.producing = true := both.1
    rw [idle] at busy
    cases busy
  · cases moved

/-- Writes outside the ring. -/
theorem RingAt.outside {after : TxShared} (at_ : RingAt tail state)
    (same : SameRing state.shared after) : RingAt tail { state with shared := after } := by
  have effect := same.effect at_.stretch
  exact ⟨at_.stretch.effect effect, at_.flight.agree fun _ _ _ => by rw [same.queue],
    at_.handed_effect effect, PollStands.effect at_ effect rfl, at_.settled_effect effect,
    ⟨at_.producers.1.sameRing same, at_.producers.2.sameRing same⟩, at_.apart⟩

end Poll

section Run

def RingInv (state : RingState) : Prop := ∃ tail, RingAt tail state

def RingGuard (state : RingState) (action : RingAction) : Prop :=
  (LengthsHold state action ∧ DriverHonest state action) ∧ ProducersApart state action

theorem ringNext_inv (state : RingState) (action : RingAction) (target : RingState)
    (inv : RingInv state) (guarded : RingGuard state action)
    (moved : ringNext state action = some target) : RingInv target := by
  obtain ⟨tail, at_⟩ := inv
  obtain ⟨⟨lengths, honest⟩, apart⟩ := guarded
  cases action with
  | child header window =>
      cases moved
      exact ⟨tail, at_.outside ⟨rfl, rfl, rfl, rfl⟩⟩
  | netTx length => exact ⟨tail, at_.enterMain (serviceTx_not_producing _) moved⟩
  | netTxBatch requested => exact ⟨tail, at_.enterMain (serviceTxBatch_not_producing _ _) moved⟩
  | notification =>
    exact ⟨tail, at_.enterPoll (.service .notifyActive) rfl (fun _ => trivial) rfl moved⟩
  | timeoutRetry =>
    exact ⟨tail, at_.enterPoll (.service .retryRequest) rfl (fun _ => trivial) rfl moved⟩
  | processTxQueue => exact ⟨tail, at_.enterPoll .gate rfl (fun _ => trivial) rfl moved⟩
  | completion cookie =>
      simp only [ringNext] at moved
      split at moved
      · next stands =>
          cases moved
          exact ⟨tail, at_.goto (by rw [stands]; rfl) trivial (fun _ => by rw [stands]; rfl) rfl⟩
      · next submit buffer stands =>
          cases moved
          have transits : Transit state submit buffer :=
            (stands ▸ at_.poll : PollStands state tail (.driver _ _))
          exact ⟨tail, at_.goto (by rw [stands]; rfl)
            ⟨transits.submitAt, transits.data, transits.slot⟩ (fun _ => by rw [stands]; rfl) rfl⟩
      · cases moved
  | rawTx result => exact ⟨tail, at_.rawTx honest moved⟩
  | stepMain =>
      obtain ⟨⟨after, next⟩, stepped, rfl⟩ := Option.map_eq_some_iff.mp moved
      exact ⟨tail, at_.stepMain
        (txStep_move at_.stretch at_.producers.1 state rfl lengths stepped) apart⟩
  | stepPoll => exact at_.pollStep lengths apart moved
  | environment stressGate childActive =>
      cases moved
      exact ⟨tail, at_.outside ⟨rfl, rfl, rfl, rfl⟩⟩

theorem RingInitial.inv {state : RingState} (initial : RingInitial state) : RingInv state := by
  have submitted : state.submitted = 0 := by
    simp [RingState.submitted, RingState.inTransit, initial.handed, initial.poll,
      PollThread.transit]
  refine ⟨0, ?_, ?_, ?_, ?_, fun _ => .inl submitted.symm, ?_, ?_⟩
  · rw [submitted]
    refine ⟨?_, initial.tail, initial.submit, Nat.le_refl _, Nat.zero_le _, ?_, ?_, ?_⟩
    · rw [initial.pushed, initial.head]
      rfl
    · rw [initial.pushed]
      decide
    · rw [initial.pushed]
      intro position _ below
      cases below
    · rw [initial.pushed]
      intro packet member
      cases member
  · refine ⟨fun buffer inUse => ?_, fun first _ inUse => ?_, fun position _ below => ?_, ?_⟩
    · rw [initial.dma] at inUse
      cases inUse
    · rw [initial.dma] at inUse
      cases inUse
    · rw [submitted] at below
      cases below
    · rw [initial.pending]
      refine ((Tally.total_eq_zero_iff _ _).mpr fun buffer => ?_).symm
      rw [initial.dma]
      rfl
  · rw [initial.handed]
    rfl
  · rw [initial.poll]
    trivial
  · rw [initial.main, initial.poll]
    exact ⟨trivial, trivial⟩
  · rw [initial.main]
    exact fun both => nomatch both.1

theorem ring_inv {state : RingState} (reached : ringSystem.Reach RingGuard state) :
    RingInv state :=
  reached.invariant RingInv (fun _ initial => RingInitial.inv initial) ringNext_inv

variable {state : RingState} {tail : Nat}

theorem RingAt.used_head (at_ : RingAt tail state) :
    CircularBuffer.used lunaNetTxQueueCount state.shared.head state.shared.tail =
      state.shared.pushed.length - tail := by
  rw [at_.stretch.headAt, at_.stretch.tailAt]
  exact used_positions (Nat.le_trans at_.stretch.tailLe at_.stretch.submittedLe) at_.stretch.room

theorem RingAt.used_submit (at_ : RingAt tail state) :
    CircularBuffer.used lunaNetTxQueueCount state.submit state.shared.tail =
      state.submitted - tail := by
  rw [at_.stretch.submitAt, at_.stretch.tailAt]
  exact used_positions at_.stretch.tailLe
    (Nat.lt_of_le_of_lt at_.stretch.submittedLe at_.stretch.room)

theorem RingAt.used_unsubmitted (at_ : RingAt tail state) :
    CircularBuffer.used lunaNetTxQueueCount state.shared.head state.submit =
      state.shared.pushed.length - state.submitted := by
  rw [at_.stretch.headAt, at_.stretch.submitAt]
  have room := at_.stretch.room
  have ordered := at_.stretch.tailLe
  exact used_positions at_.stretch.submittedLe (by omega)

theorem RingAt.contents (at_ : RingAt tail state) :
    CircularBuffer.contents lunaNetTxQueueCount state.shared.queue state.shared.head state.submit =
      state.shared.pushed.drop state.submitted := by
  refine List.ext_getElem? fun offset => ?_
  have bound := at_.stretch.submittedLe
  unfold CircularBuffer.contents
  rw [at_.used_unsubmitted, List.getElem?_map, List.getElem?_drop]
  by_cases inside : offset < state.shared.pushed.length - state.submitted
  · rw [List.getElem?_range inside, at_.stretch.queued (state.submitted + offset) (by omega)
      (by omega), Option.map_some, at_.stretch.submitAt, Nat.mod_add_mod]
  · rw [List.getElem?_eq_none (by rw [List.length_range]; omega),
      List.getElem?_eq_none (by omega)]
    rfl

theorem PollStands.transits {thread : PollThread} {buffer : TxDma}
    (fits : PollStands state tail thread) (transit : thread.transit = some buffer) :
    ∃ submit, Transit state submit buffer := by
  have resumed : ∀ resume : Resume, ResumeFits state resume → resume.transit = some buffer →
      ∃ submit, Transit state submit buffer := by
    intro resume fits transit
    cases resume with
    | driver submit handing =>
        cases transit
        exact ⟨submit, fits⟩
    | polled => cases transit
    | loop => cases transit
  cases thread with
  | driver submit handing =>
      cases transit
      exact ⟨submit, fits⟩
  | complete cookie resume => exact resumed resume fits transit
  | loadHead resume => exact resumed resume fits transit
  | advance cursor limit resume => exact resumed resume fits.1 transit
  | storeTail cursor resume => exact resumed resume fits.1 transit
  | _ => cases transit

theorem RingAt.inTransit (at_ : RingAt tail state) :
    state.handed ++ state.inTransit =
      (state.shared.pushed.take state.submitted).map Packet.bytes := by
  cases transit : state.poll.transit with
  | none =>
      rw [RingState.submitted_of_none transit, ← at_.handed]
      simp [RingState.inTransit, transit]
  | some buffer =>
      obtain ⟨submit, transits⟩ := at_.poll.transits transit
      obtain ⟨packet, found, bytes⟩ := Option.map_eq_some_iff.mp transits.data
      rw [RingState.submitted_of_transit transit, List.take_add_one, found, List.map_append,
        ← at_.handed]
      simp [RingState.inTransit, transit, bytes]

theorem RingAt.sound (at_ : RingAt tail state) : RingSound state where
  between := by
    rw [at_.used_submit, at_.used_head]
    exact Nat.sub_le_sub_right at_.stretch.submittedLe _
  nonzero offset below := by
    rw [at_.used_unsubmitted] at below
    rw [at_.stretch.submitAt, Nat.mod_add_mod]
    exact at_.next_packet (Nat.le_add_right _ _) (by omega)
  kept := by
    rw [at_.contents, at_.inTransit, ← List.map_append, List.take_append_drop]

end Run

end Luna.Net
