import Luna.Disk.HostileWindow

/-!
# A batch is its requests

With a child that leaves the window alone, `service_disk_batch` does to the backing and
to the data areas of the slots what `service_disk_request` does to them when it serves
the descriptors one after the other, each in the area of its slot.
-/

namespace Luna.Disk.Hostile

open ByteMemory

/-- The child waits for the answer. -/
def quiet : Child := fun _ window => window

/-- `service_disk_request` with another data area than the common one. -/
def serviceDiskRequestAt (area : Nat) (child : Child) (disk : Option PersistentDisk)
    (event offset length : UInt64) (state : State) : State × Bool :=
  let state := state.receive event offset length
  match disk with
  | none => (state, true)
  | some disk =>
      if disk.allocated = false ∨ disk.ioAllocated = false ∨ disk.bytes < offset ∨
          disk.bytes - offset < length ∨ windowSize < length.toNat then (state, true)
      else if event = eventDiskRead then
        if length = 0 then (state, true)
        else (state.copy child {
          slot := none
          write := false
          window := area
          backing := offset.toNat
          length := length.toNat }, false)
      else if event = eventDiskWrite then
        if length = 0 then (state, true)
        else (state.copy child {
          slot := none
          write := true
          window := area
          backing := offset.toNat
          length := length.toNat }, false)
      else (state, decide (event ≠ eventDiskFlush ∨ length ≠ 0))

theorem serviceDiskRequestAt_common :
    serviceDiskRequestAt lunaDiskBatchDataOffset = serviceDiskRequest := rfl

def slotArea (slot : Nat) : Nat := lunaDiskBatchDataOffset + slot * lunaDiskBatchSlotSize

/-- A disk that is there, and a batch whose header agrees with the message. -/
structure Batch where
  disk : PersistentDisk
  allocated : disk.allocated = true
  ioAllocated : disk.ioAllocated = true
  window : Window
  count : UInt64
  positive : count ≠ 0
  small : count.toNat ≤ lunaDiskBatchSlots
  counted : window.count = count

/-- The checks of `service_disk_batch` on one descriptor. -/
def Descriptor.Accepted (descriptor : Descriptor) (bytes : UInt64) : Prop :=
  if descriptor.event = eventDiskFlush then descriptor.offset = 0 ∧ descriptor.length = 0
  else (descriptor.event = eventDiskRead ∨ descriptor.event = eventDiskWrite) ∧
    descriptor.length ≠ 0 ∧ descriptor.length.toNat ≤ lunaDiskBatchSlotSize ∧
    ¬ bytes < descriptor.offset ∧ ¬ bytes - descriptor.offset < descriptor.length

instance (descriptor : Descriptor) (bytes : UInt64) : Decidable (descriptor.Accepted bytes) := by
  unfold Descriptor.Accepted
  infer_instance

/-- The first of `remaining` descriptors from `slot` on that is not accepted. -/
def firstRejected (bytes : UInt64) (descriptors : Nat → Descriptor) : Nat → Nat → Nat
  | slot, 0 => slot
  | slot, remaining + 1 =>
      if (descriptors slot).Accepted bytes then firstRejected bytes descriptors (slot + 1) remaining
      else slot

/-- The requests of `remaining` descriptors from `slot` on. -/
def serveSingly (disk : PersistentDisk) (descriptors : Nat → Descriptor) :
    Nat → Nat → State → State
  | _, 0, state => state
  | slot, remaining + 1, state =>
      serveSingly disk descriptors (slot + 1) remaining
        (serviceDiskRequestAt (slotArea slot) quiet (some disk) (descriptors slot).event
          (descriptors slot).offset (descriptors slot).length state).1

def Batch.rejected (batch : Batch) : Nat :=
  firstRejected batch.disk.bytes batch.window.descriptors 0 batch.count.toNat

/-- What `service_disk_batch` leaves (`after`), beside what the single requests of the
accepted descriptors leave (`single`). -/
structure ServedAlike (batch : Batch) (after single : State) : Prop where
  backing : after.backing = single.backing
  bytes : after.window.bytes = single.window.bytes
  served : ∀ slot < batch.rejected, (after.window.descriptors slot).status = 0
  refused : batch.rejected < batch.count.toNat →
    (after.window.descriptors batch.rejected).status = -1
  completed : after.window.completed =
    if batch.rejected = batch.count.toNat then batch.count else 0
  accepted : ∀ slot < batch.rejected, ∀ state,
    (serviceDiskRequestAt (slotArea slot) quiet (some batch.disk)
      (batch.window.descriptors slot).event (batch.window.descriptors slot).offset
      (batch.window.descriptors slot).length state).2 = false

section Steps

variable {disk : PersistentDisk} {state : State} {slot remaining : Nat}

/-- The copy of a descriptor, or nothing for a flush. -/
def State.transfer (state : State) (descriptor : Descriptor) (slot : Option Nat) (area : Nat) :
    State :=
  if descriptor.event = eventDiskFlush then state
  else state.copy quiet {
    slot
    write := decide (descriptor.event ≠ eventDiskRead)
    window := area
    backing := descriptor.offset.toNat
    length := descriptor.length.toNat }

/-- The single path takes an accepted descriptor, and copies the same. -/
theorem single_accepts (allocated : disk.allocated = true) (ioAllocated : disk.ioAllocated = true)
    {descriptor : Descriptor} (accepted : descriptor.Accepted disk.bytes) (area : Nat) :
    serviceDiskRequestAt area quiet (some disk) descriptor.event descriptor.offset
        descriptor.length state =
      ((state.receive descriptor.event descriptor.offset descriptor.length).transfer descriptor
        none area, false) := by
  unfold serviceDiskRequestAt State.transfer
  dsimp only
  unfold Descriptor.Accepted at accepted
  split at accepted
  next flush =>
    obtain ⟨offset, length⟩ := accepted
    have inside : ¬ disk.bytes < descriptor.offset := by simp [offset]
    have fits : ¬ disk.bytes - descriptor.offset < descriptor.length := by simp [length]
    have window : ¬ windowSize < descriptor.length.toNat := by simp [length]
    rw [if_neg (by simp [allocated, ioAllocated, inside, fits, window]), flush,
      if_neg (by decide), if_neg (by decide), if_pos rfl]
    simp [length]
  next transfers =>
    obtain ⟨transfer, positive, small, inside, fits⟩ := accepted
    have window : ¬ windowSize < descriptor.length.toNat := by
      unfold windowSize lunaDiskIoSize lunaDiskBatchDataOffset
      unfold lunaDiskBatchSlotSize at small
      omega
    rw [if_neg (by simp [allocated, ioAllocated, inside, fits, window]), if_neg transfers]
    rcases transfer with read | write
    · rw [if_pos read, if_neg positive, read]
      rfl
    · rw [write, if_neg (by decide), if_pos rfl, if_neg positive]
      rfl

/-- Nothing happens to the window between two accesses. -/
def State.seen (state : State) (access : Access) : State where
  window := state.window
  backing := state.backing
  trace := access :: state.trace

theorem quiet_read (state : State) (slot : Nat) (field : Field) :
    ∃ after, state.read quiet slot field = ((state.window.descriptors slot).get field, after) ∧
      after = state.seen (.read slot field ((state.window.descriptors slot).get field)) :=
  ⟨_, rfl, rfl⟩

/-- The descriptor has been read, and its status set to -1. -/
def State.examined (state : State) (slot : Nat) : State :=
  (((state.seen (.read slot .offset (state.window.descriptors slot).offset)).seen
    (.read slot .length (state.window.descriptors slot).length)).seen
    (.read slot .event (state.window.descriptors slot).event)).setStatus quiet slot (-1)

theorem setStatus_own (state : State) (slot : Nat) (status : UInt64) :
    ((state.setStatus quiet slot status).window.descriptors slot).status = status := by
  unfold State.setStatus
  dsimp only
  rw [Function.update_self]

/-- A turn of the loop when the child leaves the window alone. -/
theorem descriptors_succ (state : State) (slot remaining : Nat) (bytes : UInt64) :
    serviceDescriptors quiet bytes slot (remaining + 1) state =
      if (state.window.descriptors slot).Accepted bytes then
        serviceDescriptors quiet bytes (slot + 1) remaining
          (((state.examined slot).transfer (state.window.descriptors slot) (some slot)
            (slotArea slot)).setStatus quiet slot 0)
      else (state.examined slot, true) := by
  obtain ⟨offsetState, offsetRead, offsetSeen⟩ := quiet_read state slot .offset
  obtain ⟨lengthState, lengthRead, lengthSeen⟩ := quiet_read offsetState slot .length
  obtain ⟨eventState, eventRead, eventSeen⟩ := quiet_read lengthState slot .event
  have examined : eventState.setStatus quiet slot (-1) = state.examined slot := by
    rw [eventSeen, lengthSeen, offsetSeen]
    rfl
  have offset : (state.window.descriptors slot).get .offset =
      (state.window.descriptors slot).offset := rfl
  have length : (offsetState.window.descriptors slot).get .length =
      (state.window.descriptors slot).length := by
    rw [offsetSeen]
    rfl
  have event : (lengthState.window.descriptors slot).get .event =
      (state.window.descriptors slot).event := by
    rw [lengthSeen, offsetSeen]
    rfl
  conv_lhs => rw [serviceDescriptors, offsetRead, offset]
  dsimp only
  rw [lengthRead, length]
  dsimp only
  rw [eventRead, event]
  dsimp only
  rw [examined]
  unfold State.transfer
  by_cases flush : (state.window.descriptors slot).event = eventDiskFlush
  · rw [if_pos flush, if_pos flush]
    by_cases accepted : (state.window.descriptors slot).Accepted bytes
    · rw [if_pos accepted]
      rw [Descriptor.Accepted, if_pos flush] at accepted
      rw [if_neg (by simp [accepted])]
    · rw [if_neg accepted]
      rw [Descriptor.Accepted, if_pos flush, not_and_or] at accepted
      rw [if_pos accepted]
  · rw [if_neg flush, if_neg flush]
    by_cases accepted : (state.window.descriptors slot).Accepted bytes
    · rw [if_pos accepted]
      rw [Descriptor.Accepted, if_neg flush] at accepted
      obtain ⟨transfer, positive, small, inside, fits⟩ := accepted
      rw [if_neg]
      · rfl
      · rintro (⟨notRead, notWrite⟩ | zero | long | outside | past)
        · exact transfer.elim notRead notWrite
        · exact positive zero
        · omega
        · exact inside outside
        · exact fits past
    · rw [if_neg accepted]
      rw [Descriptor.Accepted, if_neg flush] at accepted
      rw [if_pos]
      by_contra none
      simp only [not_or, not_and_or, not_not] at none
      obtain ⟨transfer, positive, short, inside, fits⟩ := none
      exact accepted ⟨transfer, positive, Nat.le_of_not_lt short, inside, fits⟩

/-- Copies between equal bytes leave equal bytes. -/
theorem transfer_same {other : State} (descriptor : Descriptor) (first second : Option Nat)
    (area : Nat) (backing : state.backing = other.backing)
    (bytes : state.window.bytes = other.window.bytes) :
    (state.transfer descriptor first area).backing =
        (other.transfer descriptor second area).backing ∧
      (state.transfer descriptor first area).window.bytes =
        (other.transfer descriptor second area).window.bytes := by
  unfold State.transfer
  split
  · exact ⟨backing, bytes⟩
  · unfold State.copy State.found quiet
    dsimp only
    split
    · exact ⟨by rw [backing, bytes], bytes⟩
    · exact ⟨backing, by rw [backing, bytes]⟩

theorem transfer_descriptors (state : State) (descriptor : Descriptor) (owner : Option Nat)
    (area : Nat) :
    (state.transfer descriptor owner area).window.descriptors = state.window.descriptors := by
  unfold State.transfer
  split
  · rfl
  · unfold State.copy
    dsimp only
    split <;> rfl

/-- The loop over `remaining` descriptors from `slot` on, and the single requests up to
the first that is refused. -/
structure AlikeFrom (disk : PersistentDisk) (descriptors : Nat → Descriptor)
    (slot remaining : Nat) (state single : State) (last : Nat) : Prop where
  above : slot ≤ last
  below : last ≤ slot + remaining
  backing : (serviceDescriptors quiet disk.bytes slot remaining state).1.backing =
    (serveSingly disk descriptors slot (last - slot) single).backing
  bytes : (serviceDescriptors quiet disk.bytes slot remaining state).1.window.bytes =
    (serveSingly disk descriptors slot (last - slot) single).window.bytes
  earlier : ∀ index < slot,
    (serviceDescriptors quiet disk.bytes slot remaining state).1.window.descriptors index =
      state.window.descriptors index
  served : ∀ index, slot ≤ index → index < last →
    ((serviceDescriptors quiet disk.bytes slot remaining state).1.window.descriptors index).status =
      0 ∧ (descriptors index).Accepted disk.bytes
  refused : last < slot + remaining →
    ((serviceDescriptors quiet disk.bytes slot remaining state).1.window.descriptors last).status =
      -1
  failed : (serviceDescriptors quiet disk.bytes slot remaining state).2 =
    decide (last < slot + remaining)

theorem descriptors_alike (allocated : disk.allocated = true)
    (ioAllocated : disk.ioAllocated = true) {descriptors : Nat → Descriptor} {single : State}
    (untouched : ∀ index, slot ≤ index → state.window.descriptors index = descriptors index)
    (backing : state.backing = single.backing)
    (bytes : state.window.bytes = single.window.bytes) :
    AlikeFrom disk descriptors slot remaining state single
      (firstRejected disk.bytes descriptors slot remaining) := by
  induction remaining generalizing slot state single with
  | zero =>
      unfold firstRejected
      refine ⟨Nat.le_refl _, Nat.le_refl _, ?_, ?_, fun _ _ => rfl, ?_, ?_, ?_⟩
      · rw [Nat.sub_self]
        exact backing
      · rw [Nat.sub_self]
        exact bytes
      · intro index above below
        omega
      · intro below
        omega
      · simp [serviceDescriptors]
  | succ remaining inductionHypothesis =>
      have current := untouched slot (Nat.le_refl _)
      unfold firstRejected
      by_cases accepted : (descriptors slot).Accepted disk.bytes
      · rw [if_pos accepted]
        have turn := descriptors_succ state slot remaining disk.bytes
        rw [if_pos (current ▸ accepted), current] at turn
        have copied := transfer_same (descriptors slot) (some slot) none
          (slotArea slot) (show (state.examined slot).backing = (single.receive _ _ _).backing
            from backing) (show (state.examined slot).window.bytes =
            (single.receive (descriptors slot).event (descriptors slot).offset
              (descriptors slot).length).window.bytes from bytes)
        have kept := transfer_descriptors (state.examined slot) (descriptors slot) (some slot)
          (slotArea slot)
        generalize (state.examined slot).transfer (descriptors slot) (some slot) (slotArea slot) =
          moved at turn copied kept
        have others : ∀ index, index ≠ slot → (moved.setStatus quiet slot 0).window.descriptors
            index = state.window.descriptors index := by
          intro index different
          have examined : (state.examined slot).window.descriptors index =
              state.window.descriptors index := Function.update_of_ne different _ _
          rw [← examined, ← kept]
          exact Function.update_of_ne different _ _
        have own : ((moved.setStatus quiet slot 0).window.descriptors slot).status = 0 :=
          setStatus_own moved slot 0
        have singly : serviceDiskRequestAt (slotArea slot) quiet (some disk)
            (descriptors slot).event (descriptors slot).offset (descriptors slot).length single =
            _ := single_accepts allocated ioAllocated accepted (slotArea slot)
        have rest : AlikeFrom disk descriptors (slot + 1) remaining (moved.setStatus quiet slot 0)
            (serviceDiskRequestAt (slotArea slot) quiet (some disk) (descriptors slot).event
              (descriptors slot).offset (descriptors slot).length single).1
            (firstRejected disk.bytes descriptors (slot + 1) remaining) := by
          refine inductionHypothesis (fun index above => ?_) ?_ ?_
          · exact (others index (by omega)).trans (untouched index (by omega))
          · rw [singly]
            exact copied.1
          · rw [singly]
            exact copied.2
        generalize firstRejected disk.bytes descriptors (slot + 1) remaining = last at rest
        obtain ⟨above, below, backing', bytes', earlier, served, refused, failed⟩ := rest
        have step : last - slot = (last - (slot + 1)) + 1 := by omega
        refine ⟨by omega, by omega, ?_, ?_, ?_, ?_, ?_, ?_⟩
        · rw [turn, backing', step]
          rfl
        · rw [turn, bytes', step]
          rfl
        · intro index before
          rw [turn, earlier index (by omega)]
          exact others index (by omega)
        · intro index from_ before
          rw [turn]
          by_cases here : index = slot
          · rw [here, earlier slot (Nat.lt_succ_self _)]
            exact ⟨own, accepted⟩
          · exact served index (by omega) before
        · intro ends
          rw [turn]
          exact refused (by omega)
        · rw [turn, failed]
          exact decide_eq_decide.mpr (by omega)
      · rw [if_neg accepted]
        have turn := descriptors_succ state slot remaining disk.bytes
        rw [if_neg (current ▸ accepted)] at turn
        refine ⟨Nat.le_refl _, by omega, ?_, ?_, ?_, ?_, ?_, ?_⟩
        · rw [turn, Nat.sub_self]
          exact backing
        · rw [turn, Nat.sub_self]
          exact bytes
        · intro index before
          rw [turn]
          exact Function.update_of_ne (Nat.ne_of_lt before) _ _
        · intro index above below
          omega
        · intro _
          rw [turn]
          exact setStatus_own _ slot (-1)
        · rw [turn]
          exact (decide_eq_true (by omega)).symm

end Steps

/-- A batch leaves the bytes its accepted descriptors would leave one after the other. -/
theorem batch_served_alike (batch : Batch) (backing : Memory) :
    ServedAlike batch
      (serviceDiskBatch quiet (some batch.disk) batch.count ⟨batch.window, backing, []⟩).1
      (serveSingly batch.disk batch.window.descriptors 0 batch.rejected
        ⟨batch.window, backing, []⟩) := by
  have alike : AlikeFrom batch.disk batch.window.descriptors 0 batch.count.toNat
      (State.readCount quiet ⟨batch.window, backing, []⟩).2 ⟨batch.window, backing, []⟩
      batch.rejected :=
    descriptors_alike batch.allocated batch.ioAllocated (fun _ _ => rfl) rfl rfl
  have served : serviceDiskBatch quiet (some batch.disk) batch.count ⟨batch.window, backing, []⟩ =
      ((serviceDescriptors quiet batch.disk.bytes 0 batch.count.toNat
          (State.readCount quiet ⟨batch.window, backing, []⟩).2).1.setCompleted quiet
        (if (serviceDescriptors quiet batch.disk.bytes 0 batch.count.toNat
          (State.readCount quiet ⟨batch.window, backing, []⟩).2).2 then 0 else batch.count),
        (serviceDescriptors quiet batch.disk.bytes 0 batch.count.toNat
          (State.readCount quiet ⟨batch.window, backing, []⟩).2).2) := by
    unfold serviceDiskBatch
    dsimp only
    rw [if_neg (by simp [batch.ioAllocated]),
      if_neg (by simp [batch.allocated, batch.positive, Nat.not_lt.mpr batch.small])]
    exact if_neg (not_not.mpr batch.counted)
  obtain ⟨_, below, backing', bytes', _, statuses, refused, failed⟩ := alike
  rw [Nat.zero_add] at below refused failed
  rw [Nat.sub_zero] at backing' bytes'
  refine ⟨?_, ?_, ?_, ?_, ?_, ?_⟩
  · rw [served]
    exact backing'
  · rw [served]
    exact bytes'
  · intro slot before
    rw [served]
    exact (statuses slot (Nat.zero_le _) before).1
  · intro ends
    rw [served]
    exact refused ends
  · rw [served, failed]
    by_cases all : batch.rejected = batch.count.toNat
    · simp [State.setCompleted, all]
    · have ends : batch.rejected < batch.count.toNat := Nat.lt_of_le_of_ne below all
      simp [State.setCompleted, all, ends]
  · intro slot before state
    exact congrArg Prod.snd (single_accepts batch.allocated batch.ioAllocated
      (statuses slot (Nat.zero_le _) before).2 (slotArea slot))

/-- Four bytes are written, and two of them are read back with the two behind them. -/
def overlapping : Batch where
  disk := ⟨true, true, 4096⟩
  allocated := rfl
  ioAllocated := rfl
  window := {
    count := 2
    completed := 0
    descriptors := fun slot =>
      if slot = 0 then ⟨eventDiskWrite, 0, 4, 0⟩ else ⟨eventDiskRead, 2, 4, 0⟩
    bytes := fun address => if address < slotArea 1 then 1 else 2 }
  count := 2
  positive := by decide
  small := by decide
  counted := rfl

/-- The READ sees the bytes of the WRITE, as it does when it is sent by itself. -/
theorem batch_served_alike_overlapping :
    let before : State := ⟨overlapping.window, fun _ => 0, []⟩
    let after := (serviceDiskBatch quiet (some overlapping.disk) overlapping.count before).1
    ServedAlike overlapping after
        (serveSingly overlapping.disk overlapping.window.descriptors 0 overlapping.rejected
          before) ∧
      overlapping.rejected = 2 ∧ read after.window.bytes (slotArea 1) 4 = [1, 1, 0, 0] :=
  ⟨batch_served_alike overlapping fun _ => 0, by decide +kernel, by decide +kernel⟩

end Luna.Disk.Hostile
