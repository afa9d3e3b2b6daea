import Luna.Disk.BatchEquivalence

/-!
# The disk service on words

`Luna.Disk.serviceDiskRequest` and `Luna.Disk.serviceDiskBatch` take numbers and an
enumeration of events, where the manager finds 64-bit words in the window.  With a child
that leaves the window alone both models answer alike, so what is proved of a backend over
the one is proved of the other.
-/

namespace Luna.Disk.Hostile

open ByteMemory

def eventWord : DiskEvent → UInt64
  | .read => eventDiskRead
  | .write => eventDiskWrite
  | .flush => eventDiskFlush

/-- The words of a descriptor mean the numbers of `plain`. -/
structure Descriptor.Means (descriptor : Descriptor) (plain : Luna.Disk.Descriptor) : Prop where
  event : descriptor.event = eventWord plain.event
  offset : descriptor.offset.toNat = plain.offset
  length : descriptor.length.toNat = plain.length
  failed : plain.failed = decide (descriptor.status ≠ 0)

structure Window.Means (window : Window) (plain : Luna.Disk.Window) : Prop where
  count : window.count.toNat = plain.count
  completed : window.completed.toNat = plain.completed
  descriptors : ∀ slot, (window.descriptors slot).Means (plain.descriptors slot)
  data : ∀ address, window.bytes (lunaDiskBatchDataOffset + address) = plain.data address

/-- What the service leaves on words, and what it leaves on numbers. -/
structure Agree (words : State × Bool) (numbers : Luna.Disk.Window × Memory × Bool) : Prop where
  window : words.1.window.Means numbers.1
  backing : words.1.backing = numbers.2.1
  failed : words.2 = numbers.2.2

section Steps

variable {disk : PersistentDisk} {state : State} {window : Window} {plain : Luna.Disk.Window}
  {descriptor : Descriptor} {numbers : Luna.Disk.Descriptor} {slot : Nat}

@[simp] theorem eventWord_flush (event : DiskEvent) :
    eventWord event = eventDiskFlush ↔ event = .flush := by
  cases event <;> decide

@[simp] theorem eventWord_read (event : DiskEvent) :
    eventWord event = eventDiskRead ↔ event = .read := by
  cases event <;> decide

@[simp] theorem eventWord_write (event : DiskEvent) :
    eventWord event = eventDiskWrite ↔ event = .write := by
  cases event <;> decide

/-- The range checks are the same on words and on numbers. -/
theorem range_iff (bytes offset length : UInt64) :
    (bytes < offset ∨ bytes - offset < length) ↔
      bytes.toNat < offset.toNat ∨ bytes.toNat - offset.toNat < length.toNat := by
  rw [UInt64.lt_iff_toNat_lt, UInt64.lt_iff_toNat_lt]
  refine or_congr_right' fun inside => ?_
  rw [UInt64.toNat_sub_of_le _ _ (UInt64.le_iff_toNat_le.mpr (Nat.le_of_not_lt inside))]

theorem word_eq_zero (word : UInt64) : word = 0 ↔ word.toNat = 0 :=
  UInt64.toNat_inj.symm

/-- Both models check a descriptor alike. -/
theorem Descriptor.Means.accepted (means : descriptor.Means numbers) (bytes : UInt64) :
    descriptor.Accepted bytes ↔ numbers.acceptable bytes.toNat = true := by
  have range := range_iff bytes descriptor.offset descriptor.length
  rw [means.offset, means.length] at range
  have offset : descriptor.offset = 0 ↔ numbers.offset = 0 := by
    rw [word_eq_zero, means.offset]
  have length : descriptor.length = 0 ↔ numbers.length = 0 := by
    rw [word_eq_zero, means.length]
  unfold Descriptor.Accepted Luna.Disk.Descriptor.acceptable
  rw [means.event, offset, Ne, length, means.length, ← not_or, range]
  cases kind : numbers.event with
  | flush => simp
  | read | write =>
      simp only [eventWord_flush, eventWord_read, eventWord_write, reduceCtorEq, if_false,
        or_true, or_false, true_and, decide_eq_true_iff]
      omega

theorem Window.Means.toArea (means : window.Means plain) (area length offset : Nat)
    (backing : Memory) (address : Nat) :
    blit window.bytes (lunaDiskBatchDataOffset + area) backing offset length
        (lunaDiskBatchDataOffset + address) =
      blit plain.data area backing offset length address := by
  unfold blit
  rw [means.data, Nat.add_sub_add_left]
  refine if_congr ?_ rfl rfl
  omega

theorem Window.Means.fromArea (means : window.Means plain) (area length offset : Nat)
    (backing : Memory) :
    blit backing offset window.bytes (lunaDiskBatchDataOffset + area) length =
      blit backing offset plain.data area length := by
  funext address
  unfold blit
  rw [Nat.add_assoc, means.data]

/-- The copy of a descriptor, between the backing and the data area `area`. -/
theorem Window.Means.transfer (means : state.window.Means plain)
    (said : descriptor.Means numbers) (owner : Option Nat) (index : Nat) :
    Agree (state.transfer descriptor owner (slotArea index), false)
      ({ plain with data := (Luna.Disk.transfer numbers index plain.data state.backing).1 },
        (Luna.Disk.transfer numbers index plain.data state.backing).2, false) := by
  unfold State.transfer Luna.Disk.transfer State.copy State.found quiet slotArea
  rw [said.event, said.offset, said.length]
  cases kind : numbers.event with
  | flush => exact ⟨means, rfl, rfl⟩
  | read =>
      exact ⟨⟨means.count, means.completed, means.descriptors, means.toArea _ _ _ _⟩, rfl, rfl⟩
  | write => exact ⟨means, means.fromArea _ _ _ _, rfl⟩

theorem Window.Means.mark (means : state.window.Means plain) (slot : Nat) (status : UInt64) :
    (state.setStatus quiet slot status).window.Means
      (plain.mark slot (decide (status ≠ 0))) where
  count := means.count
  completed := means.completed
  descriptors index := by
    have said := means.descriptors index
    unfold State.setStatus State.found quiet Luna.Disk.Window.mark
    dsimp only
    by_cases same : index = slot
    · subst same
      rw [Function.update_self, Function.update_self]
      exact ⟨said.event, said.offset, said.length, rfl⟩
    · rw [Function.update_of_ne same, Function.update_of_ne same]
      exact said
  data := means.data

theorem Window.Means.setCompleted (means : state.window.Means plain) (completed : UInt64) :
    (state.setCompleted quiet completed).window.Means
      { plain with completed := completed.toNat } :=
  ⟨means.count, rfl, means.descriptors, means.data⟩

/-- The loop over `remaining` descriptors from `slot` on. -/
theorem Window.Means.descriptors_agree (means : state.window.Means plain) (bytes : UInt64)
    (slot remaining : Nat) :
    Agree (serviceDescriptors quiet bytes slot remaining state)
      (Luna.Disk.serviceDescriptors bytes.toNat none slot remaining plain state.backing) := by
  induction remaining generalizing slot state plain with
  | zero => exact ⟨means, rfl, rfl⟩
  | succ remaining inductionHypothesis =>
      have said := means.descriptors slot
      have seen (first second third : Access) :
          (((state.seen first).seen second).seen third).window.Means plain := means
      have marked : (state.examined slot).window.Means (plain.mark slot true) :=
        (seen _ _ _).mark slot (-1)
      have moved := marked.transfer said (some slot) slot
      rw [descriptors_succ]
      unfold Luna.Disk.serviceDescriptors
      dsimp only
      by_cases accepted : (state.window.descriptors slot).Accepted bytes
      · rw [if_pos accepted, if_neg (by simp [(said.accepted bytes).mp accepted])]
        have served := moved.window.mark slot 0
        have rest := inductionHypothesis served (slot + 1)
        rw [show ((State.transfer _ _ _ _).setStatus quiet slot 0).backing = _
          from moved.backing] at rest
        exact rest
      · rw [if_neg accepted, if_pos (Or.inr (by
          rw [← Bool.not_eq_true, ← said.accepted bytes]
          exact accepted))]
        exact ⟨marked, rfl, rfl⟩

end Steps

/-- A request of the child is answered alike. -/
theorem serviceDiskRequest_agrees {disk : PersistentDisk} (allocated : disk.allocated = true)
    (ioAllocated : disk.ioAllocated = true) {state : State} {plain : Luna.Disk.Window}
    (means : state.window.Means plain) (event : DiskEvent) (offset length : UInt64) :
    let served := Luna.Disk.serviceDiskRequest disk.bytes.toNat event offset.toNat length.toNat
      plain.data state.backing
    Agree (serviceDiskRequest quiet (some disk) (eventWord event) offset length state)
      ({ plain with data := served.1 }, served.2) := by
  have range : (disk.allocated = false ∨ disk.ioAllocated = false ∨ disk.bytes < offset ∨
      disk.bytes - offset < length ∨ windowSize < length.toNat) ↔
      disk.bytes.toNat < offset.toNat ∨ disk.bytes.toNat - offset.toNat < length.toNat ∨
        windowSize < length.toNat := by
    rw [allocated, ioAllocated, ← or_assoc (a := disk.bytes < offset), range_iff, or_assoc]
    simp
  unfold serviceDiskRequest Luna.Disk.serviceDiskRequest
  dsimp only
  by_cases refused : disk.bytes.toNat < offset.toNat ∨
      disk.bytes.toNat - offset.toNat < length.toNat ∨ windowSize < length.toNat
  · rw [if_pos (range.mpr refused), if_pos refused]
    exact ⟨means, rfl, rfl⟩
  · rw [if_neg (refused ∘ range.mp), if_neg refused]
    simp only [eventWord_read, eventWord_write, word_eq_zero]
    cases event with
    | read =>
        by_cases empty : length.toNat = 0
        · simp only [empty, if_true]
          exact ⟨means, rfl, rfl⟩
        · simp only [empty, if_true, if_false]
          exact ⟨⟨means.count, means.completed, means.descriptors, means.toArea 0 _ _ _⟩,
            rfl, rfl⟩
    | write =>
        by_cases empty : length.toNat = 0
        · simp only [empty, if_true, reduceCtorEq, if_false]
          exact ⟨means, rfl, rfl⟩
        · simp only [empty, if_true, reduceCtorEq, if_false]
          exact ⟨means, means.fromArea 0 _ _ _, rfl⟩
    | flush =>
        simp only [reduceCtorEq, if_false]
        exact ⟨means, rfl, by simp [word_eq_zero]⟩

/-- A batch is answered alike when no descriptor is made to fail. -/
theorem serviceDiskBatch_agrees {disk : PersistentDisk} (allocated : disk.allocated = true)
    (ioAllocated : disk.ioAllocated = true) {state : State} {plain : Luna.Disk.Window}
    (means : state.window.Means plain) (count : UInt64) :
    Agree (serviceDiskBatch quiet (some disk) count state)
      (Luna.Disk.serviceDiskBatch disk.bytes.toNat none count.toNat plain state.backing) := by
  have counted : (state.readCount quiet).1 = count ↔ plain.count = count.toNat := by
    rw [← means.count, UInt64.toNat_inj]
    rfl
  have found : (state.readCount quiet).2.window.Means plain := means
  have backing : (state.readCount quiet).2.backing = state.backing := rfl
  unfold serviceDiskBatch Luna.Disk.serviceDiskBatch
  dsimp only
  rw [if_neg (by simp [ioAllocated])]
  by_cases shape : count.toNat = 0 ∨ lunaDiskBatchSlots < count.toNat
  · rw [if_pos (Or.inr (by rwa [word_eq_zero])), if_pos (by tauto)]
    exact ⟨means.setCompleted 0, rfl, rfl⟩
  · rw [if_neg (by rw [word_eq_zero]; simpa [allocated] using shape)]
    by_cases same : plain.count = count.toNat
    · have valid : ¬ (count.toNat = 0 ∨ lunaDiskBatchSlots < count.toNat ∨
          plain.count ≠ count.toNat) := by tauto
      rw [if_neg (not_not.mpr (counted.mpr same)), if_neg valid]
      obtain ⟨window, kept, failed⟩ :=
        found.descriptors_agree disk.bytes 0 count.toNat
      rw [backing] at window kept failed
      refine ⟨?_, kept, failed⟩
      rw [failed]
      generalize Luna.Disk.serviceDescriptors _ _ _ _ _ _ = served at *
      cases served.2.2 with
      | false => exact window.setCompleted count
      | true => exact window.setCompleted 0
    · rw [if_pos (counted.not.mpr same), if_pos (by tauto)]
      exact ⟨found.setCompleted 0, rfl, rfl⟩

end Luna.Disk.Hostile
