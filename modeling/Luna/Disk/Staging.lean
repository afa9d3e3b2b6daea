import Luna.Disk.Durability

/-!
# Batches in the window

What `task_disk_process_batch` puts into the window for a batch, and what
`service_disk_batch` makes of it.
-/

namespace Luna.Disk

open ByteMemory

/-! ## Applying slots -/

/-- What one request of a batch does to the backing; no batch has a read. -/
def Slot.apply (slot : Slot) (backing : Memory) : Memory :=
  match slot.event with
  | .write => write backing slot.offset slot.data
  | _ => backing

def applySlots (slots : List Slot) (backing : Memory) : Memory :=
  slots.foldl (fun backing slot => slot.apply backing) backing

theorem applySlots_append (first second : List Slot) (backing : Memory) :
    applySlots (first ++ second) backing = applySlots second (applySlots first backing) :=
  List.foldl_append

/-! ## Staged slots -/

/-- The descriptors agree but for the status. -/
def Descriptor.Alike (descriptor other : Descriptor) : Prop :=
  descriptor.event = other.event ∧ descriptor.offset = other.offset ∧
    descriptor.length = other.length

theorem Descriptor.Alike.trans {first second third : Descriptor} (left : first.Alike second)
    (right : second.Alike third) : first.Alike third :=
  ⟨left.1.trans right.1, left.2.1.trans right.2.1, left.2.2.trans right.2.2⟩

/-- The descriptor of a slot, and the bytes of a write, stand at a position. -/
structure SlotStaged (window : Window) (position : Nat) (slot : Slot) : Prop where
  event : (window.descriptors position).event = slot.event
  offset : (window.descriptors position).offset = slot.offset
  length : (window.descriptors position).length = slot.data.length
  bytes : slot.event = .write →
    read window.data (position * lunaDiskBatchSlotSize) slot.data.length = slot.data

/-- The slots stand in the window from a position on. -/
def Staged (window : Window) (position : Nat) (slots : List Slot) : Prop :=
  ∀ distance slot, slots[distance]? = some slot → SlotStaged window (position + distance) slot

theorem SlotStaged.alike {window other : Window} {position : Nat} {slot : Slot}
    (staged : SlotStaged window position slot)
    (alike : (other.descriptors position).Alike (window.descriptors position))
    (bytes : slot.event = .write → other.data = window.data) :
    SlotStaged other position slot where
  event := alike.1.trans staged.event
  offset := alike.2.1.trans staged.offset
  length := alike.2.2.trans staged.length
  bytes isWrite := by
    rw [bytes isWrite]
    exact staged.bytes isWrite

theorem Staged.alike {window other : Window} {position : Nat} {slots : List Slot}
    (staged : Staged window position slots)
    (alike : ∀ position, (other.descriptors position).Alike (window.descriptors position))
    (bytes : ∀ slot ∈ slots, slot.event = .write → other.data = window.data) :
    Staged other position slots := fun distance slot here =>
  (staged distance slot here).alike (alike _) (bytes slot (List.mem_of_getElem? here))

theorem Staged.tail {window : Window} {position : Nat} {slot : Slot} {slots : List Slot}
    (staged : Staged window position (slot :: slots)) : Staged window (position + 1) slots := by
  intro distance other here
  have shifted : position + 1 + distance = position + (distance + 1) := by omega
  rw [shifted]
  exact staged (distance + 1) other here

/-- `task_disk_process_batch` copies one request into the window. -/
def Window.put (window : Window) (position : Nat) (slot : Slot) : Window :=
  { window with
    descriptors := Function.update window.descriptors position
      ⟨slot.event, slot.offset, slot.data.length, true⟩
    data := if slot.event = .write then
      write window.data (position * lunaDiskBatchSlotSize) slot.data else window.data }

theorem SlotStaged.own (window : Window) (position : Nat) (slot : Slot) :
    SlotStaged (window.put position slot) position slot := by
  refine ⟨?_, ?_, ?_, fun isWrite => ?_⟩
  · simp [Window.put]
  · simp [Window.put]
  · simp [Window.put]
  · simp only [Window.put, if_pos isWrite]
    exact read_write_same

/-- A request copied further up leaves an earlier one. -/
theorem SlotStaged.put {window : Window} {position above : Nat} {slot : Slot}
    (staged : SlotStaged window position slot) (small : slot.data.length ≤ lunaDiskBatchSlotSize)
    (below : position < above) (other : Slot) : SlotStaged (window.put above other) position slot := by
  have kept : (window.put above other).descriptors position = window.descriptors position :=
    Function.update_of_ne (Nat.ne_of_lt below) _ _
  obtain ⟨event, offset, length, bytes⟩ := staged
  refine ⟨?_, ?_, ?_, fun isWrite => ?_⟩
  · rwa [kept]
  · rwa [kept]
  · rwa [kept]
  · have before : position * lunaDiskBatchSlotSize + slot.data.length ≤
        above * lunaDiskBatchSlotSize := by
      have next : (position + 1) * lunaDiskBatchSlotSize ≤ above * lunaDiskBatchSlotSize :=
        Nat.mul_le_mul_right _ below
      rw [Nat.add_mul] at next
      omega
    simp only [Window.put]
    split
    next writes => rw [read_write_disjoint (.inl before), bytes isWrite]
    next => exact bytes isWrite

/-- One request more of a batch stands in the window. -/
theorem Staged.put {window : Window} {slots : List Slot} {position : Nat} {slot : Slot}
    (staged : Staged window 0 (slots.take position)) (here : slots[position]? = some slot)
    (small : ∀ slot ∈ slots, slot.data.length ≤ lunaDiskBatchSlotSize) :
    Staged (window.put position slot) 0 (slots.take (position + 1)) := by
  intro distance other at_
  rw [List.getElem?_take] at at_
  split at at_
  next below =>
    rcases Nat.lt_succ_iff_lt_or_eq.mp below with earlier | same
    · have before := staged distance other (by rw [List.getElem?_take, if_pos earlier, at_])
      rw [Nat.zero_add] at before ⊢
      exact before.put (small other (List.mem_of_getElem? at_)) earlier slot
    · subst same
      rw [here] at at_
      cases at_
      rw [Nat.zero_add]
      exact .own window distance slot
  next => cases at_

/-! ## What the manager makes of it -/

theorem mark_alike (window : Window) (index position : Nat) (failed : Bool) :
    ((window.mark index failed).descriptors position).Alike (window.descriptors position) := by
  unfold Window.mark
  by_cases here : position = index
  · subst here
    simp only [Function.update_self]
    exact ⟨rfl, rfl, rfl⟩
  · simp only [Function.update_of_ne here]
    exact ⟨rfl, rfl, rfl⟩

/-- The copy for a staged slot leaves the window and applies the slot. -/
theorem transfer_staged {window : Window} {position : Nat} {slot : Slot}
    (staged : SlotStaged window position slot) (noRead : slot.event ≠ .read) (backing : Memory) :
    transfer (window.descriptors position) position window.data backing =
      (window.data, slot.apply backing) := by
  unfold transfer Slot.apply
  rw [staged.event]
  cases kind : slot.event with
  | read => exact absurd kind noRead
  | flush => rfl
  | write =>
      simp only [blit_eq_write]
      rw [staged.offset, staged.length, staged.bytes kind]

/-- The window after a descriptor has been served. -/
def Window.served (window : Window) (position : Nat) : Window :=
  (window.mark position true).mark position false

theorem served_alike (window : Window) (position index : Nat) :
    ((window.served position).descriptors index).Alike (window.descriptors index) :=
  (mark_alike _ _ _ _).trans (mark_alike _ _ _ _)

/-- One turn of the loop of `service_disk_batch` over a staged slot. -/
theorem serviceDescriptors_succ {size : Nat} {fault : Option Nat} {slot : Slot} {position : Nat}
    {window : Window} (staged : SlotStaged window position slot) (noRead : slot.event ≠ .read)
    (remaining : Nat) (backing : Memory) :
    serviceDescriptors size fault position (remaining + 1) window backing =
      if fault = some position ∨ (window.descriptors position).acceptable size = false then
        (window.mark position true, backing, true)
      else serviceDescriptors size fault (position + 1) remaining (window.served position)
        (slot.apply backing) := by
  have copied : transfer (window.descriptors position) position (window.mark position true).data
      backing = (window.data, slot.apply backing) := transfer_staged staged noRead backing
  simp only [serviceDescriptors, copied]
  rfl

/-- The loop of `service_disk_batch` over staged slots leaves the data area, and a run
without an error has applied all of them. -/
theorem serviceDescriptors_staged (size : Nat) (fault : Option Nat) (backing : Memory)
    {slots : List Slot} (noRead : ∀ slot ∈ slots, slot.event ≠ .read) {position : Nat}
    {window : Window} (staged : Staged window position slots) :
    let answer := serviceDescriptors size fault position slots.length window backing
    answer.1.data = window.data ∧
      (∀ index, (answer.1.descriptors index).Alike (window.descriptors index)) ∧
      (answer.2.2 = false → answer.2.1 = applySlots slots backing) := by
  induction slots generalizing position window backing with
  | nil => exact ⟨rfl, fun _ => ⟨rfl, rfl, rfl⟩, fun _ => rfl⟩
  | cons slot rest inductionHypothesis =>
      have first : SlotStaged window position slot := staged 0 slot rfl
      rw [List.length_cons,
        serviceDescriptors_succ first (noRead slot List.mem_cons_self)]
      split
      next refused => exact ⟨rfl, fun index => mark_alike window position index true, nofun⟩
      next accepted =>
        have later : Staged (window.served position) (position + 1) rest :=
          staged.tail.alike (served_alike window position) fun _ _ _ => rfl
        obtain ⟨data, alike, applied⟩ := inductionHypothesis (slot.apply backing)
          (fun other member => noRead other (List.mem_cons_of_mem _ member)) later
        exact ⟨data, fun index => (alike index).trans (served_alike _ _ _), applied⟩

/-- `service_disk_batch` for a staged batch. -/
theorem serviceDiskBatch_staged (size : Nat) (fault : Option Nat) (backing : Memory)
    {slots : List Slot} (noRead : ∀ slot ∈ slots, slot.event ≠ .read) {window : Window}
    (staged : Staged window 0 slots) :
    let answer := serviceDiskBatch size fault slots.length window backing
    answer.1.data = window.data ∧
      (∀ index, (answer.1.descriptors index).Alike (window.descriptors index)) ∧
      (batchFailed slots.length answer.2.2 answer.1 = false →
        answer.2.1 = applySlots slots backing) := by
  unfold serviceDiskBatch
  split
  next refused => exact ⟨rfl, fun _ => ⟨rfl, rfl, rfl⟩, nofun⟩
  next =>
    obtain ⟨data, alike, applied⟩ := serviceDescriptors_staged size fault backing noRead staged
    refine ⟨data, alike, fun succeeded => applied ?_⟩
    simp only [batchFailed, Bool.or_eq_false_iff] at succeeded
    exact succeeded.1.1

end Luna.Disk
