import Luna.Disk.Manager

/-!
# The disk service against a hostile child

The child may replace the shared window before every access of the manager to it.
`service_disk_request` and `service_disk_batch` are written here on 64-bit words, and
every read, store and copy they make goes to a trace.  A copy that the child changes
while it runs reads arbitrary bytes, as does one of a window replaced just before it.
-/

namespace Luna.Disk.Hostile

open ByteMemory

def eventDiskRead : UInt64 := 0x202
def eventDiskWrite : UInt64 := 0x203
def eventDiskFlush : UInt64 := 0x204
def eventDiskSubmitBatch : UInt64 := 0x20e

/-- `struct luna_disk_batch_descriptor`. -/
structure Descriptor where
  event : UInt64
  offset : UInt64
  length : UInt64
  status : UInt64

inductive Field where
  | event
  | offset
  | length
  deriving DecidableEq, Repr

def Descriptor.get (descriptor : Descriptor) : Field → UInt64
  | .event => descriptor.event
  | .offset => descriptor.offset
  | .length => descriptor.length

/-- The window at `io_mapping`: `struct luna_disk_batch_header`, and its bytes. -/
structure Window where
  count : UInt64
  completed : UInt64
  descriptors : Nat → Descriptor
  bytes : Memory

/-- The fields of `struct luna_persistent_disk` that the checks read; `io_mapping` is
set with `io_allocated`. -/
structure PersistentDisk where
  allocated : Bool
  ioAllocated : Bool
  bytes : UInt64

/-- A `memcpy` between the window and the backing; `slot` is that of a batch. -/
structure Copy where
  slot : Option Nat
  write : Bool
  window : Nat
  backing : Nat
  length : Nat
  deriving DecidableEq, Repr

inductive Access where
  | request (event offset length : UInt64)
  | readCount (value : UInt64)
  | read (slot : Nat) (field : Field) (value : UInt64)
  | setStatus (slot : Nat) (value : UInt64)
  | setCompleted (value : UInt64)
  | copy (copy : Copy)
  deriving DecidableEq, Repr

/-- What the child makes of the window before an access; they are numbered. -/
abbrev Child := Nat → Window → Window

/-- The newest access is the first of the trace. -/
structure State where
  window : Window
  backing : Memory
  trace : List Access

section Accesses

variable (child : Child) (state : State)

/-- The window that the next access finds. -/
def State.found : Window := child state.trace.length state.window

def State.readCount : UInt64 × State :=
  let window := state.found child
  (window.count, { state with
    window
    trace := .readCount window.count :: state.trace })

def State.read (slot : Nat) (field : Field) : UInt64 × State :=
  let window := state.found child
  let value := (window.descriptors slot).get field
  (value, { state with
    window
    trace := .read slot field value :: state.trace })

def State.setStatus (slot : Nat) (value : UInt64) : State :=
  let window := state.found child
  let descriptor := { window.descriptors slot with status := value }
  { state with
    window := { window with descriptors := Function.update window.descriptors slot descriptor }
    trace := .setStatus slot value :: state.trace }

def State.setCompleted (value : UInt64) : State :=
  { state with
    window := { state.found child with completed := value }
    trace := .setCompleted value :: state.trace }

def State.copy (copy : Copy) : State :=
  let window := state.found child
  if copy.write then
    { state with
      window
      backing := blit state.backing copy.backing window.bytes copy.window copy.length
      trace := .copy copy :: state.trace }
  else
    { state with
      window := { window with
        bytes := blit window.bytes copy.window state.backing copy.backing copy.length }
      trace := .copy copy :: state.trace }

/-- The message registers are words of the manager. -/
def State.receive (event offset length : UInt64) : State :=
  { state with trace := .request event offset length :: state.trace }

end Accesses

section Service

variable (child : Child)

/-- `service_disk_request`, and whether it fails. -/
def serviceDiskRequest (disk : Option PersistentDisk) (event offset length : UInt64)
    (state : State) : State × Bool :=
  let state := state.receive event offset length
  match disk with
  | none => (state, true)
  | some disk =>
      if disk.allocated = false ∨ disk.ioAllocated = false ∨ disk.bytes < offset ∨
          disk.bytes - offset < length ∨ windowSize < length.toNat then (state, true)
      else if event = eventDiskRead then
        if length = 0 then (state, true)
        else (state.copy child {
          slot := none
          write := false
          window := lunaDiskBatchDataOffset
          backing := offset.toNat
          length := length.toNat }, false)
      else if event = eventDiskWrite then
        if length = 0 then (state, true)
        else (state.copy child {
          slot := none
          write := true
          window := lunaDiskBatchDataOffset
          backing := offset.toNat
          length := length.toNat }, false)
      else (state, decide (event ≠ eventDiskFlush ∨ length ≠ 0))

/-- The loop of `service_disk_batch` over `remaining` descriptors from `slot` on. -/
def serviceDescriptors (bytes : UInt64) : Nat → Nat → State → State × Bool
  | _, 0, state => (state, false)
  | slot, remaining + 1, state =>
      let (offset, state) := state.read child slot .offset
      let (length, state) := state.read child slot .length
      let (event, state) := state.read child slot .event
      let state := state.setStatus child slot (-1)
      if event = eventDiskFlush then
        if offset ≠ 0 ∨ length ≠ 0 then (state, true)
        else serviceDescriptors bytes (slot + 1) remaining (state.setStatus child slot 0)
      else if (event ≠ eventDiskRead ∧ event ≠ eventDiskWrite) ∨ length = 0 ∨
          lunaDiskBatchSlotSize < length.toNat ∨ bytes < offset ∨ bytes - offset < length then
        (state, true)
      else
        let state := state.copy child {
          slot := some slot
          write := decide (event ≠ eventDiskRead)
          window := lunaDiskBatchDataOffset + slot * lunaDiskBatchSlotSize
          backing := offset.toNat
          length := length.toNat }
        serviceDescriptors bytes (slot + 1) remaining (state.setStatus child slot 0)

/-- `service_disk_batch`, and whether it fails. -/
def serviceDiskBatch (disk : Option PersistentDisk) (count : UInt64) (state : State) :
    State × Bool :=
  match disk with
  | none => (state, true)
  | some disk =>
      if disk.ioAllocated = false then (state, true)
      else if disk.allocated = false ∨ count = 0 ∨ lunaDiskBatchSlots < count.toNat then
        (state.setCompleted child 0, true)
      else
        let (value, state) := state.readCount child
        if value ≠ count then (state.setCompleted child 0, true)
        else
          let (state, failed) := serviceDescriptors child disk.bytes 0 count.toNat state
          (state.setCompleted child (if failed then 0 else count), failed)

/-- A message of three words; `receive_event_variant` looks at the first. -/
structure Message where
  event : UInt64
  detail : UInt64
  length : UInt64
  deriving DecidableEq, Repr

/-- What `receive_event_variant` does with a message of the child. -/
def receiveEvent (disk : Option PersistentDisk) (message : Message) (state : State) :
    State × Bool :=
  if message.event = eventDiskRead ∨ message.event = eventDiskWrite ∨
      message.event = eventDiskFlush then
    serviceDiskRequest child disk message.event message.detail message.length state
  else if message.event = eventDiskSubmitBatch ∧ message.length = 0 then
    serviceDiskBatch child disk message.detail state
  else (state, false)

/-- Messages are received until one fails. -/
def receiveEvents (disk : Option PersistentDisk) : List Message → State → State
  | [], state => state
  | message :: rest, state =>
      match receiveEvent child disk message state with
      | (state, true) => state
      | (state, false) => receiveEvents disk rest state

end Service

/-! ## Confinement -/

/-- The copy stays in the backing and in its part of the window's data area. -/
structure Copy.Confined (copy : Copy) (bytes : UInt64) : Prop where
  backing : copy.backing + copy.length ≤ bytes.toNat
  area : lunaDiskBatchDataOffset ≤ copy.window ∧ copy.window + copy.length ≤ lunaDiskIoSize
  slot : ∀ slot ∈ copy.slot, slot < lunaDiskBatchSlots ∧
    copy.window = lunaDiskBatchDataOffset + slot * lunaDiskBatchSlotSize ∧
    copy.length ≤ lunaDiskBatchSlotSize

def Copy.event (copy : Copy) : UInt64 := if copy.write then eventDiskWrite else eventDiskRead

/-- The words that were read and checked last before the copy give its range. -/
def Copy.Checked (copy : Copy) (earlier : List Access) : Prop :=
  ∃ offset length rest, copy.backing = offset.toNat ∧ copy.length = length.toNat ∧
    earlier = (match copy.slot with
      | none => .request copy.event offset length :: rest
      | some slot => .setStatus slot (-1) :: .read slot .event copy.event ::
          .read slot .length length :: .read slot .offset offset :: rest)

/-- The bytes of the backing that the copy writes. -/
def Copy.Writes (copy : Copy) (address : Nat) : Prop :=
  copy.write = true ∧ copy.backing ≤ address ∧ address < copy.backing + copy.length

/-- What holds of every state the manager reaches. -/
structure DiskConfined (disk : Option PersistentDisk) (backing : Memory) (state : State) :
    Prop where
  confined : ∀ copy, .copy copy ∈ state.trace → ∃ backed ∈ disk, copy.Confined backed.bytes
  checked : ∀ later copy earlier, state.trace = later ++ .copy copy :: earlier →
    copy.Checked earlier
  unchanged : ∀ address, (∀ copy, .copy copy ∈ state.trace → ¬ copy.Writes address) →
    state.backing address = backing address

/-! ## One access -/

section Steps

variable {child : Child} {disk : Option PersistentDisk} {backing : Memory} {state : State}

/-- Only copies matter. -/
theorem DiskConfined.note {access : Access} {window : Window}
    (confined : DiskConfined disk backing state) (quiet : ∀ copy, access ≠ .copy copy) :
    DiskConfined disk backing ⟨window, state.backing, access :: state.trace⟩ where
  confined copy member :=
    confined.confined copy ((List.mem_cons.mp member).resolve_left fun same => quiet copy same.symm)
  checked later copy earlier split := by
    cases later with
    | nil => exact absurd (List.cons.inj split).1 (quiet copy)
    | cons head rest => exact confined.checked rest copy earlier (List.cons.inj split).2
  unchanged address outside :=
    confined.unchanged address fun copy member => outside copy (List.mem_cons_of_mem _ member)

theorem DiskConfined.copy {copy : Copy} {backed : PersistentDisk}
    (confined : DiskConfined disk backing state) (found : backed ∈ disk)
    (inside : copy.Confined backed.bytes) (checked : copy.Checked state.trace) :
    DiskConfined disk backing (state.copy child copy) := by
  have trace : (state.copy child copy).trace = .copy copy :: state.trace := by
    unfold State.copy
    dsimp only
    split <;> rfl
  refine ⟨?_, ?_, ?_⟩
  · intro made member
    rw [trace] at member
    rcases List.mem_cons.mp member with same | before
    · cases same
      exact ⟨backed, found, inside⟩
    · exact confined.confined made before
  · intro later made earlier split
    rw [trace] at split
    cases later with
    | nil =>
        obtain ⟨same, rfl⟩ := List.cons.inj split
        cases same
        exact checked
    | cons head rest => exact confined.checked rest made earlier (List.cons.inj split).2
  · intro address outside
    rw [trace] at outside
    have kept := confined.unchanged address fun made member =>
      outside made (List.mem_cons_of_mem _ member)
    have own := outside copy List.mem_cons_self
    unfold State.copy
    dsimp only
    split
    next write =>
      exact (if_neg fun range => own ⟨write, range⟩).trans kept
    next => exact kept

theorem DiskConfined.read (confined : DiskConfined disk backing state) (child : Child)
    (slot : Nat) (field : Field) :
    ∃ value after, state.read child slot field = (value, after) ∧
      after.trace = .read slot field value :: state.trace ∧ DiskConfined disk backing after :=
  ⟨_, _, rfl, rfl, confined.note nofun⟩

theorem range_fits {bytes offset length : UInt64} (inside : ¬ bytes < offset)
    (fits : ¬ bytes - offset < length) : offset.toNat + length.toNat ≤ bytes.toNat := by
  rw [UInt64.not_lt, UInt64.le_iff_toNat_le] at inside fits
  rw [UInt64.toNat_sub_of_le _ _ (UInt64.le_iff_toNat_le.mpr inside)] at fits
  omega

theorem DiskConfined.request {event offset length : UInt64}
    (confined : DiskConfined disk backing state) :
    DiskConfined disk backing (serviceDiskRequest child disk event offset length state).1 := by
  have received : DiskConfined disk backing (state.receive event offset length) :=
    confined.note nofun
  unfold serviceDiskRequest
  dsimp only
  cases disk with
  | none => exact received
  | some backed =>
      dsimp only
      split
      next => exact received
      next accepted =>
        simp only [not_or] at accepted
        obtain ⟨_, _, inside, fits, short⟩ := accepted
        have range := range_fits inside fits
        have area : length.toNat ≤ windowSize := Nat.le_of_not_lt short
        have copies : ∀ write, event = (if write then eventDiskWrite else eventDiskRead) →
            DiskConfined (some backed) backing ((state.receive event offset length).copy child {
              slot := none
              write := write
              window := lunaDiskBatchDataOffset
              backing := offset.toNat
              length := length.toNat }) := by
          intro write asked
          refine received.copy rfl ⟨range, ⟨Nat.le_refl _, ?_⟩, nofun⟩ ?_
          · unfold windowSize lunaDiskIoSize lunaDiskBatchDataOffset at *
            dsimp only
            omega
          · refine ⟨offset, length, state.trace, rfl, rfl, ?_⟩
            rw [asked]
            rfl
        split
        next read =>
          split
          · exact received
          · exact copies false (by simpa using read)
        next =>
          split
          next write =>
            split
            · exact received
            · exact copies true (by simpa using write)
          next => exact received

/-- Every slot of a batch. -/
theorem DiskConfined.descriptors {backed : PersistentDisk} {slot remaining : Nat}
    (confined : DiskConfined (some backed) backing state)
    (slots : slot + remaining ≤ lunaDiskBatchSlots) :
    DiskConfined (some backed) backing
      (serviceDescriptors child backed.bytes slot remaining state).1 := by
  induction remaining generalizing slot state with
  | zero => exact confined
  | succ remaining inductionHypothesis =>
      unfold serviceDescriptors
      obtain ⟨offset, offsetState, offsetRead, offsetTrace, offsetConfined⟩ :=
        confined.read child slot .offset
      obtain ⟨length, lengthState, lengthRead, lengthTrace, lengthConfined⟩ :=
        offsetConfined.read child slot .length
      obtain ⟨event, eventState, eventRead, eventTrace, eventConfined⟩ :=
        lengthConfined.read child slot .event
      rw [offsetRead]
      dsimp only
      rw [lengthRead]
      dsimp only
      rw [eventRead]
      dsimp only
      have pending : DiskConfined (some backed) backing (eventState.setStatus child slot (-1)) :=
        eventConfined.note nofun
      split
      next flush =>
        split
        · exact pending
        · exact inductionHypothesis (pending.note nofun) (by omega)
      next =>
        split
        next => exact pending
        next accepted =>
          simp only [not_or, not_and_or, not_not] at accepted
          obtain ⟨transfers, _, short, inside, fits⟩ := accepted
          have range := range_fits inside fits
          have small : length.toNat ≤ lunaDiskBatchSlotSize := Nat.le_of_not_lt short
          have copied : (if decide (event ≠ eventDiskRead) then eventDiskWrite
              else eventDiskRead) = event := by
            rcases transfers with read | write
            · simp [read]
            · simp [write, eventDiskRead, eventDiskWrite]
          refine inductionHypothesis (DiskConfined.note (pending.copy rfl ⟨range, ?_, ?_⟩ ?_) nofun)
            (by omega)
          · unfold lunaDiskBatchDataOffset lunaDiskIoSize lunaDiskBatchSlotSize at *
            unfold lunaDiskBatchSlots at slots
            dsimp only
            omega
          · rintro _ ⟨⟩
            exact ⟨by omega, rfl, small⟩
          · refine ⟨offset, length, state.trace, rfl, rfl, ?_⟩
            show Access.setStatus slot (-1) :: eventState.trace = _
            rw [eventTrace, lengthTrace, offsetTrace]
            simp only [Copy.event, copied]

/-- A batch. -/
theorem DiskConfined.batch {count : UInt64} (confined : DiskConfined disk backing state) :
    DiskConfined disk backing (serviceDiskBatch child disk count state).1 := by
  unfold serviceDiskBatch
  cases disk with
  | none => exact confined
  | some backed =>
      dsimp only
      split
      next => exact confined
      next =>
        split
        next => exact confined.note nofun
        next accepted =>
          simp only [not_or, Nat.not_lt] at accepted
          have counted : DiskConfined (some backed) backing (state.readCount child).2 :=
            confined.note nofun
          split
          next => exact counted.note nofun
          next => exact (counted.descriptors (by omega)).note nofun

theorem DiskConfined.event {message : Message} (confined : DiskConfined disk backing state) :
    DiskConfined disk backing (receiveEvent child disk message state).1 := by
  unfold receiveEvent
  split
  · exact confined.request
  · split
    · exact confined.batch
    · exact confined

theorem DiskConfined.events {messages : List Message} (confined : DiskConfined disk backing state) :
    DiskConfined disk backing (receiveEvents child disk messages state) := by
  induction messages generalizing state with
  | nil => exact confined
  | cons message rest inductionHypothesis =>
      have served : DiskConfined disk backing (receiveEvent child disk message state).1 :=
        confined.event
      unfold receiveEvents
      split
      next after ended =>
        rw [ended] at served
        exact served
      next after goesOn =>
        rw [goesOn] at served
        exact inductionHypothesis served

end Steps

/-- Whatever the child writes into the window and in whatever order it sends messages,
every copy stays inside the range that was checked for it. -/
theorem disk_confined (disk : Option PersistentDisk) (child : Child) (messages : List Message)
    (window : Window) (backing : Memory) :
    DiskConfined disk backing
      (receiveEvents child disk messages ⟨window, backing, []⟩) := by
  refine DiskConfined.events ⟨nofun, fun later copy earlier split => ?_, fun _ _ => rfl⟩
  cases later <;> cases split

end Luna.Disk.Hostile
