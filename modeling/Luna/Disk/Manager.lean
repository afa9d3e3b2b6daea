import Luna.Lib.ByteMemory

/-!
# The manager's disk service

`service_disk_request` and `service_disk_batch` over the window shared with the
child and the backing `disk->mapping` of `size` bytes.  Offsets into the data
area of the window are counted from `LUNA_DISK_BATCH_DATA_OFFSET`.  A batch can
be made to fail at a chosen descriptor; the service counters are left out.
-/

namespace Luna.Disk

open ByteMemory

def lunaDiskIoSize : Nat := 64 * 1024
def lunaDiskBatchDataOffset : Nat := 4096
def lunaDiskBatchSlots : Nat := 15
def lunaDiskBatchSlotSize : Nat := 4096

/-- Bytes in the data area of the window. -/
def windowSize : Nat := lunaDiskIoSize - lunaDiskBatchDataOffset

inductive DiskEvent where
  | read
  | write
  | flush
  deriving DecidableEq, Repr

/-- `struct luna_disk_batch_descriptor`; `failed` is a status other than 0. -/
structure Descriptor where
  event : DiskEvent
  offset : Nat
  length : Nat
  failed : Bool

/-- `struct luna_disk_batch_header` and the data area behind it. -/
structure Window where
  count : Nat
  completed : Nat
  descriptors : Nat → Descriptor
  data : Memory

def Window.mark (window : Window) (index : Nat) (failed : Bool) : Window :=
  { window with descriptors :=
      Function.update window.descriptors index { window.descriptors index with failed } }

/-- `service_disk_request`: the data area, the backing and whether it failed. -/
def serviceDiskRequest (size : Nat) (event : DiskEvent) (offset length : Nat)
    (data backing : Memory) : Memory × Memory × Bool :=
  if size < offset ∨ size - offset < length ∨ windowSize < length then (data, backing, true)
  else
    match event with
    | .read =>
        if length = 0 then (data, backing, true)
        else (blit data 0 backing offset length, backing, false)
    | .write =>
        if length = 0 then (data, backing, true)
        else (data, blit backing offset data 0 length, false)
    | .flush => (data, backing, decide (length ≠ 0))

/-- The checks of `service_disk_batch` on one descriptor. -/
def Descriptor.acceptable (size : Nat) (descriptor : Descriptor) : Bool :=
  match descriptor.event with
  | .flush => decide (descriptor.offset = 0 ∧ descriptor.length = 0)
  | _ => decide (descriptor.length ≠ 0 ∧ descriptor.length ≤ lunaDiskBatchSlotSize ∧
      descriptor.offset ≤ size ∧ descriptor.length ≤ size - descriptor.offset)

/-- The copy `service_disk_batch` makes for an acceptable descriptor. -/
def transfer (descriptor : Descriptor) (index : Nat) (data backing : Memory) : Memory × Memory :=
  match descriptor.event with
  | .flush => (data, backing)
  | .read => (blit data (index * lunaDiskBatchSlotSize) backing descriptor.offset
      descriptor.length, backing)
  | .write => (data, blit backing descriptor.offset data (index * lunaDiskBatchSlotSize)
      descriptor.length)

/-- The loop of `service_disk_batch` over `remaining` descriptors from `index` on. -/
def serviceDescriptors (size : Nat) (fault : Option Nat) :
    Nat → Nat → Window → Memory → Window × Memory × Bool
  | _, 0, window, backing => (window, backing, false)
  | index, remaining + 1, window, backing =>
      let descriptor := window.descriptors index
      let window := window.mark index true
      if fault = some index ∨ descriptor.acceptable size = false then (window, backing, true)
      else
        let (data, backing) := transfer descriptor index window.data backing
        serviceDescriptors size fault (index + 1) remaining
          ({ window with data }.mark index false) backing

/-- `service_disk_batch`. -/
def serviceDiskBatch (size : Nat) (fault : Option Nat) (count : Nat) (window : Window)
    (backing : Memory) : Window × Memory × Bool :=
  if count = 0 ∨ lunaDiskBatchSlots < count ∨ window.count ≠ count then
    ({ window with completed := 0 }, backing, true)
  else
    let (window, backing, failed) := serviceDescriptors size fault 0 count window backing
    ({ window with completed := if failed then 0 else count }, backing, failed)

/-- The result `task_disk_process_batch` reads from the answer. -/
def batchFailed (count : Nat) (failed : Bool) (window : Window) : Bool :=
  failed || decide (window.completed ≠ count) ||
    (List.range count).any fun index => (window.descriptors index).failed

end Luna.Disk
