import Luna.Disk.Staging

/-!
# A counter that wraps around

`task_disk_async_pending` counts the batches published since the last flush, modulo
2^32.  Writes that fill one batch each, with neither flush nor read between them, bring it
back to 0 while the last batch still waits for the worker; a read then waits for nothing.
-/

namespace Luna.Disk

open ByteMemory Interleaving

def smallDisk : Nat := 1024

def firstBatch : BatchIndex := ⟨0, by decide⟩

/-- A write of one byte each from buffers that together fill a batch. -/
def fullWrite (byte : UInt8) : BlkReq :=
  ⟨.write, 0, List.replicate lunaDiskBatchSlots (some [byte])⟩

theorem taskDiskRequest_fullWrite (byte : UInt8) : taskDiskRequest smallDisk (fullWrite byte) =
    .writeLock 0 (List.replicate lunaDiskBatchSlots [byte]) := by
  simp [taskDiskRequest, fullWrite, checkBuffers, BlkReq.offset, BlkReq.buffers, smallDisk,
    lunaDiskBatchSlots, List.replicate]

abbrev Leads (state target : DiskState Unit) : Prop :=
  (diskSystem smallDisk).Leads (fun _ _ => True) state target

theorem Leads.call {state target : DiskState Unit}
    (moved : stepCall smallDisk state () = some target) : Leads state target :=
  System.Leads.next (.call ()) trivial moved

theorem Leads.work {state target : DiskState Unit}
    (moved : stepWorker smallDisk state none = some target) : Leads state target :=
  System.Leads.next (.worker none) trivial moved

theorem enter_unit (state : DiskState Unit) (call : DiskCall) :
    state.enter () call = { state with calls := fun _ => call } := by
  unfold DiskState.enter
  congr 1

/-- Nobody works on a request or a batch. -/
structure Resting (state : DiskState Unit) : Prop where
  calls : state.calls = fun _ => .idle
  worker : state.worker = .semDown
  free : ∀ index, (state.batches index).state = .free
  workerSem : state.workerSem = 0
  queueFreeSem : state.queueFreeSem = lunaDiskLocalQueueCount
  flushGateSem : state.flushGateSem = 1
  writeLock : state.writeLock = none
  managerLock : state.managerLock = none
  pendingWrite : state.pendingWrite = none
  asyncError : state.asyncError = false

/-! ## A write that fills a batch -/

section Write

variable {start : DiskState Unit} {byte : UInt8} {count : Nat}

def byteSlots (byte : UInt8) (writer count : Nat) : List Slot :=
  (List.range count).map fun offset => ⟨.write, offset, [byte], writer⟩

theorem byteSlots_succ (byte : UInt8) (writer count : Nat) : byteSlots byte writer (count + 1) =
    byteSlots byte writer count ++ [⟨.write, count, [byte], writer⟩] := by
  simp [byteSlots, List.range_succ]

theorem length_byteSlots (byte : UInt8) (writer count : Nat) :
    (byteSlots byte writer count).length = count := by
  simp [byteSlots]

/-- The ticket of the write. -/
def writeTicket (start : DiskState Unit) (byte : UInt8) : Ticket :=
  ⟨fullWrite byte, start.writes, start.returned, start.asyncError⟩

/-- The write has filled so many slots of the first batch. -/
def filling (start : DiskState Unit) (byte : UInt8) (count : Nat) : DiskState Unit :=
  { start with
    batches := Function.update start.batches firstBatch { start.batches firstBatch with
      state := .building, slots := byteSlots byte start.writes count, role := .pending }
    queueFreeSem := lunaDiskLocalQueueCount - 1
    writeLock := some ()
    pendingWrite := some firstBatch
    calls := fun _ => .fill count (List.replicate (lunaDiskBatchSlots - count) [byte])
    tickets := fun _ => writeTicket start byte
    writes := start.writes + 1
    stream := start.stream ++ byteSlots byte start.writes count }

theorem leads_filling (resting : Resting start) (byte : UInt8) :
    Leads start (filling start byte 0) := by
  let begun (call : DiskCall) : DiskState Unit := { start with
    calls := fun _ => call
    tickets := fun _ => writeTicket start byte
    writes := start.writes + 1 }
  let buf := List.replicate lunaDiskBatchSlots [byte]
  have started : Leads start (begun (.writeLock 0 buf)) := by
    refine System.Leads.next (.start () (fullWrite byte)) trivial ?_
    simp only [diskSystem, diskNext, resting.calls, if_true, taskDiskRequest_fullWrite, enter_unit]
    rfl
  have locked : Leads (begun (.writeLock 0 buf)) { begun (.fill 0 buf) with
      writeLock := some () } := by
    refine Leads.call ?_
    simp only [stepCall, begun, resting.writeLock, if_true, enter_unit]
  have empty : Leads { begun (.fill 0 buf) with writeLock := some () }
      { begun (.claimDown (.write 0 buf)) with writeLock := some () } := by
    refine Leads.call ?_
    simp only [stepCall, begun, buf, lunaDiskBatchSlots, List.replicate, resting.pendingWrite,
      enter_unit]
  have taken : Leads { begun (.claimDown (.write 0 buf)) with writeLock := some () }
      { begun (.claimScan (.write 0 buf) 0) with
        writeLock := some (), queueFreeSem := lunaDiskLocalQueueCount - 1 } := by
    refine Leads.call ?_
    simp only [stepCall, begun, resting.queueFreeSem, enter_unit]
    rfl
  have claimed : Leads
      { begun (.claimScan (.write 0 buf) 0) with
        writeLock := some (), queueFreeSem := lunaDiskLocalQueueCount - 1 }
      (filling start byte 0) := by
    refine Leads.call ?_
    have free := resting.free firstBatch
    have inside : 0 < lunaDiskLocalQueueCount := by decide
    simp only [stepCall, begun, dif_pos inside, ← firstBatch.eq_1, free, if_true,
      DiskState.claimed, DiskState.setBatch, enter_unit, filling, byteSlots, List.range_zero,
      List.map_nil, List.append_nil]
    rfl
  exact started.trans (locked.trans (empty.trans (taken.trans claimed)))

/-- One buffer goes into one slot. -/
theorem filling_next (more : count + 1 < lunaDiskBatchSlots) :
    Leads (filling start byte count) (filling start byte (count + 1)) := by
  have split : lunaDiskBatchSlots - count = lunaDiskBatchSlots - (count + 1) + 1 := by omega
  have few : (byteSlots byte start.writes count).length + 1 ≠ lunaDiskBatchSlots := by
    rw [length_byteSlots]
    omega
  have filled : Leads (filling start byte count) { filling start byte (count + 1) with
      calls := fun _ => .fill (count + 1)
        ([] :: List.replicate (lunaDiskBatchSlots - (count + 1)) [byte]) } := by
    refine Leads.call ?_
    simp only [stepCall, filling, split, List.replicate_succ, DiskState.fillSlot,
      DiskState.setBatch, enter_unit, Function.update_self, Function.update_idem, if_neg few,
      byteSlots_succ, List.append_assoc]
    rfl
  exact filled.trans (Leads.call rfl)

theorem leads_full : Leads (filling start byte 0) (filling start byte (lunaDiskBatchSlots - 1)) := by
  have upTo : ∀ count, count < lunaDiskBatchSlots →
      Leads (filling start byte 0) (filling start byte count) := by
    intro count below
    induction count with
    | zero => exact .refl
    | succ count inductionHypothesis =>
        exact (inductionHypothesis (by omega)).trans (filling_next below)
  exact upTo _ (by decide)

/-- The write has returned, and its batch waits for the worker. -/
def written (start : DiskState Unit) (byte : UInt8) : DiskState Unit :=
  { start with
    batches := Function.update start.batches firstBatch { start.batches firstBatch with
      state := .ready, sequence := start.sequence
      slots := byteSlots byte start.writes lunaDiskBatchSlots
      failed := true, autoRelease := true, role := .queued }
    queueFreeSem := lunaDiskLocalQueueCount - 1
    workerSem := 1
    writeLock := none
    pendingWrite := none
    sequence := (start.sequence + 1) % 2 ^ 64
    asyncPending := (start.asyncPending + 1) % 2 ^ 32
    calls := fun _ => .idle
    tickets := fun _ => writeTicket start byte
    writes := start.writes + 1
    queue := start.queue ++ [firstBatch]
    stream := start.stream ++ byteSlots byte start.writes lunaDiskBatchSlots
    returned := start.returned ++
      [(start.writes, 0, List.replicate lunaDiskBatchSlots byte)]
    log := start.log ++ [⟨fullWrite byte, .ok, [], start.backing⟩] }

theorem leads_written (resting : Resting start) :
    Leads (filling start byte (lunaDiskBatchSlots - 1)) (written start byte) := by
  let buf : List (List UInt8) := [[]]
  let full (call : DiskCall) : DiskState Unit :=
    { filling start byte lunaDiskBatchSlots with calls := fun _ => call }
  let published (state : BatchState) (workerSem : Nat) (call : DiskCall) : DiskState Unit :=
    { written start byte with
      batches := Function.update start.batches firstBatch { start.batches firstBatch with
        state, sequence := start.sequence
        slots := byteSlots byte start.writes lunaDiskBatchSlots
        failed := true, autoRelease := true, role := .queued }
      workerSem
      writeLock := some ()
      calls := fun _ => call
      returned := start.returned
      log := start.log }
  have slots : (byteSlots byte start.writes (lunaDiskBatchSlots - 1)).length + 1 =
      lunaDiskBatchSlots := by
    rw [length_byteSlots]
    rfl
  have filled : Leads (filling start byte (lunaDiskBatchSlots - 1))
      (full (.publishSequence firstBatch (.write lunaDiskBatchSlots buf))) := by
    refine Leads.call ?_
    have last : byteSlots byte start.writes lunaDiskBatchSlots =
        byteSlots byte start.writes (lunaDiskBatchSlots - 1) ++
          [⟨.write, lunaDiskBatchSlots - 1, [byte], start.writes⟩] := byteSlots_succ _ _ 14
    simp only [stepCall, filling, full, DiskState.fillSlot, DiskState.setBatch, enter_unit,
      Function.update_self, Function.update_idem, last, List.append_assoc]
    simp only [show lunaDiskBatchSlots - (lunaDiskBatchSlots - 1) = 1 from rfl, List.replicate,
      if_pos slots]
    rfl
  have counted : Leads (full (.publishSequence firstBatch (.write lunaDiskBatchSlots buf)))
      (published .building 0 (.publishReady firstBatch (.write lunaDiskBatchSlots buf))) := by
    refine Leads.call ?_
    simp only [stepCall, full, filling, DiskState.publish, DiskState.setBatch, enter_unit,
      Function.update_self, Function.update_idem, PublishUser.auto, if_true, published, written,
      resting.workerSem]
  have ready : Leads
      (published .building 0 (.publishReady firstBatch (.write lunaDiskBatchSlots buf)))
      (published .ready 0 (.publishSignal firstBatch (.write lunaDiskBatchSlots buf))) := by
    refine Leads.call ?_
    simp only [stepCall, published, DiskState.setBatch, enter_unit, Function.update_self,
      Function.update_idem]
  have signalled : Leads
      (published .ready 0 (.publishSignal firstBatch (.write lunaDiskBatchSlots buf)))
      (published .ready 1 (.fill lunaDiskBatchSlots buf)) := Leads.call rfl
  have emptied : Leads (published .ready 1 (.fill lunaDiskBatchSlots buf))
      (published .ready 1 (.fill lunaDiskBatchSlots [])) := Leads.call rfl
  have done : Leads (published .ready 1 (.fill lunaDiskBatchSlots []))
      (published .ready 1 (.writeUnlock false)) := Leads.call rfl
  have unlocked : Leads (published .ready 1 (.writeUnlock false))
      { published .ready 1 .writeError with writeLock := none } := Leads.call rfl
  have checked : Leads { published .ready 1 .writeError with writeLock := none }
      { published .ready 1 (.finish .ok []) with writeLock := none } := by
    refine Leads.call ?_
    simp only [stepCall, published, written, resting.asyncError, enter_unit]
    rfl
  have returned : Leads { published .ready 1 (.finish .ok []) with writeLock := none }
      (written start byte) := by
    refine Leads.call ?_
    simp only [stepCall, published, written, DiskState.finishCall, enter_unit, writeTicket,
      fullWrite, BlkReq.offset, BlkReq.buffers, List.map_replicate, Option.getD_some]
    rfl
  exact filled.trans (counted.trans (ready.trans (signalled.trans (emptied.trans
    (done.trans (unlocked.trans (checked.trans returned)))))))

end Write

/-! ## The worker answers the batch -/

section Work

variable {start : DiskState Unit} {byte : UInt8}

/-- The worker has taken the token of the batch. -/
def searching (start : DiskState Unit) (byte : UInt8) (worker : DiskWorker) : DiskState Unit :=
  { written start byte with workerSem := 0, worker }

theorem scan_skips (resting : Resting start) (ready : BatchIndex → Bool) (best limit : Nat) :
    Leads (searching start byte (.scan 1 (some firstBatch) best ready limit))
      (searching start byte (.claim firstBatch)) := by
  have passes : ∀ position, 1 ≤ position → position < lunaDiskLocalQueueCount →
      Leads (searching start byte (.scan position (some firstBatch) best ready limit))
        (searching start byte (.scan (position + 1) (some firstBatch) best ready limit)) := by
    intro position above inside
    refine Leads.work ?_
    have other : (⟨position, inside⟩ : BatchIndex) ≠ firstBatch := by
      intro same
      have zero : position = 0 := congrArg Fin.val same
      omega
    have free := resting.free ⟨position, inside⟩
    simp [stepWorker, searching, dif_pos inside, DiskState.consider, written,
      Function.update_of_ne other, free]
  have upTo : ∀ position, 1 ≤ position → position ≤ lunaDiskLocalQueueCount →
      Leads (searching start byte (.scan 1 (some firstBatch) best ready limit))
        (searching start byte (.scan position (some firstBatch) best ready limit)) := by
    intro position above within
    induction position, above using Nat.le_induction with
    | base => exact .refl
    | succ position above inductionHypothesis =>
        exact (inductionHypothesis (by omega)).trans (passes position above (by omega))
  exact (upTo lunaDiskLocalQueueCount (by decide) (Nat.le_refl _)).trans (Leads.work rfl)

/-- The worker finds the batch. -/
theorem leads_claim (resting : Resting start) (small : start.sequence < 2 ^ 64 - 1) :
    Leads (written start byte) (searching start byte (.claim firstBatch)) := by
  let ready (index : BatchIndex) : Bool := ((written start byte).batches index).state = .ready
  let limit := (written start byte).sequence
  have taken : Leads (written start byte)
      (searching start byte (.scan 0 none (2 ^ 64 - 1) ready limit)) := by
    refine Leads.work ?_
    have worker : (written start byte).worker = .semDown := resting.worker
    have token : (written start byte).workerSem = 1 := rfl
    simp only [stepWorker, worker, token]
    rfl
  have found : Leads (searching start byte (.scan 0 none (2 ^ 64 - 1) ready limit))
      (searching start byte (.scan 1 (some firstBatch) start.sequence ready limit)) := by
    refine Leads.work ?_
    have inside : 0 < lunaDiskLocalQueueCount := by decide
    have best : start.sequence < 18446744073709551615 := small
    simp [stepWorker, searching, dif_pos inside, DiskState.consider, written,
      ← firstBatch.eq_1, best]
  exact taken.trans (found.trans (scan_skips resting ready _ limit))

/-- The worker processes the batch. -/
def processing (start : DiskState Unit) (byte : UInt8) (window : Window) (worker : DiskWorker) :
    DiskState Unit :=
  { searching start byte worker with
    batches := Function.update start.batches firstBatch { start.batches firstBatch with
      state := .processing, sequence := start.sequence
      slots := byteSlots byte start.writes lunaDiskBatchSlots
      failed := true, autoRelease := true, role := .queued }
    window }

theorem leads_stage : Leads (searching start byte (.claim firstBatch))
    (processing start byte start.window (.stage firstBatch 0)) := by
  refine Leads.work ?_
  simp only [stepWorker, searching, written, processing, Function.update_self, if_true,
    DiskState.setBatch, Function.update_idem]

theorem byteSlots_small {writer count : Nat} :
    ∀ slot ∈ byteSlots byte writer count, slot.data.length ≤ lunaDiskBatchSlotSize := by
  intro slot member
  obtain ⟨offset, _, rfl⟩ := List.mem_map.mp member
  simp [lunaDiskBatchSlotSize]

/-- A window whose bytes are zeros, if that is what is written. -/
def Blank (byte : UInt8) (data : Memory) : Prop := byte = 0 → ∀ address, data address = 0

theorem Blank.write {data : Memory} (blank : Blank byte data) (offset : Nat) :
    Blank byte (write data offset [byte]) := by
  intro zero address
  subst zero
  simp only [ByteMemory.write]
  split
  · cases address - offset <;> simp [blank rfl address]
  · exact blank rfl address

/-- All requests of the batch are copied into the window. -/
theorem leads_staged (blank : Blank byte start.window.data) : ∃ window,
    Staged window 0 (byteSlots byte start.writes lunaDiskBatchSlots) ∧ Blank byte window.data ∧
      Leads (processing start byte start.window (.stage firstBatch 0))
        (processing start byte window (.stage firstBatch lunaDiskBatchSlots)) := by
  let slots := byteSlots byte start.writes lunaDiskBatchSlots
  have upTo : ∀ count ≤ lunaDiskBatchSlots, ∃ window, Staged window 0 (slots.take count) ∧
      Blank byte window.data ∧ Leads (processing start byte start.window (.stage firstBatch 0))
        (processing start byte window (.stage firstBatch count)) := by
    intro count within
    induction count with
    | zero => exact ⟨start.window, by simp [Staged], blank, .refl⟩
    | succ count inductionHypothesis =>
        obtain ⟨window, staged, zeros, leads⟩ := inductionHypothesis (by omega)
        let slot : Slot := ⟨.write, count, [byte], start.writes⟩
        have here : slots[count]? = some slot := by
          have inside : count < lunaDiskBatchSlots := within
          simp [slots, slot, byteSlots, List.getElem?_range inside]
        refine ⟨window.put count slot, staged.put here byteSlots_small, zeros.write _,
          leads.trans (Leads.work ?_)⟩
        simp only [stepWorker, processing, searching, Function.update_self]
        rw [here]
        rfl
  obtain ⟨window, staged, zeros, leads⟩ := upTo lunaDiskBatchSlots (Nat.le_refl _)
  refine ⟨window, ?_, zeros, leads⟩
  have whole : slots.take lunaDiskBatchSlots = slots :=
    List.take_of_length_le (Nat.le_of_eq (length_byteSlots _ _ _))
  rwa [whole] at staged

theorem byteSlots_acceptable {window : Window} {position : Nat} {slot : Slot} {writer count : Nat}
    (within : count ≤ lunaDiskBatchSlots) (member : slot ∈ byteSlots byte writer count)
    (staged : SlotStaged window position slot) :
    (window.descriptors position).acceptable smallDisk = true := by
  obtain ⟨offset, below, rfl⟩ := List.mem_map.mp member
  have inside := List.mem_range.mp below
  have small : offset < lunaDiskBatchSlots := Nat.lt_of_lt_of_le inside within
  unfold lunaDiskBatchSlots at small
  unfold Descriptor.acceptable
  rw [staged.event, staged.offset, staged.length]
  simp only [smallDisk, lunaDiskBatchSlotSize, List.length_singleton]
  exact decide_eq_true ⟨by omega, by omega, by omega, by omega⟩

/-- Without a fault the manager serves staged slots that it accepts. -/
theorem serviceDescriptors_accepted (backing : Memory) {slots : List Slot} {position : Nat}
    {window : Window} (noRead : ∀ slot ∈ slots, slot.event ≠ .read)
    (staged : Staged window position slots)
    (accepted : ∀ slot ∈ slots, ∀ (window : Window) position, SlotStaged window position slot →
      (window.descriptors position).acceptable smallDisk = true)
    (before : ∀ index < position, (window.descriptors index).failed = false) :
    let answer := serviceDescriptors smallDisk none position slots.length window backing
    answer.2.2 = false ∧
      ∀ index < position + slots.length, (answer.1.descriptors index).failed = false := by
  induction slots generalizing position window backing with
  | nil => exact ⟨rfl, before⟩
  | cons slot rest inductionHypothesis =>
      have first : SlotStaged window position slot := staged 0 slot rfl
      have accepts := accepted slot List.mem_cons_self window position first
      rw [List.length_cons, serviceDescriptors_succ first (noRead slot List.mem_cons_self),
        if_neg (by simp [accepts])]
      have later : Staged (window.served position) (position + 1) rest :=
        staged.tail.alike (served_alike window position) fun _ _ _ => rfl
      have marked : ∀ index < position + 1,
          ((window.served position).descriptors index).failed = false := by
        intro index below
        by_cases here : index = position
        · subst here
          simp [Window.served, Window.mark]
        · simpa [Window.served, Window.mark, Function.update_of_ne here] using
            before index (by omega)
      have answered := inductionHypothesis (slot.apply backing)
        (fun other member => noRead other (List.mem_cons_of_mem _ member)) later
        (fun other member => accepted other (List.mem_cons_of_mem _ member)) marked
      refine ⟨answered.1, fun index below => answered.2 index ?_⟩
      rw [Nat.add_assoc, Nat.add_comm 1]
      exact below

/-- The answer to the batch. -/
theorem service_accepts {window : Window} {writer : Nat}
    (staged : Staged window 0 (byteSlots byte writer lunaDiskBatchSlots)) (backing : Memory) :
    ∃ after, after.data = window.data ∧ batchFailed lunaDiskBatchSlots false after = false ∧
      serviceDiskBatch smallDisk none lunaDiskBatchSlots
        { window with completed := 0, count := lunaDiskBatchSlots } backing =
          (after, applySlots (byteSlots byte writer lunaDiskBatchSlots) backing, false) := by
  let slots := byteSlots byte writer lunaDiskBatchSlots
  have noRead : ∀ slot ∈ slots, slot.event ≠ .read := by
    intro slot member
    obtain ⟨offset, _, rfl⟩ := List.mem_map.mp member
    simp
  let header : Window := { window with completed := 0, count := lunaDiskBatchSlots }
  have ready : Staged header 0 slots :=
    staged.alike (fun _ => ⟨rfl, rfl, rfl⟩) fun _ _ _ => rfl
  have count : slots.length = lunaDiskBatchSlots := length_byteSlots _ _ _
  have served := serviceDescriptors_staged smallDisk none backing noRead ready
  have succeeded := serviceDescriptors_accepted backing noRead ready
    (fun slot member window position at_ => byteSlots_acceptable (Nat.le_refl _) member at_) (by simp)
  rw [count] at served succeeded
  generalize answer : serviceDescriptors smallDisk none 0 lunaDiskBatchSlots header backing =
    result at served succeeded
  obtain ⟨after, applied, failed⟩ := result
  obtain ⟨data, _, applies⟩ := served
  obtain ⟨ok, statuses⟩ := succeeded
  simp only at ok applies data statuses
  subst ok
  refine ⟨{ after with completed := lunaDiskBatchSlots }, data, ?_, ?_⟩
  · simp only [batchFailed, Bool.false_or, Bool.or_eq_false_iff, List.any_eq_false,
      List.mem_range, Bool.not_eq_true]
    exact ⟨by simp, fun index below => statuses index (by omega)⟩
  · have open_ : ¬ (lunaDiskBatchSlots = 0 ∨ lunaDiskBatchSlots < lunaDiskBatchSlots ∨
        header.count ≠ lunaDiskBatchSlots) := by simp [header, lunaDiskBatchSlots]
    simp only [serviceDiskBatch, header] at open_ answer ⊢
    rw [if_neg open_, answer, applies rfl]
    rfl

/-- The manager has answered the batch, and the worker is about to free it. -/
def answered (start : DiskState Unit) (byte : UInt8) (after : Window)
    (transfers : List (List UInt8 × List UInt8)) (failed : Bool)
    (managerLock : Option (Option Unit)) (worker : DiskWorker) : DiskState Unit :=
  { searching start byte worker with
    batches := Function.update start.batches firstBatch { start.batches firstBatch with
      state := .processing, sequence := start.sequence
      slots := byteSlots byte start.writes lunaDiskBatchSlots
      failed, autoRelease := true, role := .leaving }
    managerLock
    window := after
    backing := applySlots (byteSlots byte start.writes lunaDiskBatchSlots) start.backing
    queue := (start.queue ++ [firstBatch]).erase firstBatch
    done := start.done ++ [(byteSlots byte start.writes lunaDiskBatchSlots, true)]
    transfers }

theorem leads_answered (resting : Resting start) {window : Window}
    (staged : Staged window 0 (byteSlots byte start.writes lunaDiskBatchSlots)) :
    ∃ after transfers, after.data = window.data ∧
      Leads (processing start byte window (.stage firstBatch lunaDiskBatchSlots))
        (answered start byte after transfers false none (.release firstBatch)) := by
  let slots := byteSlots byte start.writes lunaDiskBatchSlots
  let header : Window := { window with completed := 0, count := lunaDiskBatchSlots }
  have count : slots.length = lunaDiskBatchSlots := length_byteSlots _ _ _
  obtain ⟨after, same, succeeded, served⟩ := service_accepts staged start.backing
  have ended : Leads (processing start byte window (.stage firstBatch lunaDiskBatchSlots))
      (processing start byte window (.header firstBatch)) := by
    refine Leads.work ?_
    have none_ : slots[lunaDiskBatchSlots]? = none := List.getElem?_eq_none (Nat.le_of_eq count)
    simp only [stepWorker, processing, searching, Function.update_self]
    rw [none_]
  have headed : Leads (processing start byte window (.header firstBatch))
      (processing start byte header (.lock firstBatch)) := by
    refine Leads.work ?_
    simp only [stepWorker, processing, searching, Function.update_self, header, length_byteSlots]
  have locked : Leads (processing start byte header (.lock firstBatch))
      { processing start byte header (.submit firstBatch) with managerLock := some none } := by
    refine Leads.work ?_
    simp only [stepWorker, processing, searching, written, resting.managerLock, if_true]
  let submitting : DiskState Unit :=
    { processing start byte header (.submit firstBatch) with managerLock := some none }
  let transfers := (submitting.submit smallDisk firstBatch none).transfers
  have submitted : Leads submitting
      (answered start byte after transfers true (some none) (.unlock firstBatch false)) := by
    refine Leads.work ?_
    simp only [stepWorker, transfers, submitting, DiskState.submit, processing, searching, written,
      Function.update_self, length_byteSlots, header]
    rw [served]
    simp only [succeeded, if_true, DiskState.setBatch, Function.update_idem]
    rfl
  have unlocked : Leads
      (answered start byte after transfers true (some none) (.unlock firstBatch false))
      (answered start byte after transfers true none (.check firstBatch false)) := Leads.work rfl
  have checked : Leads (answered start byte after transfers true none (.check firstBatch false))
      (answered start byte after transfers false none (.release firstBatch)) := by
    refine Leads.work ?_
    simp only [stepWorker, answered, searching, Function.update_self, length_byteSlots, succeeded,
      DiskState.setBatch, Function.update_idem, if_true]
    rfl
  exact ⟨after, transfers, same, ended.trans (headed.trans (locked.trans (submitted.trans
    (unlocked.trans checked))))⟩

theorem Blank.applySlots {backing : Memory} (blank : Blank byte backing) (writer count : Nat) :
    Blank byte (applySlots (byteSlots byte writer count) backing) := by
  induction count with
  | zero => exact blank
  | succ count inductionHypothesis =>
      rw [byteSlots_succ, applySlots_append]
      exact inductionHypothesis.write count

end Work

/-! ## Rounds of a write and its answer -/

section Rounds

variable {start : DiskState Unit}

/-- Nothing but zeros has been written, and every request has returned OK. -/
structure Zeroed (state : DiskState Unit) : Prop where
  resting : Resting state
  window : ∀ address, state.window.data address = 0
  backing : ∀ address, state.backing address = 0
  done : ∀ entry ∈ state.done, ∀ slot ∈ entry.1, slot.data = [0]
  log : ∀ entry ∈ state.log, entry.status = .ok

theorem leads_round (zeroed : Zeroed start) (small : start.sequence < 2 ^ 64 - 1) :
    ∃ target, Leads start target ∧ Zeroed target ∧
      target.asyncPending = (start.asyncPending + 1) % 2 ^ 32 ∧
      target.sequence = (start.sequence + 1) % 2 ^ 64 := by
  have resting := zeroed.resting
  obtain ⟨window, staged, windowBlank, stages⟩ := leads_staged fun _ => zeroed.window
  obtain ⟨after, transfers, same, answers⟩ := leads_answered resting staged
  let target : DiskState Unit := { answered start 0 after transfers false none .semDown with
    batches := Function.update start.batches firstBatch { start.batches firstBatch with
      state := .free, sequence := start.sequence, slots := []
      failed := false, autoRelease := false, role := .free }
    queueFreeSem := lunaDiskLocalQueueCount
    asyncCompletionSem := semUp start.asyncCompletionSem
    ups := start.ups + 1 }
  have released : Leads (answered start 0 after transfers false none (.release firstBatch))
      { target with
        worker := .freeUp, queueFreeSem := lunaDiskLocalQueueCount - 1
        asyncCompletionSem := start.asyncCompletionSem, ups := start.ups } := by
    refine Leads.work ?_
    simp only [stepWorker, answered, searching, written, Function.update_self, DiskState.setBatch,
      Function.update_idem, target]
  have freed : Leads
      { target with
        worker := .freeUp, queueFreeSem := lunaDiskLocalQueueCount - 1
        asyncCompletionSem := start.asyncCompletionSem, ups := start.ups }
      { target with
        worker := .completionUp
        asyncCompletionSem := start.asyncCompletionSem, ups := start.ups } := Leads.work rfl
  have completed : Leads
      { target with
        worker := .completionUp
        asyncCompletionSem := start.asyncCompletionSem, ups := start.ups } target := Leads.work rfl
  have leads : Leads start target :=
    (leads_filling resting 0).trans (leads_full.trans ((leads_written resting).trans
      ((leads_claim resting small).trans (leads_stage.trans (stages.trans (answers.trans
        (released.trans (freed.trans completed))))))))
  refine ⟨target, leads, ?_, rfl, rfl⟩
  refine ⟨⟨rfl, rfl, fun index => ?_, rfl, rfl, resting.flushGateSem, rfl, rfl, rfl,
    resting.asyncError⟩, ?_, ?_, ?_, ?_⟩
  · by_cases here : index = firstBatch
    · subst here
      simp only [target, Function.update_self]
    · simp only [target, Function.update_of_ne here]
      exact resting.free index
  · intro address
    have kept : target.window.data = window.data := same
    rw [kept]
    exact windowBlank rfl address
  · have blank : Blank 0 start.backing := fun _ => zeroed.backing
    exact blank.applySlots start.writes lunaDiskBatchSlots rfl
  · intro entry member slot inside
    rcases List.mem_append.mp member with earlier | last
    · exact zeroed.done entry earlier slot inside
    · rw [List.mem_singleton.mp last] at inside
      obtain ⟨offset, _, rfl⟩ := List.mem_map.mp inside
      rfl
  · intro entry member
    rcases List.mem_append.mp member with earlier | last
    · exact zeroed.log entry earlier
    · rw [List.mem_singleton.mp last]

/-- As many rounds as the counter can tell apart. -/
theorem exists_rounds (rounds : Nat) (few : rounds < 2 ^ 32) :
    ∃ state, (diskSystem smallDisk).Reachable state ∧ Zeroed state ∧
      state.asyncPending = rounds ∧ state.sequence = rounds + 1 := by
  induction rounds with
  | zero =>
      refine ⟨configuredDisk, .init configuredDisk_initial, ?_, rfl, rfl⟩
      exact ⟨⟨rfl, rfl, fun _ => rfl, rfl, rfl, rfl, rfl, rfl, rfl, rfl⟩, fun _ => rfl,
        fun _ => rfl, by simp [configuredDisk], by simp [configuredDisk]⟩
  | succ rounds inductionHypothesis =>
      obtain ⟨state, reached, zeroed, pending, sequence⟩ := inductionHypothesis (by omega)
      obtain ⟨target, leads, after, counted, numbered⟩ := leads_round zeroed (by omega)
      refine ⟨target, reached.leads leads, after, ?_, ?_⟩
      · rw [counted, pending, Nat.mod_eq_of_lt few]
      · rw [numbered, sequence, Nat.mod_eq_of_lt (by omega)]

end Rounds

/-! ## A read that waits for nothing -/

section Read

variable {start : DiskState Unit} {byte : UInt8}

def oneByteRead : BlkReq := ⟨.read, 0, [some [0]]⟩

theorem taskDiskRequest_oneByteRead :
    taskDiskRequest smallDisk oneByteRead = .gateDown (.read 0 [1]) := by
  simp [taskDiskRequest, oneByteRead, checkBuffers, BlkReq.offset, BlkReq.buffers, smallDisk]

/-- The read returns what the manager has, while the write waits for the worker. -/
theorem leads_read (resting : Resting start)
    (wrapped : (written start byte).asyncPending = 0) :
    ∃ target, Leads (written start byte) target ∧
      target.log = (written start byte).log ++
        [⟨oneByteRead, .ok, [start.backing 0], start.backing⟩] ∧
      target.acknowledged = start.acknowledged ++ [((written start byte).returned, false)] ∧
      target.done = start.done := by
  let user : FlushUser := .read 0 [1]
  let reading (call : DiskCall) : DiskState Unit := { written start byte with
    calls := fun _ => call
    tickets := fun _ =>
      ⟨oneByteRead, start.writes + 1, (written start byte).returned, start.asyncError⟩
    writes := start.writes + 2 }
  let gated (call : DiskCall) : DiskState Unit :=
    { reading call with flushGateSem := 0, gateHolder := some () }
  let passed (call : DiskCall) : DiskState Unit :=
    { reading call with flushGateSem := 1, gateHolder := none, asyncPending := 0 }
  let served (call : DiskCall) : DiskState Unit := { passed call with
    window := { start.window with data := blit start.window.data 0 start.backing 0 1 }
    managerLock := some (some ()) }
  have started : Leads (written start byte) (reading (.gateDown user)) := by
    refine System.Leads.next (.start () oneByteRead) trivial ?_
    simp only [diskSystem, diskNext, written, if_true, taskDiskRequest_oneByteRead, enter_unit,
      reading, user]
    rfl
  have entered : Leads (reading (.gateDown user)) (gated (.flushLock user)) := by
    refine Leads.call ?_
    simp only [stepCall, reading, gated, written, resting.flushGateSem, enter_unit]
    rfl
  have locked : Leads (gated (.flushLock user))
      { gated (.flushTake user) with writeLock := some () } := Leads.call rfl
  have took : Leads { gated (.flushTake user) with writeLock := some () }
      { gated (.exchange user) with writeLock := some () } := Leads.call rfl
  have exchanged : Leads { gated (.exchange user) with writeLock := some () }
      { gated (.flushUnlock user 0) with writeLock := some (), asyncPending := 0 } := by
    refine Leads.call ?_
    have none_ : { gated (.exchange user) with writeLock := some () }.asyncPending = 0 := wrapped
    simp only [stepCall, gated, reading, enter_unit] at none_ ⊢
    rw [none_]
    rfl
  have unlocked : Leads { gated (.flushUnlock user 0) with writeLock := some (), asyncPending := 0 }
      { gated (.flushWait user 0) with asyncPending := 0 } := Leads.call rfl
  have waited : Leads { gated (.flushWait user 0) with asyncPending := 0 }
      { gated (.gateUp user false) with asyncPending := 0 } := by
    refine Leads.call ?_
    simp only [stepCall, gated, reading, written, resting.asyncError, enter_unit]
  have left : Leads { gated (.gateUp user false) with asyncPending := 0 }
      (passed (.readLock 0 [1] [])) := Leads.call rfl
  have owned : Leads (passed (.readLock 0 [1] []))
      { passed (.readServe 0 [1] []) with managerLock := some (some ()) } := by
    refine Leads.call ?_
    simp only [stepCall, passed, reading, written, resting.managerLock, if_true, enter_unit]
  have answered : Leads { passed (.readServe 0 [1] []) with managerLock := some (some ()) }
      (served (.readCopy 0 [1] [])) := Leads.call rfl
  have copied : Leads (served (.readCopy 0 [1] []))
      (served (.readUnlock 1 [0] [start.backing 0] false)) := by
    refine Leads.call ?_
    simp only [stepCall, served, passed, reading, enter_unit]
    rfl
  have released : Leads (served (.readUnlock 1 [0] [start.backing 0] false))
      { served (.finish .ok [start.backing 0]) with managerLock := none } := Leads.call rfl
  refine ⟨_, started.trans (entered.trans (locked.trans (took.trans (exchanged.trans
    (unlocked.trans (waited.trans (left.trans (owned.trans (answered.trans (copied.trans
      (released.trans (Leads.call rfl)))))))))))), rfl, ?_, rfl⟩
  simp only [DiskState.finishCall, enter_unit, served, passed, reading, written, oneByteRead,
    resting.asyncError]
  rfl

end Read

/-- After 2^32 rounds the counter is 0 again while the last write waits for the worker, and
a read returns what was there before it. -/
theorem exists_stale_read : ∃ start state : DiskState Unit, (diskSystem smallDisk).Reachable state ∧
    (∀ entry ∈ start.log, entry.status = .ok) ∧
    state.log = start.log ++ [⟨fullWrite 1, .ok, [], start.backing⟩,
      ⟨oneByteRead, .ok, [0], start.backing⟩] ∧
    (((written start 1).returned, false) ∈ state.acknowledged) ∧
    ∀ entry ∈ state.done, ∀ slot ∈ entry.1, slot.data = [0] := by
  obtain ⟨start, reached, zeroed, pending, -⟩ := exists_rounds (2 ^ 32 - 1) (by omega)
  have resting := zeroed.resting
  have wraps : (written start 1).asyncPending = 0 := by
    change (start.asyncPending + 1) % 2 ^ 32 = 0
    omega
  obtain ⟨state, leads, log, acknowledged, done⟩ := leads_read resting wraps
  refine ⟨start, state, ?_, zeroed.log, ?_, ?_, ?_⟩
  · exact reached.leads ((leads_filling resting 1).trans (leads_full.trans
      ((leads_written resting).trans leads)))
  · rw [log, zeroed.backing 0]
    simp [written]
  · rw [acknowledged]
    simp
  · rw [done]
    exact zeroed.done

/-- The read that returned does not cover the write before it. -/
theorem read_acknowledges_queued_write :
    ∃ state : DiskState Unit, (diskSystem smallDisk).Reachable state ∧
      ¬ AcknowledgesDurable state := by
  obtain ⟨start, state, reached, -, -, acknowledged, zeros⟩ := exists_stale_read
  refine ⟨state, reached, fun durable => ?_⟩
  obtain ⟨-, front, isPrefix, -, splits⟩ := durable.1 _ acknowledged
  have last := splits (start.writes, 0, List.replicate lunaDiskBatchSlots 1) (by simp [written])
  generalize found : slotsOf start.writes (front.flatMap Prod.fst) = slots at last
  cases slots with
  | nil => simp [Splits, lunaDiskBatchSlots] at last
  | cons slot rest =>
      obtain ⟨-, -, later, bytes, -⟩ := last
      have member : slot ∈ front.flatMap Prod.fst := by
        refine List.mem_of_mem_filter (p := fun slot => decide (slot.writer = start.writes)) ?_
        change slot ∈ slotsOf start.writes _
        rw [found]
        exact List.mem_cons_self
      obtain ⟨entry, inFront, inside⟩ := List.mem_flatMap.mp member
      have zero := zeros entry (isPrefix.subset inFront) slot inside
      rw [zero] at bytes
      simp [lunaDiskBatchSlots, List.replicate] at bytes

end Luna.Disk
