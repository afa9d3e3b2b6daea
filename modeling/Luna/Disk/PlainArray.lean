import Luna.Disk.WindowUse

/-!
# The backend is a plain array

One thread that sends its requests one after the other, next to the worker.  The slots a
WRITE has filled, applied to the disk of the beginning, are the plain array its requests
describe; a READ or a FLUSH that has passed the gate finds exactly that in the backing.
-/

namespace Luna.Disk

open ByteMemory

/-! ## The plain array -/

/-- What a request does to a plain array. -/
def BlkReq.apply (request : BlkReq) (array : Memory) : Memory :=
  match request.type with
  | .write => write array request.offset request.buffers.flatten
  | _ => array

/-- The plain array after the requests of a log. -/
def plainArray (log : List LogEntry) (array : Memory) : Memory :=
  log.foldl (fun array entry => entry.request.apply array) array

/-- A READ returns the bytes of the array, and a FLUSH leaves the array in the backing. -/
def LogEntry.Agrees (entry : LogEntry) (array : Memory) : Prop :=
  entry.status = .ok →
    match entry.request.type with
    | .read => entry.data =
        read array entry.request.offset entry.request.buffers.flatten.length
    | .flush | .flushOut => entry.backing = array
    | _ => True

/-- Until a request returns IOERR, every request agrees with the array that the requests
before it leave. -/
def MirrorsArray (log : List LogEntry) (array : Memory) : Prop :=
  ∀ before entry after, log = before ++ entry :: after →
    (∀ earlier ∈ before, earlier.status ≠ .ioerr) → entry.Agrees (plainArray before array)

theorem plainArray_append (log : List LogEntry) (entry : LogEntry) (array : Memory) :
    plainArray (log ++ [entry]) array = entry.request.apply (plainArray log array) := by
  simp [plainArray]

theorem MirrorsArray.append {log : List LogEntry} {array : Memory} {entry : LogEntry}
    (mirrors : MirrorsArray log array)
    (agrees : (∀ earlier ∈ log, earlier.status ≠ .ioerr) → entry.Agrees (plainArray log array)) :
    MirrorsArray (log ++ [entry]) array := by
  intro before other after splits clean
  rcases List.eq_nil_or_concat after with rfl | ⟨front, last, rfl⟩
  · obtain ⟨rfl, same⟩ := List.append_inj' splits rfl
    cases same
    exact agrees clean
  · rw [List.concat_eq_append, ← List.cons_append, ← List.append_assoc] at splits
    exact mirrors before other front (List.append_inj' splits rfl).1 clean

/-! ## What a request has achieved -/

/-- Whom the request waits at the gate for. -/
def BlkReq.Wants (request : BlkReq) : FlushUser → Prop
  | .flush => request.type = .flush ∨ request.type = .flushOut
  | .read offset lengths => request.type = .read ∧ offset = request.offset ∧
      lengths = request.buffers.map List.length

/-- The bytes read so far, and what is left. -/
structure Reading (request : BlkReq) (array : Memory) (offset : Nat) (lengths : List Nat)
    (data : List UInt8) : Prop where
  type : request.type = .read
  found : data = read array request.offset data.length
  reached : offset = request.offset + data.length
  left : data.length + lengths.sum = request.buffers.flatten.length

/-- The bytes written so far, and what is left. -/
def Writing (request : BlkReq) (array applied : Memory) (offset : Nat)
    (buf : List (List UInt8)) : Prop :=
  request.type = .write ∧ ∃ written, request.buffers.flatten = written ++ buf.flatten ∧
    offset = request.offset + written.length ∧ applied = write array request.offset written

/-- Nothing is left in the batches. -/
structure DiskState.Quiesced (state : DiskState Unit) : Prop where
  settled : state.Settled
  pending : state.pendingWrite = none

/-- What a request has achieved at a call; `applied` are the slots filled so far, applied
to the disk of the beginning. -/
def Mirrored (state : DiskState Unit) (request : BlkReq) (array applied : Memory) :
    DiskCall → Prop
  | .idle => applied = array
  | .gateDown user | .flushLock user | .flushTake user | .exchange user =>
      request.Wants user ∧ applied = array
  | .flushUnlock user _ | .flushWait user _ =>
      request.Wants user ∧ applied = array ∧ state.pendingWrite = none ∧ state.asyncPending = 0
  | .gateUp user failed =>
      request.Wants user ∧ applied = array ∧ (failed = false → state.Quiesced)
  | .publishSequence _ user | .publishReady _ user | .publishSignal _ user =>
      match user with
      | .flush user => request.Wants user ∧ applied = array
      | .write offset buf => Writing request array applied offset buf
      | .submit => request.Wants .flush ∧ applied = array ∧ state.Quiesced
  | .claimDown user | .claimScan user _ =>
      match user with
      | .flush => request.Wants .flush ∧ applied = array ∧ state.Quiesced
      | .write offset buf => Writing request array applied offset buf
  | .build _ | .submitDown _ | .submitCheck _ | .submitFree _ | .submitUp _ =>
      request.Wants .flush ∧ applied = array ∧ state.Quiesced
  | .writeLock offset buf | .fill offset buf => Writing request array applied offset buf
  | .writeUnlock failed => failed = false → request.type = .write ∧ applied = request.apply array
  | .writeError => request.type = .write ∧ applied = request.apply array
  | .readLock offset lengths data | .readServe offset lengths data =>
      Reading request array offset lengths data ∧ applied = array ∧ state.Quiesced
  | .readCopy offset lengths data =>
      Reading request array offset lengths data ∧ applied = array ∧ state.Quiesced ∧
        read state.window.data 0 (readChunk lengths) = read array offset (readChunk lengths)
  | .readUnlock offset lengths data failed => failed = false →
      Reading request array offset lengths data ∧ applied = array ∧ state.Quiesced
  | .finish status data => status ≠ .ioerr → applied = request.apply array ∧
      (status = .ok → (request.type = .read →
          state.Quiesced ∧ data = read array request.offset request.buffers.flatten.length) ∧
        (request.type = .flush ∨ request.type = .flushOut → state.Quiesced))

theorem BlkReq.apply_of_ne {request : BlkReq} {array : Memory} (other : request.type ≠ .write) :
    request.apply array = array := by
  unfold BlkReq.apply
  split
  next isWrite => exact absurd isWrite other
  next => rfl

theorem BlkReq.apply_of_write {request : BlkReq} {array : Memory} (isWrite : request.type = .write) :
    request.apply array = write array request.offset request.buffers.flatten := by
  unfold BlkReq.apply
  rw [isWrite]

/-- A READ goes on with the next buffer or returns. -/
theorem Reading.next {state : DiskState Unit} {request : BlkReq} {array applied : Memory}
    {offset : Nat} {lengths : List Nat} {data : List UInt8}
    (reading : Reading request array offset lengths data) (same : applied = array)
    (quiet : state.Quiesced) :
    Mirrored state request array applied (readNext offset lengths data) := by
  induction lengths with
  | nil =>
      refine fun _ => ⟨?_, fun _ => ⟨fun _ => ⟨quiet, ?_⟩, fun _ => quiet⟩⟩
      · rw [BlkReq.apply_of_ne (by simp [reading.type]), same]
      · have left := reading.left
        rw [List.sum_nil, Nat.add_zero] at left
        rw [← left]
        exact reading.found
  | cons length rest inductionHypothesis =>
      cases length with
      | zero =>
          refine inductionHypothesis { reading with left := ?_ }
          have left := reading.left
          rwa [List.sum_cons, Nat.zero_add] at left
      | succ length => exact ⟨reading, same, quiet⟩

/-- One chunk more of a READ. -/
theorem Reading.chunk {request : BlkReq} {array : Memory} {offset : Nat} {lengths : List Nat}
    {data : List UInt8} (reading : Reading request array offset lengths data) :
    Reading request array (offset + readChunk lengths) (readRest lengths)
      (data ++ read array offset (readChunk lengths)) where
  type := reading.type
  found := by
    rw [List.length_append, length_read, read_add, ← reading.found, ← reading.reached]
  reached := by
    rw [List.length_append, length_read, reading.reached, Nat.add_assoc]
  left := by
    have left := reading.left
    rw [List.length_append, length_read]
    cases lengths with
    | nil => exact left
    | cons length rest =>
        simp only [readChunk, readRest, List.sum_cons] at left ⊢
        omega

/-- One chunk more of a WRITE. -/
theorem Writing.chunk {request : BlkReq} {array applied : Memory} {offset : Nat}
    {bytes : List UInt8} {rest : List (List UInt8)}
    (writing : Writing request array applied offset (bytes :: rest)) (limit : Nat) :
    Writing request array (write applied offset (bytes.take limit))
      (offset + (bytes.take limit).length) (bytes.drop limit :: rest) := by
  obtain ⟨type, written, all, starts, rfl⟩ := writing
  refine ⟨type, written ++ bytes.take limit, ?_, ?_, ?_⟩
  · rw [all, List.flatten_cons, List.flatten_cons, List.append_assoc, ← List.append_assoc
      (bytes.take limit), List.take_append_drop]
  · rw [List.length_append, starts, Nat.add_assoc]
  · rw [starts, write_append]

/-- A WRITE with nothing left has written all. -/
theorem Writing.done {request : BlkReq} {array applied : Memory} {offset : Nat}
    (writing : Writing request array applied offset []) :
    request.type = .write ∧ applied = request.apply array := by
  obtain ⟨type, written, all, -, rfl⟩ := writing
  rw [List.flatten_nil, List.append_nil] at all
  rw [BlkReq.apply_of_write type, all]
  exact ⟨type, rfl⟩

/-! ## Steps of the worker -/

section Worker

variable {Thread : Type} {size : Nat} {state target : DiskState Thread} {fault : Option Nat}

/-- The manager leaves the backing alone for a batch of flushes, whether it fails or not. -/
theorem serviceDescriptors_flush {slots : List Slot} (backing : Memory)
    (flushes : ∀ slot ∈ slots, slot.event = .flush) {position : Nat} {window : Window}
    (staged : Staged window position slots) :
    (serviceDescriptors size fault position slots.length window backing).2.1 = backing := by
  induction slots generalizing position window with
  | nil => rfl
  | cons slot rest inductionHypothesis =>
      have first : SlotStaged window position slot := staged 0 slot rfl
      have isFlush := flushes slot List.mem_cons_self
      have noRead : slot.event ≠ .read := by simp [isFlush]
      rw [List.length_cons, serviceDescriptors_succ first noRead]
      split
      next => rfl
      next =>
        have later : Staged (window.served position) (position + 1) rest :=
          staged.tail.alike (served_alike window position) fun _ _ _ => rfl
        have same : slot.apply backing = backing := by simp [Slot.apply, isFlush]
        rw [same]
        exact inductionHypothesis
          (fun other member => flushes other (List.mem_cons_of_mem _ member)) later

theorem serviceDiskBatch_flush {slots : List Slot} (backing : Memory)
    (flushes : ∀ slot ∈ slots, slot.event = .flush) {window : Window}
    (staged : Staged window 0 slots) :
    (serviceDiskBatch size fault slots.length window backing).2.1 = backing := by
  unfold serviceDiskBatch
  split
  next => rfl
  next => exact serviceDescriptors_flush backing flushes staged

/-- The batches answered without an error, applied to the disk of the beginning. -/
def WrittenOut (start : Memory) (state : DiskState Thread) : Prop :=
  (∀ entry ∈ state.done, entry.2 = true) →
    state.backing = applySlots (state.done.map Prod.fst).flatten start

theorem WrittenOut.frame {start : Memory} (writtenOut : WrittenOut start state)
    (done : target.done = state.done) (backing : target.backing = state.backing) :
    WrittenOut start target := by
  unfold WrittenOut
  rwa [done, backing]

theorem stepWorker_backed {start : Memory} (owned : Owned state.holdings)
    (stocked : ∀ index, (state.batches index).Stocked) (laid : Laid state)
    (writtenOut : WrittenOut start state) (moved : stepWorker size state fault = some target) :
    WrittenOut start target := by
  unfold stepWorker at moved
  cases at_ : state.worker <;> simp only [at_] at moved
  case semDown | lock | claim =>
    split at moved
    all_goals first
      | cases moved; exact writtenOut
      | cases moved
  case scan =>
    split at moved
    next => cases moved; exact writtenOut
    next => split at moved <;> cases moved <;> exact writtenOut
  case stage => split at moved <;> cases moved <;> exact writtenOut
  case submit index =>
    cases moved
    have worker : state.worker.staged = some index := by rw [at_]; rfl
    have staged : Staged state.window 0 (state.batches index).slots := by
      unfold Laid at laid
      rwa [at_] at laid
    obtain ⟨-, -, applied⟩ := serviceDiskBatch_staged size fault state.backing
      (fun slot member => ((stocked index).1 slot member).1) staged
    unfold DiskState.submit
    simp only
    split
    next =>
      intro clean
      have succeeded := clean _ (List.mem_append_right _ List.mem_cons_self)
      rw [Bool.not_eq_true'] at succeeded
      have before := writtenOut fun entry member => clean entry (List.mem_append_left _ member)
      refine (applied succeeded).trans ?_
      change _ = applySlots ((state.done ++ [_]).map Prod.fst).flatten start
      rw [List.map_append, List.flatten_append, applySlots_append, ← before, List.map_singleton,
        List.flatten_singleton]
    next sync =>
      -- a batch that a thread has submitted
      have flushes : ∀ slot ∈ (state.batches index).slots, slot.event = .flush := by
        have kind := (owned.staged worker).2
        obtain ⟨-, auto⟩ | ⟨-, owner, role⟩ := kind
        · exact absurd auto sync
        · have flushes := (stocked index).2
          rwa [role] at flushes
      exact writtenOut.frame rfl (serviceDiskBatch_flush state.backing flushes staged)
  all_goals
    cases moved
    exact writtenOut

/-- With every batch of writes answered, the worker leaves the data area alone. -/
theorem stepWorker_data (owned : Owned state.holdings)
    (stocked : ∀ index, (state.batches index).Stocked) (laid : Laid state)
    (settled : state.Settled) (moved : stepWorker size state fault = some target) :
    target.window.data = state.window.data := by
  unfold stepWorker at moved
  cases at_ : state.worker <;> simp only [at_] at moved
  case semDown | lock | claim =>
    split at moved
    all_goals first
      | cases moved; rfl
      | cases moved
  case scan =>
    split at moved
    next => cases moved; rfl
    next => split at moved <;> cases moved <;> rfl
  case stage index position =>
    have worker : state.worker.staged = some index := by rw [at_]; rfl
    have flushes := settled.no_write owned stocked worker
    split at moved
    next => cases moved; rfl
    next slot here =>
      cases moved
      have isFlush := flushes slot (List.mem_of_getElem? here)
      simp only [isFlush, reduceCtorEq, if_false]
  case submit index =>
    cases moved
    have staged : Staged state.window 0 (state.batches index).slots := by
      unfold Laid at laid
      rwa [at_] at laid
    obtain ⟨data, -, -⟩ := serviceDiskBatch_staged size fault state.backing
      (fun slot member => ((stocked index).1 slot member).1) staged
    unfold DiskState.submit
    simp only
    split <;> exact data
  all_goals
    cases moved
    rfl

/-- The worker fills no slot and returns no request. -/
theorem stepWorker_history (moved : stepWorker size state fault = some target) :
    target.stream = state.stream ∧ target.log = state.log ∧ target.tickets = state.tickets ∧
      target.pendingWrite = state.pendingWrite := by
  unfold stepWorker at moved
  cases at_ : state.worker <;> simp only [at_] at moved
  case semDown | lock | claim =>
    split at moved
    all_goals first
      | cases moved; exact ⟨rfl, rfl, rfl, rfl⟩
      | cases moved
  case scan =>
    split at moved
    next => cases moved; exact ⟨rfl, rfl, rfl, rfl⟩
    next => split at moved <;> cases moved <;> exact ⟨rfl, rfl, rfl, rfl⟩
  case stage => split at moved <;> cases moved <;> exact ⟨rfl, rfl, rfl, rfl⟩
  case submit index =>
    cases moved
    unfold DiskState.submit
    simp only
    split <;> exact ⟨rfl, rfl, rfl, rfl⟩
  all_goals
    cases moved
    exact ⟨rfl, rfl, rfl, rfl⟩

end Worker

/-- Nothing that a request relies on has changed. -/
theorem Mirrored.frame {state target : DiskState Unit} {request : BlkReq} {array applied : Memory}
    {call : DiskCall} (mirrored : Mirrored state request array applied call)
    (pendingWrite : target.pendingWrite = state.pendingWrite)
    (asyncPending : target.asyncPending = state.asyncPending)
    (settled : state.Settled → target.Settled)
    (data : state.Settled → target.window.data = state.window.data) :
    Mirrored target request array applied call := by
  have quiet : state.Quiesced → target.Quiesced := fun quiesced =>
    ⟨settled quiesced.settled, pendingWrite.trans quiesced.pending⟩
  cases call <;> simp only [Mirrored] at mirrored ⊢
  case flushUnlock user _ | flushWait user _ =>
    rw [pendingWrite, asyncPending]
    exact mirrored
  case gateUp user failed =>
    exact ⟨mirrored.1, mirrored.2.1, fun passed => quiet (mirrored.2.2 passed)⟩
  case publishSequence _ user | publishReady _ user | publishSignal _ user =>
    cases user with
    | submit => exact ⟨mirrored.1, mirrored.2.1, quiet mirrored.2.2⟩
    | _ => exact mirrored
  case claimDown user | claimScan user _ =>
    cases user with
    | flush => exact ⟨mirrored.1, mirrored.2.1, quiet mirrored.2.2⟩
    | write offset buf => exact mirrored
  case build | submitDown | submitCheck | submitFree | submitUp | readLock | readServe =>
    exact ⟨mirrored.1, mirrored.2.1, quiet mirrored.2.2⟩
  case readCopy offset lengths bytes =>
    rw [data mirrored.2.2.1.settled]
    exact ⟨mirrored.1, mirrored.2.1, quiet mirrored.2.2.1, mirrored.2.2.2⟩
  case readUnlock offset lengths bytes failed =>
    intro served
    obtain ⟨reading, same, quiesced⟩ := mirrored served
    exact ⟨reading, same, quiet quiesced⟩
  case finish status bytes =>
    intro fine
    obtain ⟨done, ok⟩ := mirrored fine
    refine ⟨done, fun isOk => ⟨fun isRead => ?_, fun isFlush => quiet ((ok isOk).2 isFlush)⟩⟩
    exact ⟨quiet ((ok isOk).1 isRead).1, ((ok isOk).1 isRead).2⟩
  all_goals exact mirrored

/-! ## Steps of the thread -/

section Calls

variable {size : Nat} {state target : DiskState Unit} {start array : Memory}

theorem DiskState.Quiesced.frame (quiet : state.Quiesced) (queue : target.queue = state.queue)
    (done : target.done = state.done) (pending : target.pendingWrite = state.pendingWrite) :
    target.Quiesced :=
  ⟨quiet.settled.frame queue done, pending.trans quiet.pending⟩

/-- With nothing left in the batches, the backing holds all slots filled so far. -/
theorem DiskState.Quiesced.backing (quiet : state.Quiesced) (flow : Flow state.pipe)
    (writtenOut : WrittenOut start state) : state.backing = applySlots state.stream start := by
  have streamed := flow.streamed
  simp only [Streamed, Pipe.published, Pipe.pending, DiskState.pipe, quiet.settled.queue,
    quiet.pending, List.map_nil, List.append_nil] at streamed
  rw [streamed]
  exact writtenOut quiet.settled.clean

theorem serviceDiskRequest_found {offset length : Nat} {data backing : Memory}
    (served : (serviceDiskRequest size .read offset length data backing).2.2 = false) :
    read (serviceDiskRequest size .read offset length data backing).1 0 length =
      read backing offset length := by
  simp only [serviceDiskRequest] at served ⊢
  split at served
  next => cases served
  next fits =>
    split at served
    next => cases served
    next some_ =>
      rw [if_neg fits, if_neg some_]
      exact read_blit_same

theorem BlkReq.Wants.apply {request : BlkReq} (wants : request.Wants .flush) :
    request.apply array = array := by
  apply BlkReq.apply_of_ne
  rcases wants with type | type <;> simp [type]

/-- A READ that has passed the gate has read nothing yet. -/
theorem BlkReq.Wants.reading {request : BlkReq} {offset : Nat} {lengths : List Nat}
    (wants : request.Wants (.read offset lengths)) : Reading request array offset lengths [] := by
  obtain ⟨type, rfl, rfl⟩ := wants
  refine ⟨type, rfl, ?_, ?_⟩
  · rw [List.length_nil, Nat.add_zero]
  · rw [List.length_nil, Nat.zero_add, List.length_flatten]

theorem stepCall_mirrored (owned : Owned state.holdings) (flow : Flow state.pipe)
    (writtenOut : WrittenOut start state)
    (running : ∀ status data, state.calls () ≠ .finish status data)
    (mirrored : Mirrored state (state.tickets ()).request array (applySlots state.stream start)
      (state.calls ()))
    (moved : stepCall size state () = some target) :
    Mirrored target (target.tickets ()).request array (applySlots target.stream start)
      (target.calls ()) := by
  have goes : ∀ {target : DiskState Unit} {call : DiskCall},
      target.calls = Function.update state.calls () call → target.tickets = state.tickets →
      target.stream = state.stream →
      Mirrored target (state.tickets ()).request array (applySlots state.stream start) call →
      Mirrored target (target.tickets ()).request array (applySlots target.stream start)
        (target.calls ()) := by
    intro target call calls tickets stream arrived
    rwa [calls, tickets, stream, Function.update_self]
  have fits := owned.calls ()
  simp only [DiskState.holdings] at fits
  unfold stepCall at moved
  cases at_ : state.calls () <;> simp only [at_, CallFits] at moved fits <;> rw [at_] at mirrored
  case idle => cases moved
  case gateDown user | flushLock user =>
    split at moved
    all_goals first
      | cases moved; exact goes rfl rfl rfl mirrored
      | cases moved
  case flushTake user =>
    split at moved
    next => cases moved; exact goes rfl rfl rfl mirrored
    next =>
      split at moved <;>
        · cases moved
          exact goes rfl rfl rfl mirrored
  case publishSequence index user =>
    cases moved
    cases user with
    | flush user => exact goes rfl rfl rfl mirrored
    | write offset buf => exact goes rfl rfl rfl mirrored
    | submit =>
        exact goes rfl rfl rfl ⟨mirrored.1, mirrored.2.1, mirrored.2.2.frame rfl rfl rfl⟩
  case publishReady index user =>
    cases moved
    cases user with
    | submit =>
        exact goes rfl rfl rfl ⟨mirrored.1, mirrored.2.1, mirrored.2.2.frame rfl rfl rfl⟩
    | _ => exact goes rfl rfl rfl mirrored
  case publishSignal index user =>
    cases moved
    cases user with
    | submit =>
        exact goes rfl rfl rfl ⟨mirrored.1, mirrored.2.1, mirrored.2.2.frame rfl rfl rfl⟩
    | _ => exact goes rfl rfl rfl mirrored
  case exchange user =>
    cases moved
    exact goes rfl rfl rfl ⟨mirrored.1, mirrored.2, fits, rfl⟩
  case flushUnlock user pending =>
    cases moved
    exact goes rfl rfl rfl mirrored
  case flushWait user remaining =>
    obtain ⟨wants, same, pending, none_⟩ := mirrored
    cases remaining with
    | zero =>
        cases moved
        refine goes rfl rfl rfl ⟨wants, same, fun noError => ⟨?_, pending⟩⟩
        exact (settled_of_waited owned flow at_ none_ noError).frame rfl rfl
    | succ remaining =>
        simp only at moved
        split at moved
        next => cases moved
        next =>
          cases moved
          exact goes rfl rfl rfl ⟨wants, same, pending, none_⟩
  case gateUp user failed =>
    obtain ⟨wants, same, quiet⟩ := mirrored
    cases moved
    cases failed with
    | true => exact goes rfl rfl rfl fun fine => absurd rfl fine
    | false =>
        cases user with
        | flush => exact goes rfl rfl rfl ⟨wants, same, (quiet rfl).frame rfl rfl rfl⟩
        | read offset lengths =>
            exact goes rfl rfl rfl (wants.reading.next same ((quiet rfl).frame rfl rfl rfl))
  case claimDown user =>
    split at moved
    next => cases moved
    next =>
      cases moved
      cases user with
      | flush =>
          exact goes rfl rfl rfl ⟨mirrored.1, mirrored.2.1, mirrored.2.2.frame rfl rfl rfl⟩
      | write offset buf => exact goes rfl rfl rfl mirrored
  case claimScan user position =>
    cases user with
    | flush =>
        have passed : ∀ {target : DiskState Unit}, target.queue = state.queue →
            target.done = state.done → target.pendingWrite = state.pendingWrite →
            (state.tickets ()).request.Wants .flush ∧ applySlots state.stream start = array ∧
              target.Quiesced :=
          fun queue done pending => ⟨mirrored.1, mirrored.2.1, mirrored.2.2.frame queue done pending⟩
        split at moved
        next =>
          split at moved
          next => cases moved; exact goes rfl rfl rfl (passed rfl rfl rfl)
          next => cases moved; exact goes rfl rfl rfl (passed rfl rfl rfl)
        next => cases moved; exact goes rfl rfl rfl fun fine => absurd rfl fine
    | write offset buf =>
        split at moved
        next =>
          split at moved
          next => cases moved; exact goes rfl rfl rfl mirrored
          next => cases moved; exact goes rfl rfl rfl mirrored
        next => cases moved; exact goes rfl rfl rfl fun failed => absurd failed (by simp)
  case build index | submitFree index =>
    cases moved
    exact goes rfl rfl rfl ⟨mirrored.1, mirrored.2.1, mirrored.2.2.frame rfl rfl rfl⟩
  case submitDown index =>
    split at moved
    next => cases moved
    next =>
      cases moved
      exact goes rfl rfl rfl ⟨mirrored.1, mirrored.2.1, mirrored.2.2.frame rfl rfl rfl⟩
  case submitCheck index =>
    split at moved
    next =>
      cases moved
      exact goes rfl rfl rfl ⟨mirrored.1, mirrored.2.1, mirrored.2.2.frame rfl rfl rfl⟩
    next => cases moved; exact goes rfl rfl rfl fun fine => absurd rfl fine
  case submitUp failed =>
    obtain ⟨wants, same, quiet⟩ := mirrored
    cases moved
    refine goes rfl rfl rfl fun _ => ⟨same.trans wants.apply.symm, fun _ => ⟨fun isRead => ?_, ?_⟩⟩
    · rcases wants with type | type <;> rw [type] at isRead <;> cases isRead
    · exact fun _ => quiet.frame rfl rfl rfl
  case writeLock offset buf =>
    split at moved
    next => cases moved; exact goes rfl rfl rfl mirrored
    next => cases moved
  case fill offset buf =>
    split at moved
    next => cases moved; exact goes rfl rfl rfl fun _ => Writing.done mirrored
    next rest => cases moved; exact goes rfl rfl rfl mirrored
    next byte bytes rest =>
      split at moved
      next => cases moved; exact goes rfl rfl rfl mirrored
      next index pending =>
        cases moved
        have filled := Writing.chunk mirrored lunaDiskBatchSlotSize
        have stream : applySlots (state.fillSlot () index offset (byte :: bytes) rest).stream start =
            write (applySlots state.stream start) offset
              ((byte :: bytes).take lunaDiskBatchSlotSize) := by
          simp only [DiskState.fillSlot, applySlots_append]
          rfl
        rw [stream]
        simp only [DiskState.fillSlot, DiskState.enter, Function.update_self]
        split <;> exact filled
  case writeUnlock failed =>
    cases moved
    cases failed with
    | true => exact goes rfl rfl rfl fun fine => absurd rfl fine
    | false => exact goes rfl rfl rfl (mirrored rfl)
  case writeError =>
    obtain ⟨type, done⟩ := mirrored
    cases moved
    refine goes rfl rfl rfl fun _ => ⟨done, fun _ => ⟨fun isRead => ?_, fun isFlush => ?_⟩⟩
    · rw [type] at isRead
      cases isRead
    · rw [type] at isFlush
      rcases isFlush with isFlush | isFlush <;> cases isFlush
  case readLock offset lengths data =>
    split at moved
    next =>
      cases moved
      exact goes rfl rfl rfl ⟨mirrored.1, mirrored.2.1, mirrored.2.2.frame rfl rfl rfl⟩
    next => cases moved
  case readServe offset lengths data =>
    obtain ⟨reading, same, quiet⟩ := mirrored
    cases moved
    refine goes rfl rfl rfl ?_
    cases answer : (serviceDiskRequest size .read offset (readChunk lengths) state.window.data
      state.backing).2.2 with
    | true => exact fun served => absurd served (by simp)
    | false =>
        refine ⟨reading, same, quiet.frame rfl rfl rfl, ?_⟩
        rw [← same, ← quiet.backing flow writtenOut]
        exact serviceDiskRequest_found answer
  case readCopy offset lengths data =>
    obtain ⟨reading, same, quiet, found⟩ := mirrored
    cases moved
    refine goes rfl rfl rfl fun _ => ⟨?_, same, quiet.frame rfl rfl rfl⟩
    rw [found]
    exact reading.chunk
  case readUnlock offset lengths data failed =>
    cases moved
    cases failed with
    | true => exact goes rfl rfl rfl fun fine => absurd rfl fine
    | false =>
        obtain ⟨reading, same, quiet⟩ := mirrored rfl
        exact goes rfl rfl rfl (reading.next same (quiet.frame rfl rfl rfl))
  case finish status data => exact absurd at_ (running status data)

theorem taskDiskRequest_mirrored (size : Nat) (request : BlkReq) :
    Mirrored state request array array (taskDiskRequest size request) := by
  have refused : Mirrored state request array array (.finish .ioerr []) :=
    fun fine => absurd rfl fine
  unfold taskDiskRequest
  split
  next type => exact ⟨.inl type, rfl⟩
  next type => exact ⟨.inr type, rfl⟩
  next type =>
    refine fun _ => ⟨(BlkReq.apply_of_ne (by simp [type])).symm, fun fine => ?_⟩
    cases fine
  next notFlush notFlushOut notOther =>
    split
    next => exact refused
    next =>
      split
      next => exact refused
      next =>
        split
        next => exact refused
        next =>
          split
          next isWrite =>
            refine ⟨isWrite, [], rfl, ?_, write_nil.symm⟩
            rw [List.length_nil, Nat.add_zero]
          next notWrite =>
            refine ⟨⟨?_, rfl, rfl⟩, rfl⟩
            cases type : request.type with
            | read => rfl
            | write => exact absurd type notWrite
            | flush => exact absurd type notFlush
            | flushOut => exact absurd type notFlushOut
            | other => exact absurd type notOther

end Calls

/-! ## Runs -/

section Runs

variable {size : Nat} {start : Memory} {state target : DiskState Unit}

/-- The only thread does not publish a batch while it reads. -/
theorem readsApart_of_room {action : DiskAction Unit} (room : RoomToPublish state action) :
    ReadsApart state action := by
  refine ⟨room, ?_⟩
  split
  next thread =>
    split
    next index user at_ =>
      intro auto other
      rw [at_]
      rfl
    next => trivial
  next => trivial

structure PlainInv (start : Memory) (state : DiskState Unit) : Prop where
  writtenOut : WrittenOut start state
  mirrored : (∀ entry ∈ state.log, entry.status ≠ .ioerr) →
    Mirrored state (state.tickets ()).request (plainArray state.log start)
      (applySlots state.stream start) (state.calls ())
  mirrors : MirrorsArray state.log start

theorem finishCall_plain (flow : Flow state.pipe) (inv : PlainInv start state)
    {status : BlkStatus} {data : List UInt8} (at_ : state.calls () = .finish status data) :
    PlainInv start (state.finishCall () status data) where
  writtenOut := inv.writtenOut.frame rfl rfl
  mirrored clean := by
    have before : ∀ entry ∈ state.log, entry.status ≠ .ioerr := fun entry member =>
      clean entry (List.mem_append_left _ member)
    have fine : status ≠ .ioerr := clean _ (List.mem_append_right _ List.mem_cons_self)
    have mirrored := inv.mirrored before
    rw [at_] at mirrored
    simp only [DiskState.finishCall, DiskState.enter, Function.update_self, Mirrored,
      plainArray_append]
    exact (mirrored fine).1
  mirrors := by
    refine inv.mirrors.append fun clean isOk => ?_
    have mirrored := inv.mirrored clean
    rw [at_] at mirrored
    have fine : status ≠ .ioerr := by
      rw [show status = .ok from isOk]
      simp
    obtain ⟨applied, achieved⟩ := mirrored fine
    have flushed : (state.tickets ()).request.type = .flush ∨
        (state.tickets ()).request.type = .flushOut →
        state.backing = plainArray state.log start := by
      intro isFlush
      rw [((achieved isOk).2 isFlush).backing flow inv.writtenOut, applied]
      apply BlkReq.apply_of_ne
      rcases isFlush with isFlush | isFlush <;> simp [isFlush]
    dsimp only
    split
    next isRead => exact ((achieved isOk).1 isRead).2
    next isFlush => exact flushed (.inl isFlush)
    next isFlush => exact flushed (.inr isFlush)
    next => trivial

theorem PlainInv.next (sound : Sound state) (windowed : Windowed state) (inv : PlainInv start state)
    {action : DiskAction Unit} (moved : diskNext size state action = some target) :
    PlainInv start target := by
  cases action with
  | start thread request =>
      simp only [diskNext] at moved
      split at moved
      next idle =>
        cases moved
        refine ⟨inv.writtenOut.frame rfl rfl, fun clean => ?_, inv.mirrors⟩
        have same := inv.mirrored clean
        rw [idle] at same
        simp only [DiskState.enter, Function.update_self]
        rw [show applySlots state.stream start = plainArray state.log start from same]
        exact taskDiskRequest_mirrored size request
      next => cases moved
  | call thread =>
      by_cases returns : ∃ status data, state.calls () = .finish status data
      · obtain ⟨status, data, at_⟩ := returns
        simp only [diskNext, stepCall, at_] at moved
        cases moved
        exact finishCall_plain sound.flow inv at_
      · have running : ∀ status data, state.calls () ≠ .finish status data :=
          fun status data at_ => returns ⟨status, data, at_⟩
        have frame := stepCall_frame moved
        have log := (stepCall_quiet sound.owned running moved).log
        refine ⟨inv.writtenOut.frame frame.done frame.backing, fun clean => ?_, ?_⟩
        · rw [log] at clean ⊢
          exact stepCall_mirrored sound.owned sound.flow inv.writtenOut running (inv.mirrored clean)
            moved
        · rw [log]
          exact inv.mirrors
  | worker fault =>
      obtain ⟨stream, log, tickets, pendingWrite⟩ := stepWorker_history moved
      obtain ⟨calls, asyncPending⟩ := stepWorker_calls moved
      refine ⟨stepWorker_backed sound.owned windowed.stocked windowed.laid inv.writtenOut moved,
        fun clean => ?_, ?_⟩
      · rw [log] at clean ⊢
        rw [stream, tickets, calls]
        exact (inv.mirrored clean).frame pendingWrite asyncPending
          (stepWorker_settled sound.owned moved)
          fun settled => stepWorker_data sound.owned windowed.stocked windowed.laid settled moved
      · rw [log]
        exact inv.mirrors

theorem DiskInitial.plain (initial : DiskInitial state) : PlainInv state.backing state := by
  obtain ⟨_, queue, stream, done, _, _, _, _, _, _, log⟩ := initial.history
  refine ⟨fun _ => ?_, fun _ => ?_, ?_⟩
  · rw [done]
    rfl
  · rw [initial.calls, stream, log]
    rfl
  · rw [log]
    intro before entry after splits
    simp at splits

structure PlainRun (start : Memory) (state : DiskState Unit) : Prop where
  sound : Sound state
  windowed : Windowed state
  plain : PlainInv start state

theorem PlainRun.next (inv : PlainRun start state) {action : DiskAction Unit}
    (room : RoomToPublish state action) (moved : diskNext size state action = some target) :
    PlainRun start target :=
  ⟨inv.sound.next room moved,
    inv.windowed.next inv.sound (readsApart_of_room room) moved,
    inv.plain.next inv.sound inv.windowed moved⟩

/-- Every request that returns OK behaves as on a plain array. -/
theorem mirrors_array_of_room {first : DiskState Unit} (initial : DiskInitial first)
    (run : (diskSystem size).Leads RoomToPublish first state) :
    MirrorsArray state.log first.backing := by
  have begins : PlainRun first.backing first :=
    ⟨⟨initial.owned, initial.flow, initial.tracked⟩, initial.windowed, initial.plain⟩
  have inv : PlainRun first.backing state :=
    Interleaving.System.Leads.invariant (fun _ _ _ inv room moved => inv.next room moved) run begins
  exact inv.plain.mirrors

end Runs

/-- A write of one byte, and a read of what it has written. -/
theorem mirrors_array_write_read : ∃ state : DiskState Unit,
    state.log.map (fun entry => (entry.status, entry.data)) = [(.ok, []), (.ok, [7])] ∧
      MirrorsArray state.log (configuredDisk : DiskState Unit).backing := by
  obtain ⟨state, run, ends⟩ := Interleaving.System.exists_leads_of_exec (diskSystem 1024)
    RoomToPublish (configuredDisk : DiskState Unit)
    ([.start () ⟨.write, 0, [some [7]]⟩] ++ List.replicate 10 (.call ()) ++
      [.start () ⟨.read, 0, [some [0]]⟩] ++ List.replicate 8 (.call ()) ++
      List.replicate 21 (.worker none) ++ List.replicate 8 (.call ()))
    (fun state => decide (state.log.map (fun entry => (entry.status, entry.data)) =
      [(.ok, []), (.ok, [7])])) (by decide +kernel)
  exact ⟨state, of_decide_eq_true ends, mirrors_array_of_room configuredDisk_initial run⟩

end Luna.Disk
