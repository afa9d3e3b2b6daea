import Mathlib.Algebra.Ring.Nat
import Mathlib.Logic.Function.Basic
import Luna.Lib.Interleaving
import Luna.Disk.Manager

/-!
# The child's disk backend

`task_disk_request` on any number of threads and `task_disk_worker`.  Every
access to a batch state, a semaphore, a counter or a lock word is a step of its
own; what is only touched under the write lock (`task_disk_pending_write` and
the batch under construction) changes together with the step next to it.
Stopping the worker, statistics and time stamps are left out, and so is the
`DISK_READ` descriptor of a batch, which no caller builds.

The fields from `tickets` on are history.  A `role` says what a batch is used
for, `queue` lists the asynchronous batches the manager has not answered yet in
publishing order, `stream` all slots filled so far, and `done` the answered
asynchronous batches with their slots and whether they succeeded.
-/

namespace Luna.Disk

open ByteMemory Interleaving

def lunaDiskLocalQueueCount : Nat := 8
def taskDiskSectorSize : Nat := 512

abbrev BatchIndex := Fin lunaDiskLocalQueueCount

/-- One request of a batch, with the bytes of a write; `writer` is history. -/
structure Slot where
  event : DiskEvent
  offset : Nat
  data : List UInt8
  writer : Nat
  deriving DecidableEq, Repr

inductive BatchState where
  | free
  | building
  | ready
  | processing
  | done
  deriving DecidableEq, Repr

/-- What a batch is used for. -/
inductive Role (Thread : Type) where
  | free
  | pending
  | held (thread : Thread)
  | queued
  | submitted (thread : Thread)
  | leaving
  deriving DecidableEq, Repr

/-- `struct task_disk_local_batch`. -/
structure Batch (Thread : Type) where
  state : BatchState
  sequence : Nat
  slots : List Slot
  failed : Bool
  autoRelease : Bool
  completionSem : Nat
  role : Role Thread

inductive BlkType where
  | read
  | write
  | flush
  | flushOut
  | other
  deriving DecidableEq, Repr

/-- `struct lkl_blk_req`; a buffer with a null base is `none`. -/
structure BlkReq where
  type : BlkType
  sector : Nat
  buf : List (Option (List UInt8))
  deriving DecidableEq, Repr

inductive BlkStatus where
  | ok
  | ioerr
  | unsup
  deriving DecidableEq, Repr

/-- Whom `task_disk_flush_writes` returns to. -/
inductive FlushUser where
  | flush
  | read (offset : Nat) (lengths : List Nat)
  deriving DecidableEq, Repr

/-- Whom `task_disk_claim_batch` returns to. -/
inductive ClaimUser where
  | flush
  | write (offset : Nat) (buf : List (List UInt8))
  deriving DecidableEq, Repr

/-- Whom `task_disk_publish_batch` returns to. -/
inductive PublishUser where
  | flush (user : FlushUser)
  | write (offset : Nat) (buf : List (List UInt8))
  | submit
  deriving DecidableEq, Repr

def PublishUser.auto : PublishUser → Bool
  | .submit => false
  | _ => true

/-- Program counter of a thread in `task_disk_request`. -/
inductive DiskCall where
  | idle
  | gateDown (user : FlushUser)
  | flushLock (user : FlushUser)
  | flushTake (user : FlushUser)
  | publishSequence (batch : BatchIndex) (user : PublishUser)
  | publishReady (batch : BatchIndex) (user : PublishUser)
  | publishSignal (batch : BatchIndex) (user : PublishUser)
  | exchange (user : FlushUser)
  | flushUnlock (user : FlushUser) (pending : Nat)
  | flushWait (user : FlushUser) (remaining : Nat)
  | gateUp (user : FlushUser) (failed : Bool)
  | claimDown (user : ClaimUser)
  | claimScan (user : ClaimUser) (index : Nat)
  | build (batch : BatchIndex)
  | submitDown (batch : BatchIndex)
  | submitCheck (batch : BatchIndex)
  | submitFree (batch : BatchIndex)
  | submitUp (failed : Bool)
  | writeLock (offset : Nat) (buf : List (List UInt8))
  | fill (offset : Nat) (buf : List (List UInt8))
  | writeUnlock (failed : Bool)
  | writeError
  | readLock (offset : Nat) (lengths : List Nat) (data : List UInt8)
  | readServe (offset : Nat) (lengths : List Nat) (data : List UInt8)
  | readCopy (offset : Nat) (lengths : List Nat) (data : List UInt8)
  | readUnlock (offset : Nat) (lengths : List Nat) (data : List UInt8) (failed : Bool)
  | finish (status : BlkStatus) (data : List UInt8)
  deriving DecidableEq, Repr

/-- Program counter of `task_disk_worker`.  During a scan `ready` and `limit`
are history: the batches ready and the next sequence number when it began. -/
inductive DiskWorker where
  | semDown
  | scan (index : Nat) (selected : Option BatchIndex) (best : Nat)
      (ready : BatchIndex → Bool) (limit : Nat)
  | claim (selected : BatchIndex)
  | stage (batch : BatchIndex) (index : Nat)
  | header (batch : BatchIndex)
  | lock (batch : BatchIndex)
  | submit (batch : BatchIndex)
  | unlock (batch : BatchIndex) (failed : Bool)
  | check (batch : BatchIndex) (failed : Bool)
  | storeError (batch : BatchIndex)
  | release (batch : BatchIndex)
  | freeUp
  | completionUp
  | storeDone (batch : BatchIndex)
  | doneUp (batch : BatchIndex)

/-- History of the request a thread is working on: which writes had returned and
whether an error was known when it started. -/
structure Ticket where
  request : BlkReq
  writer : Nat
  before : List (Nat × Nat × List UInt8)
  late : Bool

/-- A request that has returned, and the backing at that time. -/
structure LogEntry where
  request : BlkReq
  status : BlkStatus
  data : List UInt8
  backing : Memory

/-- The globals of the backend, its threads, the window and the backing. -/
structure DiskState (Thread : Type) where
  batches : BatchIndex → Batch Thread
  workerSem : Nat
  queueFreeSem : Nat
  asyncCompletionSem : Nat
  flushGateSem : Nat
  writeLock : Option Thread
  managerLock : Option (Option Thread)
  pendingWrite : Option BatchIndex
  sequence : Nat
  asyncPending : Nat
  asyncError : Bool
  window : Window
  backing : Memory
  calls : Thread → DiskCall
  worker : DiskWorker
  tickets : Thread → Ticket
  gateHolder : Option Thread
  writes : Nat
  queue : List BatchIndex
  stream : List Slot
  done : List (List Slot × Bool)
  transfers : List (List UInt8 × List UInt8)
  exchanged : Nat
  downs : Nat
  ups : Nat
  returned : List (Nat × Nat × List UInt8)
  acknowledged : List (List (Nat × Nat × List UInt8) × Bool)
  log : List LogEntry

/-- `task_sem_up`, which stops at `INT_MAX`. -/
def semUp (count : Nat) : Nat := if count = 2 ^ 31 - 1 then count else count + 1

/-- The buffer checks of `task_disk_request`: the total, or a refusal. -/
def checkBuffers (size : Nat) : List (Option (List UInt8)) → Nat → Option Nat
  | [], total => some total
  | none :: _, _ => none
  | some bytes :: rest, total =>
      if size - total < bytes.length then none else checkBuffers size rest (total + bytes.length)

def BlkReq.offset (request : BlkReq) : Nat := request.sector * taskDiskSectorSize

/-- The buffers of a request, none of which is null. -/
def BlkReq.buffers (request : BlkReq) : List (List UInt8) :=
  request.buf.map fun base => base.getD []

/-- The checks of `task_disk_request`. -/
def taskDiskRequest (size : Nat) (request : BlkReq) : DiskCall :=
  match request.type with
  | .flush | .flushOut => .gateDown .flush
  | .other => .finish .unsup []
  | type =>
      if size / taskDiskSectorSize < request.sector then .finish .ioerr []
      else
        match checkBuffers size request.buf 0 with
        | none => .finish .ioerr []
        | some total =>
            if size < request.offset ∨ size - request.offset < total then .finish .ioerr []
            else if type = .write then .writeLock request.offset request.buffers
            else .gateDown (.read request.offset (request.buffers.map List.length))

/-- The next chunk of a read, past the buffers that are full. -/
def readNext (offset : Nat) : List Nat → List UInt8 → DiskCall
  | [], data => .finish .ok data
  | 0 :: rest, data => readNext offset rest data
  | (length + 1) :: rest, data => .readLock offset ((length + 1) :: rest) data

/-- Length of the next chunk of `task_disk_read_direct`. -/
def readChunk : List Nat → Nat
  | [] => 0
  | length :: _ => min length windowSize

def readRest : List Nat → List Nat
  | [] => []
  | length :: rest => (length - min length windowSize) :: rest

def FlushUser.resume : FlushUser → DiskCall
  | .flush => .claimDown .flush
  | .read offset lengths => readNext offset lengths []

def PublishUser.resume (batch : BatchIndex) : PublishUser → DiskCall
  | .flush user => .exchange user
  | .write offset buf => .fill offset buf
  | .submit => .submitDown batch

section Steps

variable {Thread : Type} [DecidableEq Thread]

def DiskState.enter (state : DiskState Thread) (thread : Thread) (call : DiskCall) :
    DiskState Thread :=
  { state with calls := Function.update state.calls thread call }

def DiskState.setBatch (state : DiskState Thread) (index : BatchIndex) (batch : Batch Thread) :
    DiskState Thread :=
  { state with batches := Function.update state.batches index batch }

/-- A compare-and-swap of `task_disk_claim_batch` has succeeded. -/
def DiskState.claimed (state : DiskState Thread) (thread : Thread) (index : BatchIndex) :
    ClaimUser → DiskState Thread
  | .flush =>
      (state.setBatch index { state.batches index with
        state := .building, role := .held thread }).enter thread (.build index)
  | .write offset buf =>
      { (state.setBatch index { state.batches index with
          state := .building, slots := [], role := .pending }).enter thread (.fill offset buf) with
        pendingWrite := some index }

/-- One chunk of `task_disk_queue_write`, copied into the pending batch. -/
def DiskState.fillSlot (state : DiskState Thread) (thread : Thread) (index : BatchIndex)
    (offset : Nat) (bytes : List UInt8) (rest : List (List UInt8)) : DiskState Thread :=
  let chunk := bytes.take lunaDiskBatchSlotSize
  let slot : Slot := ⟨.write, offset, chunk, (state.tickets thread).writer⟩
  let batch := state.batches index
  let left := bytes.drop lunaDiskBatchSlotSize :: rest
  { (state.setBatch index { batch with slots := batch.slots ++ [slot] }).enter thread
      (if batch.slots.length + 1 = lunaDiskBatchSlots then
        .publishSequence index (.write (offset + chunk.length) left)
        else .fill (offset + chunk.length) left) with
    stream := state.stream ++ [slot] }

/-- The first step of `task_disk_publish_batch`, with the counters it increments. -/
def DiskState.publish (state : DiskState Thread) (thread : Thread) (index : BatchIndex)
    (user : PublishUser) : DiskState Thread :=
  let batch := { state.batches index with
    sequence := state.sequence, failed := true, autoRelease := user.auto }
  if user.auto then
    { (state.setBatch index { batch with role := .queued }).enter thread
        (.publishReady index user) with
      sequence := (state.sequence + 1) % 2 ^ 64
      asyncPending := (state.asyncPending + 1) % 2 ^ 32
      pendingWrite := none
      queue := state.queue ++ [index] }
  else
    { (state.setBatch index { batch with role := .submitted thread }).enter thread
        (.publishReady index user) with
      sequence := (state.sequence + 1) % 2 ^ 64 }

/-- `task_disk_request` returns. -/
def DiskState.finishCall (state : DiskState Thread) (thread : Thread) (status : BlkStatus)
    (data : List UInt8) : DiskState Thread :=
  let ticket := state.tickets thread
  let request := ticket.request
  { state.enter thread .idle with
    returned := if request.type = .write ∧ status = .ok then
      state.returned ++ [(ticket.writer, request.offset, request.buffers.flatten)]
      else state.returned
    acknowledged := if request.type ≠ .write ∧ status = .ok then
      state.acknowledged ++ [(ticket.before, ticket.late)] else state.acknowledged
    log := state.log ++ [⟨request, status, data, state.backing⟩] }

/-- One step of a thread in `task_disk_request`. -/
def stepCall (size : Nat) (state : DiskState Thread) (thread : Thread) :
    Option (DiskState Thread) :=
  let goto (call : DiskCall) : Option (DiskState Thread) := some (state.enter thread call)
  match state.calls thread with
  | .idle => none
  | .gateDown user =>
      if state.flushGateSem = 0 then none
      else some { state.enter thread (.flushLock user) with
        flushGateSem := state.flushGateSem - 1, gateHolder := some thread }
  | .flushLock user =>
      if state.writeLock = none then
        some { state.enter thread (.flushTake user) with writeLock := some thread }
      else none
  | .flushTake user =>
      match state.pendingWrite with
      | none => goto (.exchange user)
      | some index =>
          if (state.batches index).slots = [] then
            some { state.enter thread (.exchange user) with pendingWrite := none }
          else goto (.publishSequence index (.flush user))
  | .publishSequence index user => some (state.publish thread index user)
  | .publishReady index user =>
      some ((state.setBatch index { state.batches index with state := .ready }).enter thread
        (.publishSignal index user))
  | .publishSignal index user =>
      some { state.enter thread (user.resume index) with workerSem := semUp state.workerSem }
  | .exchange user =>
      some { state.enter thread (.flushUnlock user state.asyncPending) with
        asyncPending := 0, exchanged := state.exchanged + state.asyncPending }
  | .flushUnlock user pending =>
      some { state.enter thread (.flushWait user pending) with writeLock := none }
  | .flushWait user remaining =>
      match remaining with
      | 0 => goto (.gateUp user state.asyncError)
      | remaining + 1 =>
          if state.asyncCompletionSem = 0 then none
          else some { state.enter thread (.flushWait user remaining) with
            asyncCompletionSem := state.asyncCompletionSem - 1, downs := state.downs + 1 }
  | .gateUp user failed =>
      some { state.enter thread (if failed then .finish .ioerr [] else user.resume) with
        flushGateSem := semUp state.flushGateSem, gateHolder := none }
  | .claimDown user =>
      if state.queueFreeSem = 0 then none
      else some { state.enter thread (.claimScan user 0) with
        queueFreeSem := state.queueFreeSem - 1 }
  | .claimScan user index =>
      if inside : index < lunaDiskLocalQueueCount then
        if (state.batches ⟨index, inside⟩).state = .free then
          some (state.claimed thread ⟨index, inside⟩ user)
        else goto (.claimScan user (index + 1))
      else
        some { state.enter thread (match user with
          | .flush => .finish .ioerr []
          | .write _ _ => .writeUnlock true) with
          queueFreeSem := semUp state.queueFreeSem }
  | .build index =>
      some ((state.setBatch index { state.batches index with slots := [⟨.flush, 0, [], 0⟩] }).enter
        thread (.publishSequence index .submit))
  | .submitDown index =>
      let batch := state.batches index
      if batch.completionSem = 0 then none
      else some ((state.setBatch index { batch with
        completionSem := batch.completionSem - 1 }).enter thread (.submitCheck index))
  | .submitCheck index =>
      goto (if (state.batches index).state = .done then .submitFree index
        else .finish .ioerr [])
  | .submitFree index =>
      let batch := state.batches index
      some ((state.setBatch index { batch with
        state := .free, slots := [], role := .free }).enter thread (.submitUp batch.failed))
  | .submitUp failed =>
      some { state.enter thread (.finish (if failed then .ioerr else .ok) []) with
        queueFreeSem := semUp state.queueFreeSem }
  | .writeLock offset buf =>
      if state.writeLock = none then
        some { state.enter thread (.fill offset buf) with writeLock := some thread }
      else none
  | .fill offset buf =>
      match buf with
      | [] => goto (.writeUnlock false)
      | [] :: rest => goto (.fill offset rest)
      | (byte :: bytes) :: rest =>
          match state.pendingWrite with
          | none => goto (.claimDown (.write offset buf))
          | some index => some (state.fillSlot thread index offset (byte :: bytes) rest)
  | .writeUnlock failed =>
      some { state.enter thread (if failed then .finish .ioerr [] else .writeError) with
        writeLock := none }
  | .writeError => goto (.finish (if state.asyncError then .ioerr else .ok) [])
  | .readLock offset lengths data =>
      if state.managerLock = none then
        some { state.enter thread (.readServe offset lengths data) with
          managerLock := some (some thread) }
      else none
  | .readServe offset lengths data =>
      let (window, backing, failed) := serviceDiskRequest size .read offset (readChunk lengths)
        state.window.data state.backing
      some { state.enter thread (if failed then .readUnlock offset lengths data true
          else .readCopy offset lengths data) with
        window := { state.window with data := window }, backing }
  | .readCopy offset lengths data =>
      let chunk := readChunk lengths
      goto (.readUnlock (offset + chunk) (readRest lengths)
        (data ++ read state.window.data 0 chunk) false)
  | .readUnlock offset lengths data failed =>
      some { state.enter thread (if failed then .finish .ioerr [] else readNext offset lengths data)
        with managerLock := none }
  | .finish status data => some (state.finishCall thread status data)

/-- The manager answers the worker's batch; `fault` is where it fails. -/
def DiskState.submit (size : Nat) (state : DiskState Thread) (index : BatchIndex)
    (fault : Option Nat) : DiskState Thread :=
  let batch := state.batches index
  let count := batch.slots.length
  let (window, backing, failed) := serviceDiskBatch size fault count state.window state.backing
  let state := { state with
    window, backing
    worker := .unlock index failed
    transfers := state.transfers ++ (batch.slots.zipIdx.filter fun (slot, _) =>
      slot.event = .write).map fun (slot, position) =>
        (read state.window.data (position * lunaDiskBatchSlotSize)
          (state.window.descriptors position).length, slot.data) }
  if batch.autoRelease then
    { state.setBatch index { batch with role := .leaving } with
      queue := state.queue.erase index
      done := state.done ++ [(batch.slots, !batchFailed count failed window)] }
  else state

/-- One iteration of the worker's search for the oldest ready batch. -/
def DiskState.consider (state : DiskState Thread) (index : BatchIndex)
    (selected : Option BatchIndex) (best : Nat) : Option BatchIndex × Nat :=
  let batch := state.batches index
  if batch.state = .ready ∧ batch.sequence < best then (some index, batch.sequence)
  else (selected, best)

/-- One step of `task_disk_worker`. -/
def stepWorker (size : Nat) (state : DiskState Thread) (fault : Option Nat) :
    Option (DiskState Thread) :=
  let goto (worker : DiskWorker) : Option (DiskState Thread) := some { state with worker }
  match state.worker with
  | .semDown =>
      if state.workerSem = 0 then none
      else some { state with
        workerSem := state.workerSem - 1
        worker := .scan 0 none (2 ^ 64 - 1)
          (fun index => (state.batches index).state = .ready) state.sequence }
  | .scan index selected best ready limit =>
      if inside : index < lunaDiskLocalQueueCount then
        let (selected, best) := state.consider ⟨index, inside⟩ selected best
        goto (.scan (index + 1) selected best ready limit)
      else
        match selected with
        | none => goto .semDown
        | some selected => goto (.claim selected)
  | .claim selected =>
      if (state.batches selected).state = .ready then
        some { state.setBatch selected { state.batches selected with state := .processing } with
          worker := .stage selected 0 }
      else goto .semDown
  | .stage index position =>
      match (state.batches index).slots[position]? with
      | none => goto (.header index)
      | some slot =>
          let descriptor : Descriptor := ⟨slot.event, slot.offset, slot.data.length, true⟩
          some { state with
            worker := .stage index (position + 1)
            window := { state.window with
              descriptors := Function.update state.window.descriptors position descriptor
              data := if slot.event = .write then
                write state.window.data (position * lunaDiskBatchSlotSize) slot.data
                else state.window.data } }
  | .header index =>
      some { state with
        worker := .lock index
        window := { state.window with
          completed := 0, count := (state.batches index).slots.length } }
  | .lock index =>
      if state.managerLock = none then
        some { state with managerLock := some none, worker := .submit index }
      else none
  | .submit index => some (state.submit size index fault)
  | .unlock index failed => some { state with managerLock := none, worker := .check index failed }
  | .check index failed =>
      let batch := state.batches index
      let failed := batchFailed batch.slots.length failed state.window
      some { state.setBatch index { batch with failed } with
        worker := if batch.autoRelease then
          (if failed then .storeError index else .release index) else .storeDone index }
  | .storeError index => some { state with asyncError := true, worker := .release index }
  | .release index =>
      some { state.setBatch index { state.batches index with
          state := .free, slots := [], autoRelease := false, role := .free } with
        worker := .freeUp }
  | .freeUp =>
      some { state with queueFreeSem := semUp state.queueFreeSem, worker := .completionUp }
  | .completionUp =>
      some { state with
        asyncCompletionSem := semUp state.asyncCompletionSem, ups := state.ups + 1
        worker := .semDown }
  | .storeDone index =>
      some { state.setBatch index { state.batches index with state := .done } with
        worker := .doneUp index }
  | .doneUp index =>
      let batch := state.batches index
      some { state.setBatch index { batch with completionSem := semUp batch.completionSem } with
        worker := .semDown }

inductive DiskAction (Thread : Type) where
  | start (thread : Thread) (request : BlkReq)
  | call (thread : Thread)
  | worker (fault : Option Nat)
  deriving Repr

/-- A step of the backend. -/
def diskNext (size : Nat) (state : DiskState Thread) :
    DiskAction Thread → Option (DiskState Thread)
  | .start thread request =>
      if state.calls thread = .idle then
        some { state.enter thread (taskDiskRequest size request) with
          tickets := Function.update state.tickets thread
            ⟨request, state.writes, state.returned, state.asyncError⟩
          writes := state.writes + 1 }
      else none
  | .call thread => stepCall size state thread
  | .worker fault => stepWorker size state fault

end Steps

end Luna.Disk
