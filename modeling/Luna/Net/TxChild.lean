import Mathlib.Logic.Function.Basic
import Luna.Net.TxService

/-!
# The child's transmit path

`task_net_tx` with any number of callers, `task_net_tx_worker` and
`task_net_coalesce_worker`.  The ring `tx_queue` and its cursors are only
touched under `tx_mutex`; writes into the window shared with the manager are
steps of their own.  Semaphores are counting semaphores.  How long the
coalescing timer runs, the drain semaphore of the shutdown path and the
statistics counters are left out.  `enqueued` and `popped` are history.
-/

namespace Luna.Net

open ByteMemory

def lunaNetChildTxQueueCount : Nat := 64

/-- The iovecs of one packet; `none` is a null base. -/
abbrev Iovecs := List (Option (List UInt8))

/-- The length checks of `task_net_tx`: the total so far, or a refusal. -/
def totalLength : Iovecs → Nat → Option Nat
  | [], total => some total
  | none :: _, _ => none
  | some bytes :: rest, total =>
      if lunaNetPacketSize - total < bytes.length then none
      else totalLength rest (total + bytes.length)

/-- The copy loop of `task_net_tx`. -/
def copyIovecs (data : Memory) : Iovecs → Nat → Memory
  | [], _ => data
  | base :: rest, offset =>
      copyIovecs (write data offset (base.getD [])) rest (offset + (base.getD []).length)

/-- The bytes of a packet given by its iovecs. -/
def payload (iov : Iovecs) : List UInt8 := (iov.map fun base => base.getD []).flatten

theorem totalLength_eq {iov : Iovecs} {start total : Nat} (small : start ≤ lunaNetPacketSize)
    (checked : totalLength iov start = some total) :
    total = start + (payload iov).length ∧ total ≤ lunaNetPacketSize := by
  induction iov generalizing start with
  | nil =>
      simp only [totalLength, Option.some.injEq] at checked
      subst checked
      exact ⟨by simp [payload], small⟩
  | cons base rest inductionHypothesis =>
      cases base with
      | none => simp [totalLength] at checked
      | some bytes =>
          unfold totalLength at checked
          split at checked
          next tooLong => cases checked
          next fits =>
            obtain ⟨sum, bound⟩ := inductionHypothesis (by omega) checked
            refine ⟨?_, bound⟩
            simp only [payload, List.map_cons, Option.getD_some, List.flatten_cons,
              List.length_append] at sum ⊢
            omega

theorem copyIovecs_eq (data : Memory) (iov : Iovecs) (offset : Nat) :
    copyIovecs data iov offset = write data offset (payload iov) := by
  induction iov generalizing data offset with
  | nil => simp [copyIovecs, payload]
  | cons base rest inductionHypothesis =>
      unfold copyIovecs
      rw [inductionHypothesis]
      simp only [payload, List.map_cons, List.flatten_cons]
      exact (write_append _ _).symm

/-- Program counter of a thread in `task_net_tx`. -/
inductive TxCall where
  | idle
  | freeDown (iov : Iovecs) (total : Nat)
  | checkError (iov : Iovecs) (total : Nat)
  | checkStop (iov : Iovecs) (total : Nat)
  | refund
  | lock (iov : Iovecs) (total : Nat)
  | reserve (iov : Iovecs) (total : Nat)
  | fill (iov : Iovecs) (total next : Nat)
  | publish (iov : Iovecs) (next : Nat)
  | unlock
  | signalWork
  | fullUnlock
  | fullRefund
  | raiseError
  | raiseFree (remaining : Nat)
  deriving DecidableEq, Repr

/-- Program counter of `task_net_tx_worker`. -/
inductive TxWorker where
  | workDown
  | checkStop
  | countLock
  | countRead
  | countUnlock (queued : Nat)
  | bumpGeneration
  | clearExpired (generation : Nat)
  | signalCoalesce (generation : Nat)
  | recountLock (generation : Nat)
  | recountRead (generation : Nat)
  | recountUnlock (generation queued : Nat)
  | bypass (generation : Nat)
  | checkExpired (generation : Nat)
  | recountDown (generation : Nat)
  | recountStop (generation : Nat)
  | stageLock
  | stageStart
  | stageLength (tail head count : Nat)
  | stageData (tail head count : Nat)
  | stageCount (count : Nat)
  | stageUnlock (count : Nat)
  | bumpSequence (count : Nat)
  | storeRequest (count sequence : Nat)
  | submitSignal (count sequence : Nat)
  | loadResponse (count sequence : Nat)
  | waitNtfn (count sequence : Nat)
  | loadAccepted (count sequence : Nat)
  | popLock (accepted : Nat)
  | pop (accepted index : Nat)
  | popUnlock (accepted : Nat)
  | freeUp (remaining : Nat) (empty : Bool)
  | finish (empty : Bool)
  | raiseError
  | raiseFree (remaining : Nat)
  | stopped
  deriving DecidableEq, Repr

/-- Program counter of `task_net_coalesce_worker`. -/
inductive CoalesceWorker where
  | down
  | checkStop
  | loadGeneration
  | sleep (generation : Nat)
  | compare (generation : Nat)
  | storeExpired (generation : Nat)
  | signalWork
  | fail
  | failSignal
  | stopped
  deriving DecidableEq, Repr

inductive TxHolder (Sender : Type) where
  | worker
  | sender (sender : Sender)
  deriving DecidableEq, Repr

/-- The transmit half of `struct task_net_backend`, with the threads that use it. -/
structure TxBackend (Sender : Type) where
  queue : Nat → Packet
  head : Nat
  tail : Nat
  mutex : Option (TxHolder Sender)
  workSem : Nat
  freeSem : Nat
  coalesceSem : Nat
  txStop : Bool
  txError : Bool
  coalesceStop : Bool
  submitSequence : Nat
  coalesceGeneration : Nat
  coalesceExpired : Nat
  calls : Sender → TxCall
  worker : TxWorker
  coalesce : CoalesceWorker
  enqueued : List (List UInt8)
  popped : Nat

/-- The child and the manager's TX service with the window they share. -/
structure TxState (Sender : Type) where
  child : TxBackend Sender
  shared : TxShared
  poll : TxThread

def signalOnce (count : Nat) : Nat := if count = 0 then 1 else count

/-- `__atomic_add_fetch` on the submit sequence, which skips 0. -/
def nextSequence (sequence : Nat) : Nat :=
  if (sequence + 1) % 2 ^ 64 = 0 then 1 else (sequence + 1) % 2 ^ 64

def TxBackend.queued {Sender : Type} (backend : TxBackend Sender) : Nat :=
  CircularBuffer.used lunaNetChildTxQueueCount backend.head backend.tail

section Steps

variable {Sender : Type} [DecidableEq Sender]

def TxBackend.enter (backend : TxBackend Sender) (sender : Sender) (call : TxCall) :
    TxBackend Sender :=
  { backend with calls := Function.update backend.calls sender call }

/-- One step of a thread in `task_net_tx`. -/
def stepCall (backend : TxBackend Sender) (sender : Sender) : Option (TxBackend Sender) :=
  match backend.calls sender with
  | .idle => none
  | .freeDown iov total =>
      if backend.freeSem = 0 then none
      else some { backend.enter sender (.checkError iov total) with
        freeSem := backend.freeSem - 1 }
  | .checkError iov total =>
      some (backend.enter sender (if backend.txError then .refund else .checkStop iov total))
  | .checkStop iov total =>
      some (backend.enter sender (if backend.txStop then .refund else .lock iov total))
  | .refund => some { backend.enter sender .idle with freeSem := backend.freeSem + 1 }
  | .lock iov total =>
      if backend.mutex = none then
        some { backend.enter sender (.reserve iov total) with mutex := some (.sender sender) }
      else none
  | .reserve iov total =>
      let next := (backend.head + 1) % lunaNetChildTxQueueCount
      some (backend.enter sender
        (if next = backend.tail then .fullUnlock else .fill iov total next))
  | .fill iov total next =>
      let packet := backend.queue backend.head
      some { backend.enter sender (.publish iov next) with
        queue := Function.update backend.queue backend.head
          ⟨total, copyIovecs packet.data iov 0⟩ }
  | .publish iov next =>
      some { backend.enter sender .unlock with
        head := next
        enqueued := backend.enqueued ++ [payload iov] }
  | .unlock => some { backend.enter sender .signalWork with mutex := none }
  | .signalWork => some { backend.enter sender .idle with workSem := signalOnce backend.workSem }
  | .fullUnlock => some { backend.enter sender .fullRefund with mutex := none }
  | .fullRefund => some { backend.enter sender .raiseError with freeSem := backend.freeSem + 1 }
  | .raiseError =>
      some { backend.enter sender (.raiseFree lunaNetChildTxQueueCount) with txError := true }
  | .raiseFree remaining =>
      some (match remaining with
        | 0 => backend.enter sender .idle
        | remaining + 1 => { backend.enter sender (.raiseFree remaining) with
            freeSem := backend.freeSem + 1 })

/-- `lkl_host_ops.mutex_lock` by the worker. -/
def TxBackend.workerLock (backend : TxBackend Sender) (worker : TxWorker) :
    Option (TxBackend Sender) :=
  if backend.mutex = none then some { backend with mutex := some .worker, worker } else none

/-- One step of `task_net_tx_worker`. -/
def stepWorker (state : TxState Sender) : Option (TxState Sender) :=
  let backend := state.child
  let goto (worker : TxWorker) : Option (TxState Sender) :=
    some { state with child := { backend with worker } }
  let unlock (worker : TxWorker) : Option (TxState Sender) :=
    some { state with child := { backend with mutex := none, worker } }
  let lock (worker : TxWorker) : Option (TxState Sender) :=
    (backend.workerLock worker).map fun child => { state with child }
  match backend.worker with
  | .workDown =>
      if backend.workSem = 0 then none
      else some { state with child :=
        { backend with workSem := backend.workSem - 1, worker := .checkStop } }
  | .checkStop => goto (if backend.txStop then .stopped else .countLock)
  | .countLock => lock .countRead
  | .countRead => goto (.countUnlock backend.queued)
  | .countUnlock queued =>
      unlock (if queued = 0 then .workDown
        else if queued < lunaNetBatchSlots then .bumpGeneration else .stageLock)
  | .bumpGeneration =>
      let generation := (backend.coalesceGeneration + 1) % 2 ^ 64
      some { state with child :=
        { backend with coalesceGeneration := generation, worker := .clearExpired generation } }
  | .clearExpired generation =>
      some { state with child :=
        { backend with coalesceExpired := 0, worker := .signalCoalesce generation } }
  | .signalCoalesce generation =>
      some { state with child :=
        { backend with
          coalesceSem := signalOnce backend.coalesceSem, worker := .recountLock generation } }
  | .recountLock generation => lock (.recountRead generation)
  | .recountRead generation => goto (.recountUnlock generation backend.queued)
  | .recountUnlock generation queued =>
      unlock (if queued < lunaNetBatchSlots then .checkExpired generation else .bypass generation)
  | .bypass generation =>
      some { state with child :=
        { backend with
          coalesceGeneration := if backend.coalesceGeneration = generation then
            (generation + 1) % 2 ^ 64 else backend.coalesceGeneration
          worker := .stageLock } }
  | .checkExpired generation =>
      goto (if backend.coalesceExpired = generation then .stageLock else .recountDown generation)
  | .recountDown generation =>
      if backend.workSem = 0 then none
      else some { state with child :=
        { backend with workSem := backend.workSem - 1, worker := .recountStop generation } }
  | .recountStop generation =>
      goto (if backend.txStop then .stopped else .recountLock generation)
  | .stageLock => lock .stageStart
  | .stageStart =>
      goto (if backend.tail = backend.head then .stageCount 0
        else .stageLength backend.tail backend.head 0)
  | .stageLength tail head count =>
      let lengths := Function.update state.shared.header.txLengths count (backend.queue tail).length
      some { state with
        child := { backend with worker := .stageData tail head count }
        shared := { state.shared with header := { state.shared.header with txLengths := lengths } } }
  | .stageData tail head count =>
      let packet := backend.queue tail
      let window := Function.update state.shared.window count
        (blit (state.shared.window count) 0 packet.data 0 packet.length)
      let next := (tail + 1) % lunaNetChildTxQueueCount
      some { state with
        child := { backend with
          worker := if next ≠ head ∧ count + 1 < lunaNetBatchSlots then
            .stageLength next head (count + 1) else .stageCount (count + 1) }
        shared := { state.shared with window } }
  | .stageCount count =>
      some { state with
        child := { backend with worker := .stageUnlock count }
        shared := { state.shared with header := { state.shared.header with txCount := count } } }
  | .stageUnlock count => unlock (if count = 0 then .workDown else .bumpSequence count)
  | .bumpSequence count =>
      let sequence := nextSequence backend.submitSequence
      some { state with child :=
        { backend with submitSequence := sequence, worker := .storeRequest count sequence } }
  | .storeRequest count sequence =>
      some { state with
        child := { backend with worker := .submitSignal count sequence }
        shared := { state.shared with
          header := { state.shared.header with txRequestSequence := sequence } } }
  | .submitSignal count sequence =>
      some { state with
        child := { backend with worker := .loadResponse count sequence }
        shared := { state.shared with pollKick := true } }
  | .loadResponse count sequence =>
      goto (if state.shared.header.txResponseSequence = sequence then .loadAccepted count sequence
        else .waitNtfn count sequence)
  | .waitNtfn count sequence =>
      if state.shared.txNtfn then
        some { state with
          child := { backend with worker := .loadResponse count sequence }
          shared := { state.shared with txNtfn := false } }
      else none
  | .loadAccepted count _ =>
      let accepted := state.shared.header.txAccepted
      goto (if count < accepted then .raiseError
        else if accepted = 0 then .bumpSequence count else .popLock accepted)
  | .popLock accepted => lock (.pop accepted 0)
  | .pop accepted index =>
      let packet := backend.queue backend.tail
      some { state with child := { backend with
        queue := Function.update backend.queue backend.tail { packet with length := 0 }
        tail := (backend.tail + 1) % lunaNetChildTxQueueCount
        popped := backend.popped + 1
        worker := if index + 1 < accepted then .pop accepted (index + 1) else .popUnlock accepted } }
  | .popUnlock accepted => unlock (.freeUp accepted (decide (backend.tail = backend.head)))
  | .freeUp remaining empty =>
      match remaining with
      | 0 => goto (.finish empty)
      | remaining + 1 => some { state with child :=
          { backend with freeSem := backend.freeSem + 1, worker := .freeUp remaining empty } }
  | .finish empty =>
      some { state with child :=
        { backend with
          workSem := if empty then backend.workSem else signalOnce backend.workSem
          worker := .workDown } }
  | .raiseError =>
      some { state with child :=
        { backend with txError := true, worker := .raiseFree lunaNetChildTxQueueCount } }
  | .raiseFree remaining =>
      match remaining with
      | 0 => goto .stopped
      | remaining + 1 => some { state with child :=
          { backend with freeSem := backend.freeSem + 1, worker := .raiseFree remaining } }
  | .stopped => none

end Steps

/-- One step of `task_net_coalesce_worker`; `slept` is whether the sleep succeeded. -/
def stepCoalesce {Sender : Type} (backend : TxBackend Sender) (slept : Bool) :
    Option (TxBackend Sender) :=
  match backend.coalesce with
  | .down =>
      if backend.coalesceSem = 0 then none
      else some { backend with coalesceSem := backend.coalesceSem - 1, coalesce := .checkStop }
  | .checkStop =>
      some { backend with coalesce := if backend.coalesceStop then .stopped else .loadGeneration }
  | .loadGeneration => some { backend with coalesce := .sleep backend.coalesceGeneration }
  | .sleep generation => some { backend with coalesce := if slept then .compare generation else .fail }
  | .compare generation =>
      some { backend with
        coalesce := if backend.coalesceGeneration = generation then .storeExpired generation
          else .down }
  | .storeExpired generation =>
      some { backend with coalesceExpired := generation, coalesce := .signalWork }
  | .signalWork => some { backend with workSem := signalOnce backend.workSem, coalesce := .down }
  | .fail => some { backend with txError := true, coalesce := .failSignal }
  | .failSignal => some { backend with workSem := signalOnce backend.workSem, coalesce := .stopped }
  | .stopped => none

inductive TxAction (Sender : Type) where
  | send (sender : Sender) (iov : Iovecs)
  | call (sender : Sender)
  | worker
  | coalesce (slept : Bool)
  | stop
  | notification
  | timeoutRetry
  | poll
  | drain (tail : Nat)
  | environment (stressGate childActive signalled : Bool)
  deriving Repr

/-- A step of the whole transmit path.  The poll thread also completes packets,
so the ring is only drained while it is outside the TX service. -/
def txNext {Sender : Type} [DecidableEq Sender] (state : TxState Sender) :
    TxAction Sender → Option (TxState Sender)
  | .send sender iov =>
      if state.child.calls sender = .idle then
        match totalLength iov 0 with
        | some (total + 1) =>
            some { state with child := state.child.enter sender (.freeDown iov (total + 1)) }
        | _ => none
      else none
  | .call sender => (stepCall state.child sender).map fun child => { state with child }
  | .worker => stepWorker state
  | .coalesce slept => (stepCoalesce state.child slept).map fun child => { state with child }
  | .stop => some { state with child := { state.child with txStop := true, coalesceStop := true } }
  | .notification => if state.poll = .idle then some { state with poll := .notifyActive } else none
  | .timeoutRetry => if state.poll = .idle then some { state with poll := .retryRequest } else none
  | .poll => (txStep state.shared state.poll).map fun (shared, poll) => { state with shared, poll }
  | .drain tail =>
      if state.poll = .idle ∧ tail < lunaNetTxQueueCount then
        some { state with shared := { state.shared with tail } }
      else none
  | .environment stressGate childActive signalled =>
      some { state with shared := { state.shared with
        stressGate, childActive, txNtfn := state.shared.txNtfn || signalled } }

end Luna.Net
