import Mathlib.Algebra.Ring.Nat
import Luna.Lib.ByteMemory
import Luna.Lib.CircularBuffer

/-!
# The manager's network TX service

`service_tx_batch` and its three callers (`service_tx_notification` on the poll
thread, `NET_TX` and `NET_TX_BATCH` on the main thread) together with
`service_tx_timeout_retry`, as a program over the manager's TX ring and the
window it shares with the child.  Every read or write of the shared header,
every atomic access and every signal is one step, so that other threads and
the child can act in between.  Statistics counters are left out.
-/

namespace Luna.Net

open ByteMemory

def lunaNetPacketSize : Nat := 2048
def lunaNetBatchSlots : Nat := 16
def lunaNetTxQueueCount : Nat := 64

/-- `~(seL4_Word)0`, the answer to a rejected batch. -/
def wordMax : Nat := 2 ^ 64 - 1

/-- `struct luna_net_batch_header`, in memory the child maps too. -/
structure BatchHeader where
  txCount : Nat
  rxCount : Nat
  txRequestSequence : Nat
  txResponseSequence : Nat
  txAccepted : Nat
  rxProduced : Nat
  rxConsumed : Nat
  rxWaiting : Nat
  txLengths : Nat → Nat
  rxLengths : Nat → Nat

/-- One slot of a packet ring. -/
structure Packet where
  length : Nat
  data : Memory

def Packet.bytes (packet : Packet) : List UInt8 := read packet.data 0 packet.length

/-- History of one `memcpy` into a ring slot: the window slot it read, the ring
slot it filled, the length copied and the length that was validated for it. -/
structure TxCopy where
  source : Nat
  slot : Nat
  length : Nat
  validated : Option Nat
  deriving DecidableEq

/-- History of one length stored in a ring slot; `copy` is the place among the copies
of the one the thread had made before it. -/
structure TxStore where
  copy : Nat
  slot : Nat
  length : Nat
  deriving DecidableEq

/-- What the TX service reads and writes. -/
structure TxShared where
  header : BatchHeader
  window : Nat → Memory
  queue : Nat → Packet
  head : Nat
  tail : Nat
  stressGate : Bool
  childActive : Bool
  pollKick : Bool
  txNtfn : Bool
  copies : List TxCopy
  stores : List TxStore
  pushed : List Packet

/-- Who called `service_tx_batch`, and so what becomes of its result. -/
inductive TxCaller where
  | notification (sequence : Nat)
  | endpoint
  deriving DecidableEq, Repr

/-- Locals of `service_tx_batch` once the number of accepted packets is known;
`validated` records the lengths read by the first loop and `copied` which copy was
the last. -/
structure TxBatch where
  caller : TxCaller
  first : Nat
  wasEmpty : Bool
  accepted : Nat
  validated : List Nat
  copied : Nat
  deriving DecidableEq, Repr

/-- Program counter of a manager thread inside the TX service. -/
inductive TxThread where
  | idle
  | notifyActive
  | notifyRequest
  | notifyResponse (sequence : Nat)
  | notifyCount (sequence : Nat)
  | singleCount (length : Nat)
  | singleLength (length : Nat)
  | batchCount (caller : TxCaller) (requested : Nat)
  | batchActive (caller : TxCaller) (requested : Nat)
  | batchHead (caller : TxCaller) (requested : Nat)
  | batchTail (caller : TxCaller) (requested head : Nat)
  | backpressure (caller : TxCaller)
  | validate (batch : TxBatch) (index : Nat)
  | copyLength (batch : TxBatch) (index : Nat)
  | copyData (batch : TxBatch) (index length : Nat)
  | storeLength (batch : TxBatch) (index length : Nat)
  | publish (batch : TxBatch)
  | kick (batch : TxBatch)
  | cancelTimer (sequence accepted : Nat)
  | storeAccepted (sequence accepted : Nat)
  | storeResponse (sequence : Nat)
  | signal
  | retryRequest
  | retryResponse (sequence : Nat)
  deriving DecidableEq, Repr

/-- What the caller does with the result of `service_tx_batch`; `none` is `-1`.
A notification with nothing accepted stays unanswered. -/
def batchReturn : TxCaller → Option Nat → TxThread
  | .endpoint, _ => .idle
  | .notification sequence, none => .cancelTimer sequence wordMax
  | .notification _, some 0 => .idle
  | .notification sequence, some (accepted + 1) => .cancelTimer sequence (accepted + 1)

/-- The argument checks of `service_tx_batch` that read no shared memory. -/
def serviceTxBatch (caller : TxCaller) (requested : Nat) : TxThread :=
  if requested = 0 ∨ lunaNetBatchSlots < requested then batchReturn caller none
  else .batchCount caller requested

/-- `service_tx`: a single packet of the given length. -/
def serviceTx (length : Nat) : TxThread :=
  if length = 0 ∨ lunaNetPacketSize < length then .idle else .singleCount length

def validLength (length : Nat) : Bool := decide (1 ≤ length ∧ length ≤ lunaNetPacketSize)

/-- Ring slot of the packet at `index` of a batch. -/
def TxBatch.slot (batch : TxBatch) (index : Nat) : Nat :=
  (batch.first + index) % lunaNetTxQueueCount

@[simp] theorem TxBatch.slot_copied (batch : TxBatch) (copied index : Nat) :
    ({ batch with copied } : TxBatch).slot index = batch.slot index := rfl

/-- The packets a batch has put into the ring. -/
def TxBatch.packets (batch : TxBatch) (queue : Nat → Packet) : List Packet :=
  (List.range batch.accepted).map fun index => queue (batch.slot index)

/-- One step of a manager thread inside the TX service. -/
def txStep (shared : TxShared) : TxThread → Option (TxShared × TxThread)
  | .idle => none
  | .notifyActive =>
      some (shared, if shared.childActive then .notifyRequest else .idle)
  | .notifyRequest =>
      let sequence := shared.header.txRequestSequence
      some (shared, if sequence = 0 then .idle else .notifyResponse sequence)
  | .notifyResponse sequence =>
      some (shared, if sequence = shared.header.txResponseSequence then .idle
        else .notifyCount sequence)
  | .notifyCount sequence =>
      some (shared, serviceTxBatch (.notification sequence) shared.header.txCount)
  | .singleCount length =>
      some ({ shared with header := { shared.header with txCount := 1 } }, .singleLength length)
  | .singleLength length =>
      some ({ shared with header :=
          { shared.header with txLengths := Function.update shared.header.txLengths 0 length } },
        serviceTxBatch .endpoint 1)
  | .batchCount caller requested =>
      some (shared, if shared.header.txCount = requested then .batchActive caller requested
        else batchReturn caller none)
  | .batchActive caller requested =>
      some (shared, if shared.childActive then .batchHead caller requested
        else batchReturn caller none)
  | .batchHead caller requested =>
      some (shared, .batchTail caller requested shared.head)
  | .batchTail caller requested head =>
      let used := CircularBuffer.used lunaNetTxQueueCount head shared.tail
      let accepted := min requested (lunaNetTxQueueCount - 1 - used)
      some (shared, if accepted = 0 then .backpressure caller
        else .validate ⟨caller, head, decide (head = shared.tail), accepted, [], 0⟩ 0)
  | .backpressure caller =>
      some ({ shared with stressGate := false, pollKick := shared.pollKick || shared.stressGate },
        batchReturn caller (some 0))
  | .validate batch index =>
      let length := shared.header.txLengths index
      if validLength length then
        let batch := { batch with validated := batch.validated ++ [length] }
        some (shared, if index + 1 < batch.accepted then .validate batch (index + 1)
          else .copyLength batch 0)
      else some (shared, batchReturn batch.caller none)
  | .copyLength batch index =>
      some (shared, .copyData batch index (shared.header.txLengths index))
  | .copyData batch index length =>
      let slot := batch.slot index
      let packet := shared.queue slot
      some ({ shared with
          queue := Function.update shared.queue slot
            { packet with data := blit packet.data 0 (shared.window index) 0 length }
          copies := shared.copies ++ [⟨index, slot, length, batch.validated[index]?⟩] },
        .storeLength { batch with copied := shared.copies.length } index length)
  | .storeLength batch index length =>
      let slot := batch.slot index
      some ({ shared with
          queue := Function.update shared.queue slot { shared.queue slot with length := length }
          stores := shared.stores ++ [⟨batch.copied, slot, length⟩] },
        if index + 1 < batch.accepted then .copyLength batch (index + 1) else .publish batch)
  | .publish batch =>
      some ({ shared with
          head := batch.slot batch.accepted
          pushed := shared.pushed ++ batch.packets shared.queue },
        .kick batch)
  | .kick batch =>
      some ({ shared with pollKick := shared.pollKick || batch.wasEmpty },
        batchReturn batch.caller (some batch.accepted))
  | .cancelTimer sequence accepted => some (shared, .storeAccepted sequence accepted)
  | .storeAccepted sequence accepted =>
      some ({ shared with header := { shared.header with txAccepted := accepted } },
        .storeResponse sequence)
  | .storeResponse sequence =>
      some ({ shared with header := { shared.header with txResponseSequence := sequence } },
        .signal)
  | .signal => some ({ shared with txNtfn := true }, .idle)
  | .retryRequest =>
      let sequence := shared.header.txRequestSequence
      some (shared, if sequence = 0 then .idle else .retryResponse sequence)
  | .retryResponse sequence =>
      some (shared, if sequence = shared.header.txResponseSequence then .idle
        else .cancelTimer sequence 0)

end Luna.Net
