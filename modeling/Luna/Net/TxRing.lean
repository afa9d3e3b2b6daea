import Luna.Lib.Interleaving
import Luna.Lib.Tally
import Luna.Net.TxService

/-!
# The manager's TX ring against the driver

The poll thread hands queued packets to the Ethernet driver
(`process_tx_queue`) and takes its completions (`transmit_complete`), while it
and the main thread fill the ring.  `tx_submit`, `tx_pending`, `tx_tail` and the
DMA buffers are written by the poll thread only, so an access to one of them is
a step together with the one before it; every access to what both threads see
is a step of its own.
-/

namespace Luna.Net

open Interleaving ByteMemory

def lunaNetTxDmaCount : Nat := 16

abbrev TxDma := Fin lunaNetTxDmaCount

/-- `struct luna_dma_buffer`, with the bytes behind `virt`. -/
structure DmaBuffer where
  inUse : Bool
  queueIndex : Nat
  data : List UInt8

/-- What `raw_tx` answers. -/
inductive RawTx where
  | failed
  | enqueued
  | complete
deriving DecidableEq

/-- Where `transmit_complete` returns to: the polling driver, a `raw_tx` under
way, or the loop of `process_tx_queue`. -/
inductive Resume where
  | polled
  | driver (submit : Nat) (buffer : TxDma)
  | loop
deriving DecidableEq

/-- Program counter of the poll thread. -/
inductive PollThread where
  | service (thread : TxThread)
  -- process_tx_queue
  | gate
  | scan
  | packetLength (submit : Nat) (buffer : TxDma)
  | packetData (submit : Nat) (buffer : TxDma) (length : Nat)
  | hand (submit : Nat) (buffer : TxDma)
  | driver (submit : Nat) (buffer : TxDma)
  -- transmit_complete
  | complete (cookie : Nat) (resume : Resume)
  | loadHead (resume : Resume)
  | advance (tail head : Nat) (resume : Resume)
  | storeTail (tail : Nat) (resume : Resume)

def Resume.thread : Resume → PollThread
  | .polled => .service .idle
  | .driver submit buffer => .driver submit buffer
  | .loop => .scan

/-- `handed` is history: the bytes of the packets `raw_tx` has accepted. -/
structure RingState where
  shared : TxShared
  submit : Nat
  pending : Nat
  dma : TxDma → DmaBuffer
  main : TxThread
  poll : PollThread
  handed : List (List UInt8)

inductive RingAction where
  /-- The child writes anything into the header and the packet slots. -/
  | child (header : BatchHeader) (window : Nat → Memory)
  /-- The main thread receives `NET_TX` or `NET_TX_BATCH` with any length word. -/
  | netTx (length : Nat)
  | netTxBatch (requested : Nat)
  /-- The poll thread enters one of its TX routines. -/
  | notification
  | timeoutRetry
  | processTxQueue
  /-- The driver reports a completion, from its poll or from inside `raw_tx`. -/
  | completion (cookie : Nat)
  | rawTx (result : RawTx)
  | stepMain
  | stepPoll
  /-- The rest of the manager: the stress gate, and children that come and go. -/
  | environment (stressGate childActive : Bool)

namespace RingState

/-- The first DMA buffer that is not in use. -/
def freeBuffer (state : RingState) : Option TxDma :=
  (List.finRange lunaNetTxDmaCount).find? fun buffer => !(state.dma buffer).inUse

def setDma (state : RingState) (buffer : TxDma) (entry : DmaBuffer) : RingState :=
  { state with dma := Function.update state.dma buffer entry }

/-- `tx_submit`, `tx_pending` and the buffer, before `raw_tx` is called. -/
def handOver (state : RingState) (submit : Nat) (buffer : TxDma) : RingState :=
  { state.setDma buffer { state.dma buffer with
      inUse := true
      queueIndex := submit } with
    submit := (submit + 1) % lunaNetTxQueueCount
    pending := (state.pending + 1) % 2 ^ 32
    poll := .driver submit buffer }

/-- The rollback after `ETHIF_TX_FAILED`. -/
def rollBack (state : RingState) (submit : Nat) (buffer : TxDma) : RingState :=
  { state.setDma buffer { state.dma buffer with inUse := false } with
    submit := submit
    pending := (state.pending + (2 ^ 32 - 1)) % 2 ^ 32
    poll := .service .idle }

/-- The first part of `transmit_complete`: the slot, the buffer and the count. -/
def completed (state : RingState) (buffer : TxDma) : RingState :=
  let slot := (state.dma buffer).queueIndex
  { state.setDma buffer { state.dma buffer with inUse := false } with
    shared := { state.shared with
      queue := Function.update state.shared.queue slot
        { state.shared.queue slot with length := 0 } }
    pending := (state.pending + (2 ^ 32 - 1)) % 2 ^ 32 }

end RingState

/-- One step of the poll thread. -/
def pollStep (state : RingState) : PollThread → Option RingState
  | .service thread =>
      (txStep state.shared thread).map fun (shared, next) =>
        { state with
          shared := shared
          poll := .service next }
  | .gate =>
      some { state with poll := if state.shared.stressGate then .service .idle else .scan }
  | .scan =>
      if state.submit = state.shared.head then some { state with poll := .service .idle }
      else match state.freeBuffer with
        | none => some { state with poll := .service .idle }
        | some buffer => some { state with poll := .packetLength state.submit buffer }
  | .packetLength submit buffer =>
      let length := (state.shared.queue submit).length
      some { state with
        poll := if validLength length then .packetData submit buffer length else .service .idle }
  | .packetData submit buffer length =>
      some { state.setDma buffer { state.dma buffer with
          data := read (state.shared.queue submit).data 0 length } with
        poll := .hand submit buffer }
  | .hand submit buffer => some (state.handOver submit buffer)
  | .driver _ _ => none
  | .complete cookie resume =>
      if known : cookie < lunaNetTxDmaCount then
        let buffer := state.dma ⟨cookie, known⟩
        if buffer.inUse && decide (buffer.queueIndex < lunaNetTxQueueCount) then
          some { state.completed ⟨cookie, known⟩ with poll := .loadHead resume }
        else some { state with poll := resume.thread }
      else some { state with poll := resume.thread }
  | .loadHead resume =>
      some { state with poll := .advance state.shared.tail state.shared.head resume }
  | .advance tail head resume =>
      some { state with
        poll := if tail ≠ head ∧ (state.shared.queue tail).length = 0 then
          .advance ((tail + 1) % lunaNetTxQueueCount) head resume
        else .storeTail tail resume }
  | .storeTail tail resume =>
      some { state with
        shared := { state.shared with
          tail := tail
          txNtfn := true }
        poll := resume.thread }

def RingState.enterMain (state : RingState) (thread : TxThread) : Option RingState :=
  if state.main = .idle then some { state with main := thread } else none

def RingState.enterPoll (state : RingState) (thread : PollThread) : Option RingState :=
  match state.poll with
  | .service .idle => some { state with poll := thread }
  | _ => none

def ringNext (state : RingState) : RingAction → Option RingState
  | .child header window => some { state with shared := { state.shared with header, window } }
  | .netTx length => state.enterMain (serviceTx length)
  | .netTxBatch requested => state.enterMain (serviceTxBatch .endpoint requested)
  | .notification => state.enterPoll (.service .notifyActive)
  | .timeoutRetry => state.enterPoll (.service .retryRequest)
  | .processTxQueue => state.enterPoll .gate
  | .completion cookie =>
      match state.poll with
      | .service .idle => some { state with poll := .complete cookie .polled }
      | .driver submit buffer => some { state with poll := .complete cookie (.driver submit buffer) }
      | _ => none
  | .rawTx result =>
      match state.poll with
      | .driver submit buffer =>
          match result with
          | .failed => some (state.rollBack submit buffer)
          | .enqueued => some { state with
              handed := state.handed ++ [(state.dma buffer).data]
              poll := .scan }
          | .complete => some { state with
              handed := state.handed ++ [(state.dma buffer).data]
              poll := .complete buffer.val .loop }
      | _ => none
  | .stepMain =>
      (txStep state.shared state.main).map fun (shared, next) =>
        { state with
          shared := shared
          main := next }
  | .stepPoll => pollStep state state.poll
  | .environment stressGate childActive =>
      some { state with shared := { state.shared with stressGate, childActive } }

/-- `luna_network_map_child` has reset the ring. -/
structure RingInitial (state : RingState) : Prop where
  head : state.shared.head = 0
  tail : state.shared.tail = 0
  submit : state.submit = 0
  pending : state.pending = 0
  dma : ∀ buffer, (state.dma buffer).inUse = false
  main : state.main = .idle
  poll : state.poll = .service .idle
  pushed : state.shared.pushed = []
  handed : state.handed = []

def ringSystem : System RingState RingAction := ⟨RingInitial, ringNext⟩

end Luna.Net
