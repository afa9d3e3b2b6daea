import Luna.Net.TxChild

/-!
# The receive path

The manager's poll thread in `receive_complete`, its main thread in
`service_rx_batch` and `service_control`, and the child in `task_net_poll` and
`task_net_rx`, which all run at the same time.  Every access to the window, the
ring cursors and the flags is a step of its own; the ring slot a thread owns is
filled or emptied in one step.  Releasing the DMA buffers and the statistics
other than `rx_drops` are left out.

`completions`, `handled`, `accepted`, `taken`, `delivered` and `failures` are
history: the valid completions, what became of each, the packets put into the
ring, how many of them the main thread has released from it, what `task_net_rx`
copied with the room it had, and how often `task_net_poll` returned `-1`.
-/

namespace Luna.Net

open ByteMemory

def lunaNetRxQueueCount : Nat := 32

/-- What the driver hands to `receive_complete`: the received bytes of each
buffer, `none` for a null cookie. -/
abbrev Completion := List (Option (List UInt8))

/-- The first loop of `receive_complete`; 0 stands for an invalid completion. -/
def completionTotal : Completion → Nat → Nat
  | [], total => total
  | none :: _, _ => 0
  | some bytes :: rest, total =>
      if lunaNetPacketSize - total < bytes.length then 0
      else completionTotal rest (total + bytes.length)

/-- No null cookie, and a packet that is neither empty nor too long. -/
def ValidCompletion (completion : Completion) : Prop :=
  (∀ buffer ∈ completion, buffer ≠ none) ∧ validLength (payload completion).length = true

instance (completion : Completion) : Decidable (ValidCompletion completion) :=
  inferInstanceAs (Decidable (_ ∧ _))

/-- Program counter of the poll thread in `receive_complete`. -/
inductive RxPoll where
  | idle
  | loadHead (completion : Completion)
  | loadTail (completion : Completion) (head : Nat)
  | checkActive (completion : Completion) (head tail : Nat)
  | recheckActive (completion : Completion)
  | copy (completion : Completion) (head : Nat)
  | storeLength (completion : Completion) (head : Nat)
  | storeHead (completion : Completion) (head : Nat)
  | produce (completion : Completion)
  | exchange
  | signalMasked
  | signalActive
  | signal
  | drop (completion : Completion)
  deriving DecidableEq, Repr

/-- Program counter of the main thread in `service_rx_batch` and `service_control`. -/
inductive RxMain where
  | idle
  | rxTail (requested : Nat)
  | rxHead (requested tail : Nat)
  | rxEmpty
  | rxLength (requested tail head count : Nat)
  | rxCopy (requested tail head count : Nat)
  | rxStoreLength (requested tail head count : Nat)
  | rxClear (requested tail head count : Nat)
  | rxBadLength
  | rxCount (tail count : Nat)
  | rxStoreTail (tail count : Nat)
  | rxConsume (count : Nat)
  | reply (served : Bool) (packets : Nat)
  | controlMask (control : Nat)
  | controlHead
  | controlTail (head : Nat)
  | signalMasked
  | signalActive
  | signal
  deriving DecidableEq, Repr

/-- Program counter of the child in `task_net_poll` and `task_net_rx`. -/
inductive RxChild where
  | outside
  | pollHup
  | pollIndex
  | setWaiting
  | loadProduced
  | loadConsumed (produced : Nat)
  | wait
  | reloadProduced
  | reloadConsumed (produced : Nat)
  | clearWaiting (produced consumed : Nat)
  | checkHup (produced consumed : Nat)
  | call
  | answered (served : Bool) (packets : Nat)
  | rxCopy (iov : List (Option Nat)) (capacity offset remaining : Nat) (copied : List UInt8)
  deriving DecidableEq, Repr

structure RxState where
  header : BatchHeader
  window : Nat → Memory
  queue : Nat → Packet
  head : Nat
  tail : Nat
  masked : Bool
  childActive : Bool
  ntfn : Bool
  drops : Nat
  hup : Bool
  rxIndex : Nat
  rxCount : Nat
  pendingRx : Nat
  poll : RxPoll
  main : RxMain
  child : RxChild
  completions : List (List UInt8)
  handled : List (List UInt8 × Bool)
  accepted : List (List UInt8)
  taken : Nat
  delivered : List (List UInt8 × Nat)
  failures : Nat

/-- One step of the poll thread in `receive_complete`. -/
def stepRxPoll (state : RxState) : Option RxState :=
  match state.poll with
  | .idle => none
  | .loadHead completion => some { state with poll := .loadTail completion state.head }
  | .loadTail completion head =>
      let total := completionTotal completion 0
      some { state with
        poll := if total ≠ 0 ∧ total ≤ lunaNetPacketSize then
          .checkActive completion head state.tail else .idle }
  | .checkActive completion head tail =>
      let next := (head + 1) % lunaNetRxQueueCount
      some { state with
        poll := if state.childActive ∧ next ≠ tail then .copy completion head
          else .recheckActive completion }
  | .recheckActive completion =>
      some { state with poll := if state.childActive then .drop completion else .idle }
  | .copy completion head =>
      let packet := state.queue head
      some { state with
        queue := Function.update state.queue head
          { packet with data := copyIovecs packet.data completion 0 }
        poll := .storeLength completion head }
  | .storeLength completion head =>
      some { state with
        queue := Function.update state.queue head
          { state.queue head with length := completionTotal completion 0 }
        poll := .storeHead completion head }
  | .storeHead completion head =>
      some { state with
        head := (head + 1) % lunaNetRxQueueCount
        accepted := state.accepted ++ [payload completion]
        poll := .produce completion }
  | .produce completion =>
      some { state with
        header := { state.header with rxProduced := (state.header.rxProduced + 1) % 2 ^ 64 }
        handled := state.handled ++ [(payload completion, true)]
        poll := .exchange }
  | .exchange =>
      some { state with
        header := { state.header with rxWaiting := 0 }
        poll := if state.header.rxWaiting ≠ 0 then .signalMasked else .idle }
  | .signalMasked => some { state with poll := if state.masked then .idle else .signalActive }
  | .signalActive => some { state with poll := if state.childActive then .signal else .idle }
  | .signal => some { state with ntfn := true, poll := .idle }
  | .drop completion =>
      some { state with
        drops := (state.drops + 1) % 2 ^ 64
        handled := state.handled ++ [(payload completion, false)]
        poll := .idle }

/-- The argument check of `service_rx_batch`. -/
def serviceRxBatch (requested : Nat) : RxMain :=
  if requested = 0 ∨ lunaNetBatchSlots < requested then .reply false 0 else .rxTail requested

/-- One step of the main thread.  The child asks for `LUNA_NET_BATCH_SLOTS` packets. -/
def stepRxMain (state : RxState) : Option RxState :=
  let goto (main : RxMain) : Option RxState := some { state with main }
  match state.main with
  | .idle => if state.child = .call then goto (serviceRxBatch lunaNetBatchSlots) else none
  | .rxTail requested => goto (.rxHead requested state.tail)
  | .rxHead requested tail =>
      goto (if tail = state.head then .rxEmpty else .rxLength requested tail state.head 0)
  | .rxEmpty =>
      some { state with header := { state.header with rxCount := 0 }, main := .reply true 0 }
  | .rxLength requested tail head count =>
      goto (if validLength (state.queue tail).length then .rxCopy requested tail head count
        else .rxBadLength)
  | .rxBadLength => goto (.reply false 0)
  | .rxCopy requested tail head count =>
      let packet := state.queue tail
      some { state with
        window := Function.update state.window count
          (blit (state.window count) 0 packet.data 0 packet.length)
        main := .rxStoreLength requested tail head count }
  | .rxStoreLength requested tail head count =>
      let lengths := Function.update state.header.rxLengths count (state.queue tail).length
      some { state with
        header := { state.header with rxLengths := lengths }
        main := .rxClear requested tail head count }
  | .rxClear requested tail head count =>
      let next := (tail + 1) % lunaNetRxQueueCount
      some { state with
        queue := Function.update state.queue tail { state.queue tail with length := 0 }
        main := if next ≠ head ∧ count + 1 < requested then .rxLength requested next head (count + 1)
          else .rxCount next (count + 1) }
  | .rxCount tail count =>
      some { state with
        header := { state.header with rxCount := count }, main := .rxStoreTail tail count }
  | .rxStoreTail tail count =>
      some { state with tail, taken := state.taken + count, main := .rxConsume count }
  | .rxConsume count =>
      some { state with
        header := { state.header with rxConsumed := (state.header.rxConsumed + count) % 2 ^ 64 }
        main := .reply true count }
  | .reply served packets => some { state with main := .idle, child := .answered served packets }
  | .controlMask control =>
      some { state with
        masked := decide (control ≠ 0), main := if control = 0 then .controlHead else .idle }
  | .controlHead => goto (.controlTail state.head)
  | .controlTail head => goto (if head ≠ state.tail then .signalMasked else .idle)
  | .signalMasked => goto (if state.masked then .idle else .signalActive)
  | .signalActive => goto (if state.childActive then .signal else .idle)
  | .signal => some { state with ntfn := true, main := .idle }

/-- The end of `task_net_rx`. -/
def finishRx (state : RxState) (capacity : Nat) (copied : List UInt8) : RxState :=
  { state with
    pendingRx := 0
    rxIndex := state.rxIndex + 1
    delivered := state.delivered ++ [(copied, capacity)]
    child := .outside }

/-- One step of the child in `task_net_poll` or `task_net_rx`. -/
def stepRxChild (state : RxState) : Option RxState :=
  let goto (child : RxChild) : Option RxState := some { state with child }
  let refuse : Option RxState :=
    some { state with child := .outside, failures := state.failures + 1 }
  match state.child with
  | .outside => none
  | .pollHup => goto (if state.hup then .outside else .pollIndex)
  | .pollIndex =>
      if state.rxIndex < state.rxCount then
        let length := state.header.rxLengths state.rxIndex
        if validLength length then some { state with pendingRx := length, child := .outside }
        else refuse
      else some { state with rxCount := 0, rxIndex := 0, child := .setWaiting }
  | .setWaiting =>
      some { state with
        header := { state.header with rxWaiting := 1 }, child := .loadProduced }
  | .loadProduced => goto (.loadConsumed state.header.rxProduced)
  | .loadConsumed produced =>
      let consumed := state.header.rxConsumed
      goto (if produced = consumed then .wait else .clearWaiting produced consumed)
  | .wait =>
      if state.ntfn then some { state with ntfn := false, child := .reloadProduced } else none
  | .reloadProduced => goto (.reloadConsumed state.header.rxProduced)
  | .reloadConsumed produced => goto (.checkHup produced state.header.rxConsumed)
  | .clearWaiting produced consumed =>
      some { state with
        header := { state.header with rxWaiting := 0 }, child := .checkHup produced consumed }
  | .checkHup produced consumed =>
      goto (if state.hup then .outside else if produced = consumed then .pollHup else .call)
  | .call => none
  | .answered served packets =>
      if ¬ served ∨ lunaNetBatchSlots < packets then refuse
      else if packets ≠ 0 then
        some { state with rxCount := packets, rxIndex := 0, child := .pollHup }
      else goto .pollHup
  | .rxCopy [] capacity _ _ copied => some (finishRx state capacity copied)
  | .rxCopy (base :: rest) capacity offset remaining copied =>
      if remaining = 0 then some (finishRx state capacity copied)
      else
        match base with
        | none => goto .outside
        | some room =>
            let chunk := min room remaining
            goto (.rxCopy rest capacity (offset + chunk) (remaining - chunk)
              (copied ++ read (state.window state.rxIndex) offset chunk))

/-- Room in the iovecs of `task_net_rx`. -/
def iovCapacity (iov : List (Option Nat)) : Nat := (iov.map fun room => room.getD 0).sum

inductive RxAction where
  | completion (completion : Completion)
  | poll
  | control (control : Nat)
  | main
  | taskNetPoll
  | taskNetRx (iov : List (Option Nat))
  | child
  | hup
  | wake
  deriving Repr

/-- A step of the receive path.  `NET_WAKE` only follows a hang-up. -/
def rxNext (state : RxState) : RxAction → Option RxState
  | .completion completion =>
      if state.poll = .idle then
        some { state with
          poll := .loadHead completion
          completions := if ValidCompletion completion then
            state.completions ++ [payload completion] else state.completions }
      else none
  | .poll => stepRxPoll state
  | .control control =>
      if state.main = .idle ∧ control ≤ 1 then some { state with main := .controlMask control }
      else none
  | .main => stepRxMain state
  | .taskNetPoll => if state.child = .outside then some { state with child := .pollHup } else none
  | .taskNetRx iov =>
      if state.child = .outside ∧ state.pendingRx ≠ 0 then
        some { state with child := .rxCopy iov (iovCapacity iov) 0 state.pendingRx [] }
      else none
  | .child => stepRxChild state
  | .hup => some { state with hup := true }
  | .wake => if state.hup then some { state with ntfn := true } else none

end Luna.Net
