import Luna.Net.TxChild
import Luna.Net.TxRing
import Luna.TimerManager

/-!
# The poll loop in interrupt mode

`network_poll_thread` with `irq_mode` set: it waits for `poll_kick_ntfn`, polls
the driver, hands packets over, answers the child's request, and looks a second
time before it arms the 5 ms recheck timer or, when that timer woke it, answers
with a retry.  Around it run the child (`TxChild`), the endpoint requests on the
main thread and the completions of the driver (`TxRing`), `network_irq_thread`
and the interrupt thread of the one-shot timer (`TimerManager`).  The receive
queue, `tx_idle_ntfn` and the statistics counters are left out.
-/

namespace Luna.Net

open Interleaving
open TimerManager (Answers Hardware Message Timer Wakes)

def lunaNetTxRecheckNs : Nat := 5000000

/-- The first look for an unanswered request, or the one after the recheck. -/
inductive Round where
  | first
  | recheck
  deriving DecidableEq, Repr

/-- Locals of one pass of the loop. -/
structure Pass where
  timerEvent : Bool
  more : Bool
  deriving DecidableEq, Repr

/-- Program counter of `network_poll_thread`.  While a routine it called runs,
`RingState.poll` is the program counter of the routine. -/
inductive LoopThread where
  | wait
  | enterDriver (irqEvent timerEvent : Bool)
  | ackIrq (timerEvent : Bool)
  -- network_poll_budget
  | polling (round : Round) (pass : Pass)
  -- process_tx_queue, service_tx_notification, process_tx_queue
  | processBefore (round : Round) (pass : Pass)
  | serve (round : Round) (pass : Pass)
  | processAfter (round : Round) (pass : Pass)
  -- tx_response_pending
  | loadRequest (round : Round) (pass : Pass)
  | loadResponse (round : Round) (pass : Pass) (request : Nat)
  -- service_tx_timeout_retry, luna_timer_manager_schedule_network
  | retry (pass : Pass)
  | schedule (pass : Pass)
  | again (pass : Pass)
  | leaveDriver
  deriving DecidableEq, Repr

/-- Program counter of `network_irq_thread`. -/
inductive NetIrqThread where
  | waitIrq
  | signalKick
  | waitDone
  | ack
  deriving DecidableEq, Repr

/-- Program counter of `timer_irq_thread`, with what `handle_timer_irq` took. -/
inductive TimerIrqThread (Ntfn : Type) where
  | waitIrq
  | signalChild (wakes : Wakes Ntfn)
  | signalNetwork (network : Bool)
  deriving DecidableEq, Repr

/-- History of one answer: the sequence it is for, what it says was accepted and
whether `service_tx_timeout_retry` gave it. -/
structure Reply where
  sequence : Nat
  accepted : Nat
  timeout : Bool
  deriving DecidableEq, Repr

/-- `poll_kick_ntfn` is pending when it was signalled without a badge or with
that of the child (`shared.pollKick`), of the virtio interrupt or of the timer. -/
structure LoopState (Sender Ntfn : Type) where
  child : TxBackend Sender
  ring : RingState
  timer : Timer Ntfn
  loop : LoopThread
  netIrq : NetIrqThread
  timerIrq : TimerIrqThread Ntfn
  irqBadge : Bool
  timerBadge : Bool
  irqNtfn : Bool
  irqDone : Bool
  pollInDriver : Bool
  replies : List Reply

/-- What the child's threads can do. -/
inductive ChildAction (Sender : Type) where
  | send (sender : Sender) (iov : Iovecs)
  | call (sender : Sender)
  | worker
  | coalesce (slept : Bool)
  | stop
  deriving Repr

def ChildAction.txAction {Sender : Type} : ChildAction Sender → TxAction Sender
  | .send sender iov => .send sender iov
  | .call sender => .call sender
  | .worker => .worker
  | .coalesce slept => .coalesce slept
  | .stop => .stop

inductive LoopAction (Sender Ntfn : Type) where
  | child (action : ChildAction Sender)
  /-- The main thread receives `NET_TX` or `NET_TX_BATCH` with any length word. -/
  | netTx (length : Nat)
  | netTxBatch (requested : Nat)
  | stepMain
  /-- The main thread serves a timer message of the child. -/
  | timerService (message : Message Ntfn) (answers : Answers)
  /-- `service_tx_stress` stores the gate. -/
  | stressGate (closed : Bool)
  /-- The child is activated or deactivated. -/
  | childActive (active : Bool)
  /-- A signal of `poll_kick_ntfn` by the manager. -/
  | kick
  /-- The driver reports a completion, from its poll or from inside `raw_tx`. -/
  | completion (cookie : Nat)
  | rawTx (result : RawTx)
  /-- The poll thread moves; `more` is what `raw_poll_budget` answers. -/
  | poll (more : Bool) (answers : Answers)
  | netInterrupt
  | netIrq
  | timerInterrupt (answers : Answers)
  | timerIrq

section Steps

variable {Sender Ntfn : Type}

/-- A badge is pending on `poll_kick_ntfn`. -/
def LoopState.kicked (state : LoopState Sender Ntfn) : Bool :=
  state.ring.shared.pollKick || state.irqBadge || state.timerBadge

def LoopState.header (state : LoopState Sender Ntfn) : BatchHeader := state.ring.shared.header

/-- The poll thread calls a routine of the ring. -/
def LoopState.enter (state : LoopState Sender Ntfn) (loop : LoopThread) (routine : PollThread) :
    LoopState Sender Ntfn :=
  { state with
    loop := loop
    ring := { state.ring with poll := routine } }

/-- The poll thread between the routines it calls. -/
def loopStep (hardware : Hardware) (state : LoopState Sender Ntfn) (more : Bool)
    (answers : Answers) : Option (LoopState Sender Ntfn) :=
  match state.loop with
  | .wait =>
      if state.kicked then
        some { state with
          loop := .enterDriver state.irqBadge state.timerBadge
          ring := { state.ring with shared := { state.ring.shared with pollKick := false } }
          irqBadge := false
          timerBadge := false }
      else none
  | .enterDriver irqEvent timerEvent =>
      some { state with
        loop := if irqEvent then .ackIrq timerEvent else .polling .first ⟨timerEvent, false⟩
        pollInDriver := true }
  | .ackIrq timerEvent =>
      some { state with
        loop := .polling .first ⟨timerEvent, false⟩
        irqDone := true }
  | .polling .first pass => some (state.enter (.processBefore .first { pass with more }) .gate)
  | .polling .recheck pass =>
      some (state.enter (.processBefore .recheck { pass with more := pass.more || more }) .gate)
  | .processBefore round pass => some (state.enter (.serve round pass) (.service .notifyActive))
  | .serve round pass => some (state.enter (.processAfter round pass) .gate)
  | .processAfter round pass => some { state with loop := .loadRequest round pass }
  | .loadRequest round pass =>
      let request := state.header.txRequestSequence
      some { state with
        loop := if request = 0 then .again pass else .loadResponse round pass request }
  | .loadResponse round pass request =>
      if request = state.header.txResponseSequence then some { state with loop := .again pass }
      else match round with
        | .first => some { state with loop := .polling .recheck pass }
        | .recheck =>
            if pass.timerEvent then some (state.enter (.retry pass) (.service .retryRequest))
            else some { state with loop := .schedule pass }
  | .retry pass => some { state with loop := .again { pass with timerEvent := false } }
  | .schedule pass =>
      some { state with
        loop := .again pass
        timer := (state.timer.scheduleNetwork hardware lunaNetTxRecheckNs answers).1 }
  | .again pass =>
      some { state with loop := if pass.more then .polling .first pass else .leaveDriver }
  | .leaveDriver =>
      some { state with
        loop := .wait
        pollInDriver := false }

/-- A step inside a routine: `luna_timer_manager_cancel_network` acts on the
timer, and the store of the response sequence is recorded. -/
def routineStep (hardware : Hardware) (state : LoopState Sender Ntfn) (answers : Answers) :
    Option (LoopState Sender Ntfn) :=
  (pollStep state.ring state.ring.poll).map fun ring =>
    match state.ring.poll with
    | .service (.cancelTimer _ _) =>
        { state with
          ring := ring
          timer := (state.timer.cancelNetwork hardware answers).1 }
    | .service (.storeResponse sequence) =>
        { state with
          ring := ring
          replies := state.replies ++
            [⟨sequence, state.header.txAccepted, state.loop matches .retry _⟩] }
    | _ => { state with ring := ring }

/-- One step of `network_poll_thread`. -/
def stepPoll (hardware : Hardware) (state : LoopState Sender Ntfn) (more : Bool)
    (answers : Answers) : Option (LoopState Sender Ntfn) :=
  match state.ring.poll with
  | .service .idle => loopStep hardware state more answers
  | _ => routineStep hardware state answers

/-- One step of `network_irq_thread` in interrupt mode. -/
def stepNetIrq (state : LoopState Sender Ntfn) : Option (LoopState Sender Ntfn) :=
  match state.netIrq with
  | .waitIrq =>
      if state.irqNtfn then
        some { state with
          netIrq := .signalKick
          irqNtfn := false }
      else none
  | .signalKick =>
      some { state with
        netIrq := .waitDone
        irqBadge := true }
  | .waitDone =>
      if state.irqDone then
        some { state with
          netIrq := .ack
          irqDone := false }
      else none
  | .ack => some { state with netIrq := .waitIrq }

/-- The signals of `handle_timer_irq` after it unlocked. -/
def stepTimerIrq (state : LoopState Sender Ntfn) : Option (LoopState Sender Ntfn) :=
  match state.timerIrq with
  | .waitIrq => none
  | .signalChild wakes => some { state with timerIrq := .signalNetwork wakes.network }
  | .signalNetwork network =>
      some { state with
        timerIrq := .waitIrq
        timerBadge := state.timerBadge || network }

/-- A step of the child, over the window it shares with the manager. -/
def stepChild [DecidableEq Sender] (state : LoopState Sender Ntfn) (action : ChildAction Sender) :
    Option (LoopState Sender Ntfn) :=
  (txNext ⟨state.child, state.ring.shared, .idle⟩ action.txAction).map fun moved =>
    { state with
      child := moved.child
      ring := { state.ring with shared := moved.shared } }

def LoopState.withShared (state : LoopState Sender Ntfn) (shared : TxShared) :
    LoopState Sender Ntfn :=
  { state with ring := { state.ring with shared := shared } }

def loopNext [DecidableEq Sender] [DecidableEq Ntfn] (hardware : Hardware)
    (state : LoopState Sender Ntfn) : LoopAction Sender Ntfn → Option (LoopState Sender Ntfn)
  | .child action => stepChild state action
  | .netTx length => (ringNext state.ring (.netTx length)).map fun ring => { state with ring }
  | .netTxBatch requested =>
      (ringNext state.ring (.netTxBatch requested)).map fun ring => { state with ring }
  | .stepMain => (ringNext state.ring .stepMain).map fun ring => { state with ring }
  | .timerService message answers =>
      some { state with timer := (state.timer.service hardware message answers).1 }
  | .stressGate closed => some (state.withShared { state.ring.shared with stressGate := closed })
  | .childActive active =>
      some (state.withShared { state.ring.shared with childActive := active })
  | .kick => some (state.withShared { state.ring.shared with pollKick := true })
  | .completion cookie =>
      match state.loop, state.ring.poll with
      | .polling _ _, .service .idle | _, .driver _ _ =>
          (ringNext state.ring (.completion cookie)).map fun ring => { state with ring }
      | _, _ => none
  | .rawTx result => (ringNext state.ring (.rawTx result)).map fun ring => { state with ring }
  | .poll more answers => stepPoll hardware state more answers
  | .netInterrupt => some { state with irqNtfn := true }
  | .netIrq => stepNetIrq state
  | .timerInterrupt answers =>
      match state.timerIrq with
      | .waitIrq =>
          let handled := state.timer.handleTimerIrq hardware answers
          some { state with
            timer := handled.1
            timerIrq := .signalChild handled.2 }
      | _ => none
  | .timerIrq => stepTimerIrq state

end Steps

end Luna.Net
