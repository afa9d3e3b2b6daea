import Luna.Net.TxSlots

/-!
# Waiting for the queue to drain

`luna_lkl_task_net_finish` for a device that was added.  It waits on `tx_drain_sem`, which
the worker ups each time it has emptied the queue during the life of the device, and
`task_net_signal_error` once more.  Its look at the cursors under `tx_mutex` is one step,
taken while the mutex is free.  The counters it prints are left out.
-/

namespace Luna.Net

open Interleaving

/-- Program counter of `luna_lkl_task_net_finish`. -/
inductive FinishCall where
  | idle
  | look
  | signalWork
  | drainDown
  | loadHead
  | loadTail (head : Nat)
  | loadError
  | storeStop
  | storeCoalesceStop
  | stopWork
  | stopCoalesce
  | joinWorker
  | joinCoalesce
  | failed
  | finished
  deriving DecidableEq, Repr

structure FinishState (Sender : Type) where
  net : TxState Sender
  drainSem : Nat
  finish : FinishCall

/-- `task_sem_up`, which stops at `INT_MAX`. -/
def drainUp (count : Nat) : Nat := if count = 2 ^ 31 - 1 then count else count + 1

variable {Sender : Type}

/-- The step enters `task_net_signal_error`, or fails in the coalescing thread. -/
def TxState.storesError (state : TxState Sender) : TxAction Sender → Bool
  | .call sender => state.child.calls sender = .raiseError
  | .worker => state.child.worker = .raiseError
  | .coalesce _ => state.child.coalesce = .fail
  | _ => false

/-- The step ups `tx_drain_sem`. -/
def TxState.upsDrain (state : TxState Sender) : TxAction Sender → Bool
  | .call sender => state.child.calls sender = .raiseError
  | .worker => state.child.worker = .finish true ∨ state.child.worker = .raiseError
  | _ => false

def TxCall.enqueues : TxCall → Bool
  | .publish _ _ => true
  | _ => false

def TxState.enqueues (state : TxState Sender) : TxAction Sender → Bool
  | .call sender => (state.child.calls sender).enqueues
  | _ => false

/-- One step of `luna_lkl_task_net_finish`. -/
def stepFinish (state : FinishState Sender) : Option (FinishState Sender) :=
  let child := state.net.child
  let goto (finish : FinishCall) : Option (FinishState Sender) := some { state with finish }
  let store (child : TxBackend Sender) (finish : FinishCall) : Option (FinishState Sender) :=
    some { state with net := { state.net with child }, finish }
  match state.finish with
  | .idle => goto .look
  | .look =>
      if child.mutex = none then
        goto (if child.head = child.tail then .loadHead else .signalWork)
      else none
  | .signalWork => store { child with workSem := signalOnce child.workSem } .drainDown
  | .drainDown =>
      if state.drainSem = 0 then none
      else some { state with drainSem := state.drainSem - 1, finish := .loadHead }
  | .loadHead => goto (.loadTail child.head)
  | .loadTail head => goto (if head ≠ child.tail then .failed else .loadError)
  | .loadError => goto (if child.txError then .failed else .storeStop)
  | .storeStop => store { child with txStop := true } .storeCoalesceStop
  | .storeCoalesceStop => store { child with coalesceStop := true } .stopWork
  | .stopWork => store { child with workSem := signalOnce child.workSem } .stopCoalesce
  | .stopCoalesce => store { child with coalesceSem := signalOnce child.coalesceSem } .joinWorker
  | .joinWorker => if child.worker = .stopped then goto .joinCoalesce else none
  | .joinCoalesce => if child.coalesce = .stopped then goto .finished else none
  | .failed | .finished => none

inductive FinishAction (Sender : Type) where
  | net (action : TxAction Sender)
  | finish
  deriving Repr

section System

variable [DecidableEq Sender]

/-- The stop requests are the ones `luna_lkl_task_net_finish` makes. -/
def finishNext (state : FinishState Sender) : FinishAction Sender → Option (FinishState Sender)
  | .net .stop => none
  | .net action => (txNext state.net action).map fun net =>
      { state with
        net
        drainSem := if state.net.upsDrain action then drainUp state.drainSem else state.drainSem }
  | .finish => stepFinish state

def FinishInitial (state : FinishState Sender) : Prop :=
  TxAdded state.net ∧ state.drainSem = 0 ∧ state.finish = .idle

def finishSystem : System (FinishState Sender) (FinishAction Sender) :=
  ⟨FinishInitial, finishNext⟩

/-- No transmit error, and no packet enqueued after the call of
`luna_lkl_task_net_finish`. -/
def Undisturbed (state : FinishState Sender) : FinishAction Sender → Bool
  | .net action => !state.net.storesError action &&
      (state.finish == .idle || !state.net.enqueues action)
  | .finish => true

/-- The worker has found the queue empty and not yet upped `tx_drain_sem` for it. -/
def TxWorker.owesDrain : TxWorker → Bool
  | .freeUp _ true | .finish true => true
  | _ => false

/-- When the look finds packets, no up for an earlier drain is left over or to come. -/
def NoOldDrain (state : FinishState Sender) : FinishAction Sender → Bool
  | .net _ => true
  | .finish => decide (state.finish = .look → state.net.child.head ≠ state.net.child.tail →
      state.drainSem = 0 ∧ state.net.child.worker.owesDrain = false)

end System

/-! ## What a step does to the cursors -/

section Cursors

variable {state target : TxState Sender} {child after : TxBackend Sender} {sender : Sender}

/-- Without an error and without an enqueue a step keeps the head; it moves the tail only
while packets are queued, and it finds the queue empty only when it is. -/
structure Draining (child after : TxBackend Sender) : Prop where
  head : after.head = child.head
  tail : child.head = child.tail → after.tail = child.tail
  owes : after.worker.owesDrain = true →
    child.worker.owesDrain = true ∨ child.head = child.tail
  txError : after.txError = child.txError

theorem Draining.kept (head : after.head = child.head) (tail : after.tail = child.tail)
    (worker : after.worker.owesDrain = true → child.worker.owesDrain = true)
    (txError : after.txError = child.txError) : Draining child after :=
  ⟨head, fun _ => tail, fun owes => .inl (worker owes), txError⟩

theorem Draining.empty (draining : Draining child after) (empty : child.head = child.tail) :
    after.head = after.tail := by
  rw [draining.head, draining.tail empty, empty]

theorem stepCall_draining [DecidableEq Sender] (moved : stepCall child sender = some after)
    (noError : child.calls sender ≠ .raiseError)
    (noEnqueue : (child.calls sender).enqueues = false) : Draining child after := by
  unfold stepCall at moved
  cases at_ : child.calls sender <;> simp only [at_, Option.some.injEq, reduceCtorEq] at moved
  case publish iov next => simp [at_, TxCall.enqueues] at noEnqueue
  case raiseError => exact absurd at_ noError
  case freeDown | lock =>
    split at moved
    all_goals
      cases moved
      try exact .kept rfl rfl id rfl
  case raiseFree remaining =>
    cases remaining with
    | zero =>
        subst moved
        exact .kept rfl rfl id rfl
    | succ remaining =>
        subst moved
        exact .kept rfl rfl id rfl
  all_goals
    subst moved
    exact .kept rfl rfl id rfl

theorem lock_draining {worker : TxWorker} (outside : worker.owesDrain = false)
    (moved : (state.child.workerLock worker).map (fun child => { state with child }) =
      some target) : Draining state.child target.child := by
  obtain ⟨child, locked, rfl⟩ := Option.map_eq_some_iff.mp moved
  rw [workerLock_eq locked]
  exact .kept rfl rfl (by simp [outside]) rfl

theorem stepWorker_draining (inv : TxInv state) (moved : stepWorker state = some target)
    (noError : state.child.worker ≠ .raiseError) : Draining state.child target.child := by
  unfold stepWorker at moved
  cases at_ : state.child.worker <;> simp only [at_, reduceCtorEq] at moved
  case pop accepted index =>
    cases moved
    have some := inv.pop_queued at_
    have apart : state.child.head ≠ state.child.tail := fun equal =>
      some ((CircularBuffer.used_eq_zero_iff inv.headLt inv.tailLt).mpr equal)
    refine ⟨rfl, fun empty => absurd empty apart, ?_, rfl⟩
    simp only
    split <;> simp [TxWorker.owesDrain]
  case popUnlock accepted =>
    cases moved
    refine ⟨rfl, fun _ => rfl, fun owes => .inr ?_, rfl⟩
    by_contra apart
    have notEmpty : decide (state.child.tail = state.child.head) = false :=
      decide_eq_false fun equal => apart equal.symm
    simp [notEmpty, TxWorker.owesDrain] at owes
  case freeUp remaining empty =>
    have same : state.child.worker.owesDrain = empty := by
      rw [at_]
      cases empty <;> rfl
    cases remaining with
    | zero =>
        cases moved
        refine .kept rfl rfl (fun owes => ?_) rfl
        rw [same]
        cases empty
        · cases owes
        · rfl
    | succ remaining =>
        cases moved
        refine .kept rfl rfl (fun owes => ?_) rfl
        rw [same]
        cases empty
        · cases owes
        · rfl
  case raiseError => exact absurd at_ noError
  case raiseFree remaining =>
    cases remaining with
    | zero =>
        cases moved
        exact .kept rfl rfl (by simp [TxWorker.owesDrain]) rfl
    | succ remaining =>
        cases moved
        exact .kept rfl rfl (by simp [TxWorker.owesDrain]) rfl
  case countLock | recountLock | stageLock | popLock => exact lock_draining rfl moved
  case workDown | recountDown | waitNtfn =>
    split at moved
    all_goals
      cases moved
      try exact .kept rfl rfl (by simp [TxWorker.owesDrain]) rfl
  case checkStop | countUnlock | recountUnlock | checkExpired | recountStop | stageStart
      | stageData | stageUnlock | loadResponse | loadAccepted =>
    cases moved
    refine .kept rfl rfl ?_ rfl
    simp only
    repeat' split
    all_goals simp [TxWorker.owesDrain]
  all_goals
    cases moved
    exact .kept rfl rfl (by simp [TxWorker.owesDrain]) rfl

theorem stepCoalesce_draining {slept : Bool} (moved : stepCoalesce child slept = some after)
    (noError : child.coalesce ≠ .fail) : Draining child after := by
  unfold stepCoalesce at moved
  cases at_ : child.coalesce <;> simp only [at_, Option.some.injEq, reduceCtorEq] at moved
  case fail => exact absurd at_ noError
  case down =>
    split at moved
    next none => cases moved
    next some =>
      cases moved
      exact .kept rfl rfl id rfl
  all_goals
    subst moved
    exact .kept rfl rfl id rfl

theorem txNext_draining [DecidableEq Sender] (inv : TxInv state) {action : TxAction Sender}
    (noError : state.storesError action = false) (noEnqueue : state.enqueues action = false)
    (moved : txNext state action = some target) : Draining state.child target.child := by
  cases action with
  | send sender iov =>
      simp only [txNext] at moved
      split at moved
      next idle =>
        split at moved
        next total checked =>
          cases moved
          exact .kept rfl rfl id rfl
        next => cases moved
      next => cases moved
  | call sender =>
      obtain ⟨child, stepped, rfl⟩ := Option.map_eq_some_iff.mp moved
      exact stepCall_draining stepped (of_decide_eq_false noError) noEnqueue
  | worker => exact stepWorker_draining inv moved (of_decide_eq_false noError)
  | coalesce slept =>
      obtain ⟨child, stepped, rfl⟩ := Option.map_eq_some_iff.mp moved
      exact stepCoalesce_draining stepped (of_decide_eq_false noError)
  | stop =>
      cases moved
      exact .kept rfl rfl id rfl
  | notification | timeoutRetry =>
      simp only [txNext] at moved
      split at moved
      · cases moved
        exact .kept rfl rfl id rfl
      · cases moved
  | poll =>
      obtain ⟨⟨later, thread⟩, stepped, rfl⟩ := Option.map_eq_some_iff.mp moved
      exact .kept rfl rfl id rfl
  | drain tail =>
      simp only [txNext] at moved
      split at moved
      · cases moved
        exact .kept rfl rfl id rfl
      · cases moved
  | environment stressGate childActive signalled =>
      cases moved
      exact .kept rfl rfl id rfl

/-- An enqueue stores no error either. -/
theorem enqueue_txError [DecidableEq Sender] {action : TxAction Sender}
    (enqueues : state.enqueues action = true) (moved : txNext state action = some target) :
    target.child.txError = state.child.txError := by
  cases action <;> simp only [TxState.enqueues, Bool.false_eq_true] at enqueues
  case call sender =>
    obtain ⟨child, stepped, rfl⟩ := Option.map_eq_some_iff.mp moved
    unfold stepCall at stepped
    cases at_ : state.child.calls sender <;>
      simp only [at_, TxCall.enqueues, Bool.false_eq_true] at enqueues stepped
    cases stepped
    rfl

end Cursors

/-! ## Runs -/

section Finishing

variable {state target : FinishState Sender} {child after : TxBackend Sender}

/-- Once the call waits, a token in `tx_drain_sem`, or one to come, means an empty queue. -/
def FinishFits (child : TxBackend Sender) (drainSem : Nat) : FinishCall → Prop
  | .signalWork | .drainDown =>
      drainSem ≠ 0 ∨ child.worker.owesDrain = true → child.head = child.tail
  | .loadHead => child.head = child.tail
  | .loadTail head => head = child.head ∧ child.head = child.tail
  | .failed => False
  | _ => True

structure FinishInv (state : FinishState Sender) : Prop where
  inv : TxInv state.net
  txError : state.net.child.txError = false
  fits : FinishFits state.net.child state.drainSem state.finish

theorem FinishFits.draining {finish : FinishCall} {before drainSem : Nat}
    (fits : FinishFits child before finish) (draining : Draining child after)
    (ups : drainSem ≠ 0 → before ≠ 0 ∨ child.worker.owesDrain = true) :
    FinishFits after drainSem finish := by
  have waiting (waits : before ≠ 0 ∨ child.worker.owesDrain = true → child.head = child.tail) :
      drainSem ≠ 0 ∨ after.worker.owesDrain = true → after.head = after.tail := by
    rintro (token | owes)
    · exact draining.empty (waits (ups token))
    · rcases draining.owes owes with still | empty
      · exact draining.empty (waits (.inr still))
      · exact draining.empty empty
  cases finish with
  | signalWork | drainDown => exact waiting fits
  | loadHead => exact draining.empty fits
  | loadTail head => exact ⟨fits.1.trans draining.head.symm, draining.empty fits.2⟩
  | failed => exact fits
  | _ => trivial

theorem upsDrain_owes {net : TxState Sender} {action : TxAction Sender}
    (noError : net.storesError action = false) (ups : net.upsDrain action = true) :
    net.child.worker.owesDrain = true := by
  cases action <;>
    simp_all [TxState.storesError, TxState.upsDrain, TxWorker.owesDrain]

theorem FinishInv.call (finishing : FinishInv state)
    (clean : NoOldDrain state .finish = true) (moved : stepFinish state = some target) :
    FinishInv target := by
  obtain ⟨inv, txError, fits⟩ := finishing
  unfold stepFinish at moved
  cases at_ : state.finish <;> simp only [at_, reduceCtorEq] at moved fits
  case look =>
    split at moved
    next free =>
      cases moved
      refine ⟨inv, txError, ?_⟩
      split
      next empty => exact empty
      next apart =>
        obtain ⟨noToken, noDebt⟩ := of_decide_eq_true clean at_ apart
        rintro (token | owes)
        · exact absurd noToken token
        · simp [noDebt] at owes
    next taken => cases moved
  case signalWork =>
    cases moved
    exact ⟨coalesce_inv inv, txError, fits⟩
  case drainDown =>
    split at moved
    next none => cases moved
    next some =>
      cases moved
      exact ⟨inv, txError, fits (.inl some)⟩
  case loadHead =>
    cases moved
    exact ⟨inv, txError, rfl, fits⟩
  case loadTail head =>
    cases moved
    refine ⟨inv, txError, ?_⟩
    rw [if_neg (not_not_intro (fits.1.trans fits.2))]
    trivial
  case loadError =>
    cases moved
    refine ⟨inv, txError, ?_⟩
    rw [txError]
    trivial
  case joinWorker | joinCoalesce =>
    split at moved
    · cases moved
      exact ⟨inv, txError, trivial⟩
    · cases moved
  case idle =>
    cases moved
    exact ⟨inv, txError, trivial⟩
  all_goals
    cases moved
    exact ⟨coalesce_inv inv, txError, trivial⟩

theorem finishInitial_inv (initial : FinishInitial state) : FinishInv state := by
  obtain ⟨added, _, idle⟩ := initial
  refine ⟨txInitial_inv _ added.initial, added.txError, ?_⟩
  rw [idle]
  trivial

variable [DecidableEq Sender]

theorem FinishInv.net (finishing : FinishInv state) {action : TxAction Sender}
    {net : TxState Sender} (undisturbed : Undisturbed state (.net action) = true)
    (moved : txNext state.net action = some net) :
    FinishInv { state with
      net
      drainSem := if state.net.upsDrain action then drainUp state.drainSem
        else state.drainSem } := by
  obtain ⟨inv, txError, fits⟩ := finishing
  simp only [Undisturbed, Bool.and_eq_true, Bool.not_eq_true', Bool.or_eq_true,
    beq_iff_eq] at undisturbed
  obtain ⟨noError, quiet⟩ := undisturbed
  have later := txNext_inv state.net action net inv moved
  cases enqueues : state.net.enqueues action with
  | false =>
      have draining := txNext_draining inv noError enqueues moved
      refine ⟨later, draining.txError.trans txError, fits.draining draining fun token => ?_⟩
      by_cases ups : state.net.upsDrain action = true
      · exact .inr (upsDrain_owes noError ups)
      · rw [if_neg ups] at token
        exact .inl token
  | true =>
      rcases quiet with idle | noEnqueue
      · refine ⟨later, (enqueue_txError enqueues moved).trans txError, ?_⟩
        simp only [idle]
        trivial
      · simp [enqueues] at noEnqueue

theorem finishNext_inv (finishing : FinishInv state) {action : FinishAction Sender}
    (undisturbed : Undisturbed state action = true) (clean : NoOldDrain state action = true)
    (moved : finishNext state action = some target) : FinishInv target := by
  cases action with
  | finish => exact finishing.call clean moved
  | net action =>
      cases action <;> simp only [finishNext, reduceCtorEq] at moved
      all_goals
        obtain ⟨net, stepped, rfl⟩ := Option.map_eq_some_iff.mp moved
        exact finishing.net undisturbed stepped

/-- When `sem_down` on `tx_drain_sem` can return, the queue is empty, and the call does not
fail; unless an up for an earlier drain was left over or to come when it found packets. -/
theorem finish_waits_for_drain (state : FinishState Sender)
    (reached : finishSystem.Reach (fun state action =>
      Undisturbed state action = true ∧ NoOldDrain state action = true) state) :
    (state.finish = .drainDown → state.drainSem ≠ 0 →
      state.net.child.head = state.net.child.tail) ∧ state.finish ≠ .failed := by
  obtain ⟨_, _, fits⟩ := System.Reach.invariant FinishInv
    (fun _ initial => finishInitial_inv initial)
    (fun _ _ _ finishing meets moved => finishNext_inv finishing meets.1 meets.2 moved) reached
  refine ⟨fun waiting token => ?_, fun failed => ?_⟩
  · rw [waiting] at fits
    exact fits (.inl token)
  · rw [failed] at fits
    exact fits

end Finishing

def finishStart : FinishState Unit := ⟨txStart, 0, .idle⟩

/-- One packet is pushed by the manager; the worker has not seen the answer yet. -/
def finishOnePacket : List (FinishAction Unit) :=
  (txOnePacket ++ List.replicate 5 TxAction.poll).map .net

/-- The call finds the packet, and the worker pops it. -/
theorem finish_waits_for_drain_one_packet : ∃ state : FinishState Unit,
    finishSystem.Reach (fun state action =>
      Undisturbed state action = true ∧ NoOldDrain state action = true) state ∧
    state.finish = .drainDown ∧ state.drainSem = 1 ∧
    state.net.child.head = state.net.child.tail := by
  have run : ∃ state : FinishState Unit, finishSystem.Reach (fun state action =>
      Undisturbed state action = true ∧ NoOldDrain state action = true) state ∧
      decide (state.finish = .drainDown ∧ state.drainSem = 1) = true :=
    System.exists_reach_of_exec _ _ finishStart
      (finishOnePacket ++ List.replicate 3 .finish ++ List.replicate 8 (.net .worker)) _
      ⟨⟨by simp [finishStart, TxInitial, txStart], rfl, rfl, rfl, rfl, rfl, rfl, rfl⟩, rfl, rfl⟩
      (by decide +kernel)
  obtain ⟨state, reached, ends⟩ := run
  obtain ⟨waiting, token⟩ := of_decide_eq_true ends
  have waits := finish_waits_for_drain state reached
  exact ⟨state, reached, waiting, token, waits.1 waiting (by rw [token]; exact Nat.one_ne_zero)⟩

/-- The queue was emptied before; a packet sent since is still queued when `sem_down`
returns. -/
theorem finish_takes_old_drain : ∃ state : FinishState Unit,
    finishSystem.Reach (fun state action => Undisturbed state action = true) state ∧
    state.finish = .drainDown ∧ state.drainSem ≠ 0 ∧
    state.net.child.head ≠ state.net.child.tail := by
  have run : ∃ state : FinishState Unit,
      finishSystem.Reach (fun state action => Undisturbed state action = true) state ∧
      decide (state.finish = .drainDown ∧ state.drainSem ≠ 0 ∧
        state.net.child.head ≠ state.net.child.tail) = true :=
    System.exists_reach_of_exec _ _ finishStart
      (finishOnePacket ++ List.replicate 8 (.net .worker) ++
        .net (.send () [some [9]]) :: List.replicate 9 (.net (.call ())) ++
        List.replicate 3 .finish) _
      ⟨⟨by simp [finishStart, TxInitial, txStart], rfl, rfl, rfl, rfl, rfl, rfl, rfl⟩, rfl, rfl⟩
      (by decide +kernel)
  obtain ⟨state, reached, ends⟩ := run
  exact ⟨state, reached, of_decide_eq_true ends⟩

end Luna.Net
