import Luna.Lib.TokenLedger
import Luna.Net.TxHandshake

/-!
# Free slots of the child's ring

Space in `tx_queue` is counted by `tx_free_sem` and by the cursors.  Callers and worker are
the agents of a `TokenLedger`; `tx_error` is its flag, and `task_net_signal_error` floods
it.
-/

namespace Luna.Net

open Interleaving TokenLedger

variable {Sender : Type}

/-- What `luna_lkl_task_net_add` leaves: fresh semaphores, and both threads at their first
`sem_down`. -/
structure TxAdded (state : TxState Sender) : Prop where
  initial : TxInitial state
  workSem : state.child.workSem = 0
  freeSem : state.child.freeSem = lunaNetChildTxQueueCount - 1
  coalesceSem : state.child.coalesceSem = 0
  txStop : state.child.txStop = false
  txError : state.child.txError = false
  coalesceStop : state.child.coalesceStop = false
  coalesce : state.child.coalesce = .down

def txAddedSystem [DecidableEq Sender] : System (TxState Sender) (TxAction Sender) :=
  ⟨TxAdded, txNext⟩

/-- Between `sem_down` and the store of `tx_head` a caller has a token; after the checks of
`tx_error` and `tx_stop` it may enqueue. -/
def TxCall.standing : TxCall → Standing
  | .checkError _ _ | .refund | .fullUnlock | .fullRefund => .holding
  | .checkStop _ _ | .lock _ _ | .reserve _ _ | .fill _ _ _ | .publish _ _ => .admitted
  | .idle | .freeDown _ _ | .unlock | .signalWork | .raiseError | .raiseFree _ => .outside

/-- Packets the worker has popped and not yet upped `tx_free_sem` for. -/
def TxWorker.unreturned : TxWorker → Nat
  | .pop _ index => index
  | .popUnlock accepted => accepted
  | .freeUp remaining _ => remaining
  | _ => 0

def TxBackend.ledger (backend : TxBackend Sender) : Ledger Sender where
  tokens := backend.freeSem
  filled := backend.queued
  emptied := backend.worker.unreturned
  broken := backend.txError
  standing sender := (backend.calls sender).standing

/-- Callers between `sem_down` and the enqueue, or on their way to give the token back. -/
def TxBackend.holders [Fintype Sender] (backend : TxBackend Sender) : Nat :=
  Tally.total (fun call => call.standing.held) backend.calls

/-- `task_net_signal_error` stores `tx_error` before it ups `tx_free_sem`. -/
structure RaisedFirst (backend : TxBackend Sender) : Prop where
  calls : ∀ sender remaining, backend.calls sender = .raiseFree remaining →
    backend.txError = true
  worker : ∀ remaining, backend.worker = .raiseFree remaining → backend.txError = true

variable {state : TxState Sender} {backend child : TxBackend Sender} {sender : Sender}
  {call : TxCall}

section Calls

variable [DecidableEq Sender]

/-- A caller that moves changes its own standing. -/
theorem standing_call {tokens filled : Nat} {broken : Bool} {standing : Standing}
    (move : Move backend.ledger
      { tokens, filled, emptied := backend.ledger.emptied, broken
        standing := Function.update backend.ledger.standing sender standing })
    (calls : child.calls = Function.update backend.calls sender call)
    (worker : child.worker = backend.worker) (freeSem : child.freeSem = tokens)
    (queued : child.queued = filled) (txError : child.txError = broken)
    (enters : call.standing = standing) : Move backend.ledger child.ledger := by
  have standings : child.ledger.standing =
      Function.update backend.ledger.standing sender standing := by
    change TxCall.standing ∘ child.calls = _
    rw [calls, Function.comp_update, enters]
    rfl
  have same : child.ledger =
      { tokens, filled, emptied := backend.ledger.emptied, broken
        standing := Function.update backend.ledger.standing sender standing } :=
    Ledger.ext freeSem queued (congrArg TxWorker.unreturned worker) txError standings
  rw [same]
  exact move

theorem still_call (calls : child.calls = Function.update backend.calls sender call)
    (worker : child.worker = backend.worker) (freeSem : child.freeSem = backend.freeSem)
    (queued : child.queued = backend.queued) (txError : child.txError = backend.txError)
    (before : (backend.calls sender).standing = call.standing) :
    Move backend.ledger child.ledger := by
  have still : Move backend.ledger { backend.ledger with
      standing := Function.update backend.ledger.standing sender call.standing } := .still before
  exact standing_call still calls worker freeSem queued txError rfl

theorem stepCall_ledger (inv : TxInv state) (raised : RaisedFirst state.child)
    (moved : stepCall state.child sender = some child) :
    Move state.child.ledger child.ledger := by
  have fits := inv.calls sender
  have standing : state.child.ledger.standing sender = (state.child.calls sender).standing := rfl
  unfold stepCall at moved
  cases at_ : state.child.calls sender with
  | idle => simp [at_] at moved
  | freeDown iov total =>
      simp only [at_] at moved standing
      split at moved
      next none => cases moved
      next some =>
        cases moved
        exact standing_call (.take sender standing some) rfl rfl rfl rfl rfl rfl
  | checkError iov total =>
      simp only [at_, Option.some.injEq] at moved standing
      subst moved
      cases txError : state.child.txError with
      | true => exact still_call rfl rfl rfl rfl rfl (by rw [at_]; rfl)
      | false =>
          exact standing_call (.letIn sender standing txError) rfl rfl rfl rfl rfl rfl
  | checkStop iov total =>
      simp only [at_, Option.some.injEq] at moved standing
      subst moved
      cases state.child.txStop with
      | true =>
          exact standing_call (.dismiss sender standing) rfl rfl rfl rfl rfl rfl
      | false => exact still_call rfl rfl rfl rfl rfl (by rw [at_]; rfl)
  | refund =>
      simp only [at_, Option.some.injEq] at moved standing
      subst moved
      exact standing_call (.giveBack sender standing) rfl rfl rfl rfl rfl rfl
  | lock iov total =>
      simp only [at_] at moved
      split at moved
      next free =>
        cases moved
        exact still_call rfl rfl rfl rfl rfl (by rw [at_]; rfl)
      next taken => cases moved
  | reserve iov total =>
      simp only [at_, Option.some.injEq] at moved standing
      subst moved
      split
      next full => exact standing_call (.dismiss sender standing) rfl rfl rfl rfl rfl rfl
      next room => exact still_call rfl rfl rfl rfl rfl (by rw [at_]; rfl)
  | fill iov total next =>
      simp only [at_, Option.some.injEq] at moved
      subst moved
      exact still_call rfl rfl rfl rfl rfl (by rw [at_]; rfl)
  | publish iov next =>
      simp only [at_, Option.some.injEq] at moved standing fits
      subst moved
      have pushed : CircularBuffer.used lunaNetChildTxQueueCount next state.child.tail =
          state.child.queued + 1 := by
        rw [fits.1]
        exact CircularBuffer.used_push inv.headLt inv.tailLt (fits.1 ▸ fits.2.1)
      exact standing_call (.put sender standing) rfl rfl rfl pushed rfl rfl
  | unlock =>
      simp only [at_, Option.some.injEq] at moved
      subst moved
      exact still_call rfl rfl rfl rfl rfl (by rw [at_]; rfl)
  | signalWork =>
      simp only [at_, Option.some.injEq] at moved
      subst moved
      exact still_call rfl rfl rfl rfl rfl (by rw [at_]; rfl)
  | fullUnlock =>
      simp only [at_, Option.some.injEq] at moved
      subst moved
      exact still_call rfl rfl rfl rfl rfl (by rw [at_]; rfl)
  | fullRefund =>
      simp only [at_, Option.some.injEq] at moved standing
      subst moved
      exact standing_call (.giveBack sender standing) rfl rfl rfl rfl rfl rfl
  | raiseError =>
      simp only [at_, Option.some.injEq] at moved standing
      subst moved
      exact standing_call (.failAt sender standing) rfl rfl rfl rfl rfl rfl
  | raiseFree remaining =>
      have broken := raised.calls sender remaining at_
      simp only [at_, Option.some.injEq] at moved standing
      cases remaining with
      | zero =>
          subst moved
          exact still_call rfl rfl rfl rfl rfl (by rw [at_]; rfl)
      | succ remaining =>
          subst moved
          exact standing_call (.floodAt sender standing broken) rfl rfl rfl rfl rfl rfl

end Calls
section Worker

theorem workerLock_eq {worker : TxWorker} (moved : backend.workerLock worker = some child) :
    child = { backend with mutex := some .worker, worker } := by
  unfold TxBackend.workerLock at moved
  split at moved
  next free => exact (Option.some.inj moved).symm
  next taken => cases moved

/-- The ring is not empty when the worker pops. -/
theorem TxInv.pop_queued (inv : TxInv state) {accepted index : Nat}
    (at_ : state.child.worker = .pop accepted index) : state.child.queued ≠ 0 := by
  have fits := inv.worker
  rw [at_] at fits
  obtain ⟨below, filled⟩ := fits
  omega

/-- A pop takes one packet out of the ring. -/
theorem TxInv.queued_pop (inv : TxInv state) (some : state.child.queued ≠ 0) :
    CircularBuffer.used lunaNetChildTxQueueCount state.child.head
      ((state.child.tail + 1) % lunaNetChildTxQueueCount) = state.child.queued - 1 := by
  have apart : state.child.head ≠ state.child.tail := fun equal =>
    some ((CircularBuffer.used_eq_zero_iff inv.headLt inv.tailLt).mpr equal)
  have shorter := CircularBuffer.used_pop inv.headLt inv.tailLt apart
  unfold TxBackend.queued
  omega

variable [DecidableEq Sender]

theorem unreturned_worker {tokens filled emptied : Nat} {broken : Bool}
    (move : Move backend.ledger
      { tokens, filled, emptied, broken, standing := backend.ledger.standing })
    (calls : child.calls = backend.calls) (freeSem : child.freeSem = tokens)
    (queued : child.queued = filled) (unreturned : child.worker.unreturned = emptied)
    (txError : child.txError = broken) : Move backend.ledger child.ledger := by
  have standings : child.ledger.standing = backend.ledger.standing := by
    change TxCall.standing ∘ child.calls = _
    rw [calls]
    rfl
  have same : child.ledger =
      { tokens, filled, emptied, broken, standing := backend.ledger.standing } :=
    Ledger.ext freeSem queued unreturned txError standings
  rw [same]
  exact move

theorem still_worker (calls : child.calls = backend.calls)
    (freeSem : child.freeSem = backend.freeSem) (queued : child.queued = backend.queued)
    (unreturned : child.worker.unreturned = backend.worker.unreturned)
    (txError : child.txError = backend.txError) : Move backend.ledger child.ledger := by
  have standing : Move backend.ledger backend.ledger := .stay
  exact unreturned_worker standing calls freeSem queued unreturned txError

theorem lock_still {worker : TxWorker} {target : TxState Sender}
    (moved : (state.child.workerLock worker).map (fun child => { state with child }) =
      some target) (unreturned : worker.unreturned = state.child.worker.unreturned) :
    Move state.child.ledger target.child.ledger := by
  obtain ⟨child, locked, rfl⟩ := Option.map_eq_some_iff.mp moved
  rw [workerLock_eq locked]
  exact still_worker rfl rfl rfl unreturned rfl

theorem stepWorker_ledger (inv : TxInv state) (raised : RaisedFirst state.child)
    {target : TxState Sender} (moved : stepWorker state = some target) :
    Move state.child.ledger target.child.ledger := by
  have fits := inv.worker
  unfold stepWorker at moved
  cases at_ : state.child.worker <;> simp only [at_] at moved fits
  case pop accepted index =>
    cases moved
    have some := inv.pop_queued at_
    obtain ⟨below, _⟩ := fits
    have unreturned : state.child.ledger.emptied = index :=
      congrArg TxWorker.unreturned at_
    refine unreturned_worker (.remove some) rfl rfl (inv.queued_pop some) ?_ rfl
    rw [unreturned]
    split
    next more => rfl
    next done =>
      simp only [TxWorker.unreturned]
      omega
  case freeUp remaining empty =>
    cases remaining with
    | zero =>
        cases moved
        exact still_worker rfl rfl rfl (by rw [at_]; rfl) rfl
    | succ remaining =>
        cases moved
        have unreturned : state.child.ledger.emptied = remaining + 1 :=
          congrArg TxWorker.unreturned at_
        refine unreturned_worker (.restore ?_) rfl rfl rfl ?_ rfl
        · rw [unreturned]
          exact Nat.succ_ne_zero _
        · rw [unreturned]
          rfl
  case raiseError =>
    cases moved
    have unreturned : state.child.ledger.emptied = 0 := congrArg TxWorker.unreturned at_
    exact unreturned_worker .fail rfl rfl rfl unreturned.symm rfl
  case raiseFree remaining =>
    have broken := raised.worker remaining at_
    have unreturned : state.child.ledger.emptied = 0 := congrArg TxWorker.unreturned at_
    cases remaining with
    | zero =>
        cases moved
        exact still_worker rfl rfl rfl (by rw [at_]; rfl) rfl
    | succ remaining =>
        cases moved
        exact unreturned_worker (.flood broken) rfl rfl rfl unreturned.symm rfl
  case workDown | recountDown =>
    split at moved
    · cases moved
    · cases moved
      exact still_worker rfl rfl rfl (by rw [at_]; rfl) rfl
  case waitNtfn =>
    split at moved
    · cases moved
      exact still_worker rfl rfl rfl (by rw [at_]; rfl) rfl
    · cases moved
  case countLock | recountLock | stageLock | popLock =>
    exact lock_still moved (by rw [at_]; rfl)
  case checkStop | countUnlock | recountUnlock | checkExpired | recountStop | stageStart
      | stageData | stageUnlock | loadResponse | loadAccepted =>
    cases moved
    refine still_worker rfl rfl rfl ?_ rfl
    rw [at_]
    repeat' split
    all_goals rfl
  case stopped => cases moved
  all_goals
    cases moved
    exact still_worker rfl rfl rfl (by rw [at_]; rfl) rfl

end Worker

/-! ## Errors -/

section Errors

theorem raised_worker (raised : RaisedFirst backend) (calls : child.calls = backend.calls)
    (keeps : backend.txError = true → child.txError = true)
    (enters : ∀ remaining, child.worker = .raiseFree remaining → child.txError = true) :
    RaisedFirst child := by
  refine ⟨fun other remaining at_ => ?_, enters⟩
  rw [calls] at at_
  exact keeps (raised.calls other remaining at_)

theorem stepWorker_raised (raised : RaisedFirst state.child) {target : TxState Sender}
    (moved : stepWorker state = some target) : RaisedFirst target.child := by
  unfold stepWorker at moved
  cases at_ : state.child.worker <;> simp only [at_, reduceCtorEq] at moved
  case raiseError =>
    cases moved
    exact raised_worker raised rfl (fun _ => rfl) (fun _ _ => rfl)
  case raiseFree remaining =>
    have broken := raised.worker remaining at_
    cases remaining with
    | zero =>
        cases moved
        exact raised_worker raised rfl id (by simp)
    | succ remaining =>
        cases moved
        exact raised_worker raised rfl id (fun _ _ => broken)
  case freeUp remaining empty =>
    cases remaining with
    | zero =>
        cases moved
        exact raised_worker raised rfl id (by simp)
    | succ remaining =>
        cases moved
        exact raised_worker raised rfl id (by simp)
  case workDown | recountDown =>
    split at moved
    · cases moved
    · cases moved
      exact raised_worker raised rfl id (by simp)
  case waitNtfn =>
    split at moved
    · cases moved
      exact raised_worker raised rfl id (by simp)
    · cases moved
  case countLock | recountLock | stageLock | popLock =>
    obtain ⟨child, locked, rfl⟩ := Option.map_eq_some_iff.mp moved
    rw [workerLock_eq locked]
    exact raised_worker raised rfl id (by simp)
  case checkStop | recountUnlock | checkExpired | recountStop | stageStart | stageUnlock
      | loadResponse | pop | stageData =>
    cases moved
    refine raised_worker raised rfl id ?_
    simp only
    split <;> simp
  case countUnlock | loadAccepted =>
    cases moved
    refine raised_worker raised rfl id ?_
    simp only
    split
    · simp
    · split <;> simp
  all_goals
    cases moved
    exact raised_worker raised rfl id (by simp)

variable [DecidableEq Sender]

theorem raised_call (raised : RaisedFirst backend)
    (calls : child.calls = Function.update backend.calls sender call)
    (worker : child.worker = backend.worker)
    (keeps : backend.txError = true → child.txError = true)
    (enters : ∀ remaining, call = .raiseFree remaining → child.txError = true) :
    RaisedFirst child := by
  refine ⟨fun other remaining at_ => ?_, fun remaining at_ => ?_⟩
  · rw [calls] at at_
    by_cases here : other = sender
    · subst here
      rw [Function.update_self] at at_
      exact enters remaining at_
    · rw [Function.update_of_ne here] at at_
      exact keeps (raised.calls other remaining at_)
  · rw [worker] at at_
    exact keeps (raised.worker remaining at_)

theorem stepCall_raised (raised : RaisedFirst backend)
    (moved : stepCall backend sender = some child) : RaisedFirst child := by
  unfold stepCall at moved
  cases at_ : backend.calls sender <;> simp only [at_, Option.some.injEq, reduceCtorEq] at moved
  case freeDown iov total =>
    split at moved
    next none => cases moved
    next some =>
      cases moved
      exact raised_call raised rfl rfl id (by simp)
  case lock iov total =>
    split at moved
    next free =>
      cases moved
      exact raised_call raised rfl rfl id (by simp)
    next taken => cases moved
  case checkError | checkStop | reserve =>
    subst moved
    refine raised_call raised rfl rfl id ?_
    split <;> simp
  case raiseError =>
    subst moved
    exact raised_call raised rfl rfl (fun _ => rfl) (fun _ _ => rfl)
  case raiseFree remaining =>
    have broken := raised.calls sender remaining at_
    cases remaining with
    | zero =>
        subst moved
        exact raised_call raised rfl rfl id (by simp)
    | succ remaining =>
        subst moved
        exact raised_call raised rfl rfl id (fun _ _ => broken)
  all_goals
    subst moved
    exact raised_call raised rfl rfl id (by simp)

end Errors

/-! ## Runs -/

section Runs

variable [DecidableEq Sender]

theorem stepCoalesce_ledger {slept : Bool} (moved : stepCoalesce backend slept = some child) :
    Move backend.ledger child.ledger := by
  unfold stepCoalesce at moved
  cases at_ : backend.coalesce <;> simp only [at_, reduceCtorEq] at moved
  case down =>
    split at moved
    next none => cases moved
    next some =>
      cases moved
      exact still_worker rfl rfl rfl rfl rfl
  case fail =>
    cases moved
    exact unreturned_worker .fail rfl rfl rfl rfl rfl
  all_goals
    cases moved
    exact still_worker rfl rfl rfl rfl rfl

omit [DecidableEq Sender] in
theorem stepCoalesce_raised (raised : RaisedFirst backend) {slept : Bool}
    (moved : stepCoalesce backend slept = some child) : RaisedFirst child := by
  unfold stepCoalesce at moved
  cases at_ : backend.coalesce <;> simp only [at_, reduceCtorEq] at moved
  case down =>
    split at moved
    next none => cases moved
    next some =>
      cases moved
      exact ⟨raised.calls, raised.worker⟩
  case fail =>
    cases moved
    exact ⟨fun _ _ _ => rfl, fun _ _ => rfl⟩
  all_goals
    cases moved
    exact ⟨raised.calls, raised.worker⟩

theorem txNext_ledger (inv : TxInv state) (raised : RaisedFirst state.child)
    {action : TxAction Sender} {target : TxState Sender}
    (moved : txNext state action = some target) :
    Move state.child.ledger target.child.ledger ∧ RaisedFirst target.child := by
  cases action with
  | send sender iov =>
      simp only [txNext] at moved
      split at moved
      next idle =>
        split at moved
        next total checked =>
          cases moved
          exact ⟨still_call rfl rfl rfl rfl rfl (by rw [idle]; rfl),
            raised_call raised rfl rfl id (by simp)⟩
        next => cases moved
      next => cases moved
  | call sender =>
      obtain ⟨child, stepped, rfl⟩ := Option.map_eq_some_iff.mp moved
      exact ⟨stepCall_ledger inv raised stepped, stepCall_raised raised stepped⟩
  | worker => exact ⟨stepWorker_ledger inv raised moved, stepWorker_raised raised moved⟩
  | coalesce slept =>
      obtain ⟨child, stepped, rfl⟩ := Option.map_eq_some_iff.mp moved
      exact ⟨stepCoalesce_ledger stepped, stepCoalesce_raised raised stepped⟩
  | stop =>
      cases moved
      exact ⟨still_worker rfl rfl rfl rfl rfl, ⟨raised.calls, raised.worker⟩⟩
  | notification | timeoutRetry =>
      simp only [txNext] at moved
      split at moved
      · cases moved
        exact ⟨.stay, raised⟩
      · cases moved
  | poll =>
      obtain ⟨⟨later, thread⟩, stepped, rfl⟩ := Option.map_eq_some_iff.mp moved
      exact ⟨.stay, raised⟩
  | drain tail =>
      simp only [txNext] at moved
      split at moved
      · cases moved
        exact ⟨.stay, raised⟩
      · cases moved
  | environment stressGate childActive signalled =>
      cases moved
      exact ⟨.stay, raised⟩

variable [Fintype Sender]

structure SlotsInv (state : TxState Sender) : Prop where
  inv : TxInv state
  raised : RaisedFirst state.child
  balanced : Balanced (lunaNetChildTxQueueCount - 1) state.child.ledger

omit [DecidableEq Sender] in
theorem TxAdded.slotsInv (added : TxAdded state) : SlotsInv state := by
  obtain ⟨head, tail, _, _, calls, worker, _⟩ := added.initial
  refine ⟨txInitial_inv state added.initial, ⟨fun sender remaining at_ => ?_, fun remaining at_ => ?_⟩,
    Balanced.fresh added.freeSem ?_ ?_ fun sender => ?_⟩
  · simp [calls sender] at at_
  · simp [worker] at at_
  · simp [TxBackend.ledger, TxBackend.queued, head, tail, CircularBuffer.used]
  · simp [TxBackend.ledger, worker, TxWorker.unreturned]
  · simp [TxBackend.ledger, calls sender, TxCall.standing]

theorem SlotsInv.next {target : TxState Sender} {action : TxAction Sender}
    (slots : SlotsInv state) (moved : txNext state action = some target) : SlotsInv target := by
  obtain ⟨move, raised⟩ := txNext_ledger slots.inv slots.raised moved
  exact ⟨txNext_inv state action target slots.inv moved, raised, move.balanced slots.balanced⟩

theorem slotsInv_of_reachable (reached : txAddedSystem.Reachable state) : SlotsInv state :=
  System.Reachable.invariant SlotsInv (fun _ => TxAdded.slotsInv)
    (fun _ _ _ slots moved => slots.next moved) reached

/-- Until `tx_error` is stored every slot is free, queued, claimed by a caller or popped and
owed to the semaphore; and a caller that took a token never finds the ring full. -/
theorem free_slots_accounted (state : TxState Sender)
    (reached : txAddedSystem.Reachable state) :
    (state.child.txError = false →
      state.child.freeSem + state.child.queued + state.child.holders +
        state.child.worker.unreturned = lunaNetChildTxQueueCount - 1) ∧
    ∀ sender iov total, state.child.calls sender = .reserve iov total →
      (state.child.head + 1) % lunaNetChildTxQueueCount ≠ state.child.tail := by
  obtain ⟨inv, _, balanced⟩ := slotsInv_of_reachable reached
  refine ⟨balanced.accounted, fun sender iov total at_ full => ?_⟩
  have admitted : state.child.ledger.standing sender = .admitted :=
    congrArg TxCall.standing at_
  have room := balanced.finds_room admitted
  have used := (CircularBuffer.succ_mod_eq_tail_iff inv.headLt inv.tailLt).mp full
  simp only [TxBackend.ledger, TxBackend.queued, used] at room
  exact Nat.lt_irrefl _ room

/-- One packet is in the ring, and its slot is the one the semaphore does not count. -/
theorem free_slots_accounted_one_packet : ∃ state : TxState Unit,
    txAddedSystem.Reachable state ∧ state.child.queued = 1 ∧ state.child.freeSem = 62 ∧
      state.child.freeSem + state.child.queued + state.child.holders +
        state.child.worker.unreturned = 63 := by
  have run : ∃ state : TxState Unit, txAddedSystem.Reachable state ∧
      decide (state.child.queued = 1 ∧ state.child.freeSem = 62 ∧
        state.child.txError = false) = true :=
    System.exists_reach_of_exec _ (fun _ _ => True) txStart txOnePacket _
      ⟨by simp [TxInitial, txStart], rfl, rfl, rfl, rfl, rfl, rfl, rfl⟩ (by decide +kernel)
  obtain ⟨state, reached, ends⟩ := run
  obtain ⟨queued, freeSem, intact⟩ := of_decide_eq_true ends
  exact ⟨state, reached, queued, freeSem, (free_slots_accounted state reached).1 intact⟩

end Runs

end Luna.Net
