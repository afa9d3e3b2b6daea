import Luna.Net.TxSlots

/-!
# Wakeups of the child's transmit worker

The worker sleeps on `tx_work_sem` when it has seen an empty queue, or while it waits for
the coalescing timer of a generation.  In the first case whoever fills the queue signals
later; in the second the coalescing thread still owes the expiry of that generation, or has
published it.
-/

namespace Luna.Net

open Interleaving

variable {Sender : Type}

/-- No stop request is made and `lkl_sys_nanosleep` succeeds. -/
def TxAction.calm : TxAction Sender → Bool
  | .stop | .coalesce false => false
  | _ => true

/-- The caller has enqueued and not yet signalled. -/
def TxCall.owesSignal : TxCall → Bool
  | .unlock | .signalWork => true
  | _ => false

/-- The worker is at a `sem_down` on `tx_work_sem`. -/
def TxWorker.atWorkSem : TxWorker → Bool
  | .workDown | .recountDown _ => true
  | _ => false

/-- The worker goes back to sleep because the queue was empty when it last looked. -/
def TxWorker.sawEmpty : TxWorker → Bool
  | .workDown | .countUnlock 0 | .stageCount 0 | .stageUnlock 0 | .freeUp _ true
  | .finish true => true
  | _ => false

/-- The generation of the coalescing round the worker is in. -/
def TxWorker.generation : TxWorker → Option Nat
  | .clearExpired generation | .signalCoalesce generation | .recountLock generation
  | .recountRead generation | .recountUnlock generation _ | .bypass generation
  | .checkExpired generation | .recountDown generation | .recountStop generation =>
      some generation
  | _ => none

/-- The worker has started the timer of its round. -/
def TxWorker.awaitsTimer : TxWorker → Bool
  | .recountLock _ | .recountRead _ | .recountUnlock _ _ | .checkExpired _ | .recountDown _
  | .recountStop _ => true
  | _ => false

/-- The coalescing thread has taken a token and not yet read the generation, sleeps on this
one, or is about to publish it. -/
def CoalesceWorker.carries (generation : Nat) : CoalesceWorker → Prop
  | .checkStop | .loadGeneration => True
  | .sleep loaded | .compare loaded | .storeExpired loaded => loaded = generation
  | _ => False

def CoalesceWorker.running : CoalesceWorker → Bool
  | .fail | .failSignal | .stopped => false
  | _ => true

variable (child : TxBackend Sender)

def TxBackend.Woken : Prop :=
  child.workSem ≠ 0 ∨ ∃ sender, (child.calls sender).owesSignal = true

/-- The expiry of the current generation is still to come, or its signal is. -/
structure TimerComing (generation : Nat) : Prop where
  current : child.coalesceGeneration = generation
  running : child.coalesce.running = true
  coming : child.coalesceSem ≠ 0 ∨ child.coalesce.carries generation ∨
    (child.coalesce = .signalWork ∧ child.coalesceExpired = generation)

/-- The expiry is published; a worker that did not see it has been signalled, or will be. -/
def Expired (generation : Nat) : Prop :=
  child.coalesceExpired = generation ∧ (child.coalesce = .signalWork ∨
    child.coalesce = .down ∧ (child.worker = .recountDown generation → child.workSem ≠ 0))

structure CoalesceInv : Prop where
  coalesceStop : child.coalesceStop = false
  running : child.coalesce.running = true
  woken : child.worker.sawEmpty = true → child.head ≠ child.tail → child.Woken
  generation : ∀ generation, child.worker.generation = some generation →
    child.coalesceGeneration = generation
  timer : ∀ generation, child.worker.generation = some generation →
    child.worker.awaitsTimer = true →
      child.coalesceSem ≠ 0 ∨ child.coalesce.carries generation ∨ Expired child generation

variable {child} {after : TxBackend Sender}

theorem signalOnce_ne_zero (count : Nat) : signalOnce count ≠ 0 := by
  unfold signalOnce
  split <;> omega

theorem TxAdded.wakes {state : TxState Sender} (added : TxAdded state) : CoalesceInv state.child := by
  obtain ⟨head, tail, _, _, _, worker, _⟩ := added.initial
  refine ⟨added.coalesceStop, ?_, fun _ apart => ?_, fun generation at_ => ?_,
    fun generation at_ _ => ?_⟩
  · rw [added.coalesce]
    rfl
  · exact absurd (head.trans tail.symm) apart
  · simp [worker, TxWorker.generation] at at_
  · simp [worker, TxWorker.generation] at at_

/-! ## Steps of the senders -/

section Senders

variable [DecidableEq Sender] {sender : Sender} {call : TxCall}

/-- A caller that had to signal has signalled or still has to. -/
theorem TxBackend.Woken.enter {workSem : Nat}
    (keeps : child.workSem ≠ 0 → workSem ≠ 0)
    (owes : (child.calls sender).owesSignal = true → call.owesSignal = true ∨ workSem ≠ 0)
    (calls : after.calls = Function.update child.calls sender call)
    (work : after.workSem = workSem) (woken : child.Woken) : after.Woken := by
  subst work
  rcases woken with signalled | ⟨other, pending⟩
  · exact .inl (keeps signalled)
  · by_cases here : other = sender
    · subst here
      rcases owes pending with still | signalled
      · exact .inr ⟨other, by rw [calls, Function.update_self, still]⟩
      · exact .inl signalled
    · exact .inr ⟨other, by rw [calls, Function.update_of_ne here, pending]⟩

/-- A caller moves; if it enqueues a packet it has to signal. -/
theorem CoalesceInv.enter (wakes : CoalesceInv child) {workSem freeSem head : Nat} {txError : Bool}
    {mutex : Option (TxHolder Sender)} {queue : Nat → Packet} {enqueued : List (List UInt8)}
    (keeps : child.workSem ≠ 0 → workSem ≠ 0)
    (owes : (child.calls sender).owesSignal = true → call.owesSignal = true ∨ workSem ≠ 0)
    (enqueues : head = child.head ∨ call.owesSignal = true) :
    CoalesceInv { child.enter sender call with
      workSem, freeSem, head, txError, mutex, queue, enqueued } := by
  refine ⟨wakes.coalesceStop, wakes.running, fun sawEmpty apart => ?_, wakes.generation,
    fun generation at_ awaits => ?_⟩
  · rcases enqueues with same | pending
    · subst same
      exact (wakes.woken sawEmpty apart).enter keeps owes rfl rfl
    · exact .inr ⟨sender, by simp [TxBackend.enter, pending]⟩
  · refine (wakes.timer generation at_ awaits).imp_right (Or.imp_right ?_)
    rintro ⟨published, signal | ⟨down, asleep⟩⟩
    · exact ⟨published, .inl signal⟩
    · exact ⟨published, .inr ⟨down, fun blocked => keeps (asleep blocked)⟩⟩

theorem stepCall_wakes (wakes : CoalesceInv child) (moved : stepCall child sender = some after) :
    CoalesceInv after := by
  unfold stepCall at moved
  cases at_ : child.calls sender <;> simp only [at_, Option.some.injEq, reduceCtorEq] at moved
  case freeDown iov total =>
    split at moved
    next none => cases moved
    next some =>
      cases moved
      exact wakes.enter id (by simp [at_, TxCall.owesSignal]) (.inl rfl)
  case lock iov total =>
    split at moved
    next free =>
      cases moved
      exact wakes.enter id (by simp [at_, TxCall.owesSignal]) (.inl rfl)
    next taken => cases moved
  case publish iov next =>
    subst moved
    exact wakes.enter id (by simp [at_, TxCall.owesSignal]) (.inr rfl)
  case unlock =>
    subst moved
    exact wakes.enter id (fun _ => .inl rfl) (.inl rfl)
  case signalWork =>
    subst moved
    exact wakes.enter (fun _ => signalOnce_ne_zero _) (fun _ => .inr (signalOnce_ne_zero _)) (.inl rfl)
  case raiseFree remaining =>
    cases remaining with
    | zero =>
        subst moved
        exact wakes.enter id (by simp [at_, TxCall.owesSignal]) (.inl rfl)
    | succ remaining =>
        subst moved
        exact wakes.enter id (by simp [at_, TxCall.owesSignal]) (.inl rfl)
  all_goals
    subst moved
    exact wakes.enter id (by simp [at_, TxCall.owesSignal]) (.inl rfl)

end Senders

/-! ## Steps of the worker -/

section Worker

variable {state target : TxState Sender}

/-- The worker is neither about to sleep over an empty queue nor in a coalescing round. -/
def TxWorker.busy (worker : TxWorker) : Bool :=
  !worker.sawEmpty && worker.generation.isNone

theorem CoalesceInv.busy (wakes : CoalesceInv child)
    (coalesceStop : after.coalesceStop = child.coalesceStop)
    (coalesce : after.coalesce = child.coalesce) (busy : after.worker.busy = true) :
    CoalesceInv after := by
  simp only [TxWorker.busy, Bool.and_eq_true, Bool.not_eq_true', Option.isNone_iff_eq_none] at busy
  obtain ⟨notEmpty, noRound⟩ := busy
  refine ⟨coalesceStop.trans wakes.coalesceStop, ?_, ?_, ?_, ?_⟩
  · rw [coalesce]
    exact wakes.running
  · simp [notEmpty]
  · simp [noRound]
  · simp [noRound]

/-- The worker moves on over a queue it has found empty. -/
theorem CoalesceInv.sleepy (wakes : CoalesceInv child) {worker : TxWorker} {workSem freeSem : Nat}
    {mutex : Option (TxHolder Sender)}
    (before : child.head ≠ child.tail → child.worker.sawEmpty = true ∨ workSem ≠ 0)
    (keeps : child.workSem ≠ 0 → workSem ≠ 0)
    (noRound : worker.generation = none) :
    CoalesceInv { child with worker, workSem, freeSem, mutex } := by
  refine ⟨wakes.coalesceStop, wakes.running, fun _ apart => ?_, ?_, ?_⟩
  · rcases before apart with sawEmpty | signalled
    · exact (wakes.woken sawEmpty apart).imp_left keeps
    · exact .inl signalled
  · simp [noRound]
  · simp [noRound]

/-- The worker moves on within its round, after the timer was started. -/
theorem CoalesceInv.round (wakes : CoalesceInv child) {worker : TxWorker} {workSem generation : Nat}
    {mutex : Option (TxHolder Sender)}
    (before : child.worker.generation = some generation)
    (awaits : child.worker.awaitsTimer = true)
    (same : worker.generation = some generation)
    (sleeps : worker = .recountDown generation → child.coalesceExpired ≠ generation)
    (notEmpty : worker.sawEmpty = false) :
    CoalesceInv { child with worker, workSem, mutex } := by
  refine ⟨wakes.coalesceStop, wakes.running, by simp [notEmpty], fun other at_ => ?_,
    fun other at_ _ => ?_⟩
  · rw [same] at at_
    exact wakes.generation other (before.trans at_)
  · rw [same] at at_
    cases at_
    refine (wakes.timer generation before awaits).imp_right (Or.imp_right ?_)
    rintro ⟨published, signal | ⟨down, _⟩⟩
    · exact ⟨published, .inl signal⟩
    · exact ⟨published, .inr ⟨down, fun asleep => absurd published (sleeps asleep)⟩⟩

theorem lock_busy (wakes : CoalesceInv state.child) {worker : TxWorker} (busy : worker.busy = true)
    (moved : (state.child.workerLock worker).map (fun child => { state with child }) =
      some target) : CoalesceInv target.child := by
  obtain ⟨child, locked, rfl⟩ := Option.map_eq_some_iff.mp moved
  rw [workerLock_eq locked]
  exact wakes.busy rfl rfl busy

theorem stepWorker_wakes (inv : TxInv state) (wakes : CoalesceInv state.child)
    (moved : stepWorker state = some target) : CoalesceInv target.child := by
  have emptied (none : state.child.queued = 0) : state.child.head = state.child.tail :=
    (CircularBuffer.used_eq_zero_iff inv.headLt inv.tailLt).mp none
  unfold stepWorker at moved
  cases at_ : state.child.worker <;> simp only [at_, reduceCtorEq] at moved
  case workDown =>
    split at moved
    next blocked => cases moved
    next some =>
      cases moved
      exact wakes.busy rfl rfl rfl
  case checkStop =>
    cases moved
    refine wakes.busy rfl rfl ?_
    simp only
    split <;> rfl
  case countLock => exact lock_busy wakes rfl moved
  case countRead =>
    cases moved
    refine ⟨wakes.coalesceStop, wakes.running, fun sawEmpty apart => ?_, by simp [TxWorker.generation],
      by simp [TxWorker.generation]⟩
    cases count : state.child.queued with
    | zero => exact absurd (emptied count) apart
    | succ count' => simp [count, TxWorker.sawEmpty] at sawEmpty
  case countUnlock queued =>
    cases moved
    cases queued with
    | zero => exact wakes.sleepy (fun _ => .inl (by rw [at_]; rfl)) id rfl
    | succ queued =>
        refine wakes.busy rfl rfl ?_
        simp only [Nat.succ_ne_zero, if_false]
        split <;> rfl
  case bumpGeneration =>
    cases moved
    refine ⟨wakes.coalesceStop, wakes.running, by simp [TxWorker.sawEmpty], ?_, ?_⟩
    · rintro generation ⟨⟩
      rfl
    · intro generation _ awaits
      cases awaits
  case clearExpired generation =>
    cases moved
    refine ⟨wakes.coalesceStop, wakes.running, by simp [TxWorker.sawEmpty], ?_, ?_⟩
    · rintro other ⟨⟩
      exact wakes.generation generation (by rw [at_]; rfl)
    · intro other _ awaits
      cases awaits
  case signalCoalesce generation =>
    cases moved
    refine ⟨wakes.coalesceStop, wakes.running, by simp [TxWorker.sawEmpty], ?_, ?_⟩
    · rintro other ⟨⟩
      exact wakes.generation generation (by rw [at_]; rfl)
    · intro other _ _
      exact .inl (signalOnce_ne_zero _)
  case recountLock generation =>
    obtain ⟨child, locked, rfl⟩ := Option.map_eq_some_iff.mp moved
    rw [workerLock_eq locked]
    exact wakes.round (by rw [at_]; rfl) (by rw [at_]; rfl) rfl (by simp) rfl
  case recountRead generation =>
    cases moved
    exact wakes.round (by rw [at_]; rfl) (by rw [at_]; rfl) rfl (by simp) rfl
  case recountUnlock generation queued =>
    cases moved
    split
    next few => exact wakes.round (by rw [at_]; rfl) (by rw [at_]; rfl) rfl (by simp) rfl
    next full => exact wakes.round (by rw [at_]; rfl) (by rw [at_]; rfl) rfl (by simp) rfl
  case bypass generation =>
    cases moved
    exact wakes.busy rfl rfl rfl
  case checkExpired generation =>
    cases moved
    split
    next expired => exact wakes.busy rfl rfl rfl
    next pending =>
      exact wakes.round (by rw [at_]; rfl) (by rw [at_]; rfl) rfl (fun _ => pending) rfl
  case recountDown generation =>
    split at moved
    next blocked => cases moved
    next some =>
      cases moved
      exact wakes.round (by rw [at_]; rfl) (by rw [at_]; rfl) rfl (by simp) rfl
  case recountStop generation =>
    cases moved
    split
    next stopped => exact wakes.busy rfl rfl rfl
    next => exact wakes.round (by rw [at_]; rfl) (by rw [at_]; rfl) rfl (by simp) rfl
  case stageLock => exact lock_busy wakes rfl moved
  case stageStart =>
    cases moved
    split
    next empty => exact wakes.sleepy (fun apart => absurd empty.symm apart) id rfl
    next => exact wakes.busy rfl rfl rfl
  case stageData tail head count =>
    cases moved
    refine wakes.busy rfl rfl ?_
    simp only
    split <;> rfl
  case stageCount count =>
    cases moved
    cases count with
    | zero => exact wakes.sleepy (fun _ => .inl (by rw [at_]; rfl)) id rfl
    | succ count => exact wakes.busy rfl rfl rfl
  case stageUnlock count =>
    cases moved
    cases count with
    | zero => exact wakes.sleepy (fun _ => .inl (by rw [at_]; rfl)) id rfl
    | succ count => exact wakes.busy rfl rfl rfl
  case loadResponse | loadAccepted | pop =>
    cases moved
    refine wakes.busy rfl rfl ?_
    simp only
    repeat' split
    all_goals rfl
  case waitNtfn =>
    split at moved
    next notified =>
      cases moved
      exact wakes.busy rfl rfl rfl
    next blocked => cases moved
  case popLock accepted => exact lock_busy wakes rfl moved
  case popUnlock accepted =>
    cases moved
    by_cases empty : state.child.tail = state.child.head
    · exact wakes.sleepy (fun apart => absurd empty.symm apart) id rfl
    · exact wakes.busy rfl rfl (by simp only [empty]; rfl)
  case freeUp remaining empty =>
    cases remaining with
    | zero =>
        cases moved
        cases empty with
        | true => exact wakes.sleepy (fun _ => .inl (by rw [at_]; rfl)) id rfl
        | false => exact wakes.busy rfl rfl rfl
    | succ remaining =>
        cases moved
        cases empty with
        | true => exact wakes.sleepy (fun _ => .inl (by rw [at_]; rfl)) id rfl
        | false => exact wakes.busy rfl rfl rfl
  case finish empty =>
    cases moved
    cases empty with
    | true => exact wakes.sleepy (fun _ => .inl (by rw [at_]; rfl)) id rfl
    | false =>
        exact wakes.sleepy (fun _ => .inr (signalOnce_ne_zero _)) (fun _ => signalOnce_ne_zero _) rfl
  case raiseFree remaining =>
    cases remaining with
    | zero =>
        cases moved
        exact wakes.busy rfl rfl rfl
    | succ remaining =>
        cases moved
        exact wakes.busy rfl rfl rfl
  all_goals
    cases moved
    exact wakes.busy rfl rfl rfl

end Worker

/-! ## Steps of the coalescing thread -/

section Coalesce

/-- The coalescing thread moves; it may signal the worker. -/
theorem CoalesceInv.coalesce (wakes : CoalesceInv child) {coalesce : CoalesceWorker}
    {workSem coalesceSem coalesceExpired : Nat}
    (running : coalesce.running = true) (keeps : child.workSem ≠ 0 → workSem ≠ 0)
    (timer : ∀ generation, child.coalesceGeneration = generation →
      child.coalesceSem ≠ 0 ∨ child.coalesce.carries generation ∨ Expired child generation →
        coalesceSem ≠ 0 ∨ coalesce.carries generation ∨ Expired { child with
          coalesce, workSem, coalesceSem, coalesceExpired } generation) :
    CoalesceInv { child with coalesce, workSem, coalesceSem, coalesceExpired } := by
  refine ⟨wakes.coalesceStop, running, fun sawEmpty apart => ?_, wakes.generation,
    fun generation at_ awaits => ?_⟩
  · exact (wakes.woken sawEmpty apart).imp_left keeps
  · exact timer generation (wakes.generation generation at_) (wakes.timer generation at_ awaits)

theorem stepCoalesce_wakes (wakes : CoalesceInv child) (moved : stepCoalesce child true = some after) :
    CoalesceInv after := by
  have running := wakes.running
  unfold stepCoalesce at moved
  cases at_ : child.coalesce <;>
    simp only [at_, CoalesceWorker.running, reduceCtorEq] at moved running
  case down =>
    split at moved
    next none => cases moved
    next some =>
      cases moved
      exact wakes.coalesce rfl id fun _ _ _ => .inr (.inl trivial)
  case checkStop =>
    cases moved
    split
    next stopped => simp [wakes.coalesceStop] at stopped
    next => exact wakes.coalesce rfl id fun _ _ _ => .inr (.inl trivial)
  case loadGeneration =>
    cases moved
    exact wakes.coalesce rfl id fun _ current _ => .inr (.inl current)
  case sleep loaded =>
    cases moved
    refine wakes.coalesce rfl id fun generation current before => ?_
    rcases before with token | carries | ⟨_, signal | ⟨down, _⟩⟩
    · exact .inl token
    · rw [at_] at carries
      exact .inr (.inl carries)
    · simp [at_] at signal
    · simp [at_] at down
  case compare loaded =>
    cases moved
    by_cases current : child.coalesceGeneration = loaded
    · rw [if_pos current]
      exact wakes.coalesce rfl id fun generation same _ =>
        .inr (.inl (current.symm.trans same))
    · rw [if_neg current]
      refine wakes.coalesce rfl id fun generation same before => ?_
      rcases before with token | carries | ⟨_, signal | ⟨down, _⟩⟩
      · exact .inl token
      · rw [at_] at carries
        exact absurd (same.trans carries.symm) current
      · simp [at_] at signal
      · simp [at_] at down
  case storeExpired loaded =>
    cases moved
    refine wakes.coalesce rfl id fun generation current before => ?_
    rcases before with token | carries | ⟨_, signal | ⟨down, _⟩⟩
    · exact .inl token
    · rw [at_] at carries
      exact .inr (.inr ⟨carries, .inl rfl⟩)
    · simp [at_] at signal
    · simp [at_] at down
  case signalWork =>
    cases moved
    refine wakes.coalesce rfl (fun _ => signalOnce_ne_zero _) fun generation current before => ?_
    rcases before with token | carries | ⟨published, _⟩
    · exact .inl token
    · rw [at_] at carries
      exact carries.elim
    · exact .inr (.inr ⟨published, .inr ⟨rfl, fun _ => signalOnce_ne_zero _⟩⟩)

end Coalesce

/-! ## Runs -/

section Runs

variable [DecidableEq Sender] {state : TxState Sender}

theorem txNext_wakes (inv : TxInv state) (wakes : CoalesceInv state.child) {action : TxAction Sender}
    (calm : action.calm = true) {target : TxState Sender}
    (moved : txNext state action = some target) : CoalesceInv target.child := by
  cases action with
  | send sender iov =>
      simp only [txNext] at moved
      split at moved
      next idle =>
        split at moved
        next total checked =>
          cases moved
          exact wakes.enter id (by simp [idle, TxCall.owesSignal]) (.inl rfl)
        next => cases moved
      next => cases moved
  | call sender =>
      obtain ⟨child, stepped, rfl⟩ := Option.map_eq_some_iff.mp moved
      exact stepCall_wakes wakes stepped
  | worker => exact stepWorker_wakes inv wakes moved
  | coalesce slept =>
      cases slept with
      | false => cases calm
      | true =>
          obtain ⟨child, stepped, rfl⟩ := Option.map_eq_some_iff.mp moved
          exact stepCoalesce_wakes wakes stepped
  | stop => cases calm
  | notification | timeoutRetry =>
      simp only [txNext] at moved
      split at moved
      · cases moved
        exact wakes
      · cases moved
  | poll =>
      obtain ⟨⟨later, thread⟩, stepped, rfl⟩ := Option.map_eq_some_iff.mp moved
      exact wakes
  | drain tail =>
      simp only [txNext] at moved
      split at moved
      · cases moved
        exact wakes
      · cases moved
  | environment stressGate childActive signalled =>
      cases moved
      exact wakes

theorem wakes_of_reach
    (reached : txAddedSystem.Reach (fun _ (action : TxAction Sender) => action.calm = true) state) :
    TxInv state ∧ CoalesceInv state.child :=
  System.Reach.invariant (fun state => TxInv state ∧ CoalesceInv state.child)
    (fun state (added : TxAdded state) => ⟨txInitial_inv state added.initial, added.wakes⟩)
    (fun state action target both calm moved =>
      ⟨txNext_inv state action target both.1 moved, txNext_wakes both.1 both.2 calm moved⟩) reached

/-- A worker that sleeps over a queue that is not empty will be woken: it has been signalled,
a caller will signal it, or the timer of the round it waits in is still to come. -/
theorem coalescing_never_strands (state : TxState Sender)
    (reached : txAddedSystem.Reach (fun _ (action : TxAction Sender) => action.calm = true) state)
    (nonempty : state.child.head ≠ state.child.tail)
    (blocked : state.child.worker.atWorkSem = true) :
    state.child.workSem ≠ 0 ∨
      (∃ sender, (state.child.calls sender).owesSignal = true) ∨
      ∃ generation, state.child.worker = .recountDown generation ∧
        TimerComing state.child generation := by
  obtain ⟨_, wakes⟩ := wakes_of_reach reached
  cases at_ : state.child.worker <;>
    simp only [at_, TxWorker.atWorkSem, Bool.false_eq_true] at blocked
  case workDown =>
    rcases wakes.woken (by rw [at_]; rfl) nonempty with signalled | pending
    · exact .inl signalled
    · exact .inr (.inl pending)
  case recountDown generation =>
    by_cases signalled : state.child.workSem = 0
    · refine .inr (.inr ⟨generation, rfl, wakes.generation generation (by rw [at_]; rfl),
        wakes.running, ?_⟩)
      rcases wakes.timer generation (by rw [at_]; rfl) (by rw [at_]; rfl) with
        token | carries | ⟨published, signal | ⟨_, asleep⟩⟩
      · exact .inl token
      · exact .inr (.inl carries)
      · exact .inr (.inr ⟨signal, published⟩)
      · exact absurd signalled (asleep at_)
    · exact .inl signalled

/-- The worker sleeps in the first round with one packet queued; the coalescing thread has
a token. -/
theorem coalescing_never_strands_first_round : ∃ state : TxState Unit,
    txAddedSystem.Reach (fun _ (action : TxAction Unit) => action.calm = true) state ∧
      state.child.worker = .recountDown 1 ∧ state.child.workSem = 0 ∧
      (state.child.workSem ≠ 0 ∨
        (∃ sender, (state.child.calls sender).owesSignal = true) ∨
        ∃ generation, state.child.worker = .recountDown generation ∧
          TimerComing state.child generation) := by
  have run : ∃ state : TxState Unit,
      txAddedSystem.Reach (fun _ (action : TxAction Unit) => action.calm = true) state ∧
        decide (state.child.worker = .recountDown 1 ∧ state.child.workSem = 0 ∧
          state.child.head ≠ state.child.tail) = true :=
    System.exists_reach_of_exec _ _ txStart
      (.send () [some [7]] :: List.replicate 9 (.call ()) ++ List.replicate 12 .worker) _
      ⟨by simp [TxInitial, txStart], rfl, rfl, rfl, rfl, rfl, rfl, rfl⟩ (by decide +kernel)
  obtain ⟨state, reached, ends⟩ := run
  obtain ⟨asleep, noToken, nonempty⟩ := of_decide_eq_true ends
  exact ⟨state, reached, asleep, noToken,
    coalescing_never_strands state reached nonempty (by rw [asleep]; rfl)⟩

end Runs

end Luna.Net
