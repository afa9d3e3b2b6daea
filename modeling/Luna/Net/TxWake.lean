import Luna.Net.PollLoop
import Luna.Net.TxHandshake
import Luna.Net.TxOrder

/-!
# A pending TX response has a wake source

While the poll thread sleeps, an unanswered request is announced by a badge that
is pending, by a child that is about to signal, or by the recheck timer.  The
invariant follows the poll thread through its loop: wherever it can still look at
the header (`looks`) nothing else is needed, and a request sequence it loaded
earlier is either still the one in the header or was replaced by a child whose
signal has not been taken yet (`Fresh`).
-/

namespace Luna.Net

open Interleaving
open TimerManager (Answers Hardware Message Timer Wakes)

variable {Sender Ntfn : Type}

/-! ## What is claimed -/

/-- The child has stored a request sequence and not signalled it. -/
def TxWorker.unsignalled : TxWorker → Bool
  | .submitSignal _ _ => true
  | _ => false

/-- `handle_timer_irq` took the network deadline and has not signalled it. -/
def TimerIrqThread.firing : TimerIrqThread Ntfn → Bool
  | .waitIrq => false
  | .signalChild wakes => wakes.network
  | .signalNetwork network => network

/-- The header shows a request that has no response. -/
def LoopState.Unanswered (state : LoopState Sender Ntfn) : Prop :=
  state.header.txRequestSequence ≠ state.header.txResponseSequence

/-- A signal to the poll thread that it has not taken yet. -/
def LoopState.Fresh (state : LoopState Sender Ntfn) : Prop :=
  state.kicked = true ∨ state.child.worker.unsignalled = true

/-- Something will wake the poll thread. -/
def LoopState.WakeSource (state : LoopState Sender Ntfn) : Prop :=
  state.Fresh ∨ state.timer.networkArmed = true ∨ state.timerIrq.firing = true

/-- While the poll thread is blocked an unanswered request has a wake source, and
only the timeout path has answered that nothing was accepted. -/
structure ResponsesWake (state : LoopState Sender Ntfn) : Prop where
  wakes : state.loop = .wait → state.Unanswered → state.WakeSource
  zero : ∀ reply ∈ state.replies, reply.accepted = 0 → reply.timeout = true

/-- The manager before its first child. -/
structure LoopInitial (state : LoopState Sender Ntfn) : Prop where
  worker : state.child.worker = .workDown
  request : state.header.txRequestSequence = 0
  response : state.header.txResponseSequence = 0
  main : state.ring.main = .idle
  poll : state.ring.poll = .service .idle
  timer : state.timer = Timer.cleared Ntfn
  loop : state.loop = .wait
  netIrq : state.netIrq = .waitIrq
  timerIrq : state.timerIrq = .waitIrq
  replies : state.replies = []

def loopSystem (Sender Ntfn : Type) [DecidableEq Sender] [DecidableEq Ntfn] (hardware : Hardware) :
    System (LoopState Sender Ntfn) (LoopAction Sender Ntfn) :=
  ⟨LoopInitial, loopNext hardware⟩

/-- The PIT driver succeeds. -/
def PitSucceeds (_ : LoopState Sender Ntfn) : LoopAction Sender Ntfn → Prop
  | .timerService _ answers | .poll _ answers | .timerInterrupt answers =>
      answers.pitSucceeds = true
  | _ => True

instance (state : LoopState Sender Ntfn) (action : LoopAction Sender Ntfn) :
    Decidable (PitSucceeds state action) := by
  unfold PitSucceeds
  split <;> infer_instance

/-! ## The child -/

/-- What a step of the child does to the sequences it shares with the poll thread. -/
structure ChildSpec (child : TxBackend Sender) (shared : TxShared) (after : TxBackend Sender)
    (written : TxShared) : Prop where
  response : written.header.txResponseSequence = shared.header.txResponseSequence
  accepted : written.header.txAccepted = shared.header.txAccepted
  active : written.childActive = shared.childActive
  kick : shared.pollKick = true → written.pollKick = true
  signalled : child.worker.unsignalled = true →
    after.worker.unsignalled = true ∨ written.pollKick = true
  request : written.header.txRequestSequence = shared.header.txRequestSequence ∨
    ∃ count, child.worker = .storeRequest count written.header.txRequestSequence ∧
      after.worker = .submitSignal count written.header.txRequestSequence
  sequence : ∀ count next, after.worker = .storeRequest count next →
    next ≠ 0 ∨ child.worker = .storeRequest count next
  awaits : ∀ entry, after.worker.awaits = some entry →
    child.worker.awaits = some entry ∨ child.worker = .storeRequest entry.1 entry.2
  settled : ∀ entry, child.worker.awaits = some entry →
    after.worker.awaits = some entry ∨ shared.header.txResponseSequence = entry.2

section Child

variable {child after : TxBackend Sender} {shared written : TxShared}

/-- The worker stands still, and so does what it shares. -/
theorem ChildSpec.still (same : after.worker = child.worker) :
    ChildSpec child shared after shared where
  response := rfl
  accepted := rfl
  active := rfl
  kick := id
  signalled unsignalled := .inl (by rwa [same])
  request := .inl rfl
  sequence count next stands := .inr (by rwa [← same])
  awaits entry stands := .inl (by rwa [← same])
  settled entry stands := .inl (by rwa [same])

/-- Program points of the worker away from a submission. -/
def TxWorker.away : TxWorker → Bool
  | .storeRequest _ _ | .submitSignal _ _ | .loadResponse _ _ | .waitNtfn _ _ => false
  | _ => true

theorem TxWorker.away_awaits {worker : TxWorker} (away : worker.away = true) :
    worker.awaits = none ∧ worker.unsignalled = false := by
  cases worker <;> first | exact ⟨rfl, rfl⟩ | cases away

/-- The worker moves away from a submission. -/
theorem ChildSpec.away (before : child.worker.away = true) (next : after.worker.away = true)
    (same : written.header.txRequestSequence = shared.header.txRequestSequence)
    (response : written.header.txResponseSequence = shared.header.txResponseSequence)
    (accepted : written.header.txAccepted = shared.header.txAccepted)
    (active : written.childActive = shared.childActive)
    (kick : written.pollKick = shared.pollKick) : ChildSpec child shared after written where
  response := response
  accepted := accepted
  active := active
  kick := kick.trans
  signalled unsignalled := by
    rw [(TxWorker.away_awaits before).2] at unsignalled
    cases unsignalled
  request := .inl same
  sequence count sequence stands := by
    rw [stands] at next
    cases next
  awaits entry stands := by
    rw [(TxWorker.away_awaits next).1] at stands
    cases stands
  settled entry stands := by
    rw [(TxWorker.away_awaits before).1] at stands
    cases stands

/-- The worker goes on with the submission it waits for. -/
theorem ChildSpec.waits {count sequence : Nat}
    (before : child.worker.awaits = some (count, sequence))
    (next : after.worker.awaits = some (count, sequence))
    (header : written.header = shared.header) (active : written.childActive = shared.childActive)
    (kick : shared.pollKick = true → written.pollKick = true)
    (signals : child.worker.unsignalled = true → written.pollKick = true) :
    ChildSpec child shared after written where
  response := by rw [header]
  accepted := by rw [header]
  active := active
  kick := kick
  signalled unsignalled := .inr (signals unsignalled)
  request := .inl (by rw [header])
  sequence count stored stands := by
    simp [stands, TxWorker.awaits] at next
  awaits entry stands := .inl (before.trans (next.symm.trans stands))
  settled entry stands := .inl (next.trans (before.symm.trans stands))

theorem workerLock_some {backend locked : TxBackend Sender} {worker : TxWorker}
    (moved : backend.workerLock worker = some locked) : locked.worker = worker := by
  unfold TxBackend.workerLock at moved
  split at moved
  next free =>
    cases moved
    rfl
  next taken => cases moved

theorem stepWorker_spec {state target : TxState Sender} (moved : stepWorker state = some target) :
    ChildSpec state.child state.shared target.child target.shared := by
  unfold stepWorker at moved
  have locks : ∀ worker : TxWorker, worker.away = true → state.child.worker.away = true →
      ((state.child.workerLock worker).map fun child => { state with child }) = some target →
      ChildSpec state.child state.shared target.child target.shared := by
    intro worker next before locked
    obtain ⟨child, taken, rfl⟩ := Option.map_eq_some_iff.mp locked
    exact .away before (by rw [workerLock_some taken, next]) rfl rfl rfl rfl rfl
  cases stands : state.child.worker <;> simp only [stands] at moved
  case countLock | recountLock | stageLock | popLock =>
    exact locks _ rfl (by rw [stands]; rfl) moved
  case workDown | recountDown =>
    split at moved
    next blocked => cases moved
    next =>
      cases moved
      exact .away (by rw [stands]; rfl) rfl rfl rfl rfl rfl rfl
  case storeRequest count sequence =>
    cases moved
    exact ⟨rfl, rfl, rfl, id, by simp [stands, TxWorker.unsignalled], .inr ⟨count, stands, rfl⟩,
      by simp, by simp [TxWorker.awaits, stands], by simp [TxWorker.awaits, stands]⟩
  case submitSignal count sequence =>
    cases moved
    exact .waits (by rw [stands]; rfl) rfl rfl rfl (fun _ => rfl) (fun _ => rfl)
  case waitNtfn count sequence =>
    split at moved
    next notified =>
      cases moved
      exact .waits (by rw [stands]; rfl) rfl rfl rfl id (by simp [stands, TxWorker.unsignalled])
    next blocked => cases moved
  case loadResponse count sequence =>
    cases moved
    by_cases answered : state.shared.header.txResponseSequence = sequence
    · rw [if_pos answered]
      exact ⟨rfl, rfl, rfl, id, by simp [stands, TxWorker.unsignalled], .inl rfl, by simp,
        by simp [TxWorker.awaits], by simp [TxWorker.awaits, stands, answered]⟩
    · rw [if_neg answered]
      exact .waits (by rw [stands]; rfl) rfl rfl rfl id (by simp [stands, TxWorker.unsignalled])
  case bumpSequence count =>
    cases moved
    refine ⟨rfl, rfl, rfl, id, by simp [stands, TxWorker.unsignalled], .inl rfl, ?_,
      by simp [TxWorker.awaits], by simp [TxWorker.awaits, stands]⟩
    intro count' next stored
    cases stored
    exact .inl (nextSequence_ne_zero _)
  case stopped => cases moved
  case freeUp remaining empty =>
    cases remaining <;> cases moved <;>
      exact .away (by rw [stands]; rfl) rfl rfl rfl rfl rfl rfl
  case raiseFree remaining =>
    cases remaining <;> cases moved <;>
      exact .away (by rw [stands]; rfl) rfl rfl rfl rfl rfl rfl
  all_goals
    cases moved
    refine .away (by rw [stands]; rfl) ?_ rfl rfl rfl rfl rfl
    first
      | rfl
      | (split <;> first | rfl | (split <;> rfl))

theorem stepCall_worker [DecidableEq Sender] {sender : Sender}
    (moved : stepCall child sender = some after) : after.worker = child.worker := by
  unfold stepCall at moved
  cases stands : child.calls sender <;> simp only [stands] at moved
  case idle => cases moved
  case freeDown | lock =>
    split at moved <;> cases moved
    rfl
  case raiseFree remaining =>
    cases remaining <;> cases moved <;> rfl
  all_goals
    cases moved
    rfl

theorem stepCoalesce_worker {slept : Bool} (moved : stepCoalesce child slept = some after) :
    after.worker = child.worker := by
  unfold stepCoalesce at moved
  cases stands : child.coalesce <;> simp only [stands] at moved
  case down =>
    split at moved <;> cases moved
    rfl
  case stopped => cases moved
  all_goals
    cases moved
    rfl

/-- A step of the child changes the child and what it shares with the manager. -/
theorem stepChild_spec [DecidableEq Sender] {state target : LoopState Sender Ntfn}
    {action : ChildAction Sender} (moved : stepChild state action = some target) :
    ∃ child shared, ChildSpec state.child state.ring.shared child shared ∧
      target = { state with
        child := child
        ring := { state.ring with shared := shared } } := by
  obtain ⟨sent, stepped, rfl⟩ := Option.map_eq_some_iff.mp moved
  refine ⟨sent.child, sent.shared, ?_, rfl⟩
  cases action with
  | send sender iov =>
      simp only [ChildAction.txAction, txNext] at stepped
      split at stepped
      next free =>
        split at stepped <;> cases stepped
        exact .still rfl
      next busy => cases stepped
  | call sender =>
      obtain ⟨child, called, rfl⟩ := Option.map_eq_some_iff.mp stepped
      exact .still (stepCall_worker called)
  | worker => exact stepWorker_spec stepped
  | coalesce slept =>
      obtain ⟨child, called, rfl⟩ := Option.map_eq_some_iff.mp stepped
      exact .still (stepCoalesce_worker called)
  | stop =>
      cases stepped
      exact .still rfl

end Child

/-! ## The TX service -/

def TxCaller.held : TxCaller → Option Nat
  | .notification sequence => some sequence
  | .endpoint => none

/-- The request sequence a thread of the TX service has loaded. -/
def TxThread.held : TxThread → Option Nat
  | .notifyResponse sequence | .notifyCount sequence | .cancelTimer sequence _
  | .storeAccepted sequence _ | .storeResponse sequence | .retryResponse sequence => some sequence
  | .batchCount caller _ | .batchActive caller _ | .batchHead caller _ | .batchTail caller _ _
  | .backpressure caller => caller.held
  | .validate batch _ | .copyLength batch _ | .copyData batch _ _ | .storeLength batch _ _
  | .publish batch | .kick batch => batch.caller.held
  | _ => none

/-- Program points of an endpoint request. -/
def TxThread.endpoint (thread : TxThread) : Prop :=
  thread.held = none ∧ thread ≠ .notifyActive ∧ thread ≠ .notifyRequest ∧ thread ≠ .retryRequest

/-- Program points of `service_tx_notification`: what it answers is not zero. -/
def Serving (shared : TxShared) : TxThread → Prop
  | .retryRequest | .retryResponse _ | .singleCount _ | .singleLength _ => False
  | .cancelTimer _ accepted | .storeAccepted _ accepted => accepted ≠ 0
  | .storeResponse _ => shared.header.txAccepted ≠ 0
  | _ => True

/-- Program points of `service_tx_timeout_retry`. -/
def Retrying : TxThread → Prop
  | .idle | .retryRequest | .retryResponse _ | .signal | .cancelTimer _ _ | .storeAccepted _ _
  | .storeResponse _ => True
  | _ => False

/-- What a step of the TX service does to the sequences. -/
structure TxSends (shared : TxShared) (thread : TxThread) (after : TxShared) (next : TxThread) :
    Prop where
  request : after.header.txRequestSequence = shared.header.txRequestSequence
  active : after.childActive = shared.childActive
  response : after.header.txResponseSequence = shared.header.txResponseSequence ∨
    thread = .storeResponse after.header.txResponseSequence
  accepted : after.header.txAccepted = shared.header.txAccepted ∨
    ∃ sequence, thread = .storeAccepted sequence after.header.txAccepted
  kick : shared.pollKick = true → after.pollKick = true
  held : ∀ sequence, next.held = some sequence → thread.held = some sequence ∨
    (sequence = shared.header.txRequestSequence ∧ sequence ≠ 0 ∧
      (thread = .notifyRequest ∨ thread = .retryRequest))

section Service

variable {shared after : TxShared} {thread next : TxThread}

theorem batchReturn_held (caller : TxCaller) (result : Option Nat) (sequence : Nat) :
    (batchReturn caller result).held = some sequence → caller.held = some sequence := by
  cases caller with
  | endpoint => exact id
  | notification request =>
      match result with
      | none => exact id
      | some 0 => nofun
      | some (accepted + 1) => exact id

theorem serviceTxBatch_held (caller : TxCaller) (requested sequence : Nat) :
    (serviceTxBatch caller requested).held = some sequence → caller.held = some sequence := by
  unfold serviceTxBatch
  split
  · exact batchReturn_held caller none sequence
  · exact id

/-- The thread moves on and writes nothing the poll loop looks at. -/
theorem TxSends.quiet (request : after.header.txRequestSequence = shared.header.txRequestSequence)
    (active : after.childActive = shared.childActive)
    (response : after.header.txResponseSequence = shared.header.txResponseSequence)
    (accepted : after.header.txAccepted = shared.header.txAccepted)
    (kick : shared.pollKick = true → after.pollKick = true)
    (held : ∀ sequence, next.held = some sequence → thread.held = some sequence) :
    TxSends shared thread after next :=
  ⟨request, active, .inl response, .inl accepted, kick, fun sequence holds =>
    .inl (held sequence holds)⟩

theorem txStep_sends (moved : txStep shared thread = some (after, next)) :
    TxSends shared thread after next := by
  cases thread <;> simp only [txStep] at moved
  case idle => cases moved
  case notifyRequest | retryRequest =>
    cases moved
    refine ⟨rfl, rfl, .inl rfl, .inl rfl, id, ?_⟩
    intro sequence holds
    split at holds
    next zero => cases holds
    next nonzero =>
      cases holds
      exact .inr ⟨rfl, nonzero, by simp⟩
  case storeAccepted sequence accepted =>
    cases moved
    exact ⟨rfl, rfl, .inl rfl, .inr ⟨sequence, rfl⟩, id, fun _ holds => .inl holds⟩
  case storeResponse sequence =>
    cases moved
    exact ⟨rfl, rfl, .inr rfl, .inl rfl, id, fun _ holds => absurd holds (by simp [TxThread.held])⟩
  case notifyCount sequence =>
    cases moved
    exact .quiet rfl rfl rfl rfl id (serviceTxBatch_held _ _)
  case singleLength length =>
    cases moved
    exact .quiet rfl rfl rfl rfl id (serviceTxBatch_held _ _)
  case validate batch index =>
    split at moved <;> cases moved
    · refine .quiet rfl rfl rfl rfl id ?_
      intro sequence holds
      split at holds <;> exact holds
    · exact .quiet rfl rfl rfl rfl id (batchReturn_held _ _)
  case backpressure caller =>
    cases moved
    refine .quiet rfl rfl rfl rfl ?_ (batchReturn_held _ _)
    intro kicked
    simp [kicked]
  case kick batch =>
    cases moved
    refine .quiet rfl rfl rfl rfl ?_ (batchReturn_held _ _)
    intro kicked
    simp [kicked]
  case batchCount caller requested =>
    cases moved
    refine .quiet rfl rfl rfl rfl id ?_
    split
    · exact fun _ => id
    · exact batchReturn_held _ _
  case batchActive caller requested =>
    cases moved
    refine .quiet rfl rfl rfl rfl id ?_
    split
    · exact fun _ => id
    · exact batchReturn_held _ _
  all_goals
    cases moved
    refine .quiet rfl rfl rfl rfl id ?_
    intro sequence holds
    first
      | exact holds
      | (split at holds <;> first | exact holds | cases holds)

theorem batchReturn_endpoint (result : Option Nat) : (batchReturn .endpoint result).endpoint :=
  ⟨rfl, nofun, nofun, nofun⟩

theorem serviceTxBatch_endpoint (requested : Nat) :
    (serviceTxBatch .endpoint requested).endpoint := by
  unfold serviceTxBatch
  split
  · exact batchReturn_endpoint none
  · exact ⟨rfl, nofun, nofun, nofun⟩

theorem serviceTx_endpoint (length : Nat) : (serviceTx length).endpoint := by
  unfold serviceTx
  split <;> exact ⟨rfl, nofun, nofun, nofun⟩

theorem TxCaller.endpoint_of_held {caller : TxCaller} (none : caller.held = none) :
    caller = .endpoint := by
  cases caller with
  | endpoint => rfl
  | notification sequence => cases none

/-- An endpoint request stays one. -/
theorem txStep_endpoint (inside : thread.endpoint)
    (moved : txStep shared thread = some (after, next)) : next.endpoint := by
  obtain ⟨held, notActive, notRequest, notRetry⟩ := inside
  cases thread <;> simp only [txStep] at moved
  case idle => cases moved
  case notifyActive => exact absurd rfl notActive
  case notifyRequest => exact absurd rfl notRequest
  case retryRequest => exact absurd rfl notRetry
  case notifyResponse | notifyCount | cancelTimer | storeAccepted | storeResponse | retryResponse =>
    cases held
  case singleCount =>
    cases moved
    exact ⟨rfl, by simp, by simp, by simp⟩
  case singleLength =>
    cases moved
    exact serviceTxBatch_endpoint 1
  case signal =>
    cases moved
    exact ⟨rfl, by simp, by simp, by simp⟩
  case batchCount caller _ | batchActive caller _ | backpressure caller =>
    cases TxCaller.endpoint_of_held held
    cases moved
    first
      | exact batchReturn_endpoint _
      | split
        · exact ⟨rfl, by simp, by simp, by simp⟩
        · exact batchReturn_endpoint _
  case batchHead caller _ =>
    cases moved
    exact ⟨held, by simp, by simp, by simp⟩
  case batchTail caller _ _ =>
    cases moved
    split <;> exact ⟨held, by simp, by simp, by simp⟩
  case validate batch index =>
    split at moved <;> cases moved
    · split <;> exact ⟨held, by simp, by simp, by simp⟩
    · rw [TxCaller.endpoint_of_held held]
      exact batchReturn_endpoint none
  case copyLength | copyData | publish =>
    cases moved
    exact ⟨held, by simp, by simp, by simp⟩
  case storeLength =>
    cases moved
    split <;> exact ⟨held, by simp, by simp, by simp⟩
  case kick batch =>
    cases moved
    rw [TxCaller.endpoint_of_held held]
    exact batchReturn_endpoint _

theorem serving_batchReturn (caller : TxCaller) (result : Option Nat) :
    Serving after (batchReturn caller result) := by
  cases caller with
  | endpoint => trivial
  | notification sequence =>
      match result with
      | none => exact (by decide : wordMax ≠ 0)
      | some 0 => trivial
      | some (accepted + 1) => exact Nat.succ_ne_zero accepted

theorem serving_serviceTxBatch (caller : TxCaller) (requested : Nat) :
    Serving after (serviceTxBatch caller requested) := by
  unfold serviceTxBatch
  split
  · exact serving_batchReturn caller none
  · trivial

/-- `service_tx_notification` never answers that nothing was accepted. -/
theorem txStep_serving (serving : Serving shared thread)
    (moved : txStep shared thread = some (after, next)) : Serving after next := by
  cases thread <;> simp only [txStep] at moved
  case idle => cases moved
  case retryRequest | retryResponse | singleCount | singleLength => exact serving.elim
  case notifyCount =>
    cases moved
    exact serving_serviceTxBatch _ _
  case backpressure | kick =>
    cases moved
    exact serving_batchReturn _ _
  case batchCount | batchActive =>
    cases moved
    split
    · trivial
    · exact serving_batchReturn _ _
  case validate =>
    split at moved <;> cases moved
    · split <;> trivial
    · exact serving_batchReturn _ _
  case cancelTimer | storeAccepted =>
    cases moved
    exact serving
  all_goals
    cases moved
    first
      | trivial
      | (split <;> trivial)

/-- A request the manager found without an answer is answered with zero. -/
theorem txStep_retrying (retrying : Retrying thread)
    (moved : txStep shared thread = some (after, next)) : Retrying next := by
  cases thread <;> simp only [txStep] at moved
  case idle => cases moved
  case retryRequest | retryResponse =>
    cases moved
    split <;> trivial
  case signal | cancelTimer | storeAccepted | storeResponse =>
    cases moved
    trivial
  all_goals exact retrying.elim

end Service

/-! ## The invariant -/

/-- The poll thread will look at the header again before it waits. -/
def LoopThread.looks : LoopThread → TxThread → Bool
  | .wait, _ | .leaveDriver, _ | .retry _, .idle | .retry _, .signal => false
  | .again pass, _ => pass.more
  | _, _ => true

/-- The request sequence the poll thread decides by. -/
def LoopThread.loaded : LoopThread → TxThread → Option Nat
  | .loadResponse _ _ request, _ => some request
  | .retry _, thread => thread.held
  | _, _ => none

/-- Where a routine of the TX service can stand in the loop. -/
def Stands (shared : TxShared) : LoopThread → TxThread → Prop
  | .serve _ _, thread => Serving shared thread
  | .retry _, thread => Retrying thread
  | _, thread => thread = .idle

structure WakeInv (state : LoopState Sender Ntfn) : Prop where
  main : state.ring.main.endpoint
  sequence : ∀ count next, state.child.worker = .storeRequest count next → next ≠ 0
  notified : state.timer.networkArmed = true → state.timer.networkNtfn = true
  answered : state.header.txRequestSequence = 0 →
    state.header.txResponseSequence = 0 ∧ state.ring.poll.thread.held = none
  stands : Stands state.ring.shared state.loop state.ring.poll.thread
  loaded : ∀ request, state.loop.loaded state.ring.poll.thread = some request →
    request = state.header.txRequestSequence ∨ state.Fresh
  covered : state.loop.looks state.ring.poll.thread = true ∨
    (state.Unanswered → state.WakeSource)
  zero : ∀ reply ∈ state.replies, reply.accepted = 0 → reply.timeout = true

/-- A step that leaves the poll thread where it is. -/
structure Steady (state target : LoopState Sender Ntfn) : Prop where
  loop : target.loop = state.loop
  thread : target.ring.poll.thread = state.ring.poll.thread
  replies : target.replies = state.replies
  response : target.header.txResponseSequence = state.header.txResponseSequence
  accepted : target.header.txAccepted = state.header.txAccepted
  request : target.header.txRequestSequence = state.header.txRequestSequence ∨
    (target.child.worker.unsignalled = true ∧ target.header.txRequestSequence ≠ 0)
  fresh : state.Fresh → target.Fresh
  timed : state.timer.networkArmed = true ∨ state.timerIrq.firing = true → target.WakeSource

section Invariant

variable {state target : LoopState Sender Ntfn}

theorem Serving.congr {shared after : TxShared} {thread : TxThread}
    (serving : Serving shared thread)
    (accepted : after.header.txAccepted = shared.header.txAccepted) : Serving after thread := by
  cases thread with
  | storeResponse sequence =>
      show after.header.txAccepted ≠ 0
      rw [accepted]
      exact serving
  | _ => exact serving

theorem Stands.congr {shared after : TxShared} {loop : LoopThread} {thread : TxThread}
    (stands : Stands shared loop thread)
    (accepted : after.header.txAccepted = shared.header.txAccepted) :
    Stands after loop thread := by
  cases loop with
  | serve round pass => exact Serving.congr stands accepted
  | _ => exact stands

theorem WakeInv.steady (inv : WakeInv state) (steady : Steady state target)
    (main : target.ring.main.endpoint)
    (sequence : ∀ count next, target.child.worker = .storeRequest count next → next ≠ 0)
    (notified : target.timer.networkArmed = true → target.timer.networkNtfn = true) :
    WakeInv target where
  main := main
  sequence := sequence
  notified := notified
  answered zero := by
    rcases steady.request with same | ⟨_, nonzero⟩
    · rw [steady.response, steady.thread]
      exact inv.answered (same.symm.trans zero)
    · exact absurd zero nonzero
  stands := by
    rw [steady.loop, steady.thread]
    exact inv.stands.congr steady.accepted
  loaded request loads := by
    rw [steady.loop, steady.thread] at loads
    rcases steady.request with same | ⟨stored, _⟩
    · rw [same]
      exact (inv.loaded request loads).imp_right steady.fresh
    · exact .inr (.inr stored)
  covered := by
    rw [steady.loop, steady.thread]
    refine inv.covered.imp_right fun covered unanswered => ?_
    rcases steady.request with same | ⟨stored, _⟩
    · have before : state.Unanswered := by
        unfold LoopState.Unanswered at unanswered
        rwa [same, steady.response] at unanswered
      rcases covered before with fresh | timed
      · exact .inl (steady.fresh fresh)
      · exact steady.timed timed
    · exact .inl (.inr stored)
  zero := by
    rw [steady.replies]
    exact inv.zero

/-! ## Steps beside the poll thread -/

theorem LoopState.kicked_iff (state : LoopState Sender Ntfn) : state.kicked = true ↔
    state.ring.shared.pollKick = true ∨ state.irqBadge = true ∨ state.timerBadge = true := by
  simp [LoopState.kicked, or_assoc]

/-- The ring moves on beside the poll thread. -/
theorem Steady.ring {ring : RingState} (thread : ring.poll.thread = state.ring.poll.thread)
    (request : ring.shared.header.txRequestSequence = state.header.txRequestSequence)
    (response : ring.shared.header.txResponseSequence = state.header.txResponseSequence)
    (accepted : ring.shared.header.txAccepted = state.header.txAccepted)
    (kick : state.ring.shared.pollKick = true → ring.shared.pollKick = true) :
    Steady state { state with ring } where
  loop := rfl
  thread := thread
  replies := rfl
  response := response
  accepted := accepted
  request := .inl request
  fresh fresh := by
    refine fresh.imp_left fun kicked => ?_
    rw [LoopState.kicked_iff] at kicked ⊢
    exact kicked.imp_left kick
  timed timed := .inr timed

/-- The ring moves on, and the thread on the main loop stays an endpoint request. -/
theorem WakeInv.ring {ring : RingState} (inv : WakeInv state)
    (thread : ring.poll.thread = state.ring.poll.thread)
    (header : ring.shared.header = state.header)
    (kick : ring.shared.pollKick = state.ring.shared.pollKick) (main : ring.main.endpoint) :
    WakeInv { state with ring } :=
  inv.steady (.ring thread (by rw [header]) (by rw [header]) (by rw [header]) kick.trans) main
    inv.sequence inv.notified

theorem WakeInv.child [DecidableEq Sender] {action : ChildAction Sender} (inv : WakeInv state)
    (moved : stepChild state action = some target) : WakeInv target := by
  obtain ⟨child, shared, spec, rfl⟩ := stepChild_spec moved
  have nonzero : ∀ count next, child.worker = .storeRequest count next → next ≠ 0 := by
    intro count next stands
    exact (spec.sequence count next stands).elim id (inv.sequence count next)
  refine inv.steady ⟨rfl, rfl, rfl, spec.response, spec.accepted, ?_, ?_, fun timed => .inr timed⟩
    inv.main nonzero inv.notified
  · refine spec.request.imp_right ?_
    rintro ⟨count, stores, stored⟩
    refine ⟨?_, inv.sequence _ _ stores⟩
    show child.worker.unsignalled = true
    rw [stored]
    rfl
  · intro fresh
    unfold LoopState.Fresh at fresh ⊢
    rw [LoopState.kicked_iff] at fresh ⊢
    rcases fresh with kicked | stored
    · exact .inl (kicked.imp_left spec.kick)
    · exact (spec.signalled stored).symm.imp_left .inl

theorem WakeInv.enterMain {thread : TxThread} {ring : RingState} (inv : WakeInv state)
    (endpoint : thread.endpoint) (moved : state.ring.enterMain thread = some ring) :
    WakeInv { state with ring } := by
  unfold RingState.enterMain at moved
  split at moved
  next free =>
    cases moved
    exact inv.ring rfl rfl rfl endpoint
  next busy => cases moved

theorem WakeInv.stepMain {ring : RingState} (inv : WakeInv state)
    (moved : ringNext state.ring .stepMain = some ring) : WakeInv { state with ring } := by
  obtain ⟨⟨shared, next⟩, stepped, rfl⟩ := Option.map_eq_some_iff.mp moved
  have sends := txStep_sends stepped
  have unheld := inv.main.1
  have response : shared.header.txResponseSequence = state.header.txResponseSequence := by
    refine sends.response.elim id fun stores => ?_
    rw [stores] at unheld
    cases unheld
  have accepted : shared.header.txAccepted = state.header.txAccepted := by
    refine sends.accepted.elim id fun stores => ?_
    rw [stores.choose_spec] at unheld
    cases unheld
  exact inv.steady (.ring rfl sends.request response accepted sends.kick)
    (txStep_endpoint inv.main stepped) inv.sequence inv.notified

/-- Outside the TX service the poll thread leaves the header alone. -/
structure RingQuiet (ring after : RingState) : Prop where
  header : after.shared.header = ring.shared.header
  kick : after.shared.pollKick = ring.shared.pollKick
  active : after.shared.childActive = ring.shared.childActive
  main : after.main = ring.main
  thread : after.poll.thread = .idle

theorem WakeInv.quiet {ring : RingState} (inv : WakeInv state) (quiet : RingQuiet state.ring ring)
    (outside : state.ring.poll.thread = .idle) : WakeInv { state with ring } :=
  inv.ring (quiet.thread.trans outside.symm) quiet.header quiet.kick
    (by rw [quiet.main]; exact inv.main)

theorem rawTx_quiet {ring after : RingState} {result : RawTx}
    (moved : ringNext ring (.rawTx result) = some after) :
    RingQuiet ring after ∧ ring.poll.thread = .idle := by
  simp only [ringNext] at moved
  split at moved
  next submit buffer stands =>
    rw [stands]
    refine ⟨?_, rfl⟩
    cases result <;> cases moved <;> exact ⟨rfl, rfl, rfl, rfl, rfl⟩
  next => cases moved

theorem completion_quiet {ring after : RingState} {cookie : Nat}
    (moved : ringNext ring (.completion cookie) = some after) :
    RingQuiet ring after ∧ ring.poll.thread = .idle := by
  simp only [ringNext] at moved
  split at moved
  next stands =>
    cases moved
    exact ⟨⟨rfl, rfl, rfl, rfl, rfl⟩, by rw [stands]; rfl⟩
  next submit buffer stands =>
    cases moved
    exact ⟨⟨rfl, rfl, rfl, rfl, rfl⟩, by rw [stands]; rfl⟩
  next => cases moved

theorem WakeInv.timerService [DecidableEq Ntfn] {hardware : Hardware} (inv : WakeInv state)
    (message : Message Ntfn) (answers : Answers) :
    WakeInv { state with timer := (state.timer.service hardware message answers).1 } := by
  obtain ⟨armed, ntfn⟩ := state.timer.service_network hardware message answers
  refine inv.steady ⟨rfl, rfl, rfl, rfl, rfl, .inl rfl, id, ?_⟩ inv.main inv.sequence ?_
  · intro timed
    exact .inr (timed.imp_left armed.trans)
  · intro after
    exact ntfn.trans (inv.notified (armed.symm.trans after))

theorem WakeInv.timerInterrupt {hardware : Hardware} {answers : Answers} (inv : WakeInv state)
    (succeeds : answers.pitSucceeds = true) (waits : state.timerIrq = .waitIrq) :
    WakeInv { state with
      timer := (state.timer.handleTimerIrq hardware answers).1
      timerIrq := .signalChild (state.timer.handleTimerIrq hardware answers).2 } := by
  obtain ⟨armed, ntfn, wakes⟩ := state.timer.handleTimerIrq_network hardware answers succeeds
  refine inv.steady ⟨rfl, rfl, rfl, rfl, rfl, .inl rfl, id, ?_⟩ inv.main inv.sequence ?_
  · rintro (before | firing)
    · -- the deadline has passed or it has not
      by_cases passed : state.timer.networkDeadlineCycles ≤ answers.second
      · refine .inr (.inr (wakes.trans ?_))
        simp [before, inv.notified before, passed]
      · refine .inr (.inl (armed.trans ?_))
        simp [before, Nat.lt_of_not_le passed]
    · rw [waits] at firing
      cases firing
  · intro after
    have before := armed.symm.trans after
    rw [Bool.and_eq_true] at before
    exact ntfn.trans (inv.notified before.1)

theorem WakeInv.timerIrq (inv : WakeInv state) (moved : stepTimerIrq state = some target) :
    WakeInv target := by
  unfold stepTimerIrq at moved
  split at moved
  next => cases moved
  next wakes stands =>
    cases moved
    refine inv.steady ⟨rfl, rfl, rfl, rfl, rfl, .inl rfl, id, ?_⟩ inv.main inv.sequence
      inv.notified
    intro timed
    rw [stands] at timed
    exact .inr timed
  next network stands =>
    cases moved
    refine inv.steady ⟨rfl, rfl, rfl, rfl, rfl, .inl rfl, ?_, ?_⟩ inv.main inv.sequence
      inv.notified
    · refine Or.imp_left fun kicked => ?_
      rw [LoopState.kicked_iff] at kicked ⊢
      refine kicked.imp_right fun badges => badges.imp_right fun badge => ?_
      simp [badge]
    · rintro (armed | firing)
      · exact .inr (.inl armed)
      · rw [stands] at firing
        refine .inl (.inl ?_)
        rw [LoopState.kicked_iff]
        refine .inr (.inr ?_)
        simp [show network = true from firing]

theorem WakeInv.netIrq (inv : WakeInv state) (moved : stepNetIrq state = some target) :
    WakeInv target := by
  have badged : ∀ netIrq irqNtfn irqDone irqBadge, (state.irqBadge = true → irqBadge = true) →
      WakeInv { state with netIrq, irqNtfn, irqDone, irqBadge } := by
    intro netIrq irqNtfn irqDone irqBadge grows
    refine inv.steady ⟨rfl, rfl, rfl, rfl, rfl, .inl rfl, ?_, fun timed => .inr timed⟩ inv.main
      inv.sequence inv.notified
    refine Or.imp_left fun kicked => ?_
    rw [LoopState.kicked_iff] at kicked ⊢
    exact kicked.imp_right fun badges => badges.imp_left grows
  unfold stepNetIrq at moved
  split at moved
  next =>
    split at moved <;> cases moved
    exact badged _ _ _ _ id
  next =>
    cases moved
    exact badged _ _ _ _ fun _ => rfl
  next =>
    split at moved <;> cases moved
    exact badged _ _ _ _ id
  next =>
    cases moved
    exact badged _ _ _ _ id

/-! ## Steps of the poll thread -/

theorem pollStep_quiet {ring after : RingState} (moved : pollStep ring ring.poll = some after)
    (outside : ∀ thread, ring.poll ≠ .service thread) : RingQuiet ring after := by
  obtain ⟨thread, main⟩ := pollStep_outside moved outside
  have kept : after.shared.header = ring.shared.header ∧
      after.shared.pollKick = ring.shared.pollKick ∧
      after.shared.childActive = ring.shared.childActive := by
    cases stands : ring.poll <;> rw [stands] at moved <;> simp only [pollStep] at moved
    case service thread => exact absurd stands (outside thread)
    case driver => cases moved
    case scan =>
      split at moved
      · cases moved
        exact ⟨rfl, rfl, rfl⟩
      · split at moved <;> cases moved <;> exact ⟨rfl, rfl, rfl⟩
    case complete =>
      split at moved
      · split at moved <;> cases moved <;> exact ⟨rfl, rfl, rfl⟩
      · cases moved
        exact ⟨rfl, rfl, rfl⟩
    all_goals
      cases moved
      exact ⟨rfl, rfl, rfl⟩
  exact ⟨kept.1, kept.2.1, kept.2.2, main, thread⟩

/-- The poll thread goes on in its loop. -/
theorem WakeInv.goto (inv : WakeInv state) (main : target.ring.main = state.ring.main)
    (child : target.child = state.child) (header : target.header = state.header)
    (replies : target.replies = state.replies)
    (notified : target.timer.networkArmed = true → target.timer.networkNtfn = true)
    (held : target.ring.poll.thread.held = none)
    (stands : Stands target.ring.shared target.loop target.ring.poll.thread)
    (loaded : ∀ request, target.loop.loaded target.ring.poll.thread = some request →
      request = target.header.txRequestSequence ∨ target.Fresh)
    (covered : target.loop.looks target.ring.poll.thread = true ∨
      (target.Unanswered → target.WakeSource)) : WakeInv target where
  main := by
    rw [main]
    exact inv.main
  sequence := by
    rw [child]
    exact inv.sequence
  notified := notified
  answered zero := by
    rw [header] at zero ⊢
    exact ⟨(inv.answered zero).1, held⟩
  stands := stands
  loaded := loaded
  covered := covered
  zero := by
    rw [replies]
    exact inv.zero

/-- The poll thread calls a routine after which it will look again. -/
theorem WakeInv.call (inv : WakeInv state) (loop : LoopThread) (routine : PollThread)
    (held : routine.thread.held = none) (stands : Stands state.ring.shared loop routine.thread)
    (loaded : loop.loaded routine.thread = none) (looks : loop.looks routine.thread = true) :
    WakeInv (state.enter loop routine) :=
  inv.goto rfl rfl rfl rfl inv.notified held stands
    (fun _ loads => nomatch loaded.symm.trans loads) (.inl looks)

/-- The poll thread goes on to a point from which it will look again. -/
theorem WakeInv.onward (inv : WakeInv state) (idle : state.ring.poll.thread = .idle)
    (loop : LoopThread) {pollInDriver irqDone : Bool} (stands : Stands state.ring.shared loop .idle)
    (loaded : loop.loaded .idle = none) (looks : loop.looks .idle = true) :
    WakeInv { state with loop, pollInDriver, irqDone } := by
  refine inv.goto rfl rfl rfl rfl inv.notified ?_ ?_ ?_ (.inl ?_) <;> dsimp only <;> rw [idle]
  · rfl
  · exact stands
  · exact fun _ loads => nomatch loaded.symm.trans loads
  · exact looks

/-- The poll thread has looked, and goes on to wait. -/
theorem WakeInv.settle (inv : WakeInv state) (idle : state.ring.poll.thread = .idle)
    (loop : LoopThread) {pollInDriver : Bool} (stands : Stands state.ring.shared loop .idle)
    (loaded : loop.loaded .idle = none) (covered : state.Unanswered → state.WakeSource) :
    WakeInv { state with loop, pollInDriver } := by
  refine inv.goto rfl rfl rfl rfl inv.notified ?_ ?_ ?_ (.inr covered) <;> dsimp only <;> rw [idle]
  · rfl
  · exact stands
  · exact fun _ loads => nomatch loaded.symm.trans loads

theorem WakeInv.wait (inv : WakeInv state) (idle : state.ring.poll.thread = .idle) :
    WakeInv { state with
      loop := .enterDriver state.irqBadge state.timerBadge
      ring := { state.ring with shared := { state.ring.shared with pollKick := false } }
      irqBadge := false
      timerBadge := false } := by
  refine inv.goto rfl rfl rfl rfl inv.notified ?_ idle nofun (.inl rfl)
  show state.ring.poll.thread.held = none
  rw [idle]
  rfl

theorem WakeInv.loadRequest {round : Round} {pass : Pass} (inv : WakeInv state)
    (idle : state.ring.poll.thread = .idle) :
    WakeInv { state with
      loop := if state.header.txRequestSequence = 0 then .again pass
        else .loadResponse round pass state.header.txRequestSequence } := by
  by_cases zero : state.header.txRequestSequence = 0
  · rw [if_pos zero]
    refine inv.settle idle (.again pass) rfl rfl fun unanswered => absurd ?_ unanswered
    rw [zero, (inv.answered zero).1]
  · rw [if_neg zero]
    refine inv.goto rfl rfl rfl rfl inv.notified (by rw [idle]; rfl) idle ?_ (.inl rfl)
    intro request loads
    cases loads
    exact .inl rfl

theorem WakeInv.loadResponse {hardware : Hardware} {round : Round} {pass : Pass} {request : Nat}
    {more : Bool} {answers : Answers} (inv : WakeInv state)
    (idle : state.ring.poll.thread = .idle)
    (at_ : state.loop = .loadResponse round pass request)
    (moved : loopStep hardware state more answers = some target) : WakeInv target := by
  simp only [loopStep, at_] at moved
  split at moved
  next answered =>
    cases moved
    refine inv.settle idle (.again pass) rfl rfl fun unanswered => .inl ?_
    -- the child has stored another sequence since this one was loaded
    refine (inv.loaded request (by rw [at_]; rfl)).resolve_left fun same => unanswered ?_
    rw [← same, answered]
  next unanswered =>
    cases round with
    | first =>
        cases moved
        exact inv.onward idle (.polling .recheck pass) rfl rfl rfl
    | recheck =>
        dsimp only at moved
        split at moved
        next timed =>
          cases moved
          exact inv.call (.retry pass) (.service .retryRequest) rfl trivial rfl rfl
        next =>
          cases moved
          exact inv.onward idle (.schedule pass) rfl rfl rfl

theorem WakeInv.again {pass : Pass} (inv : WakeInv state)
    (idle : state.ring.poll.thread = .idle) (at_ : state.loop = .again pass) :
    WakeInv { state with loop := if pass.more then .polling .first pass else .leaveDriver } := by
  by_cases more : pass.more = true
  · rw [if_pos more]
    exact inv.onward idle (.polling .first pass) rfl rfl rfl
  · rw [if_neg more]
    refine inv.settle idle .leaveDriver rfl rfl ?_
    refine inv.covered.resolve_left fun looks => more ?_
    rw [at_] at looks
    exact looks

theorem WakeInv.loopStep {hardware : Hardware} {more : Bool} {answers : Answers}
    (inv : WakeInv state) (succeeds : answers.pitSucceeds = true)
    (idle : state.ring.poll.thread = .idle)
    (moved : loopStep hardware state more answers = some target) : WakeInv target := by
  have whole := moved
  unfold Net.loopStep at moved
  cases at_ : state.loop with
  | wait =>
      simp only [at_] at moved
      split at moved
      next kicked =>
        cases moved
        exact inv.wait idle
      next => cases moved
  | loadRequest round pass =>
      simp only [at_] at moved
      cases moved
      exact inv.loadRequest idle
  | loadResponse round pass request => exact inv.loadResponse idle at_ whole
  | again pass =>
      simp only [at_] at moved
      cases moved
      exact inv.again idle at_
  | schedule pass =>
      simp only [at_] at moved
      cases moved
      obtain ⟨armed, ntfn⟩ := state.timer.scheduleNetwork_network hardware lunaNetTxRecheckNs
        answers succeeds inv.notified
      exact inv.goto rfl rfl rfl rfl (fun _ => ntfn) (by rw [idle]; rfl) idle nofun
        (.inr fun _ => .inr (.inl armed))
  | enterDriver irqEvent timerEvent =>
      simp only [at_] at moved
      cases moved
      cases irqEvent with
      | true => exact inv.onward idle (.ackIrq timerEvent) rfl rfl rfl
      | false =>
          exact inv.onward idle (.polling .first ⟨timerEvent, false⟩) rfl rfl rfl
  | ackIrq timerEvent =>
      simp only [at_] at moved
      cases moved
      exact inv.onward idle (.polling .first ⟨timerEvent, false⟩) rfl rfl rfl
  | polling round pass =>
      cases round with
      | first =>
          simp only [at_] at moved
          cases moved
          exact inv.call (.processBefore .first { pass with more }) .gate rfl rfl rfl rfl
      | recheck =>
          simp only [at_] at moved
          cases moved
          exact inv.call (.processBefore .recheck { pass with more := pass.more || more }) .gate
            rfl rfl rfl rfl
  | processBefore round pass =>
      simp only [at_] at moved
      cases moved
      exact inv.call (.serve round pass) (.service .notifyActive) rfl trivial rfl rfl
  | serve round pass =>
      simp only [at_] at moved
      cases moved
      exact inv.call (.processAfter round pass) .gate rfl rfl rfl rfl
  | processAfter round pass =>
      simp only [at_] at moved
      cases moved
      exact inv.onward idle (.loadRequest round pass) rfl rfl rfl
  | retry pass =>
      simp only [at_] at moved
      cases moved
      refine inv.settle idle (.again { pass with timerEvent := false }) rfl rfl ?_
      refine inv.covered.resolve_left fun looks => ?_
      rw [at_, idle] at looks
      cases looks
  | leaveDriver =>
      simp only [at_] at moved
      cases moved
      refine inv.settle idle .wait rfl rfl ?_
      refine inv.covered.resolve_left fun looks => ?_
      rw [at_] at looks
      cases looks

/-- A step of the TX service keeps what it holds when there is no request. -/
theorem WakeInv.answered_of_sends {shared : TxShared} {thread next : TxThread}
    (inv : WakeInv state) (stands : state.ring.poll = .service thread)
    (sends : TxSends state.ring.shared thread shared next)
    (zero : shared.header.txRequestSequence = 0) :
    shared.header.txResponseSequence = 0 ∧ next.held = none := by
  have before : state.header.txRequestSequence = 0 := sends.request.symm.trans zero
  obtain ⟨response, unheld⟩ := inv.answered before
  rw [stands] at unheld
  refine ⟨?_, ?_⟩
  · refine sends.response.elim (fun same => same.trans response) fun stores => ?_
    rw [stores] at unheld
    cases unheld
  · cases holds : next.held with
    | none => rfl
    | some sequence =>
        rcases sends.held sequence holds with held | ⟨same, nonzero, _⟩
        · rw [show thread.held = none from unheld] at held
          cases held
        · exact absurd (same.trans before) nonzero

/-- The state after a step of a routine of the TX service. -/
def LoopState.routed (state : LoopState Sender Ntfn) (shared : TxShared) (next : TxThread)
    (timer : Timer Ntfn) (replies : List Reply) : LoopState Sender Ntfn :=
  { state with
    ring := { state.ring with
      shared := shared
      poll := .service next }
    timer := timer
    replies := replies }

theorem LoopState.Fresh.routed {shared : TxShared} {next : TxThread} {timer : Timer Ntfn}
    {replies : List Reply} (fresh : state.Fresh)
    (kick : state.ring.shared.pollKick = true → shared.pollKick = true) :
    (state.routed shared next timer replies).Fresh := by
  refine fresh.imp_left fun kicked => ?_
  rw [LoopState.kicked_iff] at kicked ⊢
  exact kicked.imp_left kick

theorem WakeInv.serving {round : Round} {pass : Pass} {shared : TxShared} {thread next : TxThread}
    {timer : Timer Ntfn} {replies : List Reply} (inv : WakeInv state)
    (at_ : state.loop = .serve round pass) (stands : state.ring.poll = .service thread)
    (stepped : txStep state.ring.shared thread = some (shared, next))
    (notified : timer.networkArmed = true → timer.networkNtfn = true)
    (zero : ∀ reply ∈ replies, reply.accepted = 0 → reply.timeout = true) :
    WakeInv (state.routed shared next timer replies) where
  main := inv.main
  sequence := inv.sequence
  notified := notified
  answered := inv.answered_of_sends stands (txStep_sends stepped)
  stands := by
    have serving := inv.stands
    rw [at_, stands] at serving
    show Stands shared state.loop next
    rw [at_]
    exact txStep_serving serving stepped
  loaded request loads := by
    replace loads : state.loop.loaded next = some request := loads
    rw [at_] at loads
    cases loads
  covered := by
    refine .inl ?_
    show state.loop.looks next = true
    rw [at_]
    rfl
  zero := zero

/-- Every case of `service_tx_timeout_retry`. -/
theorem WakeInv.retrying {pass : Pass} {shared : TxShared} {thread next : TxThread}
    {timer : Timer Ntfn} {replies : List Reply} (inv : WakeInv state)
    (at_ : state.loop = .retry pass) (stands : state.ring.poll = .service thread)
    (stepped : txStep state.ring.shared thread = some (shared, next))
    (notified : timer.networkArmed = true → timer.networkNtfn = true)
    (same : timer = state.timer ∨ ∃ sequence accepted, thread = .cancelTimer sequence accepted)
    (zero : ∀ reply ∈ replies, reply.accepted = 0 → reply.timeout = true) :
    WakeInv (state.routed shared next timer replies) := by
  have sends := txStep_sends stepped
  have retrying : Retrying thread := by
    have stood := inv.stands
    rw [at_, stands] at stood
    exact stood
  have loaded : ∀ request, thread.held = some request →
      request = state.header.txRequestSequence ∨ state.Fresh := by
    intro request holds
    refine inv.loaded request ?_
    rw [at_, stands]
    exact holds
  refine ⟨inv.main, inv.sequence, notified, inv.answered_of_sends stands sends, ?_, ?_, ?_, zero⟩
  · show Stands shared state.loop next
    rw [at_]
    exact txStep_retrying retrying stepped
  · intro request loads
    replace loads : state.loop.loaded next = some request := loads
    rw [at_] at loads
    rcases sends.held request loads with held | ⟨current, _, _⟩
    · exact (loaded request held).imp (fun current => current.trans sends.request.symm)
        fun fresh => fresh.routed sends.kick
    · exact .inl (current.trans sends.request.symm)
  · show state.loop.looks next = true ∨ _
    rw [at_]
    have quiet : ∀ request, thread.held = some request →
        shared.header.txResponseSequence = request →
        (state.routed shared next timer replies).Unanswered →
        (state.routed shared next timer replies).Fresh := by
      intro request holds response unanswered
      refine ((loaded request holds).resolve_left fun current => ?_).routed sends.kick
      exact unanswered (sends.request.trans (current.symm.trans response.symm))
    cases thread <;> simp only [txStep] at stepped
    case idle => cases stepped
    case retryRequest =>
      cases stepped
      by_cases none : state.ring.shared.header.txRequestSequence = 0
      · refine .inr fun unanswered => absurd ?_ unanswered
        exact none.trans (inv.answered none).1.symm
      · rw [if_neg none]
        exact .inl rfl
    case retryResponse sequence =>
      cases stepped
      by_cases answered : sequence = state.ring.shared.header.txResponseSequence
      · exact .inr fun unanswered => .inl (quiet sequence rfl answered.symm unanswered)
      · rw [if_neg answered]
        exact .inl rfl
    case cancelTimer | storeAccepted =>
      cases stepped
      exact .inl rfl
    case storeResponse sequence =>
      cases stepped
      exact .inr fun unanswered => .inl (quiet sequence rfl rfl unanswered)
    case signal =>
      cases stepped
      refine .inr fun unanswered => ?_
      have covered := inv.covered.resolve_left fun looks => by
        rw [at_, stands] at looks
        cases looks
      have kept := same.resolve_right (by simp)
      refine (covered unanswered).imp (fun fresh => fresh.routed id) ?_
      rw [kept]
      exact id
    all_goals exact retrying.elim

theorem WakeInv.routine {hardware : Hardware} {answers : Answers} (inv : WakeInv state)
    (moved : routineStep hardware state answers = some target) : WakeInv target := by
  obtain ⟨ring, stepped, rfl⟩ := Option.map_eq_some_iff.mp moved
  by_cases outside : ∀ thread, state.ring.poll ≠ .service thread
  · have idle : state.ring.poll.thread = .idle := by
      cases stands : state.ring.poll with
      | service thread => exact absurd stands (outside thread)
      | _ => rfl
    have kept := inv.quiet (pollStep_quiet stepped outside) idle
    split
    next stands => exact absurd stands (outside _)
    next stands => exact absurd stands (outside _)
    next => exact kept
  · obtain ⟨thread, stands⟩ := not_forall_not.mp outside
    rw [stands] at stepped
    obtain ⟨⟨shared, next⟩, served, rfl⟩ := Option.map_eq_some_iff.mp stepped
    have kept : ∀ timer replies,
        (timer.networkArmed = true → timer.networkNtfn = true) →
        (timer = state.timer ∨ ∃ sequence accepted, thread = .cancelTimer sequence accepted) →
        (∀ reply ∈ replies, reply.accepted = 0 → reply.timeout = true) →
        WakeInv (state.routed shared next timer replies) := by
      intro timer replies notified same zero
      have stood := inv.stands
      cases at_ : state.loop with
      | serve round pass => exact inv.serving at_ stands served notified zero
      | retry pass => exact inv.retrying at_ stands served notified same zero
      | _ =>
          rw [at_, stands] at stood
          rw [show thread = .idle from stood] at served
          cases served
    split
    next sequence accepted cancels =>
      have cancelled := state.timer.cancelNetwork_network hardware answers
      refine kept _ _ ?_ (.inr ⟨sequence, accepted, ?_⟩) inv.zero
      · intro armed
        rw [cancelled] at armed
        cases armed
      · rw [stands] at cancels
        exact PollThread.service.inj cancels
    next sequence stores =>
      refine kept _ _ inv.notified (.inl rfl) ?_
      intro reply member zero
      rcases List.mem_append.mp member with earlier | latest
      · exact inv.zero reply earlier zero
      · rw [List.mem_singleton] at latest
        subst latest
        have stood := inv.stands
        rw [stores] at stood
        cases at_ : state.loop with
        | retry pass => rfl
        | serve round pass =>
            rw [at_] at stood
            exact absurd zero stood
        | _ =>
            rw [at_] at stood
            cases stood
    next => exact kept _ _ inv.notified (.inl rfl) inv.zero

theorem WakeInv.stepPoll {hardware : Hardware} {more : Bool} {answers : Answers}
    (inv : WakeInv state) (succeeds : answers.pitSucceeds = true)
    (moved : stepPoll hardware state more answers = some target) : WakeInv target := by
  unfold Net.stepPoll at moved
  split at moved
  next stands => exact inv.loopStep succeeds (by rw [stands]; rfl) moved
  next => exact inv.routine moved

variable [DecidableEq Sender] [DecidableEq Ntfn] {hardware : Hardware}

theorem WakeInv.next {action : LoopAction Sender Ntfn} (inv : WakeInv state)
    (succeeds : PitSucceeds state action) (moved : loopNext hardware state action = some target) :
    WakeInv target := by
  cases action with
  | child action => exact inv.child moved
  | netTx length =>
      obtain ⟨ring, entered, rfl⟩ := Option.map_eq_some_iff.mp moved
      exact inv.enterMain (serviceTx_endpoint length) entered
  | netTxBatch requested =>
      obtain ⟨ring, entered, rfl⟩ := Option.map_eq_some_iff.mp moved
      exact inv.enterMain (serviceTxBatch_endpoint requested) entered
  | stepMain =>
      obtain ⟨ring, stepped, rfl⟩ := Option.map_eq_some_iff.mp moved
      exact inv.stepMain stepped
  | timerService message answers =>
      cases moved
      exact inv.timerService message answers
  | stressGate closed =>
      cases moved
      exact inv.ring rfl rfl rfl inv.main
  | childActive active =>
      cases moved
      exact inv.ring rfl rfl rfl inv.main
  | kick =>
      cases moved
      exact inv.steady (.ring rfl rfl rfl rfl fun _ => rfl) inv.main inv.sequence inv.notified
  | completion cookie =>
      simp only [loopNext] at moved
      split at moved
      all_goals
        first
          | cases moved
          | obtain ⟨ring, reported, rfl⟩ := Option.map_eq_some_iff.mp moved
            obtain ⟨quiet, outside⟩ := completion_quiet reported
            exact inv.quiet quiet outside
  | rawTx result =>
      obtain ⟨ring, answered, rfl⟩ := Option.map_eq_some_iff.mp moved
      obtain ⟨quiet, outside⟩ := rawTx_quiet answered
      exact inv.quiet quiet outside
  | poll more answers => exact inv.stepPoll succeeds moved
  | netInterrupt =>
      cases moved
      exact inv.steady ⟨rfl, rfl, rfl, rfl, rfl, .inl rfl, id, fun timed => .inr timed⟩ inv.main
        inv.sequence inv.notified
  | netIrq => exact inv.netIrq moved
  | timerInterrupt answers =>
      simp only [loopNext] at moved
      split at moved
      next waits =>
        cases moved
        exact inv.timerInterrupt succeeds waits
      next => cases moved
  | timerIrq => exact inv.timerIrq moved

omit [DecidableEq Sender] [DecidableEq Ntfn] in
theorem LoopInitial.inv (initial : LoopInitial state) : WakeInv state where
  main := by
    rw [initial.main]
    exact ⟨rfl, nofun, nofun, nofun⟩
  sequence count next stands := by
    rw [initial.worker] at stands
    cases stands
  notified armed := by
    rw [initial.timer] at armed
    cases armed
  answered _ := ⟨initial.response, by rw [initial.poll]; rfl⟩
  stands := by
    rw [initial.loop, initial.poll]
    rfl
  loaded request loads := by
    rw [initial.loop] at loads
    cases loads
  covered := .inr fun unanswered =>
    absurd (initial.request.trans initial.response.symm) unanswered
  zero := by simp [initial.replies]

/-- In every interleaving in which the PIT driver succeeds, an unanswered request
has a wake source while the poll thread is blocked, and only the timeout path
answers that nothing was accepted. -/
theorem tx_response_wakes (hardware : Hardware) {state : LoopState Sender Ntfn}
    (reached : (loopSystem Sender Ntfn hardware).Reach PitSucceeds state) :
    ResponsesWake state := by
  have inv : WakeInv state := System.Reach.invariant WakeInv
    (fun _ (initial : LoopInitial _) => initial.inv)
    (fun _ _ _ inv succeeds moved => inv.next succeeds moved) reached
  refine ⟨fun waits unanswered => inv.covered.resolve_left (fun looks => ?_) unanswered, inv.zero⟩
  rw [waits] at looks
  cases looks

end Invariant

/-- A child that has not sent anything yet, and is not active. -/
def loopStart : LoopState Unit Unit where
  child := txStart.child
  ring :=
    { shared := { txStart.shared with childActive := false }
      submit := 0
      pending := 0
      dma := fun _ => ⟨false, 0, []⟩
      main := .idle
      poll := .service .idle
      handed := [] }
  timer := Timer.cleared Unit
  loop := .wait
  netIrq := .waitIrq
  timerIrq := .waitIrq
  irqBadge := false
  timerBadge := false
  irqNtfn := false
  irqDone := false
  pollInDriver := false
  replies := []

/-- The child submits one packet and waits for the answer. -/
def submitOne : List (LoopAction Unit Unit) :=
  (.child (.send () [some [7]]) :: List.replicate 9 (.child (.call ()))) ++
    List.replicate 8 (.child .worker) ++ List.replicate 7 (.child (.coalesce true)) ++
    List.replicate 14 (.child .worker)

/-- The request was submitted before the child became active, and is left to the
recheck timer. -/
theorem tx_response_wakes_recheck :
    ∃ state, (loopSystem Unit Unit TimerManager.pitHardware).Reach PitSucceeds state ∧
      (state.loop = .wait ∧ state.header.txRequestSequence = 1 ∧
        state.header.txResponseSequence = 0 ∧ state.kicked = false ∧
        state.timer.networkArmed = true ∧ state.ring.shared.childActive = true) ∧
      ResponsesWake state := by
  obtain ⟨state, reached, ends⟩ := System.exists_reach_of_exec
    (loopSystem Unit Unit TimerManager.pitHardware) PitSucceeds loopStart
    (submitOne ++ List.replicate 27 (.poll false ⟨5, 5, true⟩) ++ [.childActive true])
    (fun state => decide (state.loop = .wait ∧ state.header.txRequestSequence = 1 ∧
      state.header.txResponseSequence = 0 ∧ state.kicked = false ∧
      state.timer.networkArmed = true ∧ state.ring.shared.childActive = true))
    ⟨rfl, rfl, rfl, rfl, rfl, rfl, rfl, rfl, rfl, rfl⟩ (by decide +kernel)
  exact ⟨state, reached, of_decide_eq_true ends,
    tx_response_wakes TimerManager.pitHardware reached⟩

end Luna.Net
