import Luna.Lib.Interleaving
import Luna.Net.TxChild

/-!
# The TX handshake

The child's worker stages packets in the window, stores a new request sequence
and waits until the manager has stored the same response sequence.  The
invariant follows one submission: while a request is unanswered the window
holds the oldest packets of the child's ring (`Staged`), and `inFlight` counts
the packets the manager has pushed and the child has not popped yet.
-/

namespace Luna.Net

open Interleaving ByteMemory

variable {Sender : Type}

/-- Packets waiting in the child's ring, oldest first. -/
def TxBackend.contents (backend : TxBackend Sender) : List Packet :=
  CircularBuffer.contents lunaNetChildTxQueueCount backend.queue backend.head backend.tail

/-- The packet at a distance from the tail. -/
def TxBackend.slot (backend : TxBackend Sender) (index : Nat) : Packet :=
  backend.queue ((backend.tail + index) % lunaNetChildTxQueueCount)

def TxState.pushedBytes (state : TxState Sender) : List (List UInt8) :=
  state.shared.pushed.map Packet.bytes

/-- What was pushed is a prefix of what was enqueued, and followed by what is
still queued and not yet accepted it is everything that was enqueued. -/
def TxState.ExactlyOnce (state : TxState Sender) : Prop :=
  state.pushedBytes <+: state.child.enqueued ∧
    state.pushedBytes ++ (state.child.contents.drop
      (state.pushedBytes.length - state.child.popped)).map Packet.bytes = state.child.enqueued

def TxInitial (state : TxState Sender) : Prop :=
  state.child.head = 0 ∧ state.child.tail = 0 ∧ state.child.mutex = none ∧
    state.child.submitSequence = 0 ∧ (∀ sender, state.child.calls sender = .idle) ∧
    state.child.worker = .workDown ∧ state.child.enqueued = [] ∧ state.child.popped = 0 ∧
    state.shared.header.txRequestSequence = 0 ∧ state.shared.header.txResponseSequence = 0 ∧
    state.shared.pushed = [] ∧ state.poll = .idle

def txSystem [DecidableEq Sender] : System (TxState Sender) (TxAction Sender) :=
  ⟨TxInitial, txNext⟩

/-! ## The invariant -/

def TxCall.holds : TxCall → Bool
  | .reserve _ _ | .fill _ _ _ | .publish _ _ | .unlock | .fullUnlock => true
  | _ => false

def TxWorker.holds : TxWorker → Bool
  | .countRead | .countUnlock _ | .recountRead _ | .recountUnlock _ _ | .stageStart
  | .stageLength _ _ _ | .stageData _ _ _ | .stageCount _ | .stageUnlock _ | .pop _ _
  | .popUnlock _ => true
  | _ => false

/-- The submission the worker waits for. -/
def TxWorker.awaits : TxWorker → Option (Nat × Nat)
  | .submitSignal count sequence | .loadResponse count sequence | .waitNtfn count sequence =>
      some (count, sequence)
  | _ => none

/-- A checked request: its length, and what the copy loop will store. -/
def Gathered (iov : Iovecs) (total : Nat) : Prop :=
  total ≠ 0 ∧ totalLength iov 0 = some total

def TxBackend.CallFits (backend : TxBackend Sender) : TxCall → Prop
  | .freeDown iov total | .checkError iov total | .checkStop iov total | .lock iov total
  | .reserve iov total => Gathered iov total
  | .fill iov total next => Gathered iov total ∧
      next = (backend.head + 1) % lunaNetChildTxQueueCount ∧ next ≠ backend.tail
  | .publish iov next => next = (backend.head + 1) % lunaNetChildTxQueueCount ∧
      next ≠ backend.tail ∧ validLength (backend.queue backend.head).length = true ∧
      (backend.queue backend.head).bytes = payload iov
  | _ => True

variable (child : TxBackend Sender) (shared : TxShared)

/-- The first `count` slots of the window hold the oldest packets of the ring. -/
def Staged (count : Nat) : Prop :=
  count ≤ child.queued ∧ count ≤ lunaNetBatchSlots ∧ ∀ index < count,
    shared.header.txLengths index = (child.slot index).length ∧
      read (shared.window index) 0 (child.slot index).length = (child.slot index).bytes

/-- A staged batch that is, or is about to be, submitted. -/
def Submitted (count : Nat) : Prop :=
  0 < count ∧ Staged child shared count ∧ shared.header.txCount = count

def WorkerFits : TxWorker → Prop
  | .stageLength tail head count => head = child.head ∧
      tail = (child.tail + count) % lunaNetChildTxQueueCount ∧
      count < child.queued ∧ count < lunaNetBatchSlots ∧ Staged child shared count
  | .stageData tail head count => head = child.head ∧
      tail = (child.tail + count) % lunaNetChildTxQueueCount ∧
      count < child.queued ∧ count < lunaNetBatchSlots ∧ Staged child shared count ∧
      shared.header.txLengths count = (child.queue tail).length
  | .stageCount count => Staged child shared count
  | .stageUnlock count => Staged child shared count ∧ shared.header.txCount = count
  | .bumpSequence count => Submitted child shared count
  | .storeRequest count sequence => Submitted child shared count ∧ sequence ≠ 0 ∧
      sequence ≠ shared.header.txResponseSequence ∧ sequence = child.submitSequence
  | .submitSignal count _ | .loadResponse count _ | .waitNtfn count _ | .loadAccepted count _ =>
      Submitted child shared count
  | .popLock accepted => 0 < accepted ∧ accepted ≤ child.queued
  | .pop accepted index => index < accepted ∧ accepted - index ≤ child.queued
  | _ => True

/-- Where the two sequence numbers stand. -/
def Handshake : TxWorker → Prop
  | .submitSignal _ sequence | .loadResponse _ sequence | .waitNtfn _ sequence =>
      sequence ≠ 0 ∧ sequence = shared.header.txRequestSequence ∧
        sequence = child.submitSequence
  | .storeRequest _ _ => shared.header.txResponseSequence = shared.header.txRequestSequence
  | _ => shared.header.txResponseSequence = shared.header.txRequestSequence ∧
      shared.header.txRequestSequence = child.submitSequence

/-- How many packets an answer stands for; a rejected batch stands for none. -/
def credit (accepted : Nat) : Nat := if accepted = wordMax then 0 else accepted

/-- The answer is a rejection or does not exceed the submission. -/
def Answer (accepted count : Nat) : Prop := accepted = wordMax ∨ accepted ≤ count

/-- An answered submission carries a sound answer. -/
def Answered : TxWorker → Prop
  | .submitSignal count sequence | .loadResponse count sequence | .waitNtfn count sequence =>
      sequence = shared.header.txResponseSequence → Answer shared.header.txAccepted count
  | .loadAccepted count _ => Answer shared.header.txAccepted count
  | _ => True

/-- Packets the manager has pushed for a submission it has not answered yet. -/
def TxThread.inFlight : TxThread → Nat
  | .kick batch => batch.accepted
  | .cancelTimer _ accepted | .storeAccepted _ accepted => credit accepted
  | .storeResponse _ => credit shared.header.txAccepted
  | _ => 0

/-- Packets pushed by the manager and not yet popped by the child. -/
def inFlight (poll : TxThread) : TxWorker → Nat
  | .submitSignal _ sequence | .loadResponse _ sequence | .waitNtfn _ sequence =>
      if shared.header.txResponseSequence = sequence then credit shared.header.txAccepted
      else poll.inFlight shared
  | .loadAccepted _ _ => credit shared.header.txAccepted
  | .popLock accepted => accepted
  | .pop accepted index => accepted - index
  | _ => 0

/-- The manager works on the submission the worker waits for. -/
def Pending (sequence count : Nat) : Prop :=
  child.worker.awaits = some (count, sequence) ∧ sequence ≠ shared.header.txResponseSequence

/-- The manager's locals in the copy loop, after `copied` packets. -/
structure Copying (batch : TxBatch) (copied : Nat) : Prop where
  pending : ∃ sequence count, batch.caller = .notification sequence ∧
    Pending child shared sequence count ∧ batch.accepted ≤ count
  copies : ∀ index < copied,
    (shared.queue (batch.slot index)).bytes = (child.slot index).bytes

def PollFits : TxThread → Prop
  | .notifyResponse sequence | .retryResponse sequence =>
      sequence = shared.header.txRequestSequence ∨ sequence = shared.header.txResponseSequence
  | .notifyCount sequence => ∃ count, Pending child shared sequence count
  | .batchCount (.notification sequence) requested
  | .batchActive (.notification sequence) requested
  | .batchHead (.notification sequence) requested
  | .batchTail (.notification sequence) requested _ => Pending child shared sequence requested
  | .backpressure (.notification sequence) => ∃ count, Pending child shared sequence count
  | .validate batch index => Copying child shared batch 0 ∧ index < batch.accepted
  | .copyLength batch index => Copying child shared batch index ∧ index < batch.accepted
  | .copyData batch index length => Copying child shared batch index ∧ index < batch.accepted ∧
      length = (child.slot index).length
  | .storeLength batch index length => Copying child shared batch index ∧
      index < batch.accepted ∧ length = (child.slot index).length ∧
      read (shared.queue (batch.slot index)).data 0 length = (child.slot index).bytes
  | .publish batch => Copying child shared batch batch.accepted ∧ batch.accepted ≠ 0
  | .kick batch => Copying child shared batch 0 ∧ batch.accepted ≠ 0
  | .cancelTimer sequence accepted | .storeAccepted sequence accepted =>
      ∃ count, Pending child shared sequence count ∧ Answer accepted count
  | .storeResponse sequence =>
      ∃ count, Pending child shared sequence count ∧ Answer shared.header.txAccepted count
  | .idle | .notifyActive | .notifyRequest | .signal | .retryRequest => True
  | _ => False

variable {child shared}

structure TxInv (state : TxState Sender) : Prop where
  locked : ∀ sender, (state.child.calls sender).holds = true →
    state.child.mutex = some (.sender sender)
  workerLocked : state.child.worker.holds = true → state.child.mutex = some .worker
  headLt : state.child.head < lunaNetChildTxQueueCount
  tailLt : state.child.tail < lunaNetChildTxQueueCount
  valid : ∀ packet ∈ state.child.contents, validLength packet.length = true
  calls : ∀ sender, state.child.CallFits (state.child.calls sender)
  worker : WorkerFits state.child state.shared state.child.worker
  enough : state.child.popped ≤ state.child.enqueued.length
  history : state.child.enqueued.drop state.child.popped =
    state.child.contents.map Packet.bytes
  handshake : Handshake state.child state.shared state.child.worker
  answered : Answered state.shared state.child.worker
  poll : PollFits state.child state.shared state.poll
  pushed : state.pushedBytes = state.child.enqueued.take
    (state.child.popped + inFlight state.shared state.poll state.child.worker)

theorem txInitial_inv (state : TxState Sender) (initial : TxInitial state) : TxInv state := by
  obtain ⟨head, tail, _, submitSequence, calls, worker, enqueued, popped, request, response,
    pushed, poll⟩ := initial
  refine ⟨?_, ?_, ?_, ?_, ?_, ?_, ?_, ?_, ?_, ?_, ?_, ?_, ?_⟩
  · intro sender holds
    simp [calls, TxCall.holds] at holds
  · simp [worker, TxWorker.holds]
  · simp [head, lunaNetChildTxQueueCount]
  · simp [tail, lunaNetChildTxQueueCount]
  · simp [TxBackend.contents, head, tail]
  · intro sender
    simp [calls, TxBackend.CallFits]
  · simp [WorkerFits, worker]
  · simp [popped]
  · simp [enqueued, TxBackend.contents, head, tail]
  · simp [Handshake, worker, request, response, submitSequence]
  · simp [Answered, worker]
  · simp [PollFits, poll]
  · simp [TxState.pushedBytes, pushed, enqueued]

/-! ## Packets of the child -/

/-- What the copy loop stores is the concatenation of the iovecs. -/
theorem Gathered.stored {iov : Iovecs} {total : Nat} (gathered : Gathered iov total)
    (data : Memory) : validLength total = true ∧
      Packet.bytes ⟨total, copyIovecs data iov 0⟩ = payload iov := by
  obtain ⟨positive, checked⟩ := gathered
  obtain ⟨sum, bound⟩ := totalLength_eq (Nat.zero_le _) checked
  rw [Nat.zero_add] at sum
  refine ⟨by simpa [validLength, bound] using Nat.one_le_iff_ne_zero.mpr positive, ?_⟩
  simp only [Packet.bytes, copyIovecs_eq]
  rw [sum]
  exact read_write_same

/-! ## The ring grows -/

section Grow

variable {after : TxBackend Sender}

/-- A sender has filled or published a slot: the worker and the packets already
queued are as they were. -/
structure Grows (child after : TxBackend Sender) : Prop where
  awaits : after.worker.awaits = child.worker.awaits
  submitSequence : after.submitSequence = child.submitSequence
  queued : child.queued ≤ after.queued
  slot : ∀ index < child.queued, after.slot index = child.slot index

theorem Grows.staged (grows : Grows child after) {count : Nat} (staged : Staged child shared count) :
    Staged after shared count := by
  obtain ⟨filled, small, matched⟩ := staged
  refine ⟨Nat.le_trans filled grows.queued, small, fun index below => ?_⟩
  rw [grows.slot index (Nat.lt_of_lt_of_le below filled)]
  exact matched index below

theorem Grows.submitted (grows : Grows child after) {count : Nat}
    (submitted : Submitted child shared count) : Submitted after shared count :=
  ⟨submitted.1, grows.staged submitted.2.1, submitted.2.2⟩

/-- The worker is outside the lock, so it holds no cursor into the ring. -/
theorem Grows.workerFits (grows : Grows child after) {worker : TxWorker}
    (outside : worker.holds = false) (fits : WorkerFits child shared worker) :
    WorkerFits after shared worker := by
  cases worker <;> simp only [TxWorker.holds, Bool.true_eq_false] at outside
  case bumpSequence count => exact grows.submitted fits
  case storeRequest count sequence =>
    exact ⟨grows.submitted fits.1, fits.2.1, fits.2.2.1,
      fits.2.2.2.trans grows.submitSequence.symm⟩
  case submitSignal count sequence => exact grows.submitted fits
  case loadResponse count sequence => exact grows.submitted fits
  case waitNtfn count sequence => exact grows.submitted fits
  case loadAccepted count sequence => exact grows.submitted fits
  case popLock accepted => exact ⟨fits.1, Nat.le_trans fits.2 grows.queued⟩
  all_goals trivial

theorem Grows.handshake (grows : Grows child after) {worker : TxWorker}
    (handshake : Handshake child shared worker) : Handshake after shared worker := by
  cases worker <;> simpa only [Handshake, grows.submitSequence] using handshake

/-- A pending submission is staged. -/
theorem Pending.submitted {sequence count : Nat} (pending : Pending child shared sequence count)
    (fits : WorkerFits child shared child.worker) : Submitted child shared count := by
  have awaits := pending.1
  cases at_ : child.worker <;> simp only [at_, TxWorker.awaits, reduceCtorEq] at fits awaits
  all_goals
    simp only [Option.some.injEq, Prod.mk.injEq] at awaits
    obtain ⟨rfl, rfl⟩ := awaits
    exact fits

theorem Copying.queued {batch : TxBatch} {copied : Nat} (copying : Copying child shared batch copied)
    (fits : WorkerFits child shared child.worker) : batch.accepted ≤ child.queued := by
  obtain ⟨sequence, count, _, pending, within⟩ := copying.pending
  exact Nat.le_trans within (pending.submitted fits).2.1.1

theorem Grows.pending (grows : Grows child after) {later : TxShared}
    (header : later.header = shared.header) {sequence count : Nat}
    (pending : Pending child shared sequence count) : Pending after later sequence count := by
  rwa [Pending, grows.awaits, header]

theorem Grows.copying (grows : Grows child after) {later : TxShared}
    (header : later.header = shared.header) (queue : later.queue = shared.queue)
    {batch : TxBatch} {copied : Nat} (filled : copied ≤ child.queued)
    (copying : Copying child shared batch copied) : Copying after later batch copied := by
  refine ⟨?_, fun index below => ?_⟩
  · obtain ⟨sequence, count, caller, pending, within⟩ := copying.pending
    exact ⟨sequence, count, caller, grows.pending header pending, within⟩
  · rw [grows.slot index (Nat.lt_of_lt_of_le below filled), queue]
    exact copying.copies index below

variable (shared) in
theorem Grows.pollFits (grows : Grows child after) (later : TxShared)
    (header : later.header = shared.header) (queue : later.queue = shared.queue)
    (fits : WorkerFits child shared child.worker)
    {thread : TxThread} (poll : PollFits child shared thread) : PollFits after later thread := by
  have pending : ∀ {sequence count}, Pending child shared sequence count →
      Pending after later sequence count := grows.pending header
  cases thread <;> simp only [PollFits, header, queue] at poll ⊢
  case notifyResponse => exact poll
  case retryResponse => exact poll
  case notifyCount => exact poll.imp fun _ => pending
  case batchCount caller _ | batchActive caller _ | batchHead caller _ | batchTail caller _ _ =>
    cases caller with
    | notification sequence => exact pending poll
    | endpoint => exact poll
  case backpressure caller =>
    cases caller with
    | notification sequence => exact poll.imp fun _ => pending
    | endpoint => exact poll
  case validate batch index =>
    exact ⟨grows.copying header queue (Nat.zero_le _) poll.1, poll.2⟩
  case copyLength batch index =>
    have filled := poll.1.queued fits
    exact ⟨grows.copying header queue (by omega) poll.1, poll.2⟩
  case copyData batch index length =>
    have filled := poll.1.queued fits
    rw [grows.slot index (by omega)]
    exact ⟨grows.copying header queue (by omega) poll.1, poll.2⟩
  case storeLength batch index length =>
    have filled := poll.1.queued fits
    rw [grows.slot index (by omega)]
    exact ⟨grows.copying header queue (by omega) poll.1, poll.2⟩
  case publish batch => exact ⟨grows.copying header queue (poll.1.queued fits) poll.1, poll.2⟩
  case kick batch => exact ⟨grows.copying header queue (Nat.zero_le _) poll.1, poll.2⟩
  case cancelTimer => exact poll.imp fun _ both => ⟨pending both.1, both.2⟩
  case storeAccepted => exact poll.imp fun _ both => ⟨pending both.1, both.2⟩
  case storeResponse => exact poll.imp fun _ both => ⟨pending both.1, both.2⟩

end Grow

/-! ## Packets in flight -/

section Flight

variable {state : TxState Sender}

theorem credit_le {accepted count : Nat} (answer : Answer accepted count) :
    credit accepted ≤ count := by
  unfold credit
  rcases answer with rejected | within
  · simp [rejected]
  · split <;> omega

theorem PollFits.inFlight_le {thread : TxThread} (fits : PollFits child shared thread)
    (worker : WorkerFits child shared child.worker) : thread.inFlight shared ≤ child.queued := by
  cases thread <;> simp only [PollFits, TxThread.inFlight] at fits ⊢
  case kick batch => exact fits.1.queued worker
  case cancelTimer sequence accepted =>
    obtain ⟨count, pending, answer⟩ := fits
    exact Nat.le_trans (credit_le answer) (pending.submitted worker).2.1.1
  case storeAccepted sequence accepted =>
    obtain ⟨count, pending, answer⟩ := fits
    exact Nat.le_trans (credit_le answer) (pending.submitted worker).2.1.1
  case storeResponse sequence =>
    obtain ⟨count, pending, answer⟩ := fits
    exact Nat.le_trans (credit_le answer) (pending.submitted worker).2.1.1
  all_goals exact Nat.zero_le _

/-- Packets in flight are still in the child's ring. -/
theorem TxInv.inFlight_le (inv : TxInv state) :
    inFlight state.shared state.poll state.child.worker ≤ state.child.queued := by
  have worker := inv.worker
  have answered := inv.answered
  have poll := inv.poll.inFlight_le inv.worker
  cases at_ : state.child.worker <;> simp only [at_] at worker answered <;>
    simp only [inFlight]
  case submitSignal count sequence | loadResponse count sequence | waitNtfn count sequence =>
    split
    next same => exact Nat.le_trans (credit_le (answered same.symm)) worker.2.1.1
    next different => exact poll
  case loadAccepted count sequence => exact Nat.le_trans (credit_le answered) worker.2.1.1
  case popLock accepted => exact worker.2
  case pop accepted index => exact worker.2
  all_goals exact Nat.zero_le _

theorem TxInv.length_enqueued (inv : TxInv state) :
    state.child.enqueued.length = state.child.popped + state.child.queued := by
  have remaining := congrArg List.length inv.history
  have enough := inv.enough
  simp only [List.length_drop, List.length_map, TxBackend.contents,
    CircularBuffer.length_contents] at remaining
  unfold TxBackend.queued
  omega

end Flight

/-! ## Steps of the senders -/

section Senders

variable {state : TxState Sender} {sender : Sender} {call : TxCall}

/-- While a sender is inside the lock every other thread is outside. -/
theorem TxInv.alone (inv : TxInv state) (holds : (state.child.calls sender).holds = true) :
    state.child.worker.holds = false ∧
      ∀ other, other ≠ sender → (state.child.calls other).holds = false := by
  have mine := inv.locked sender holds
  refine ⟨?_, fun other different => ?_⟩
  · by_contra inside
    have theirs := inv.workerLocked (by simpa using inside)
    simp [mine] at theirs
  · by_contra inside
    have theirs := inv.locked other (by simpa using inside)
    rw [mine] at theirs
    simp only [Option.some.injEq, TxHolder.sender.injEq] at theirs
    exact different theirs.symm

/-- Outside the lock a sender relies on nothing but its own request. -/
theorem callFits_outside {after : TxBackend Sender} (fits : child.CallFits call)
    (outside : call.holds = false) : after.CallFits call := by
  cases call <;> simp only [TxCall.holds, Bool.true_eq_false] at outside
  all_goals exact fits

variable [DecidableEq Sender]

theorem update_calls (property : Sender → TxCall → Prop) (fits : property sender call)
    (others : ∀ other, other ≠ sender → property other (state.child.calls other)) (other : Sender) :
    property other (Function.update state.child.calls sender call other) := by
  by_cases here : other = sender
  · subst here
    rwa [Function.update_self]
  · rw [Function.update_of_ne here]
    exact others other here

/-- A sender moves without touching the ring. -/
theorem move_call (inv : TxInv state) {mutex : Option (TxHolder Sender)} {workSem freeSem : Nat}
    {txError : Bool}
    (locked : ∀ other, (Function.update state.child.calls sender call other).holds = true →
      mutex = some (.sender other))
    (workerLocked : state.child.worker.holds = true → mutex = some .worker)
    (fits : state.child.CallFits call) :
    TxInv { state with child := { state.child.enter sender call with
      mutex, workSem, freeSem, txError } } := by
  refine ⟨locked, workerLocked, inv.headLt, inv.tailLt, inv.valid, ?_, inv.worker, inv.enough,
    inv.history, inv.handshake, inv.answered, ?_, inv.pushed⟩
  · exact update_calls (fun _ call => state.child.CallFits call) fits
      fun other _ => inv.calls other
  · have grows : Grows state.child { state.child.enter sender call with
        mutex, workSem, freeSem, txError } := ⟨rfl, rfl, Nat.le_refl _, fun _ _ => rfl⟩
    exact grows.pollFits _ _ rfl rfl inv.worker inv.poll

theorem locked_stay_call (inv : TxInv state)
    (stays : call.holds = true → (state.child.calls sender).holds = true) (other : Sender) :
    (Function.update state.child.calls sender call other).holds = true →
      state.child.mutex = some (.sender other) :=
  update_calls (fun other call => call.holds = true →
    state.child.mutex = some (.sender other)) (fun holds => inv.locked sender (stays holds))
    (fun other _ => inv.locked other) other

theorem enter_call (inv : TxInv state) {workSem freeSem : Nat} {txError : Bool}
    (stays : call.holds = true → (state.child.calls sender).holds = true)
    (fits : state.child.CallFits call) :
    TxInv { state with child := { state.child.enter sender call with
      workSem, freeSem, txError } } :=
  move_call inv (locked_stay_call inv stays) inv.workerLocked fits

theorem unlock_call (inv : TxInv state) (inside : (state.child.calls sender).holds = true)
    (leaves : call.holds = false) (fits : state.child.CallFits call) :
    TxInv { state with child := { state.child.enter sender call with mutex := none } } := by
  obtain ⟨workerOut, othersOut⟩ := inv.alone inside
  refine move_call inv ?_ (by simp [workerOut]) fits
  intro other holds
  have outside : (Function.update state.child.calls sender call other).holds = false :=
    update_calls (fun _ call => call.holds = false) leaves othersOut other
  simp [outside] at holds

theorem lock_call (inv : TxInv state) (free : state.child.mutex = none)
    (fits : state.child.CallFits call) :
    TxInv { state with child := { state.child.enter sender call with
      mutex := some (.sender sender) } } := by
  refine move_call inv ?_ ?_ fits
  · intro other holds
    by_cases here : other = sender
    · rw [here]
    · rw [Function.update_of_ne here] at holds
      simp [inv.locked other holds] at free
  · intro holds
    simp [inv.workerLocked holds] at free

/-- A sender fills the head slot, which nobody else looks at. -/
theorem fill_call (inv : TxInv state) {iov : Iovecs} {total next : Nat}
    (at_ : state.child.calls sender = .fill iov total next) :
    TxInv { state with child := { state.child.enter sender (.publish iov next) with
      queue := Function.update state.child.queue state.child.head
        ⟨total, copyIovecs (state.child.queue state.child.head).data iov 0⟩ } } := by
  have inside : (state.child.calls sender).holds = true := by rw [at_]; rfl
  obtain ⟨workerOut, othersOut⟩ := inv.alone inside
  have fits := inv.calls sender
  rw [at_] at fits
  obtain ⟨gathered, isNext, room⟩ := fits
  obtain ⟨valid, bytes⟩ := gathered.stored (state.child.queue state.child.head).data
  have grows : Grows state.child { state.child.enter sender (.publish iov next) with
      queue := Function.update state.child.queue state.child.head
        ⟨total, copyIovecs (state.child.queue state.child.head).data iov 0⟩ } :=
    ⟨rfl, rfl, Nat.le_refl _, fun index filled => Function.update_of_ne
      (CircularBuffer.filled_ne_head inv.headLt inv.tailLt filled) _ _⟩
  refine ⟨locked_stay_call inv fun _ => inside, inv.workerLocked, inv.headLt, inv.tailLt, ?_, ?_,
    grows.workerFits workerOut inv.worker, inv.enough, ?_, grows.handshake inv.handshake,
    inv.answered, grows.pollFits _ _ rfl rfl inv.worker inv.poll, inv.pushed⟩
  · simp only [TxBackend.contents, TxBackend.enter,
      CircularBuffer.contents_update_head _ inv.headLt inv.tailLt]
    exact inv.valid
  · refine update_calls (fun _ call => TxBackend.CallFits _ call) ?_ ?_
    · exact ⟨isNext, room, by simpa [TxBackend.enter] using valid,
        by simpa [TxBackend.enter] using bytes⟩
    · intro other different
      exact callFits_outside (inv.calls other) (othersOut other different)
  · refine inv.history.trans (congrArg (List.map Packet.bytes) ?_)
    exact (CircularBuffer.contents_update_head _ inv.headLt inv.tailLt _).symm

/-- Publishing appends the packet to the ring and to the history. -/
theorem publish_call (inv : TxInv state) {iov : Iovecs} {next : Nat}
    (at_ : state.child.calls sender = .publish iov next) :
    TxInv { state with child := { state.child.enter sender .unlock with
      head := next
      enqueued := state.child.enqueued ++ [payload iov] } } := by
  have inside : (state.child.calls sender).holds = true := by rw [at_]; rfl
  obtain ⟨workerOut, othersOut⟩ := inv.alone inside
  have fits := inv.calls sender
  rw [at_] at fits
  obtain ⟨rfl, room, valid, bytes⟩ := fits
  have longer := CircularBuffer.used_push inv.headLt inv.tailLt room
  have grows : Grows state.child { state.child.enter sender .unlock with
      head := (state.child.head + 1) % lunaNetChildTxQueueCount
      enqueued := state.child.enqueued ++ [payload iov] } :=
    ⟨rfl, rfl, Nat.le_of_succ_le (Nat.le_of_eq longer.symm), fun _ _ => rfl⟩
  refine ⟨locked_stay_call inv fun _ => inside, inv.workerLocked,
    Nat.mod_lt _ (by simp [lunaNetChildTxQueueCount]), inv.tailLt, ?_,
    ?_, grows.workerFits workerOut inv.worker, ?_, ?_, grows.handshake inv.handshake,
    inv.answered, grows.pollFits _ _ rfl rfl inv.worker inv.poll, ?_⟩
  · intro packet member
    simp only [TxBackend.contents, TxBackend.enter,
      CircularBuffer.contents_push _ inv.headLt inv.tailLt room] at member
    rcases List.mem_append.mp member with older | newest
    · exact inv.valid packet older
    · rw [List.mem_singleton.mp newest]
      exact valid
  · refine update_calls (fun _ call => TxBackend.CallFits _ call) trivial ?_
    intro other different
    exact callFits_outside (inv.calls other) (othersOut other different)
  · simp only [List.length_append]
    exact Nat.le_add_right_of_le inv.enough
  · simp only [TxBackend.contents, TxBackend.enter]
    rw [List.drop_append_of_le_length inv.enough, inv.history,
      CircularBuffer.contents_push _ inv.headLt inv.tailLt room]
    simp [TxBackend.contents, bytes]
  · have within := inv.inFlight_le
    have length := inv.length_enqueued
    refine inv.pushed.trans (List.take_append_of_le_length ?_).symm
    omega

theorem stepCall_inv (inv : TxInv state) {child : TxBackend Sender}
    (moved : stepCall state.child sender = some child) : TxInv { state with child } := by
  have fits := inv.calls sender
  unfold stepCall at moved
  cases at_ : state.child.calls sender with
  | idle => simp [at_] at moved
  | freeDown iov total =>
      simp only [at_] at moved fits
      split at moved
      next none => cases moved
      next some =>
        cases moved
        exact enter_call inv (by simp [TxCall.holds]) fits
  | checkError iov total =>
      simp only [at_, Option.some.injEq] at moved fits
      subst moved
      refine enter_call inv ?_ ?_
      · split <;> simp [TxCall.holds]
      · split <;> trivial
  | checkStop iov total =>
      simp only [at_, Option.some.injEq] at moved fits
      subst moved
      refine enter_call inv ?_ ?_
      · split <;> simp [TxCall.holds]
      · split <;> trivial
  | refund =>
      simp only [at_, Option.some.injEq] at moved
      subst moved
      exact enter_call inv (by simp [TxCall.holds]) trivial
  | lock iov total =>
      simp only [at_] at moved fits
      split at moved
      next free =>
        cases moved
        exact lock_call inv free fits
      next taken => cases moved
  | reserve iov total =>
      simp only [at_, Option.some.injEq] at moved fits
      subst moved
      refine enter_call inv (fun _ => by rw [at_]; rfl) ?_
      split
      next full => trivial
      next room => exact ⟨fits, rfl, room⟩
  | fill iov total next =>
      simp only [at_, Option.some.injEq] at moved
      subst moved
      exact fill_call inv at_
  | publish iov next =>
      simp only [at_, Option.some.injEq] at moved
      subst moved
      exact publish_call inv at_
  | unlock =>
      simp only [at_, Option.some.injEq] at moved
      subst moved
      exact unlock_call inv (by rw [at_]; rfl) rfl trivial
  | signalWork =>
      simp only [at_, Option.some.injEq] at moved
      subst moved
      exact enter_call inv (by simp [TxCall.holds]) trivial
  | fullUnlock =>
      simp only [at_, Option.some.injEq] at moved
      subst moved
      exact unlock_call inv (by rw [at_]; rfl) rfl trivial
  | fullRefund =>
      simp only [at_, Option.some.injEq] at moved
      subst moved
      exact enter_call inv (by simp [TxCall.holds]) trivial
  | raiseError =>
      simp only [at_, Option.some.injEq] at moved
      subst moved
      exact enter_call inv (by simp [TxCall.holds]) trivial
  | raiseFree remaining =>
      simp only [at_, Option.some.injEq] at moved
      cases remaining with
      | zero =>
          subst moved
          exact enter_call inv (by simp [TxCall.holds]) trivial
      | succ remaining =>
          subst moved
          exact enter_call inv (by simp [TxCall.holds]) trivial

end Senders

/-! ## Steps of the worker -/

section Worker

variable {state : TxState Sender} {worker : TxWorker}

/-- The thread works on no submission, and what it read is already answered. -/
def TxThread.Unengaged (response : Nat) : TxThread → Prop
  | .notifyResponse sequence | .retryResponse sequence => sequence = response
  | .idle | .notifyActive | .notifyRequest | .signal | .retryRequest => True
  | _ => False

theorem TxThread.Unengaged.pollFits {thread : TxThread} {response : Nat}
    (unengaged : thread.Unengaged response)
    (same : shared.header.txResponseSequence = response) : PollFits child shared thread := by
  cases thread <;> simp only [TxThread.Unengaged] at unengaged
  case notifyResponse | retryResponse => exact .inr (unengaged.trans same.symm)
  all_goals trivial

theorem TxThread.Unengaged.inFlight {thread : TxThread} {response : Nat}
    (unengaged : thread.Unengaged response) : thread.inFlight shared = 0 := by
  cases thread <;> simp only [TxThread.Unengaged] at unengaged
  all_goals rfl

/-- Without a pending submission the poll thread is unengaged. -/
theorem PollFits.unengaged {thread : TxThread} (fits : PollFits child shared thread)
    (free : ∀ sequence count, ¬ Pending child shared sequence count)
    (same : shared.header.txResponseSequence = shared.header.txRequestSequence) :
    thread.Unengaged shared.header.txResponseSequence := by
  have engaged : ∀ {batch : TxBatch} {copied : Nat}, ¬ Copying child shared batch copied := by
    rintro batch copied ⟨⟨sequence, count, _, pending, _⟩, _⟩
    exact free sequence count pending
  cases thread <;> simp only [PollFits] at fits
  case notifyResponse sequence | retryResponse sequence =>
    exact fits.elim (fun request => request.trans same.symm) id
  case notifyCount => exact absurd fits.choose_spec (free _ _)
  case batchCount caller _ | batchActive caller _ | batchHead caller _ | batchTail caller _ _ =>
    cases caller with
    | notification sequence => exact absurd fits (free _ _)
    | endpoint => exact fits.elim
  case backpressure caller =>
    cases caller with
    | notification sequence => exact absurd fits.choose_spec (free _ _)
    | endpoint => exact fits.elim
  case validate | copyLength | copyData | storeLength => exact absurd fits.1 engaged
  case publish | kick => exact absurd fits.1 engaged
  case cancelTimer | storeAccepted | storeResponse =>
    exact absurd fits.choose_spec.1 (free _ _)
  all_goals trivial

/-- A step of the worker that leaves the ring alone, with no submission pending. -/
theorem goto_worker (inv : TxInv state) {mutex : Option (TxHolder Sender)}
    {workSem freeSem coalesceSem coalesceGeneration coalesceExpired submitSequence txCount : Nat}
    {txError : Bool} {txLengths : Nat → Nat} {window : Nat → Memory}
    (free : ∀ sequence count, ¬ Pending state.child state.shared sequence count)
    (same : state.shared.header.txResponseSequence = state.shared.header.txRequestSequence)
    (locked : ∀ sender, (state.child.calls sender).holds = true → mutex = some (.sender sender))
    (workerLocked : worker.holds = true → mutex = some .worker)
    (fits : WorkerFits { state.child with submitSequence } { state.shared with
      header := { state.shared.header with txLengths, txCount }, window } worker)
    (handshake : Handshake { state.child with submitSequence } state.shared worker)
    (answered : Answered state.shared worker)
    (flight : inFlight state.shared state.poll worker =
      inFlight state.shared state.poll state.child.worker) :
    TxInv { state with
      child := { state.child with
        worker, mutex, workSem, freeSem, coalesceSem
        coalesceGeneration, coalesceExpired, submitSequence, txError }
      shared := { state.shared with
        header := { state.shared.header with txLengths, txCount }, window } } := by
  refine ⟨locked, workerLocked, inv.headLt, inv.tailLt, inv.valid, inv.calls, fits, inv.enough,
    inv.history, handshake, answered, (inv.poll.unengaged free same).pollFits rfl, ?_⟩
  refine inv.pushed.trans ?_
  rw [← flight]
  rfl

/-- The worker does not wait for an answer. -/
theorem free_of_awaits (idle : child.worker.awaits = none) (sequence count : Nat) :
    ¬ Pending child shared sequence count := by
  rintro ⟨awaits, _⟩
  simp [idle] at awaits

theorem TxInv.worker_outside (inv : TxInv state) (free : state.child.mutex = none)
    (sender : Sender) : (state.child.calls sender).holds = true → some TxHolder.worker =
      some (TxHolder.sender sender) := by
  intro holds
  simp [inv.locked sender holds] at free

theorem TxInv.senders_outside (inv : TxInv state) (holds : state.child.worker.holds = true)
    (sender : Sender) : (state.child.calls sender).holds = false := by
  by_contra inside
  have theirs := inv.locked sender (by simpa using inside)
  simp [inv.workerLocked holds] at theirs

/-- Moving a packet into the next window slot. -/
theorem Staged.extend {count : Nat} (staged : Staged child shared count)
    (filled : count < child.queued) (room : count < lunaNetBatchSlots)
    (length : shared.header.txLengths count = (child.slot count).length) :
    Staged child { shared with
      window := Function.update shared.window count
        (blit (shared.window count) 0 (child.slot count).data 0 (child.slot count).length) }
      (count + 1) := by
  obtain ⟨_, _, matched⟩ := staged
  refine ⟨filled, room, fun index below => ?_⟩
  rcases Nat.lt_or_eq_of_le (Nat.le_of_lt_succ below) with older | newest
  · simp only [Function.update_of_ne (Nat.ne_of_lt older)]
    exact matched index older
  · subst newest
    simp only [Function.update_self]
    exact ⟨length, read_blit_same⟩

theorem Staged.update_length {count index length : Nat} (staged : Staged child shared count)
    (above : count ≤ index) :
    Staged child { shared with header := { shared.header with
      txLengths := Function.update shared.header.txLengths index length } } count := by
  obtain ⟨filled, small, matched⟩ := staged
  refine ⟨filled, small, fun other below => ?_⟩
  simp only [Function.update_of_ne (show other ≠ index by omega)]
  exact matched other below

theorem nextSequence_ne (sequence : Nat) : nextSequence sequence ≠ sequence := by
  unfold nextSequence
  split <;> omega

theorem nextSequence_ne_zero (sequence : Nat) : nextSequence sequence ≠ 0 := by
  unfold nextSequence
  split <;> omega

/-- The new request is seen by nobody yet. -/
theorem storeRequest_inv (inv : TxInv state) {count sequence : Nat}
    (at_ : state.child.worker = .storeRequest count sequence) :
    TxInv { state with
      child := { state.child with worker := .submitSignal count sequence }
      shared := { state.shared with
        header := { state.shared.header with txRequestSequence := sequence } } } := by
  have fits := inv.worker
  have same := inv.handshake
  have pushed := inv.pushed
  rw [at_] at fits same pushed
  obtain ⟨submitted, nonzero, fresh, issued⟩ := fits
  have unengaged := inv.poll.unengaged (free_of_awaits (by rw [at_]; rfl)) same
  refine ⟨inv.locked, by simp [TxWorker.holds], inv.headLt, inv.tailLt, inv.valid, inv.calls,
    submitted, inv.enough, inv.history, ⟨nonzero, rfl, issued⟩, ?_, unengaged.pollFits rfl, ?_⟩
  · intro answered
    exact absurd answered fresh
  · refine pushed.trans ?_
    simp only [inFlight, if_neg (Ne.symm fresh), unengaged.inFlight]

theorem awaits_cases {count sequence : Nat} (awaits : worker.awaits = some (count, sequence)) :
    worker = .submitSignal count sequence ∨ worker = .loadResponse count sequence ∨
      worker = .waitNtfn count sequence := by
  cases worker <;> simp only [TxWorker.awaits, reduceCtorEq, Option.some.injEq, Prod.mk.injEq]
    at awaits
  all_goals
    obtain ⟨rfl, rfl⟩ := awaits
    simp

/-- The worker steps on while it waits. -/
theorem wait_worker (inv : TxInv state) {count sequence : Nat} {pollKick txNtfn : Bool}
    (from_ : state.child.worker.awaits = some (count, sequence))
    (to_ : worker.awaits = some (count, sequence)) :
    TxInv { state with
      child := { state.child with worker }
      shared := { state.shared with pollKick, txNtfn } } := by
  have grows : Grows state.child { state.child with worker } :=
    ⟨to_.trans from_.symm, rfl, Nat.le_refl _, fun _ _ => rfl⟩
  have poll : PollFits { state.child with worker } { state.shared with pollKick, txNtfn }
      state.poll :=
    grows.pollFits state.shared { state.shared with pollKick, txNtfn } rfl rfl inv.worker inv.poll
  have outside : worker.holds = true → state.child.mutex = some .worker := by
    rcases awaits_cases to_ with rfl | rfl | rfl <;> simp [TxWorker.holds]
  have fits := inv.worker
  have handshake := inv.handshake
  have answered := inv.answered
  have pushed := inv.pushed
  refine ⟨inv.locked, outside, inv.headLt, inv.tailLt, inv.valid, inv.calls, ?_, inv.enough,
    inv.history, ?_, ?_, poll, ?_⟩
  all_goals
    rcases awaits_cases from_ with at_ | at_ | at_ <;> rw [at_] at fits handshake answered pushed <;>
      rcases awaits_cases to_ with rfl | rfl | rfl <;>
        first | exact fits | exact handshake | exact answered | exact pushed

/-- The answer has arrived. -/
theorem loadAccepted_inv (inv : TxInv state) {count sequence : Nat}
    (at_ : state.child.worker = .loadResponse count sequence)
    (answer : state.shared.header.txResponseSequence = sequence) :
    TxInv { state with child := { state.child with worker := .loadAccepted count sequence } } := by
  have fits := inv.worker
  have handshake := inv.handshake
  have answered := inv.answered
  rw [at_] at fits handshake answered
  obtain ⟨nonzero, request, issued⟩ := handshake
  refine goto_worker inv ?_ (answer.trans request) inv.locked (by simp [TxWorker.holds]) fits
    ⟨answer.trans request, request.symm.trans issued⟩ (answered answer.symm) ?_
  · rintro other otherCount ⟨awaits, unanswered⟩
    simp only [at_, TxWorker.awaits, Option.some.injEq, Prod.mk.injEq] at awaits
    exact unanswered (awaits.2.symm.trans answer.symm)
  · simp only [at_, inFlight, if_pos answer]

/-- The worker drops the oldest packet, which the manager has pushed. -/
theorem pop_inv (inv : TxInv state) {accepted index : Nat}
    (at_ : state.child.worker = .pop accepted index) :
    TxInv { state with child := { state.child with
      queue := Function.update state.child.queue state.child.tail
        { state.child.queue state.child.tail with length := 0 }
      tail := (state.child.tail + 1) % lunaNetChildTxQueueCount
      popped := state.child.popped + 1
      worker := if index + 1 < accepted then .pop accepted (index + 1)
        else .popUnlock accepted } } := by
  have fits := inv.worker
  have same := inv.handshake
  have pushed := inv.pushed
  rw [at_] at fits same pushed
  obtain ⟨below, filled⟩ := fits
  have inside : state.child.worker.holds = true := by rw [at_]; rfl
  have nonempty : state.child.head ≠ state.child.tail := by
    intro equal
    have none := (CircularBuffer.used_eq_zero_iff inv.headLt inv.tailLt).mpr equal
    unfold TxBackend.queued at filled
    omega
  have shorter := CircularBuffer.used_pop inv.headLt inv.tailLt nonempty
  have popped := CircularBuffer.contents_pop state.child.queue inv.headLt inv.tailLt
    nonempty
  have kept := CircularBuffer.contents_update_tail state.child.queue inv.headLt
    inv.tailLt nonempty { state.child.queue state.child.tail with length := 0 }
  have length := inv.length_enqueued
  have unengaged := inv.poll.unengaged (free_of_awaits (by rw [at_]; rfl)) same.1
  refine ⟨?_, fun _ => inv.workerLocked inside, inv.headLt,
    Nat.mod_lt _ (by simp [lunaNetChildTxQueueCount]), ?_, ?_, ?_, ?_, ?_, ?_, ?_,
    unengaged.pollFits rfl, ?_⟩
  · intro sender holds
    simp [inv.senders_outside inside sender] at holds
  · simp only [TxBackend.contents]
    rw [kept]
    intro packet member
    refine inv.valid packet ?_
    rw [TxBackend.contents, popped]
    exact List.mem_cons_of_mem _ member
  · intro sender
    exact callFits_outside (inv.calls sender) (inv.senders_outside inside sender)
  · split
    next more =>
      refine ⟨more, ?_⟩
      simp only [TxBackend.queued] at filled ⊢
      omega
    next done => trivial
  · simp only [TxBackend.queued] at length ⊢
    omega
  · simp only [TxBackend.contents]
    rw [kept, ← List.drop_drop, inv.history, TxBackend.contents, popped]
    rfl
  · split <;> exact same
  · split <;> trivial
  · refine pushed.trans (congrArg (List.take · _) ?_)
    simp only
    split <;> simp only [inFlight] <;> omega

/-- The worker starts to stage with a look at the ring. -/
theorem stageStart_inv (inv : TxInv state) (at_ : state.child.worker = .stageStart) :
    TxInv { state with child := { state.child with
      worker := if state.child.tail = state.child.head then .stageCount 0
        else .stageLength state.child.tail state.child.head 0 } } := by
  have handshake := inv.handshake
  rw [at_] at handshake
  have nothing : Staged state.child state.shared 0 :=
    ⟨Nat.zero_le _, Nat.zero_le _, fun index below => absurd below (Nat.not_lt_zero _)⟩
  refine goto_worker inv (free_of_awaits (by rw [at_]; rfl)) handshake.1 inv.locked
    (fun _ => inv.workerLocked (by rw [at_]; rfl)) ?_ ?_ ?_ ?_
  · split
    next empty => exact nothing
    next filled =>
      have some := (CircularBuffer.used_eq_zero_iff inv.headLt inv.tailLt).not.mpr
        (Ne.symm filled)
      exact ⟨rfl, (Nat.mod_eq_of_lt inv.tailLt).symm, Nat.pos_of_ne_zero some,
        by simp [lunaNetBatchSlots], nothing⟩
  · split <;> exact handshake
  · split <;> trivial
  · rw [at_]
    split <;> rfl

theorem stageLength_inv (inv : TxInv state) {tail head count : Nat}
    (at_ : state.child.worker = .stageLength tail head count) :
    TxInv { state with
      child := { state.child with worker := .stageData tail head count }
      shared := { state.shared with header := { state.shared.header with
        txLengths := Function.update state.shared.header.txLengths count
          (state.child.queue tail).length } } } := by
  have fits := inv.worker
  have handshake := inv.handshake
  rw [at_] at fits handshake
  obtain ⟨isHead, isTail, filled, room, staged⟩ := fits
  exact goto_worker inv (free_of_awaits (by rw [at_]; rfl)) handshake.1 inv.locked
    (fun _ => inv.workerLocked (by rw [at_]; rfl))
    ⟨isHead, isTail, filled, room, staged.update_length (Nat.le_refl _), Function.update_self ..⟩
    handshake trivial (by rw [at_]; rfl)

/-- The last packet of the ring is the one before the head. -/
theorem TxInv.more_queued (inv : TxInv state) {count : Nat} (filled : count < state.child.queued)
    (notHead : (state.child.tail + count + 1) % lunaNetChildTxQueueCount ≠ state.child.head) :
    count + 1 < state.child.queued := by
  refine Nat.lt_of_le_of_ne filled fun last => notHead ?_
  rw [Nat.add_assoc, last]
  exact CircularBuffer.tail_add_used inv.headLt inv.tailLt

theorem stageData_inv (inv : TxInv state) {tail head count : Nat}
    (at_ : state.child.worker = .stageData tail head count) :
    TxInv { state with
      child := { state.child with
        worker := if (tail + 1) % lunaNetChildTxQueueCount ≠ head ∧
            count + 1 < lunaNetBatchSlots then
          .stageLength ((tail + 1) % lunaNetChildTxQueueCount) head (count + 1)
          else .stageCount (count + 1) }
      shared := { state.shared with
        window := Function.update state.shared.window count
          (blit (state.shared.window count) 0 (state.child.queue tail).data 0
            (state.child.queue tail).length) } } := by
  have fits := inv.worker
  have handshake := inv.handshake
  rw [at_] at fits handshake
  obtain ⟨rfl, rfl, filled, room, staged, length⟩ := fits
  have longer := staged.extend filled room length
  have next : ((state.child.tail + count) % lunaNetChildTxQueueCount + 1) %
      lunaNetChildTxQueueCount = (state.child.tail + (count + 1)) % lunaNetChildTxQueueCount := by
    rw [Nat.mod_add_mod, Nat.add_assoc]
  refine goto_worker inv (free_of_awaits (by rw [at_]; rfl)) handshake.1 inv.locked
    (fun _ => inv.workerLocked (by rw [at_]; rfl)) ?_ ?_ ?_ ?_
  · split
    next more =>
      refine ⟨rfl, next, inv.more_queued filled ?_, more.2, longer⟩
      have notHead := more.1
      rwa [next] at notHead
    next last => exact longer
  · split <;> exact handshake
  · split <;> trivial
  · rw [at_]
    split <;> rfl

theorem bumpSequence_inv (inv : TxInv state) {count : Nat}
    (at_ : state.child.worker = .bumpSequence count) :
    TxInv { state with child := { state.child with
      submitSequence := nextSequence state.child.submitSequence
      worker := .storeRequest count (nextSequence state.child.submitSequence) } } := by
  have fits := inv.worker
  have handshake := inv.handshake
  rw [at_] at fits handshake
  have fresh : nextSequence state.child.submitSequence ≠
      state.shared.header.txResponseSequence := by
    rw [handshake.1, handshake.2]
    exact nextSequence_ne _
  exact goto_worker inv (free_of_awaits (by rw [at_]; rfl)) handshake.1 inv.locked
    (by simp [TxWorker.holds]) ⟨fits, nextSequence_ne_zero _, fresh, rfl⟩ handshake.1 trivial
    (by rw [at_]; rfl)

/-- A refused batch ends the worker, an empty answer is submitted again and
accepted packets are popped. -/
theorem readAnswer_inv (inv : TxInv state) {count sequence : Nat}
    (at_ : state.child.worker = .loadAccepted count sequence) :
    TxInv { state with child := { state.child with
      worker := if count < state.shared.header.txAccepted then .raiseError
        else if state.shared.header.txAccepted = 0 then .bumpSequence count
        else .popLock state.shared.header.txAccepted } } := by
  have fits := inv.worker
  have handshake := inv.handshake
  have answered := inv.answered
  rw [at_] at fits handshake answered
  obtain ⟨positive, staged, submitted⟩ := fits
  have small := staged.2.1
  have granted : count < state.shared.header.txAccepted →
      state.shared.header.txAccepted = wordMax := fun above =>
    answered.resolve_right (Nat.not_le_of_lt above)
  have within : ¬ count < state.shared.header.txAccepted →
      credit state.shared.header.txAccepted = state.shared.header.txAccepted := by
    intro below
    refine if_neg fun refused => below ?_
    simp only [refused, wordMax]
    simp only [lunaNetBatchSlots] at small
    omega
  refine goto_worker inv (free_of_awaits (by rw [at_]; rfl)) handshake.1 inv.locked ?_ ?_ ?_ ?_ ?_
  · repeat' split
    all_goals simp [TxWorker.holds]
  · repeat' split
    · trivial
    · exact ⟨positive, staged, submitted⟩
    next below nonzero =>
      exact ⟨Nat.pos_of_ne_zero nonzero, Nat.le_trans (Nat.le_of_not_lt below) staged.1⟩
  · repeat' split
    all_goals exact handshake
  · repeat' split
    all_goals trivial
  · have waiting : inFlight state.shared state.poll (.loadAccepted count sequence) =
        credit state.shared.header.txAccepted := rfl
    rw [at_, waiting]
    split
    next above => simp [inFlight, credit, granted above]
    next below =>
      rw [within below]
      split
      next empty => simp [inFlight, empty]
      next => rfl

/-- Taking the mutex. -/
theorem lock_worker (inv : TxInv state) (worker : TxWorker) {target : TxState Sender}
    (idle : state.child.worker.awaits = none)
    (same : state.shared.header.txResponseSequence = state.shared.header.txRequestSequence)
    (fits : WorkerFits state.child state.shared worker)
    (handshake : Handshake state.child state.shared worker)
    (answered : Answered state.shared worker)
    (flight : inFlight state.shared state.poll worker =
      inFlight state.shared state.poll state.child.worker)
    (moved : (state.child.workerLock worker).map (fun child => { state with child }) =
      some target) : TxInv target := by
  unfold TxBackend.workerLock at moved
  split at moved
  next free =>
    cases moved
    exact goto_worker inv (free_of_awaits idle) same (inv.worker_outside free) (fun _ => rfl) fits
      handshake answered flight
  next taken => cases moved

/-- Leaving the mutex. -/
theorem unlock_worker (inv : TxInv state) (idle : state.child.worker.awaits = none)
    (inside : state.child.worker.holds = true) (leaves : worker.holds = false)
    (same : state.shared.header.txResponseSequence = state.shared.header.txRequestSequence)
    (fits : WorkerFits state.child state.shared worker)
    (handshake : Handshake state.child state.shared worker)
    (answered : Answered state.shared worker)
    (flight : inFlight state.shared state.poll worker =
      inFlight state.shared state.poll state.child.worker) :
    TxInv { state with child := { state.child with mutex := none, worker } } := by
  refine goto_worker inv (free_of_awaits idle) same ?_ (by simp [leaves]) fits handshake answered
    flight
  intro sender holds
  simp [inv.senders_outside inside sender] at holds

/-- States of the worker that say nothing about window, ring or answer. -/
def TxWorker.plain : TxWorker → Bool
  | .workDown | .checkStop | .countLock | .countRead | .countUnlock _ | .bumpGeneration
  | .clearExpired _ | .signalCoalesce _ | .recountLock _ | .recountRead _ | .recountUnlock _ _
  | .bypass _ | .checkExpired _ | .recountDown _ | .recountStop _ | .stageLock | .stageStart
  | .popUnlock _ | .freeUp _ _ | .finish _ | .raiseError | .raiseFree _ | .stopped => true
  | _ => false

variable (child shared) in
theorem TxWorker.plain_spec {worker : TxWorker} (plain : worker.plain = true) :
    worker.awaits = none ∧ WorkerFits child shared worker ∧ Answered shared worker ∧
      (∀ poll, inFlight shared poll worker = 0) ∧
      (Handshake child shared worker ↔
        shared.header.txResponseSequence = shared.header.txRequestSequence ∧
          shared.header.txRequestSequence = child.submitSequence) := by
  cases worker <;> simp only [TxWorker.plain, Bool.false_eq_true] at plain
  all_goals exact ⟨rfl, trivial, trivial, fun _ => rfl, Iff.rfl⟩

/-- A step between two such states, inside or outside the mutex. -/
theorem plain_worker (inv : TxInv state)
    {workSem freeSem coalesceSem coalesceGeneration coalesceExpired : Nat} {txError : Bool}
    (from_ : state.child.worker.plain = true) (to_ : worker.plain = true)
    (stays : worker.holds = true → state.child.worker.holds = true) :
    TxInv { state with child := { state.child with
      worker, workSem, freeSem, coalesceSem, coalesceGeneration, coalesceExpired, txError } } := by
  obtain ⟨idle, _, _, before, handshake⟩ :=
    TxWorker.plain_spec state.child state.shared from_
  obtain ⟨_, fits, answered, after, same⟩ :=
    TxWorker.plain_spec state.child state.shared to_
  have agreed := handshake.mp inv.handshake
  exact goto_worker inv (free_of_awaits idle) agreed.1 inv.locked
    (fun holds => inv.workerLocked (stays holds)) fits (same.mpr agreed) answered
    ((after _).trans (before _).symm)

theorem plain_lock (inv : TxInv state) (worker : TxWorker) {target : TxState Sender}
    (from_ : state.child.worker.plain = true) (to_ : worker.plain = true)
    (moved : (state.child.workerLock worker).map (fun child => { state with child }) =
      some target) : TxInv target := by
  obtain ⟨idle, _, _, before, handshake⟩ :=
    TxWorker.plain_spec state.child state.shared from_
  obtain ⟨_, fits, answered, after, same⟩ :=
    TxWorker.plain_spec state.child state.shared to_
  have agreed := handshake.mp inv.handshake
  exact lock_worker inv worker idle agreed.1 fits (same.mpr agreed) answered
    ((after _).trans (before _).symm) moved

theorem plain_unlock (inv : TxInv state) (from_ : state.child.worker.plain = true)
    (to_ : worker.plain = true) (inside : state.child.worker.holds = true)
    (leaves : worker.holds = false) :
    TxInv { state with child := { state.child with mutex := none, worker } } := by
  obtain ⟨idle, _, _, before, handshake⟩ :=
    TxWorker.plain_spec state.child state.shared from_
  obtain ⟨_, fits, answered, after, same⟩ :=
    TxWorker.plain_spec state.child state.shared to_
  have agreed := handshake.mp inv.handshake
  exact unlock_worker inv idle inside leaves agreed.1 fits (same.mpr agreed) answered
    ((after _).trans (before _).symm)

theorem stepWorker_inv (inv : TxInv state) {target : TxState Sender}
    (moved : stepWorker state = some target) : TxInv target := by
  have fits := inv.worker
  have handshake := inv.handshake
  have answered := inv.answered
  unfold stepWorker at moved
  cases at_ : state.child.worker <;> simp only [at_] at moved fits handshake answered
  case workDown =>
    split at moved
    next blocked => cases moved
    next =>
      cases moved
      exact plain_worker inv (by rw [at_]; rfl) rfl (by simp [TxWorker.holds])
  case checkStop =>
    cases moved
    refine plain_worker inv (by rw [at_]; rfl) ?_ ?_ <;> split <;> simp [TxWorker.plain, TxWorker.holds]
  case countLock => exact plain_lock inv .countRead (by rw [at_]; rfl) rfl moved
  case countRead =>
    cases moved
    exact plain_worker inv (by rw [at_]; rfl) rfl (fun _ => by rw [at_]; rfl)
  case countUnlock queued =>
    cases moved
    refine plain_unlock inv (by rw [at_]; rfl) ?_ (by rw [at_]; rfl) ?_
    all_goals
      split
      · simp [TxWorker.plain, TxWorker.holds]
      · split <;> simp [TxWorker.plain, TxWorker.holds]
  case bumpGeneration =>
    cases moved
    exact plain_worker inv (by rw [at_]; rfl) rfl (by simp [TxWorker.holds])
  case clearExpired generation =>
    cases moved
    exact plain_worker inv (by rw [at_]; rfl) rfl (by simp [TxWorker.holds])
  case signalCoalesce generation =>
    cases moved
    exact plain_worker inv (by rw [at_]; rfl) rfl (by simp [TxWorker.holds])
  case recountLock generation =>
    exact plain_lock inv (.recountRead generation) (by rw [at_]; rfl) rfl moved
  case recountRead generation =>
    cases moved
    exact plain_worker inv (by rw [at_]; rfl) rfl (fun _ => by rw [at_]; rfl)
  case recountUnlock generation queued =>
    cases moved
    refine plain_unlock inv (by rw [at_]; rfl) ?_ (by rw [at_]; rfl) ?_ <;>
      split <;> simp [TxWorker.plain, TxWorker.holds]
  case bypass generation =>
    cases moved
    exact plain_worker inv (by rw [at_]; rfl) rfl (by simp [TxWorker.holds])
  case checkExpired generation =>
    cases moved
    refine plain_worker inv (by rw [at_]; rfl) ?_ ?_ <;> split <;> simp [TxWorker.plain, TxWorker.holds]
  case recountDown generation =>
    split at moved
    next blocked => cases moved
    next =>
      cases moved
      exact plain_worker inv (by rw [at_]; rfl) rfl (by simp [TxWorker.holds])
  case recountStop generation =>
    cases moved
    refine plain_worker inv (by rw [at_]; rfl) ?_ ?_ <;> split <;> simp [TxWorker.plain, TxWorker.holds]
  case stageLock => exact plain_lock inv .stageStart (by rw [at_]; rfl) rfl moved
  case stageStart =>
    cases moved
    exact stageStart_inv inv at_
  case stageLength tail head count =>
    cases moved
    exact stageLength_inv inv at_
  case stageData tail head count =>
    cases moved
    exact stageData_inv inv at_
  case stageCount count =>
    cases moved
    exact goto_worker inv (free_of_awaits (by rw [at_]; rfl)) handshake.1 inv.locked
      (fun _ => inv.workerLocked (by rw [at_]; rfl)) ⟨fits, rfl⟩ handshake trivial (by rw [at_]; rfl)
  case stageUnlock count =>
    cases moved
    refine unlock_worker inv (by rw [at_]; rfl) (by rw [at_]; rfl) ?_ handshake.1 ?_ ?_ ?_ ?_
    · split <;> rfl
    · split
      next empty => trivial
      next some => exact ⟨Nat.pos_of_ne_zero some, fits⟩
    · split <;> exact handshake
    · split <;> trivial
    · rw [at_]
      split <;> rfl
  case bumpSequence count =>
    cases moved
    exact bumpSequence_inv inv at_
  case storeRequest count sequence =>
    cases moved
    exact storeRequest_inv inv at_
  case submitSignal count sequence =>
    cases moved
    exact wait_worker inv (by rw [at_]; rfl) rfl
  case loadResponse count sequence =>
    cases moved
    split
    next answer => exact loadAccepted_inv inv at_ answer
    next unanswered => exact wait_worker inv (by rw [at_]; rfl) rfl
  case waitNtfn count sequence =>
    split at moved
    next notified =>
      cases moved
      exact wait_worker inv (by rw [at_]; rfl) rfl
    next blocked => cases moved
  case loadAccepted count sequence =>
    cases moved
    exact readAnswer_inv inv at_
  case popLock accepted =>
    exact lock_worker inv (.pop accepted 0) (by rw [at_]; rfl) handshake.1 fits handshake trivial
      (by rw [at_]; rfl) moved
  case pop accepted index =>
    cases moved
    exact pop_inv inv at_
  case popUnlock accepted =>
    cases moved
    exact plain_unlock inv (by rw [at_]; rfl) rfl (by rw [at_]; rfl) rfl
  case freeUp remaining empty =>
    cases remaining with
    | zero =>
        cases moved
        exact plain_worker inv (by rw [at_]; rfl) rfl (by simp [TxWorker.holds])
    | succ remaining =>
        cases moved
        exact plain_worker inv (by rw [at_]; rfl) rfl (by simp [TxWorker.holds])
  case finish empty =>
    cases moved
    exact plain_worker inv (by rw [at_]; rfl) rfl (by simp [TxWorker.holds])
  case raiseError =>
    cases moved
    exact plain_worker inv (by rw [at_]; rfl) rfl (by simp [TxWorker.holds])
  case raiseFree remaining =>
    cases remaining with
    | zero =>
        cases moved
        exact plain_worker inv (by rw [at_]; rfl) rfl (by simp [TxWorker.holds])
    | succ remaining =>
        cases moved
        exact plain_worker inv (by rw [at_]; rfl) rfl (by simp [TxWorker.holds])
  case stopped => cases moved

end Worker

/-! ## Steps of the poll thread -/

section Poll

variable {state : TxState Sender} {thread : TxThread}

/-- A step of the poll thread that stores nothing in the header. -/
theorem goto_poll (inv : TxInv state) {queue : Nat → Packet} {head tail : Nat}
    {stressGate childActive pollKick txNtfn : Bool} {copies : List TxCopy}
    {stores : List TxStore}
    (fits : PollFits state.child { state.shared with
      queue, head, tail, stressGate, childActive, pollKick, txNtfn, copies, stores } thread)
    (flight : thread.inFlight state.shared = state.poll.inFlight state.shared) :
    TxInv { state with
      shared := { state.shared with
        queue, head, tail, stressGate, childActive, pollKick, txNtfn, copies, stores }
      poll := thread } := by
  refine ⟨inv.locked, inv.workerLocked, inv.headLt, inv.tailLt, inv.valid, inv.calls, inv.worker,
    inv.enough, inv.history, inv.handshake, inv.answered, fits, ?_⟩
  have same : inFlight state.shared thread state.child.worker =
      inFlight state.shared state.poll state.child.worker := by
    cases state.child.worker <;> simp only [inFlight, flight]
  exact inv.pushed.trans (congrArg (fun flying => List.take (state.child.popped + flying) _)
    same.symm)

/-- An unanswered request is the one the worker waits for. -/
theorem TxInv.pending_of_request (inv : TxInv state) {sequence : Nat}
    (known : sequence = state.shared.header.txRequestSequence ∨
      sequence = state.shared.header.txResponseSequence)
    (unanswered : sequence ≠ state.shared.header.txResponseSequence) :
    ∃ count, Pending state.child state.shared sequence count := by
  have request := known.resolve_right unanswered
  have handshake := inv.handshake
  cases at_ : state.child.worker <;> simp only [at_, Handshake] at handshake
  case submitSignal count issued | loadResponse count issued | waitNtfn count issued =>
    exact ⟨count, by rw [at_, request, ← handshake.2.1]; rfl, unanswered⟩
  case storeRequest => exact absurd (request.trans handshake.symm) unanswered
  all_goals exact absurd (request.trans handshake.1.symm) unanswered

theorem Copying.recast {batch : TxBatch} {copied : Nat} (copying : Copying child shared batch copied)
    {later : TxBatch} (caller : later.caller = batch.caller)
    (accepted : later.accepted = batch.accepted) {after : TxShared}
    (header : after.header = shared.header) {index : Nat}
    (copies : ∀ other < index,
      (after.queue (later.slot other)).bytes = (child.slot other).bytes) :
    Copying child after later index := by
  obtain ⟨sequence, count, called, pending, within⟩ := copying.pending
  refine ⟨⟨sequence, count, caller.trans called, ?_, accepted ▸ within⟩, copies⟩
  rwa [Pending, header]

theorem Copying.small {batch : TxBatch} {copied : Nat} (copying : Copying child shared batch copied)
    (fits : WorkerFits child shared child.worker) : batch.accepted ≤ lunaNetBatchSlots := by
  obtain ⟨sequence, count, _, pending, within⟩ := copying.pending
  exact Nat.le_trans within (pending.submitted fits).2.1.2.1

/-- Within a batch every packet has a ring slot of its own. -/
theorem TxBatch.slot_ne {batch : TxBatch} {index other : Nat}
    (small : index < lunaNetBatchSlots) (below : other < index) :
    batch.slot other ≠ batch.slot index := by
  simp only [TxBatch.slot, lunaNetTxQueueCount, lunaNetBatchSlots] at *
  omega

/-- The batch holds the oldest packets of the child's ring. -/
theorem Copying.staged {batch : TxBatch} {copied : Nat} (copying : Copying child shared batch copied)
    (fits : WorkerFits child shared child.worker) {index : Nat} (below : index < batch.accepted) :
    shared.header.txLengths index = (child.slot index).length ∧
      read (shared.window index) 0 (child.slot index).length = (child.slot index).bytes := by
  obtain ⟨sequence, count, _, pending, within⟩ := copying.pending
  exact (pending.submitted fits).2.1.2.2 index (Nat.lt_of_lt_of_le below within)

theorem copyData_inv (inv : TxInv state) {batch : TxBatch} {index length : Nat}
    {copies : List TxCopy} {copied : Nat} (at_ : state.poll = .copyData batch index length) :
    TxInv { state with
      shared := { state.shared with
        queue := Function.update state.shared.queue (batch.slot index)
          { state.shared.queue (batch.slot index) with
            data := blit (state.shared.queue (batch.slot index)).data 0
              (state.shared.window index) 0 length }
        copies }
      poll := .storeLength { batch with copied } index length } := by
  have fits := inv.poll
  rw [at_] at fits
  obtain ⟨copying, below, rfl⟩ := fits
  have small := Nat.lt_of_lt_of_le below (copying.small inv.worker)
  refine goto_poll inv ⟨copying.recast (by rfl) (by rfl) (by rfl)
    fun other earlier => ?_, below, rfl, ?_⟩
    (by rw [at_]; rfl)
  · simp only [TxBatch.slot_copied, Function.update_of_ne (TxBatch.slot_ne small earlier)]
    exact copying.copies other earlier
  · simp only [TxBatch.slot_copied, Function.update_self, read_blit_same]
    exact (copying.staged inv.worker below).2

theorem storeLength_inv (inv : TxInv state) {batch : TxBatch} {index length : Nat}
    {stores : List TxStore} (at_ : state.poll = .storeLength batch index length) :
    TxInv { state with
      shared := { state.shared with
        queue := Function.update state.shared.queue (batch.slot index)
          { state.shared.queue (batch.slot index) with length := length }
        stores }
      poll := if index + 1 < batch.accepted then .copyLength batch (index + 1)
        else .publish batch } := by
  have fits := inv.poll
  rw [at_] at fits
  obtain ⟨copying, below, rfl, copied⟩ := fits
  have small := Nat.lt_of_lt_of_le below (copying.small inv.worker)
  have stored : ∀ other < index + 1, (Function.update state.shared.queue (batch.slot index)
      { state.shared.queue (batch.slot index) with length := (state.child.slot index).length }
      (batch.slot other)).bytes = (state.child.slot other).bytes := by
    intro other earlier
    rcases Nat.lt_or_eq_of_le (Nat.le_of_lt_succ earlier) with older | rfl
    · rw [Function.update_of_ne (TxBatch.slot_ne small older)]
      exact copying.copies other older
    · rw [Function.update_self]
      exact copied
  refine goto_poll inv ?_ ?_
  · split
    next more => exact ⟨copying.recast (by rfl) (by rfl) (by rfl) stored, more⟩
    next last =>
      have all : batch.accepted = index + 1 := by omega
      exact ⟨copying.recast (by rfl) (by rfl) (by rfl) (all ▸ stored), by omega⟩
  · rw [at_]
    split <;> rfl

/-- The packets of a complete batch are the oldest of the child's ring. -/
theorem Copying.packets {batch : TxBatch} (copying : Copying child shared batch batch.accepted)
    (fits : WorkerFits child shared child.worker) :
    (batch.packets shared.queue).map Packet.bytes =
      (child.contents.map Packet.bytes).take batch.accepted := by
  have filled := copying.queued fits
  apply List.ext_getElem
  · simp only [TxBatch.packets, List.length_map, List.length_range, List.length_take,
      TxBackend.contents, CircularBuffer.length_contents]
    exact (Nat.min_eq_left filled).symm
  · intro index first second
    have below : index < batch.accepted := by simpa [TxBatch.packets] using first
    simpa [TxBatch.packets, TxBackend.contents, CircularBuffer.contents, TxBackend.slot] using
      copying.copies index below

theorem publish_inv (inv : TxInv state) {batch : TxBatch} {head : Nat}
    (at_ : state.poll = .publish batch) :
    TxInv { state with
      shared := { state.shared with
        head
        pushed := state.shared.pushed ++ batch.packets state.shared.queue }
      poll := .kick batch } := by
  have fits := inv.poll
  have pushed := inv.pushed
  rw [at_] at fits pushed
  obtain ⟨copying, nonzero⟩ := fits
  refine ⟨inv.locked, inv.workerLocked, inv.headLt, inv.tailLt, inv.valid, inv.calls, inv.worker,
    inv.enough, inv.history, inv.handshake, inv.answered,
    ⟨copying.recast (by rfl) (by rfl) (by rfl)
      fun other below => absurd below (Nat.not_lt_zero _), nonzero⟩, ?_⟩
  have idle : inFlight state.shared (.publish batch) state.child.worker = 0 ∧
      inFlight state.shared (.kick batch) state.child.worker = batch.accepted := by
    obtain ⟨sequence, count, _, ⟨awaits, unanswered⟩, _⟩ := copying.pending
    rcases awaits_cases awaits with worker | worker | worker <;> rw [worker] <;>
      exact ⟨if_neg (Ne.symm unanswered), if_neg (Ne.symm unanswered)⟩
  have later := idle.2
  rw [idle.1, Nat.add_zero] at pushed
  calc (state.shared.pushed ++ batch.packets state.shared.queue).map Packet.bytes
      = state.pushedBytes ++ (batch.packets state.shared.queue).map Packet.bytes :=
        List.map_append ..
    _ = state.child.enqueued.take state.child.popped ++
          (state.child.enqueued.drop state.child.popped).take batch.accepted := by
        rw [pushed, copying.packets inv.worker, inv.history]
    _ = state.child.enqueued.take (state.child.popped + batch.accepted) := List.take_add.symm
    _ = _ := congrArg (fun flying => List.take (state.child.popped + flying) _) later.symm

/-- The answer is stored before the response sequence, so the worker does not see it yet. -/
theorem storeAccepted_inv (inv : TxInv state) {sequence accepted : Nat}
    (at_ : state.poll = .storeAccepted sequence accepted) :
    TxInv { state with
      shared := { state.shared with header := { state.shared.header with txAccepted := accepted } }
      poll := .storeResponse sequence } := by
  have fits := inv.poll
  have pushed := inv.pushed
  have worker := inv.worker
  have handshake := inv.handshake
  rw [at_] at fits pushed
  obtain ⟨count, ⟨awaits, unanswered⟩, answer⟩ := fits
  refine ⟨inv.locked, inv.workerLocked, inv.headLt, inv.tailLt, inv.valid, inv.calls, ?_,
    inv.enough, inv.history, ?_, ?_, ⟨count, ⟨awaits, unanswered⟩, answer⟩, ?_⟩
  all_goals
    rcases awaits_cases awaits with waits | waits | waits <;>
      simp only [waits] at worker handshake pushed ⊢
  iterate 3 exact worker
  iterate 3 exact handshake
  iterate 3 exact fun answered => absurd answered unanswered
  all_goals
    refine pushed.trans ?_
    simp only [inFlight, if_neg (Ne.symm unanswered)]
    rfl

/-- From here on the worker may read the answer. -/
theorem storeResponse_inv (inv : TxInv state) {sequence : Nat}
    (at_ : state.poll = .storeResponse sequence) :
    TxInv { state with
      shared := { state.shared with
        header := { state.shared.header with txResponseSequence := sequence } }
      poll := .signal } := by
  have fits := inv.poll
  have pushed := inv.pushed
  have worker := inv.worker
  have handshake := inv.handshake
  rw [at_] at fits pushed
  obtain ⟨count, ⟨awaits, unanswered⟩, answer⟩ := fits
  refine ⟨inv.locked, inv.workerLocked, inv.headLt, inv.tailLt, inv.valid, inv.calls, ?_,
    inv.enough, inv.history, ?_, ?_, trivial, ?_⟩
  all_goals
    rcases awaits_cases awaits with waits | waits | waits <;>
      simp only [waits] at worker handshake pushed ⊢
  iterate 3 exact worker
  iterate 3 exact handshake
  iterate 3 exact fun _ => answer
  all_goals
    refine pushed.trans ?_
    simp only [inFlight, if_neg (Ne.symm unanswered), if_true]
    rfl

/-- A batch that is refused or finds no room leaves the child's ring alone. -/
theorem batchReturn_fits {sequence : Nat} (count : Nat) (pending : Pending child shared sequence count)
    {result : Option Nat} (answer : ∀ accepted, result = some accepted → accepted ≤ count) :
    PollFits child shared (batchReturn (.notification sequence) result) := by
  unfold batchReturn
  split
  next => trivial
  next caller => cases caller; exact ⟨count, pending, .inl rfl⟩
  next => trivial
  next caller => cases caller; exact ⟨count, pending, .inr (answer _ rfl)⟩

theorem stepPoll_inv (inv : TxInv state) {later : TxShared}
    (moved : txStep state.shared state.poll = some (later, thread)) :
    TxInv { state with shared := later, poll := thread } := by
  have fits := inv.poll
  cases at_ : state.poll <;> simp only [at_, txStep, reduceCtorEq] at moved <;>
    simp only [at_] at fits
  case notifyActive =>
    cases moved
    refine goto_poll inv ?_ ?_
    · split <;> trivial
    · rw [at_]
      split <;> rfl
  case notifyRequest =>
    cases moved
    refine goto_poll inv ?_ ?_
    · split
      next none => trivial
      next some => exact .inl rfl
    · rw [at_]
      split <;> rfl
  case notifyResponse sequence =>
    cases moved
    refine goto_poll inv ?_ ?_
    · split
      next answered => trivial
      next unanswered => exact inv.pending_of_request fits unanswered
    · rw [at_]
      split <;> rfl
  case notifyCount sequence =>
    cases moved
    obtain ⟨count, pending⟩ := fits
    obtain ⟨positive, staged, counted⟩ := pending.submitted inv.worker
    have small := staged.2.1
    have accepted : serviceTxBatch (.notification sequence) state.shared.header.txCount =
        .batchCount (.notification sequence) count := by
      rw [counted]
      exact if_neg (by omega)
    rw [accepted]
    exact goto_poll inv pending (by rw [at_]; rfl)
  case singleCount => exact fits.elim
  case singleLength => exact fits.elim
  case batchCount caller requested =>
    cases moved
    cases caller with
    | endpoint => exact fits.elim
    | notification sequence =>
        refine goto_poll inv ?_ ?_
        · split
          next same => exact fits
          next different => exact batchReturn_fits _ fits (by simp)
        · rw [at_]
          split <;> rfl
  case batchActive caller requested =>
    cases moved
    cases caller with
    | endpoint => exact fits.elim
    | notification sequence =>
        refine goto_poll inv ?_ ?_
        · split
          next active => exact fits
          next inactive => exact batchReturn_fits _ fits (by simp)
        · rw [at_]
          split <;> rfl
  case batchHead caller requested =>
    cases moved
    cases caller with
    | endpoint => exact fits.elim
    | notification sequence => exact goto_poll inv fits (by rw [at_]; rfl)
  case batchTail caller requested head =>
    cases moved
    cases caller with
    | endpoint => exact fits.elim
    | notification sequence =>
        refine goto_poll inv ?_ ?_
        · split
          next full => exact ⟨requested, fits⟩
          next room =>
            exact ⟨⟨⟨sequence, requested, rfl, fits, Nat.min_le_left _ _⟩,
              fun other below => absurd below (Nat.not_lt_zero _)⟩, Nat.pos_of_ne_zero room⟩
        · rw [at_]
          split <;> rfl
  case backpressure caller =>
    cases moved
    cases caller with
    | endpoint => exact fits.elim
    | notification sequence => exact goto_poll inv trivial (by rw [at_]; rfl)
  case validate batch index =>
    split at moved
    next valid =>
      cases moved
      refine goto_poll inv ?_ ?_
      · split
        next more =>
          exact ⟨fits.1.recast (by rfl) (by rfl) (by rfl) fits.1.copies, more⟩
        next last =>
          exact ⟨fits.1.recast (by rfl) (by rfl) (by rfl) fits.1.copies,
            Nat.zero_lt_of_lt fits.2⟩
      · rw [at_]
        split <;> rfl
    next invalid =>
      cases moved
      obtain ⟨sequence, count, called, pending, _⟩ := fits.1.pending
      rw [called]
      exact goto_poll inv (batchReturn_fits _ pending (by simp)) (by rw [at_]; rfl)
  case copyLength batch index =>
    cases moved
    exact goto_poll inv ⟨fits.1, fits.2, (fits.1.staged inv.worker fits.2).1⟩ (by rw [at_]; rfl)
  case copyData batch index length =>
    cases moved
    exact copyData_inv inv at_
  case storeLength batch index length =>
    cases moved
    exact storeLength_inv inv at_
  case publish batch =>
    cases moved
    exact publish_inv inv at_
  case kick batch =>
    cases moved
    obtain ⟨sequence, count, called, pending, within⟩ := fits.1.pending
    have small := fits.1.small inv.worker
    obtain ⟨accepted, isSucc⟩ := Nat.exists_eq_succ_of_ne_zero fits.2
    rw [called]
    refine goto_poll inv (batchReturn_fits count ?_ ?_) ?_
    · exact pending
    · rintro answer equal
      cases equal
      exact within
    · rw [at_, isSucc]
      refine (if_neg ?_).trans isSucc.symm
      simp only [lunaNetBatchSlots] at small
      simp only [wordMax]
      omega
  case cancelTimer sequence accepted =>
    cases moved
    exact goto_poll inv fits (by rw [at_]; rfl)
  case storeAccepted sequence accepted =>
    cases moved
    exact storeAccepted_inv inv at_
  case storeResponse sequence =>
    cases moved
    exact storeResponse_inv inv at_
  case signal =>
    cases moved
    exact goto_poll inv trivial (by rw [at_]; rfl)
  case retryRequest =>
    cases moved
    refine goto_poll inv ?_ ?_
    · split
      next none => trivial
      next some => exact .inl rfl
    · rw [at_]
      split <;> rfl
  case retryResponse sequence =>
    cases moved
    refine goto_poll inv ?_ ?_
    · split
      next answered => trivial
      next unanswered =>
        exact (inv.pending_of_request fits unanswered).imp fun count pending =>
          ⟨pending, .inr (Nat.zero_le _)⟩
    · rw [at_]
      split <;> rfl

end Poll

/-! ## Whole runs -/

section Runs

variable {state : TxState Sender}

/-- The coalescing thread and the shutdown path touch neither ring nor window. -/
theorem coalesce_inv (inv : TxInv state) {workSem coalesceSem coalesceExpired : Nat}
    {txError txStop coalesceStop : Bool} {coalesce : CoalesceWorker} :
    TxInv { state with child := { state.child with
      workSem, coalesceSem, coalesceExpired, txError, txStop, coalesceStop, coalesce } } := by
  have grows : Grows state.child { state.child with
      workSem, coalesceSem, coalesceExpired, txError, txStop, coalesceStop, coalesce } :=
    ⟨rfl, rfl, Nat.le_refl _, fun _ _ => rfl⟩
  exact ⟨inv.locked, inv.workerLocked, inv.headLt, inv.tailLt, inv.valid, inv.calls, inv.worker,
    inv.enough, inv.history, inv.handshake, inv.answered,
    grows.pollFits _ _ rfl rfl inv.worker inv.poll, inv.pushed⟩

theorem stepCoalesce_inv (inv : TxInv state) {slept : Bool} {child : TxBackend Sender}
    (moved : stepCoalesce state.child slept = some child) : TxInv { state with child } := by
  unfold stepCoalesce at moved
  split at moved
  next =>
    split at moved
    next => cases moved
    next =>
      cases moved
      exact coalesce_inv inv
  all_goals
    cases moved
    try exact coalesce_inv inv

theorem txNext_inv [DecidableEq Sender] (state : TxState Sender) (action : TxAction Sender)
    (target : TxState Sender) (inv : TxInv state) (moved : txNext state action = some target) :
    TxInv target := by
  cases action with
  | send sender iov =>
      simp only [txNext] at moved
      split at moved
      next idle =>
        split at moved
        next total checked =>
          cases moved
          exact enter_call inv (by simp [TxCall.holds]) ⟨Nat.succ_ne_zero _, checked⟩
        next => cases moved
      next => cases moved
  | call sender =>
      obtain ⟨child, stepped, rfl⟩ := Option.map_eq_some_iff.mp moved
      exact stepCall_inv inv stepped
  | worker => exact stepWorker_inv inv moved
  | coalesce slept =>
      obtain ⟨child, stepped, rfl⟩ := Option.map_eq_some_iff.mp moved
      exact stepCoalesce_inv inv stepped
  | stop =>
      cases moved
      exact coalesce_inv inv
  | notification =>
      simp only [txNext] at moved
      split at moved
      next idle =>
        cases moved
        exact goto_poll inv trivial (by rw [idle]; rfl)
      next => cases moved
  | timeoutRetry =>
      simp only [txNext] at moved
      split at moved
      next idle =>
        cases moved
        exact goto_poll inv trivial (by rw [idle]; rfl)
      next => cases moved
  | poll =>
      obtain ⟨⟨later, thread⟩, stepped, rfl⟩ := Option.map_eq_some_iff.mp moved
      exact stepPoll_inv inv stepped
  | drain tail =>
      simp only [txNext] at moved
      split at moved
      next outside =>
        cases moved
        refine goto_poll inv ?_ rfl
        rw [outside.1]
        trivial
      next => cases moved
  | environment stressGate childActive signalled =>
      cases moved
      refine goto_poll inv ?_ rfl
      have grows : Grows state.child state.child := ⟨rfl, rfl, Nat.le_refl _, fun _ _ => rfl⟩
      refine grows.pollFits state.shared _ ?_ ?_ inv.worker inv.poll <;> rfl

theorem TxInv.exactlyOnce (inv : TxInv state) : state.ExactlyOnce := by
  have flying := inv.inFlight_le
  have length := inv.length_enqueued
  have pushed := inv.pushed
  have count : state.pushedBytes.length = state.child.popped +
      inFlight state.shared state.poll state.child.worker := by
    rw [pushed, List.length_take]
    omega
  refine ⟨pushed ▸ List.take_prefix _ _, ?_⟩
  rw [count, Nat.add_sub_cancel_left, List.map_drop, ← inv.history, List.drop_drop, pushed,
    List.take_append_drop]

/-- Every interleaving pushes the enqueued packets in order, once each and
unaltered, and drops none. -/
theorem tx_exactly_once [DecidableEq Sender] (state : TxState Sender)
    (reached : txSystem.Reachable state) : state.ExactlyOnce :=
  (System.Reachable.invariant _ txInitial_inv txNext_inv reached).exactlyOnce

/-- The backend after `task_net_init`, with an idle manager. -/
def txStart : TxState Unit where
  child :=
    { queue := fun _ => ⟨0, fun _ => 0⟩, head := 0, tail := 0, mutex := none, workSem := 0
      freeSem := lunaNetChildTxQueueCount - 1, coalesceSem := 0, txStop := false, txError := false
      coalesceStop := false, submitSequence := 0, coalesceGeneration := 0, coalesceExpired := 0
      calls := fun _ => .idle, worker := .workDown, coalesce := .down, enqueued := [], popped := 0 }
  shared :=
    { header := ⟨0, 0, 0, 0, 0, 0, 0, 0, fun _ => 0, fun _ => 0⟩, window := fun _ _ => 0
      queue := fun _ => ⟨0, fun _ => 0⟩, head := 0, tail := 0, stressGate := false
      childActive := true, pollKick := false, txNtfn := false, copies := [], stores := []
      pushed := [] }
  poll := .idle

/-- One packet goes through both rings; it is pushed and not popped yet. -/
def txOnePacket : List (TxAction Unit) :=
  .send () [some [7], some [8]] :: List.replicate 9 (.call ()) ++
    List.replicate 8 .worker ++ List.replicate 7 (.coalesce true) ++ List.replicate 13 .worker ++
    .notification :: List.replicate 13 .poll

/-- Two packets go through both rings in one batch; they are pushed and not popped yet. -/
def txTwoPackets : List (TxAction Unit) :=
  System.repeated [(1, .send () [some [7], some [8]]), (9, .call ()), (1, .send () [some [9]]),
    (9, .call ()), (12, .worker), (7, .coalesce true), (18, .worker), (1, .notification),
    (22, .poll)]

theorem tx_exactly_once_two_packets : ∃ state : TxState Unit, txSystem.Reachable state ∧
    state.pushedBytes = [[7, 8], [9]] ∧ state.child.popped = 0 ∧ state.ExactlyOnce := by
  have run : ∃ state : TxState Unit, txSystem.Reachable state ∧
      decide (state.pushedBytes = [[7, 8], [9]] ∧ state.child.popped = 0) = true :=
    System.exists_reach_of_exec _ (fun _ _ => True) txStart txTwoPackets _
      (by simp [txSystem, TxInitial, txStart]) (by decide +kernel)
  obtain ⟨state, reached, ends⟩ := run
  obtain ⟨pushed, popped⟩ := of_decide_eq_true ends
  exact ⟨state, reached, pushed, popped, tx_exactly_once state reached⟩

end Runs

end Luna.Net
