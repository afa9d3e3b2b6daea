import Luna.Disk.Staging

/-!
# Who uses the window

The worker copies a batch into the window before it takes the manager lock, and a READ uses
the same bytes under that lock.  They do not meet as long as nobody publishes a batch of
writes while a READ that has exchanged `task_disk_async_pending` still has a DISK_READ
ahead of it: such a READ has waited for every batch there is.
-/

namespace Luna.Disk

open ByteMemory

/-! ## Reads that are ahead -/

/-- Something is left to be read. -/
def unread (lengths : List Nat) : Bool := lengths.any fun length => decide (length ≠ 0)

/-- A READ has waited for the batches it found and has a DISK_READ ahead of it. -/
def DiskCall.passed : DiskCall → Bool
  | .gateUp (.read _ lengths) failed => !failed && unread lengths
  | .readLock _ _ _ | .readServe _ _ _ => true
  | .readCopy _ lengths _ => unread (readRest lengths)
  | .readUnlock _ lengths _ failed => !failed && unread lengths
  | _ => false

/-- A READ has exchanged `task_disk_async_pending` and has a DISK_READ ahead of it. -/
def DiskCall.ahead : DiskCall → Bool
  | .flushUnlock (.read _ lengths) _ | .flushWait (.read _ lengths) _ => unread lengths
  | call => call.passed

theorem DiskCall.ahead_of_passed {call : DiskCall} (passed : call.passed = true) :
    call.ahead = true := by
  cases call with
  | flushUnlock user pending => cases user <;> simp [DiskCall.passed] at passed
  | flushWait user remaining => cases user <;> simp [DiskCall.passed] at passed
  | _ => exact passed

theorem readNext_passed (offset : Nat) (lengths : List Nat) (data : List UInt8) :
    (readNext offset lengths data).passed = unread lengths := by
  induction lengths with
  | nil => rfl
  | cons length rest inductionHypothesis =>
      cases length with
      | zero =>
          rw [readNext, inductionHypothesis]
          simp [unread]
      | succ length => simp [readNext, DiskCall.passed, unread]

theorem readNext_ahead (offset : Nat) (lengths : List Nat) (data : List UInt8) :
    (readNext offset lengths data).ahead = unread lengths := by
  rw [← readNext_passed offset lengths data]
  induction lengths with
  | nil => rfl
  | cons length rest inductionHypothesis =>
      cases length with
      | zero => exact inductionHypothesis
      | succ length => rfl

variable {Thread : Type}

/-- No batch of writes is published while a READ is ahead, and no counter wraps around. -/
def ReadsApart (state : DiskState Thread) (action : DiskAction Thread) : Prop :=
  RoomToPublish state action ∧
    match action with
    | .call thread =>
        match state.calls thread with
        | .publishSequence _ user =>
            user.auto = true → ∀ other, (state.calls other).ahead = false
        | _ => True
    | _ => True

/-- No READ is ahead when the action publishes a batch of writes. -/
def keepsApart [Fintype Thread] (state : DiskState Thread) : DiskAction Thread → Bool
  | .call thread =>
      match state.calls thread with
      | .publishSequence _ user =>
          !user.auto || decide (∀ other, (state.calls other).ahead = false)
      | _ => true
  | _ => true

theorem keepsApart_iff [Fintype Thread] (state : DiskState Thread) (action : DiskAction Thread) :
    RoomToPublish state action ∧ keepsApart state action = true ↔ ReadsApart state action := by
  refine and_congr_right fun _ => ?_
  unfold keepsApart
  cases action with
  | call thread =>
      dsimp only
      cases state.calls thread with
      | publishSequence index user => cases auto : user.auto <;> simp [auto]
      | _ => exact ⟨fun _ => trivial, fun _ => rfl⟩
  | _ => exact ⟨fun _ => trivial, fun _ => rfl⟩

instance [Fintype Thread] (state : DiskState Thread) (action : DiskAction Thread) :
    Decidable (ReadsApart state action) :=
  decidable_of_iff _ (keepsApart_iff state action)

/-- Every batch of writes there is has been answered, and none has failed. -/
structure DiskState.Settled (state : DiskState Thread) : Prop where
  queue : state.queue = []
  clean : ∀ entry ∈ state.done, entry.2 = true

/-- What a READ that is ahead has seen to. -/
structure Drained (state : DiskState Thread) : Prop where
  pending : ∀ thread, (state.calls thread).ahead = true → state.asyncPending = 0
  settled : ∀ thread, (state.calls thread).passed = true → state.Settled

section Steps

variable [DecidableEq Thread] {size : Nat} {state target : DiskState Thread} {thread : Thread}

omit [DecidableEq Thread] in
theorem DiskState.Settled.frame (settled : state.Settled) (queue : target.queue = state.queue)
    (done : target.done = state.done) : target.Settled := by
  refine ⟨queue.trans settled.queue, ?_⟩
  rw [done]
  exact settled.clean

theorem Drained.enter {call : DiskCall} (inv : Drained state)
    (same : target.calls = Function.update state.calls thread call)
    (ahead : call.ahead = true → (state.calls thread).ahead = true)
    (passed : call.passed = true → (state.calls thread).passed = true)
    (pending : target.asyncPending = state.asyncPending) (queue : target.queue = state.queue)
    (done : target.done = state.done) : Drained target where
  pending other isAhead := by
    rw [pending]
    by_cases here : other = thread
    · rw [here, same, Function.update_self] at isAhead
      exact inv.pending thread (ahead isAhead)
    · rw [same, Function.update_of_ne here] at isAhead
      exact inv.pending other isAhead
  settled other hasPassed := by
    apply DiskState.Settled.frame _ queue done
    by_cases here : other = thread
    · rw [here, same, Function.update_self] at hasPassed
      exact inv.settled thread (passed hasPassed)
    · rw [same, Function.update_of_ne here] at hasPassed
      exact inv.settled other hasPassed

/-- The call a step goes on with has no DISK_READ ahead of it. -/
theorem Drained.leave {call : DiskCall} (inv : Drained state)
    (same : target.calls = Function.update state.calls thread call) (none_ : call.ahead = false)
    (pending : target.asyncPending = state.asyncPending) (queue : target.queue = state.queue)
    (done : target.done = state.done) : Drained target := by
  refine inv.enter same (fun isAhead => ?_) (fun hasPassed => ?_) pending queue done
  · exact absurd (none_.symm.trans isAhead) Bool.false_ne_true
  · exact absurd (none_.symm.trans (DiskCall.ahead_of_passed hasPassed)) Bool.false_ne_true

omit [DecidableEq Thread] in
/-- A request that has waited for all batches, and finds no error, finds all answered. -/
theorem settled_of_waited [Fintype Thread] (owned : Owned state.holdings) (flow : Flow state.pipe)
    {user : FlushUser} (at_ : state.calls thread = .flushWait user 0)
    (none_ : state.asyncPending = 0) (noError : state.asyncError = false) : state.Settled := by
  have noWaits := owned.no_waits at_
  have waiting := flow.counted.waiting
  have completions := flow.counted.completions
  have answered := flow.counted.answered
  have counts := flow.counted.counts
  have errors := flow.counted.errors
  simp only [DiskState.pipe, noWaits, none_, noError] at waiting completions answered counts errors
  refine ⟨List.length_eq_zero_iff.mp (by omega), fun entry member => ?_⟩
  have all : state.done.take state.ups = state.done := List.take_of_length_le (by omega)
  rw [all] at errors
  by_contra failed
  exact Bool.false_ne_true (errors entry member (by simpa using failed))

theorem stepCall_drained [Fintype Thread] (owned : Owned state.holdings) (flow : Flow state.pipe)
    (inv : Drained state) (apart : ReadsApart state (.call thread))
    (moved : stepCall size state thread = some target) : Drained target := by
  unfold stepCall at moved
  cases at_ : state.calls thread <;> simp only [at_] at moved
  case idle => cases moved
  case publishSequence index user =>
    cases moved
    unfold DiskState.publish
    split
    next auto =>
      have nobody : ∀ other, (state.calls other).ahead = false := by
        have apart := apart.2
        simp only [at_] at apart
        exact apart auto
      have still : ∀ other, (Function.update state.calls thread (.publishReady index user)
          other).ahead = false := by
        intro other
        by_cases here : other = thread
        · rw [here, Function.update_self]
          rfl
        · rw [Function.update_of_ne here]
          exact nobody other
      refine ⟨fun other isAhead => ?_, fun other hasPassed => ?_⟩
      · exact absurd ((still other).symm.trans isAhead) Bool.false_ne_true
      · exact absurd ((still other).symm.trans (DiskCall.ahead_of_passed hasPassed))
          Bool.false_ne_true
    next => exact inv.leave rfl rfl rfl rfl rfl
  case publishSignal index user =>
    cases moved
    cases user <;> exact inv.leave rfl rfl rfl rfl rfl
  case exchange user =>
    cases moved
    refine ⟨fun _ _ => rfl, fun other hasPassed => ?_⟩
    by_cases here : other = thread
    · simp [DiskState.enter, here, DiskCall.passed] at hasPassed
    · simp only [DiskState.enter, Function.update_of_ne here] at hasPassed
      exact (inv.settled other hasPassed).frame rfl rfl
  case flushUnlock user pending =>
    cases moved
    refine inv.enter rfl ?_ (by simp [DiskCall.passed]) rfl rfl rfl
    rw [at_]
    cases user <;> exact id
  case flushWait user remaining =>
    cases remaining with
    | zero =>
        cases moved
        cases user with
        | flush => exact inv.leave rfl rfl rfl rfl rfl
        | read offset lengths =>
            refine ⟨fun other isAhead => ?_, fun other hasPassed => ?_⟩
            · by_cases here : other = thread
              · subst here
                simp only [DiskState.enter, Function.update_self, DiskCall.ahead, DiskCall.passed,
                  Bool.and_eq_true] at isAhead
                exact inv.pending other (by rw [at_]; exact isAhead.2)
              · simp only [DiskState.enter, Function.update_of_ne here] at isAhead
                exact inv.pending other isAhead
            · by_cases here : other = thread
              · -- the last completion has arrived
                subst here
                simp only [DiskState.enter, Function.update_self, DiskCall.passed,
                  Bool.and_eq_true, Bool.not_eq_true'] at hasPassed
                have none_ := inv.pending other (by rw [at_]; exact hasPassed.2)
                exact (settled_of_waited owned flow at_ none_ hasPassed.1).frame rfl rfl
              · simp only [DiskState.enter, Function.update_of_ne here] at hasPassed
                exact (inv.settled other hasPassed).frame rfl rfl
    | succ remaining =>
        simp only at moved
        split at moved
        next => cases moved
        next =>
          cases moved
          refine inv.enter rfl ?_ (by simp [DiskCall.passed]) rfl rfl rfl
          rw [at_]
          cases user <;> exact id
  case gateUp user failed =>
    cases moved
    cases failed with
    | true => exact inv.leave rfl rfl rfl rfl rfl
    | false =>
        cases user with
        | flush => exact inv.leave rfl rfl rfl rfl rfl
        | read offset lengths =>
            refine inv.enter rfl (fun isAhead => ?_) (fun hasPassed => ?_) rfl rfl rfl <;> rw [at_]
            · exact (readNext_ahead offset lengths []).symm.trans isAhead
            · exact (readNext_passed offset lengths []).symm.trans hasPassed
  case readLock offset lengths data =>
    split at moved
    next =>
      cases moved
      exact inv.enter rfl (fun _ => by rw [at_]; rfl) (fun _ => by rw [at_]; rfl) rfl rfl rfl
    next => cases moved
  case readServe offset lengths data =>
    cases moved
    exact inv.enter rfl (fun _ => by rw [at_]; rfl) (fun _ => by rw [at_]; rfl) rfl rfl rfl
  case readCopy offset lengths data =>
    cases moved
    refine inv.enter rfl ?_ ?_ rfl rfl rfl <;>
      · rw [at_]
        simp [DiskCall.ahead, DiskCall.passed]
  case readUnlock offset lengths data failed =>
    cases moved
    cases failed with
    | true => exact inv.leave rfl rfl rfl rfl rfl
    | false =>
        refine inv.enter rfl (fun isAhead => ?_) (fun hasPassed => ?_) rfl rfl rfl <;> rw [at_]
        · exact (readNext_ahead offset lengths data).symm.trans isAhead
        · exact (readNext_passed offset lengths data).symm.trans hasPassed
  case gateDown | flushLock | submitDown | writeLock | claimDown =>
    split at moved
    all_goals first
      | cases moved; exact inv.leave rfl rfl rfl rfl rfl
      | cases moved
  case flushTake user =>
    split at moved
    next => cases moved; exact inv.leave rfl rfl rfl rfl rfl
    next =>
      split at moved <;>
        · cases moved
          exact inv.leave rfl rfl rfl rfl rfl
  case claimScan user position =>
    split at moved
    next =>
      split at moved
      next =>
        cases moved
        cases user <;> exact inv.leave rfl rfl rfl rfl rfl
      next => cases moved; exact inv.leave rfl rfl rfl rfl rfl
    next =>
      cases moved
      cases user <;> exact inv.leave rfl rfl rfl rfl rfl
  case submitCheck index =>
    cases moved
    refine inv.leave rfl ?_ rfl rfl rfl
    split <;> rfl
  case fill offset buf =>
    split at moved
    next => cases moved; exact inv.leave rfl rfl rfl rfl rfl
    next => cases moved; exact inv.leave rfl rfl rfl rfl rfl
    next =>
      split at moved
      next => cases moved; exact inv.leave rfl rfl rfl rfl rfl
      next =>
        cases moved
        refine inv.leave rfl ?_ rfl rfl rfl
        split <;> rfl
  case writeUnlock failed =>
    cases moved
    cases failed <;> exact inv.leave rfl rfl rfl rfl rfl
  case publishReady | build | submitFree | submitUp | writeError | finish =>
    cases moved
    exact inv.leave rfl rfl rfl rfl rfl

theorem taskDiskRequest_ahead (size : Nat) (request : BlkReq) :
    (taskDiskRequest size request).ahead = false := by
  unfold taskDiskRequest
  repeat' split
  all_goals rfl

/-! ## Slots of batches -/

/-- The batch the worker puts into the window. -/
def DiskWorker.staged : DiskWorker → Option BatchIndex
  | .stage index _ | .header index | .lock index | .submit index => some index
  | _ => none

omit [DecidableEq Thread] in
/-- The batch put into the window is queued or submitted by a thread. -/
theorem Owned.staged (owned : Owned state.holdings) {index : BatchIndex}
    (staged : state.worker.staged = some index) : (state.batches index).state = .processing ∧
      (index ∈ state.queue ∧ (state.batches index).autoRelease = true ∨
        (state.batches index).autoRelease = false ∧
          ∃ thread, (state.batches index).role = .submitted thread) := by
  have worker : (state.batches index).state = .processing ∧
      (state.batches index).role ≠ .leaving := by
    have worker := owned.worker
    simp only [DiskState.holdings] at worker
    cases at_ : state.worker <;> simp only [at_, DiskWorker.staged, reduceCtorEq,
      Option.some.injEq] at staged
    all_goals
      subst staged
      rw [at_] at worker
      exact worker
  have fits := owned.roles index
  simp only [DiskState.holdings, Batch.Fits] at fits
  have queued := owned.queued index
  simp only [DiskState.holdings] at queued
  refine ⟨worker.1, ?_⟩
  cases role : (state.batches index).role <;> simp only [role] at fits
  case queued => exact .inl ⟨queued.mpr role, fits.2.2⟩
  case submitted thread => exact .inr ⟨fits.2, thread, rfl⟩
  case leaving => exact absurd role worker.2
  all_goals
    rw [worker.1] at fits
    cases fits

/-- What the slots of a batch may be. -/
def Batch.Stocked (batch : Batch Thread) : Prop :=
  (∀ slot ∈ batch.slots, slot.event ≠ .read ∧ slot.data.length ≤ lunaDiskBatchSlotSize) ∧
    match batch.role with
    | .free => batch.slots = []
    | .held _ | .submitted _ => ∀ slot ∈ batch.slots, slot.event = .flush
    | _ => True

omit [DecidableEq Thread] in
theorem Batch.Stocked.store {batches : BatchIndex → Batch Thread}
    (inv : ∀ index, (batches index).Stocked) {index : BatchIndex} {batch : Batch Thread}
    (stocked : batch.Stocked) : ∀ other, (Function.update batches index batch other).Stocked := by
  intro other
  by_cases here : other = index
  · rwa [here, Function.update_self]
  · rw [Function.update_of_ne here]
    exact inv other

omit [DecidableEq Thread] in
/-- A batch that keeps its slots and, as far as they depend on it, its role. -/
theorem Batch.Stocked.keep {batch other : Batch Thread} (stocked : batch.Stocked)
    (slots : other.slots = batch.slots) (role : other.role = batch.role) : other.Stocked := by
  unfold Batch.Stocked at stocked ⊢
  rwa [slots, role]

omit [DecidableEq Thread] in
theorem Batch.Stocked.empty {batch : Batch Thread} (slots : batch.slots = []) : batch.Stocked := by
  unfold Batch.Stocked
  rw [slots]
  refine ⟨fun slot member => absurd member List.not_mem_nil, ?_⟩
  cases batch.role with
  | free => rfl
  | held _ | submitted _ => exact fun slot member => absurd member List.not_mem_nil
  | _ => trivial

theorem stepCall_stocked (owned : Owned state.holdings)
    (inv : ∀ index, (state.batches index).Stocked)
    (moved : stepCall size state thread = some target) :
    ∀ index, (target.batches index).Stocked := by
  have fits := owned.calls thread
  simp only [DiskState.holdings] at fits
  unfold stepCall at moved
  cases at_ : state.calls thread <;> simp only [at_, CallFits] at moved fits
  case idle => cases moved
  case publishSequence index user =>
    cases moved
    have stocked := inv index
    unfold DiskState.publish
    split
    next auto => exact Batch.Stocked.store inv ⟨stocked.1, trivial⟩
    next sync =>
      rw [if_neg sync] at fits
      refine Batch.Stocked.store inv ⟨stocked.1, ?_⟩
      have flushes := stocked.2
      rwa [fits] at flushes
  case publishReady index user =>
    cases moved
    exact Batch.Stocked.store inv ((inv index).keep rfl rfl)
  case claimScan user position =>
    split at moved
    next inside =>
      split at moved
      next free =>
        cases moved
        have stocked := inv ⟨position, inside⟩
        have role : (state.batches ⟨position, inside⟩).role = .free := (owned.roles _).free free
        have empty := stocked.2
        simp only [role] at empty
        cases user with
        | flush => exact Batch.Stocked.store inv (.empty empty)
        | write offset buf => exact Batch.Stocked.store inv (.empty rfl)
      next => cases moved; exact inv
    next => cases moved; exact inv
  case build index =>
    cases moved
    refine Batch.Stocked.store inv ⟨?_, ?_⟩
    · simp [lunaDiskBatchSlotSize]
    · rw [fits]
      simp
  case submitDown index =>
    split at moved
    next => cases moved
    next =>
      cases moved
      exact Batch.Stocked.store inv ((inv index).keep rfl rfl)
  case submitFree index =>
    cases moved
    exact Batch.Stocked.store inv (.empty rfl)
  case fill offset buf =>
    split at moved
    next => cases moved; exact inv
    next => cases moved; exact inv
    next byte bytes rest =>
      split at moved
      next => cases moved; exact inv
      next index pending =>
        cases moved
        have role : (state.batches index).role = .pending := owned.pending index pending
        refine Batch.Stocked.store inv ⟨fun slot member => ?_, ?_⟩
        · rcases List.mem_append.mp member with member | member
          · exact (inv index).1 slot member
          · rw [List.mem_singleton.mp member]
            refine ⟨by simp, ?_⟩
            simp only [List.length_take]
            exact Nat.min_le_left _ _
        · simp only [role]
  case gateDown | flushLock | writeLock | claimDown | readLock =>
    split at moved
    all_goals first
      | cases moved; exact inv
      | cases moved
  case flushTake user =>
    split at moved
    next => cases moved; exact inv
    next =>
      split at moved <;>
        · cases moved
          exact inv
  case flushWait user remaining =>
    cases remaining with
    | zero => cases moved; exact inv
    | succ remaining =>
        simp only at moved
        split at moved
        next => cases moved
        next => cases moved; exact inv
  all_goals
    cases moved
    exact inv

/-- A request leaves the slots of the batch the worker processes. -/
theorem stepCall_processing (owned : Owned state.holdings)
    (moved : stepCall size state thread = some target) {index : BatchIndex}
    (processing : (state.batches index).state = .processing) :
    (target.batches index).slots = (state.batches index).slots := by
  have fits := owned.calls thread
  simp only [DiskState.holdings] at fits
  have elsewhere : ∀ {other : BatchIndex} {batch : Batch Thread},
      (state.batches other).state ≠ .processing →
      (Function.update state.batches other batch index).slots = (state.batches index).slots := by
    intro other batch idle
    rw [Function.update_of_ne]
    rintro rfl
    exact idle processing
  have same : ∀ {other : BatchIndex} {batch : Batch Thread},
      batch.slots = (state.batches other).slots →
      (Function.update state.batches other batch index).slots = (state.batches index).slots := by
    intro other batch slots
    by_cases here : index = other
    · rw [here, Function.update_self, slots]
    · rw [Function.update_of_ne here]
  unfold stepCall at moved
  cases at_ : state.calls thread <;> simp only [at_, CallFits] at moved fits
  case idle => cases moved
  case publishSequence other user =>
    cases moved
    unfold DiskState.publish
    split <;> exact same rfl
  case publishReady other user => cases moved; exact same rfl
  case claimScan user position =>
    split at moved
    next inside =>
      split at moved
      next free =>
        cases moved
        cases user <;> exact elsewhere (by rw [free]; simp)
      next => cases moved; rfl
    next => cases moved; rfl
  case build other =>
    cases moved
    have building := owned.roles other
    simp only [DiskState.holdings, Batch.Fits, fits] at building
    exact elsewhere (by rw [building]; simp)
  case submitDown other =>
    split at moved
    next => cases moved
    next => cases moved; exact same rfl
  case submitFree other => cases moved; exact elsewhere (by rw [fits.2]; simp)
  case fill offset buf =>
    split at moved
    next => cases moved; rfl
    next => cases moved; rfl
    next byte bytes rest =>
      split at moved
      next => cases moved; rfl
      next other pending =>
        cases moved
        have role : (state.batches other).role = .pending := owned.pending other pending
        have building := owned.roles other
        simp only [DiskState.holdings, Batch.Fits, role] at building
        exact elsewhere (by rw [building]; simp)
  case gateDown | flushLock | writeLock | claimDown | readLock =>
    split at moved
    all_goals first
      | cases moved; rfl
      | cases moved
  case flushTake user =>
    split at moved
    next => cases moved; rfl
    next =>
      split at moved <;>
        · cases moved
          rfl
  case flushWait user remaining =>
    cases remaining with
    | zero => cases moved; rfl
    | succ remaining =>
        simp only at moved
        split at moved
        next => cases moved
        next => cases moved; rfl
  all_goals
    cases moved
    rfl

/-! ## The window -/

theorem serviceDiskRequest_read (size offset length : Nat) (data backing : Memory) :
    (serviceDiskRequest size .read offset length data backing).2.1 = backing := by
  simp only [serviceDiskRequest]
  split
  next => rfl
  next => split <;> rfl

/-- The next step of the call is the answer to a DISK_READ. -/
def DiskCall.serves : DiskCall → Bool
  | .readServe _ _ _ => true
  | _ => false

/-- What a step of a request leaves alone. -/
structure Frame (state target : DiskState Thread) (thread : Thread) : Prop where
  worker : target.worker = state.worker
  done : target.done = state.done
  transfers : target.transfers = state.transfers
  backing : target.backing = state.backing
  descriptors : target.window.descriptors = state.window.descriptors
  data : (state.calls thread).serves = false → target.window.data = state.window.data

theorem stepCall_frame (moved : stepCall size state thread = some target) :
    Frame state target thread := by
  unfold stepCall at moved
  cases at_ : state.calls thread <;> simp only [at_] at moved
  case idle => cases moved
  case publishSequence index user =>
    cases moved
    unfold DiskState.publish
    split <;> exact ⟨rfl, rfl, rfl, rfl, rfl, fun _ => rfl⟩
  case claimScan user position =>
    split at moved
    next inside =>
      split at moved
      next free =>
        cases moved
        cases user <;> exact ⟨rfl, rfl, rfl, rfl, rfl, fun _ => rfl⟩
      next => cases moved; exact ⟨rfl, rfl, rfl, rfl, rfl, fun _ => rfl⟩
    next => cases moved; exact ⟨rfl, rfl, rfl, rfl, rfl, fun _ => rfl⟩
  case readServe offset lengths data =>
    cases moved
    refine ⟨rfl, rfl, rfl, serviceDiskRequest_read _ _ _ _ _, rfl, ?_⟩
    rw [at_]
    simp [DiskCall.serves]
  case fill offset buf =>
    split at moved
    next => cases moved; exact ⟨rfl, rfl, rfl, rfl, rfl, fun _ => rfl⟩
    next => cases moved; exact ⟨rfl, rfl, rfl, rfl, rfl, fun _ => rfl⟩
    next => split at moved <;> cases moved <;> exact ⟨rfl, rfl, rfl, rfl, rfl, fun _ => rfl⟩
  case gateDown | flushLock | submitDown | writeLock | claimDown | readLock =>
    split at moved
    all_goals first
      | cases moved; exact ⟨rfl, rfl, rfl, rfl, rfl, fun _ => rfl⟩
      | cases moved
  case flushTake user =>
    split at moved
    next => cases moved; exact ⟨rfl, rfl, rfl, rfl, rfl, fun _ => rfl⟩
    next => split at moved <;> cases moved <;> exact ⟨rfl, rfl, rfl, rfl, rfl, fun _ => rfl⟩
  case flushWait user remaining =>
    cases remaining with
    | zero => cases moved; exact ⟨rfl, rfl, rfl, rfl, rfl, fun _ => rfl⟩
    | succ remaining =>
        simp only at moved
        split at moved
        next => cases moved
        next => cases moved; exact ⟨rfl, rfl, rfl, rfl, rfl, fun _ => rfl⟩
  all_goals
    cases moved
    exact ⟨rfl, rfl, rfl, rfl, rfl, fun _ => rfl⟩

omit [DecidableEq Thread] in
/-- With every batch of writes answered, the batch in the window has no write. -/
theorem DiskState.Settled.no_write (settled : state.Settled) (owned : Owned state.holdings)
    (stocked : ∀ index, (state.batches index).Stocked) {index : BatchIndex}
    (staged : state.worker.staged = some index) :
    ∀ slot ∈ (state.batches index).slots, slot.event = .flush := by
  obtain ⟨-, ⟨queued, -⟩ | ⟨-, owner, role⟩⟩ := owned.staged staged
  · rw [settled.queue] at queued
    exact absurd queued List.not_mem_nil
  · have flushes := (stocked index).2
    rwa [role] at flushes

/-- A request does not touch the data area while a write of the worker's is in it. -/
theorem stepCall_data (owned : Owned state.holdings) (drained : Drained state)
    (stocked : ∀ index, (state.batches index).Stocked)
    (moved : stepCall size state thread = some target) {index : BatchIndex} {slot : Slot}
    (staged : state.worker.staged = some index) (member : slot ∈ (state.batches index).slots)
    (isWrite : slot.event = .write) : target.window.data = state.window.data := by
  refine (stepCall_frame moved).data ?_
  cases at_ : state.calls thread with
  | readServe offset lengths data =>
      have settled := drained.settled thread (by rw [at_]; rfl)
      have isFlush := settled.no_write owned stocked staged slot member
      rw [isWrite] at isFlush
      cases isFlush
  | _ => rfl

/-- What the worker has put into the window of the batch it is about to submit. -/
def Laid (state : DiskState Thread) : Prop :=
  match state.worker with
  | .stage index position => Staged state.window 0 ((state.batches index).slots.take position)
  | .header index | .lock index | .submit index => Staged state.window 0 (state.batches index).slots
  | _ => True

theorem stepCall_laid (owned : Owned state.holdings) (drained : Drained state)
    (stocked : ∀ index, (state.batches index).Stocked) (inv : Laid state)
    (moved : stepCall size state thread = some target) : Laid target := by
  have frame := stepCall_frame moved
  have descriptors : ∀ position,
      (target.window.descriptors position).Alike (state.window.descriptors position) := by
    intro position
    rw [frame.descriptors]
    exact ⟨rfl, rfl, rfl⟩
  unfold Laid at inv ⊢
  rw [frame.worker]
  cases at_ : state.worker <;> simp only [at_] at inv ⊢
  case stage index position =>
    have staged : state.worker.staged = some index := by rw [at_]; rfl
    rw [stepCall_processing owned moved (owned.staged staged).1]
    exact inv.alike descriptors fun slot member =>
      stepCall_data owned drained stocked moved staged (List.mem_of_mem_take member)
  case header index | lock index | submit index =>
    have staged : state.worker.staged = some index := by rw [at_]; rfl
    rw [stepCall_processing owned moved (owned.staged staged).1]
    exact inv.alike descriptors fun slot => stepCall_data owned drained stocked moved staged

/-! ## The worker -/

omit [DecidableEq Thread] in
theorem stepWorker_stocked {fault : Option Nat} (inv : ∀ index, (state.batches index).Stocked)
    (moved : stepWorker size state fault = some target) :
    ∀ index, (target.batches index).Stocked := by
  unfold stepWorker at moved
  cases at_ : state.worker <;> simp only [at_] at moved
  case semDown | lock =>
    split at moved
    all_goals first
      | cases moved; exact inv
      | cases moved
  case scan =>
    split at moved
    next => cases moved; exact inv
    next => split at moved <;> cases moved <;> exact inv
  case claim selected =>
    split at moved
    next =>
      cases moved
      exact Batch.Stocked.store inv ((inv selected).keep rfl rfl)
    next => cases moved; exact inv
  case stage => split at moved <;> cases moved <;> exact inv
  case submit index =>
    cases moved
    unfold DiskState.submit
    simp only
    split
    next => exact Batch.Stocked.store inv ⟨(inv index).1, trivial⟩
    next => exact inv
  case check index failed =>
    cases moved
    exact Batch.Stocked.store inv ((inv index).keep rfl rfl)
  case release index =>
    cases moved
    exact Batch.Stocked.store inv (.empty rfl)
  case storeDone index | doneUp index =>
    cases moved
    exact Batch.Stocked.store inv ((inv index).keep rfl rfl)
  all_goals
    cases moved
    exact inv

omit [DecidableEq Thread] in
/-- The worker takes nothing from what a READ that is ahead relies on. -/
theorem stepWorker_settled {fault : Option Nat} (owned : Owned state.holdings)
    (moved : stepWorker size state fault = some target) (settled : state.Settled) :
    target.Settled := by
  unfold stepWorker at moved
  cases at_ : state.worker <;> simp only [at_] at moved
  case semDown | lock | claim =>
    split at moved
    all_goals first
      | cases moved; exact settled.frame rfl rfl
      | cases moved
  case scan =>
    split at moved
    next => cases moved; exact settled.frame rfl rfl
    next => split at moved <;> cases moved <;> exact settled.frame rfl rfl
  case stage => split at moved <;> cases moved <;> exact settled.frame rfl rfl
  case submit index =>
    cases moved
    have worker : state.worker.staged = some index := by rw [at_]; rfl
    have kind := (owned.staged worker).2
    rw [settled.queue] at kind
    obtain ⟨queued, -⟩ | ⟨sync, -⟩ := kind
    · exact absurd queued List.not_mem_nil
    · unfold DiskState.submit
      simp only [sync, Bool.false_eq_true, if_false]
      exact settled.frame rfl rfl
  all_goals
    cases moved
    exact settled.frame rfl rfl

omit [DecidableEq Thread] in
theorem stepWorker_calls {fault : Option Nat} (moved : stepWorker size state fault = some target) :
    target.calls = state.calls ∧ target.asyncPending = state.asyncPending := by
  unfold stepWorker at moved
  cases at_ : state.worker <;> simp only [at_] at moved
  case semDown | lock | claim =>
    split at moved
    all_goals first
      | cases moved; exact ⟨rfl, rfl⟩
      | cases moved
  case scan =>
    split at moved
    next => cases moved; exact ⟨rfl, rfl⟩
    next => split at moved <;> cases moved <;> exact ⟨rfl, rfl⟩
  case stage => split at moved <;> cases moved <;> exact ⟨rfl, rfl⟩
  case submit index =>
    cases moved
    unfold DiskState.submit
    simp only
    split <;> exact ⟨rfl, rfl⟩
  all_goals
    cases moved
    exact ⟨rfl, rfl⟩

omit [DecidableEq Thread] in
theorem stepWorker_drained {fault : Option Nat} (owned : Owned state.holdings)
    (inv : Drained state) (moved : stepWorker size state fault = some target) :
    Drained target := by
  obtain ⟨calls, pending⟩ := stepWorker_calls moved
  refine ⟨fun thread isAhead => ?_, fun thread hasPassed => ?_⟩
  · rw [calls] at isAhead
    rw [pending]
    exact inv.pending thread isAhead
  · rw [calls] at hasPassed
    exact stepWorker_settled owned moved (inv.settled thread hasPassed)

omit [DecidableEq Thread] in
theorem stepWorker_laid {fault : Option Nat} (stocked : ∀ index, (state.batches index).Stocked)
    (inv : Laid state) (moved : stepWorker size state fault = some target) : Laid target := by
  unfold stepWorker at moved
  unfold Laid at inv
  cases at_ : state.worker <;> simp only [at_] at moved inv
  case semDown =>
    split at moved
    next => cases moved
    next => cases moved; trivial
  case scan =>
    split at moved
    next => cases moved; trivial
    next => split at moved <;> cases moved <;> trivial
  case claim selected =>
    split at moved
    next =>
      cases moved
      intro distance slot here
      simp at here
    next => cases moved; trivial
  case stage index position =>
    split at moved
    next past =>
      cases moved
      rw [List.take_of_length_le (List.getElem?_eq_none_iff.mp past)] at inv
      exact inv
    next slot here =>
      cases moved
      exact inv.put here fun slot member => ((stocked index).1 slot member).2
  case header index => cases moved; exact inv.alike (fun _ => ⟨rfl, rfl, rfl⟩) fun _ _ _ => rfl
  case lock index =>
    split at moved
    next => cases moved; exact inv
    next => cases moved
  case submit index =>
    cases moved
    unfold DiskState.submit
    simp only
    split <;> trivial
  case check index failed =>
    cases moved
    unfold Laid
    cases (state.batches index).autoRelease with
    | true => cases batchFailed (state.batches index).slots.length failed state.window <;> trivial
    | false => trivial
  all_goals
    cases moved
    trivial

omit [DecidableEq Thread] in
/-- The manager finds the bytes of each write of the batch. -/
theorem stepWorker_transfers {fault : Option Nat} (inv : ∀ pair ∈ state.transfers, pair.1 = pair.2)
    (laid : Laid state) (moved : stepWorker size state fault = some target) :
    ∀ pair ∈ target.transfers, pair.1 = pair.2 := by
  unfold stepWorker at moved
  cases at_ : state.worker <;> simp only [at_] at moved
  case semDown | lock | claim =>
    split at moved
    all_goals first
      | cases moved; exact inv
      | cases moved
  case scan =>
    split at moved
    next => cases moved; exact inv
    next => split at moved <;> cases moved <;> exact inv
  case stage => split at moved <;> cases moved <;> exact inv
  case submit index =>
    cases moved
    have added : ∀ pair ∈ (state.submit size index fault).transfers, pair.1 = pair.2 := by
      have staged : Staged state.window 0 (state.batches index).slots := by
        unfold Laid at laid
        rwa [at_] at laid
      have found : ∀ pair ∈ ((state.batches index).slots.zipIdx.filter fun entry =>
          entry.1.event = .write).map (fun entry =>
            (read state.window.data (entry.2 * lunaDiskBatchSlotSize)
              (state.window.descriptors entry.2).length, entry.1.data)), pair.1 = pair.2 := by
        intro pair member
        obtain ⟨⟨slot, position⟩, isWrite, rfl⟩ := List.mem_map.mp member
        obtain ⟨indexed, isWrite⟩ := List.mem_filter.mp isWrite
        have here := staged position slot (List.mem_zipIdx_iff_getElem?.mp indexed)
        rw [Nat.zero_add] at here
        simp only [here.length]
        exact here.bytes (of_decide_eq_true isWrite)
      unfold DiskState.submit
      simp only
      split <;>
        · intro pair member
          rcases List.mem_append.mp member with member | member
          · exact inv pair member
          · exact found pair member
    exact added
  all_goals
    cases moved
    exact inv

end Steps

/-! ## Runs -/

section Runs

variable [Fintype Thread] [DecidableEq Thread] {size : Nat} {state : DiskState Thread}

structure Windowed (state : DiskState Thread) : Prop where
  drained : Drained state
  stocked : ∀ index, (state.batches index).Stocked
  laid : Laid state
  transfers : ∀ pair ∈ state.transfers, pair.1 = pair.2

omit [Fintype Thread] [DecidableEq Thread] in
theorem DiskInitial.windowed (initial : DiskInitial state) : Windowed state where
  drained := by constructor <;> simp [initial.calls, DiskCall.ahead, DiskCall.passed]
  stocked index := .empty (by rw [initial.batches])
  laid := by simp [Laid, initial.worker]
  transfers := by simp [initial.history]

theorem Windowed.next {target : DiskState Thread} {action : DiskAction Thread}
    (sound : Sound state) (inv : Windowed state) (apart : ReadsApart state action)
    (moved : diskNext size state action = some target) : Windowed target := by
  cases action with
  | start thread request =>
      simp only [diskNext] at moved
      split at moved
      next =>
        cases moved
        exact ⟨inv.drained.leave rfl (taskDiskRequest_ahead size request) rfl rfl rfl,
          inv.stocked, inv.laid, inv.transfers⟩
      next => cases moved
  | call thread =>
      have frame := stepCall_frame moved
      refine ⟨stepCall_drained sound.owned sound.flow inv.drained apart moved,
        stepCall_stocked sound.owned inv.stocked moved,
        stepCall_laid sound.owned inv.drained inv.stocked inv.laid moved, ?_⟩
      rw [frame.transfers]
      exact inv.transfers
  | worker fault =>
      exact ⟨stepWorker_drained sound.owned inv.drained moved,
        stepWorker_stocked inv.stocked moved, stepWorker_laid inv.stocked inv.laid moved,
        stepWorker_transfers inv.transfers inv.laid moved⟩

theorem reach_windowed (reached : (diskSystem size).Reach ReadsApart state) :
    Sound state ∧ Windowed state :=
  Interleaving.System.Reach.invariant (fun state => Sound state ∧ Windowed state)
    (fun _ initial => ⟨⟨DiskInitial.owned initial, DiskInitial.flow initial,
      DiskInitial.tracked initial⟩, DiskInitial.windowed initial⟩)
    (fun _ _ _ inv apart moved =>
      ⟨inv.1.next apart.1 moved, Windowed.next inv.1 inv.2 apart moved⟩) reached

/-- What the manager has written are the bytes of the batches, and while the worker has a
write in the window no request changes the data area. -/
def WindowUndisturbed (size : Nat) (state : DiskState Thread) : Prop :=
  (∀ pair ∈ state.transfers, pair.1 = pair.2) ∧
    ∀ index, state.worker.staged = some index →
      ∀ slot ∈ (state.batches index).slots, slot.event = .write →
        ∀ thread target, stepCall size state thread = some target →
          target.window.data = state.window.data

theorem window_undisturbed_of_apart (reached : (diskSystem size).Reach ReadsApart state) :
    WindowUndisturbed size state := by
  obtain ⟨sound, windowed⟩ := reach_windowed reached
  refine ⟨windowed.transfers, fun index staged slot member isWrite thread target moved => ?_⟩
  exact stepCall_data sound.owned windowed.drained windowed.stocked moved staged member isWrite

end Runs

/-- One thread's write of one byte, which the READ of another has published. -/
theorem window_undisturbed_read : ∃ state : DiskState Bool,
    (diskSystem 1024).Reach ReadsApart state ∧ state.transfers = [([7], [7])] ∧
      WindowUndisturbed 1024 state := by
  obtain ⟨state, reached, ends⟩ := Interleaving.System.exists_reach_of_exec (diskSystem 1024)
    ReadsApart (configuredDisk : DiskState Bool)
    ([.start false ⟨.write, 0, [some [7]]⟩] ++ List.replicate 10 (.call false) ++
      [.start true ⟨.read, 0, [some [0]]⟩] ++ List.replicate 8 (.call true) ++
      List.replicate 16 (.worker none))
    (fun state => decide (state.transfers = [([7], [7])]))
    configuredDisk_initial (by decide +kernel)
  exact ⟨state, reached, of_decide_eq_true ends, window_undisturbed_of_apart reached⟩

end Luna.Disk
