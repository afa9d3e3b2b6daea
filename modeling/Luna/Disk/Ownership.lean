import Luna.Disk.Backend

/-!
# Locks and batches

Which thread is inside which lock, and who may touch a batch.  The history
field `role` makes the second question a matter of one value per batch: a batch
is free, under construction behind `task_disk_pending_write`, held or submitted
by one thread, or queued for the worker.
-/

namespace Luna.Disk

variable {Thread : Type}

/-! ## The invariant -/

def ClaimUser.locks : ClaimUser → Bool
  | .flush => false
  | .write _ _ => true

/-- Inside the write lock. -/
def DiskCall.locks : DiskCall → Bool
  | .flushTake _ | .exchange _ | .flushUnlock _ _ | .fill _ _ | .writeUnlock _ => true
  | .publishSequence _ user | .publishReady _ user | .publishSignal _ user => user.auto
  | .claimDown user | .claimScan user _ => user.locks
  | _ => false

def PublishUser.gated : PublishUser → Bool
  | .flush _ => true
  | _ => false

/-- Behind the flush gate. -/
def DiskCall.gated : DiskCall → Bool
  | .flushLock _ | .flushTake _ | .exchange _ | .flushUnlock _ _ | .flushWait _ _
  | .gateUp _ _ => true
  | .publishSequence _ user | .publishReady _ user | .publishSignal _ user => user.gated
  | _ => false

/-- Inside the manager lock. -/
def DiskCall.reads : DiskCall → Bool
  | .readServe _ _ _ | .readCopy _ _ _ | .readUnlock _ _ _ _ => true
  | _ => false

def DiskWorker.holdsManager : DiskWorker → Bool
  | .submit _ | .unlock _ _ => true
  | _ => false

/-- The batch the worker processes. -/
def DiskWorker.batch : DiskWorker → Option BatchIndex
  | .stage index _ | .header index | .lock index | .submit index | .unlock index _
  | .check index _ | .storeError index | .release index | .storeDone index => some index
  | _ => none

/-- The part of the state that says who owns what. -/
structure Holdings (Thread : Type) where
  batches : BatchIndex → Batch Thread
  writeLock : Option Thread
  managerLock : Option (Option Thread)
  pendingWrite : Option BatchIndex
  flushGateSem : Nat
  gateHolder : Option Thread
  calls : Thread → DiskCall
  worker : DiskWorker
  queue : List BatchIndex

def DiskState.holdings (state : DiskState Thread) : Holdings Thread :=
  ⟨state.batches, state.writeLock, state.managerLock, state.pendingWrite, state.flushGateSem,
    state.gateHolder, state.calls, state.worker, state.queue⟩

/-- The state of a batch fits what it is used for. -/
def Batch.Fits (batch : Batch Thread) : Prop :=
  match batch.role with
  | .free => batch.state = .free
  | .pending | .held _ => batch.state = .building
  | .queued => batch.state ≠ .free ∧ batch.state ≠ .done ∧ batch.autoRelease = true
  | .submitted _ => batch.state ≠ .free ∧ batch.autoRelease = false
  | .leaving => batch.state = .processing ∧ batch.autoRelease = true

/-- What a thread may rely on about the batch it works on. -/
def CallFits (held : Holdings Thread) (thread : Thread) : DiskCall → Prop
  | .publishSequence index user =>
      if user.auto then held.pendingWrite = some index ∧ (held.batches index).slots ≠ []
      else (held.batches index).role = .held thread
  | .claimDown user | .claimScan user _ => user.locks = true → held.pendingWrite = none
  | .exchange _ => held.pendingWrite = none
  | .publishReady index user => (held.batches index).state = .building ∧
      (held.batches index).role = (if user.auto then .queued else .submitted thread) ∧
      (user.auto = true → held.pendingWrite = none)
  | .publishSignal index user =>
      (user.auto = false → (held.batches index).role = .submitted thread) ∧
      (user.auto = true → held.pendingWrite = none)
  | .build index => (held.batches index).role = .held thread
  | .submitDown index | .submitCheck index => (held.batches index).role = .submitted thread
  | .submitFree index => (held.batches index).role = .submitted thread ∧
      (held.batches index).state = .done
  | _ => True

def WorkerFits (batches : BatchIndex → Batch Thread) : DiskWorker → Prop
  | .stage index _ | .header index | .lock index | .submit index =>
      (batches index).state = .processing ∧ (batches index).role ≠ .leaving
  | .unlock index _ | .check index _ =>
      (batches index).state = .processing ∧ (batches index).role ≠ .queued
  | .storeError index | .release index => (batches index).role = .leaving
  | .storeDone index => (batches index).state = .processing ∧
      ∃ thread, (batches index).role = .submitted thread
  | _ => True

structure Owned (held : Holdings Thread) : Prop where
  locked : ∀ thread, (held.calls thread).locks = true → held.writeLock = some thread
  gated : ∀ thread, (held.calls thread).gated = true → held.gateHolder = some thread
  gate : held.flushGateSem = if held.gateHolder = none then 1 else 0
  reading : ∀ thread, (held.calls thread).reads = true → held.managerLock = some (some thread)
  submitting : held.worker.holdsManager = true → held.managerLock = some none
  calls : ∀ thread, CallFits held thread (held.calls thread)
  roles : ∀ index, (held.batches index).Fits
  pending : ∀ index, held.pendingWrite = some index → (held.batches index).role = .pending
  queued : ∀ index, index ∈ held.queue ↔ (held.batches index).role = .queued
  nodup : held.queue.Nodup
  building : ∀ index, (held.batches index).role = .queued → (held.batches index).state = .building →
    ∃ thread user, held.calls thread = .publishReady index user ∧ user.auto = true
  worker : WorkerFits held.batches held.worker
  processing : ∀ index, (held.batches index).state = .processing → held.worker.batch = some index

variable {held : Holdings Thread} {thread : Thread} {call : DiskCall}

/-! ## Threads -/

section Threads

/-- Nothing that a thread relies on has changed. -/
theorem CallFits.frame {later : Holdings Thread} (fits : CallFits held thread call)
    (own : ∀ index, (held.batches index).role = .held thread ∨
      (held.batches index).role = .submitted thread → later.batches index = held.batches index)
    (locked : call.locks = true → later.pendingWrite = held.pendingWrite ∧
      ∀ index, held.pendingWrite = some index ∨ (held.batches index).role = .queued ∧
        (held.batches index).state = .building → later.batches index = held.batches index) :
    CallFits later thread call := by
  cases call <;> simp only [CallFits] at fits ⊢
  case publishSequence index user =>
    split at fits
    next auto =>
      obtain ⟨pending, same⟩ := locked auto
      rw [if_pos auto, pending, same index (.inl fits.1)]
      exact fits
    next sync => rwa [if_neg sync, own index (.inl fits)]
  case claimDown user | claimScan user _ =>
    intro inside
    rw [(locked inside).1]
    exact fits inside
  case exchange user =>
    rw [(locked rfl).1]
    exact fits
  case publishReady index user =>
    cases auto : user.auto with
    | true =>
        rw [auto, if_pos rfl] at fits
        rw [if_pos rfl, (locked auto).2 index (.inr ⟨fits.2.1, fits.1⟩), (locked auto).1]
        exact fits
    | false =>
        rw [auto, if_neg Bool.false_ne_true] at fits
        rw [if_neg Bool.false_ne_true, own index (.inr fits.2.1)]
        exact ⟨fits.1, fits.2.1, by simp⟩
  case publishSignal index user =>
    refine ⟨fun sync => ?_, fun auto => ?_⟩
    · rw [own index (.inr (fits.1 sync))]
      exact fits.1 sync
    · rw [(locked auto).1]
      exact fits.2 auto
  case build index => rwa [own index (.inl fits)]
  case submitDown index | submitCheck index => rwa [own index (.inr fits)]
  case submitFree index => rwa [own index (.inr fits.1)]

/-- A store that changes neither state, role, kind nor emptiness of a batch. -/
theorem Owned.touch (inv : Owned held) (index : BatchIndex) (batch : Batch Thread)
    (state : batch.state = (held.batches index).state)
    (role : batch.role = (held.batches index).role)
    (auto : batch.autoRelease = (held.batches index).autoRelease)
    (slots : (held.batches index).slots ≠ [] → batch.slots ≠ []) :
    Owned { held with batches := Function.update held.batches index batch } := by
  have same : ∀ other,
      (Function.update held.batches index batch other).state = (held.batches other).state ∧
      (Function.update held.batches index batch other).role = (held.batches other).role ∧
      (Function.update held.batches index batch other).autoRelease =
        (held.batches other).autoRelease ∧
      ((held.batches other).slots ≠ [] →
        (Function.update held.batches index batch other).slots ≠ []) := by
    intro other
    by_cases here : other = index
    · subst here
      simpa using ⟨state, role, auto, slots⟩
    · simp [Function.update_of_ne here]
  refine { inv with
    calls := fun thread => ?_
    roles := fun other => ?_
    pending := fun other isPending => ((same other).2.1).trans (inv.pending other isPending)
    queued := fun other => by rw [(same other).2.1]; exact inv.queued other
    building := fun other => by rw [(same other).1, (same other).2.1]; exact inv.building other
    worker := ?_
    processing := fun other => by rw [(same other).1]; exact inv.processing other }
  · have fits := inv.calls thread
    cases at_ : held.calls thread <;> simp only [at_, CallFits] at fits ⊢
    case publishSequence other user =>
      split at fits
      next auto =>
        rw [if_pos auto]
        exact ⟨fits.1, (same other).2.2.2 fits.2⟩
      next sync =>
        rw [if_neg sync, (same other).2.1]
        exact fits
    case claimDown | claimScan | exchange => exact fits
    case publishReady other user =>
      rw [(same other).1, (same other).2.1]
      exact fits
    case publishSignal other user =>
      rw [(same other).2.1]
      exact fits
    case build other | submitDown other | submitCheck other =>
      rw [(same other).2.1]
      exact fits
    case submitFree other =>
      rw [(same other).1, (same other).2.1]
      exact fits
  · have fits := inv.roles other
    unfold Batch.Fits at fits ⊢
    simp only [(same other).1, (same other).2.1, (same other).2.2.1]
    exact fits
  · have fits := inv.worker
    cases at_ : held.worker <;> simp only [at_, WorkerFits] at fits ⊢
    case stage other _ | header other | lock other | submit other | unlock other _
      | check other _ | storeError other | release other | storeDone other =>
      first
        | rw [(same other).1, (same other).2.1]; exact fits
        | rw [(same other).2.1]; exact fits

/-- A thread that holds neither lock nor batch. -/
structure DiskCall.Plain (call : DiskCall) : Prop where
  locks : call.locks = false
  gated : call.gated = false
  reads : call.reads = false
  fits : ∀ {Thread : Type} (held : Holdings Thread) (thread : Thread), CallFits held thread call

theorem finish_plain (status : BlkStatus) (data : List UInt8) :
    (DiskCall.finish status data).Plain := ⟨rfl, rfl, rfl, fun _ _ => trivial⟩

theorem readNext_plain (offset : Nat) (lengths : List Nat) (data : List UInt8) :
    (readNext offset lengths data).Plain := by
  induction lengths with
  | nil => exact finish_plain _ _
  | cons length rest inductionHypothesis =>
      cases length with
      | zero => exact inductionHypothesis
      | succ length => exact ⟨rfl, rfl, rfl, fun _ _ => trivial⟩

theorem FlushUser.resume_plain (user : FlushUser) : user.resume.Plain := by
  cases user with
  | flush => exact ⟨rfl, rfl, rfl, fun _ _ => by simp [FlushUser.resume, CallFits, ClaimUser.locks]⟩
  | read offset lengths => exact readNext_plain offset lengths []

theorem taskDiskRequest_plain (size : Nat) (request : BlkReq) :
    (taskDiskRequest size request).Plain := by
  unfold taskDiskRequest
  repeat' split
  all_goals exact ⟨rfl, rfl, rfl, fun _ _ => trivial⟩

/-- What a thread goes on with after a step that may have failed. -/
theorem DiskCall.Plain.orError {call : DiskCall} (plain : call.Plain) (failed : Bool) :
    (if failed then DiskCall.finish .ioerr [] else call).Plain := by
  cases failed with
  | true => exact finish_plain _ _
  | false => exact plain

/-- A batch of the given role is not the one the thread has just been given. -/
theorem Owned.not_queued (inv : Owned held) {index : BatchIndex} {role : Role Thread}
    (isRole : (held.batches index).role = role) (other : role ≠ .queued) :
    index ∉ held.queue := by
  intro member
  exact other (isRole.symm.trans ((inv.queued index).mp member))

theorem Owned.pending_ne (inv : Owned held) {index other : BatchIndex}
    (isPending : held.pendingWrite = some other) (role : (held.batches index).role ≠ .pending) :
    other ≠ index := by
  rintro rfl
  exact role (inv.pending other isPending)

theorem Batch.Fits.free {batch : Batch Thread} (fits : batch.Fits) (free : batch.state = .free) :
    batch.role = .free := by
  unfold Batch.Fits at fits
  split at fits <;> simp_all

/-- The number of a role in the queue does not change when the role of a batch
outside the queue does. -/
theorem Owned.queued_update (inv : Owned held) {index : BatchIndex} {batch : Batch Thread}
    (before : (held.batches index).role ≠ .queued) (after : batch.role ≠ .queued)
    (other : BatchIndex) :
    other ∈ held.queue ↔ (Function.update held.batches index batch other).role = .queued := by
  by_cases here : other = index
  · subst here
    rw [inv.queued, Function.update_self]
    simp [before, after]
  · rw [Function.update_of_ne here]
    exact inv.queued other

theorem Owned.pending_update (inv : Owned held) {index : BatchIndex} {batch : Batch Thread}
    (before : (held.batches index).role ≠ .pending) (other : BatchIndex)
    (isPending : held.pendingWrite = some other) :
    (Function.update held.batches index batch other).role = .pending := by
  rw [Function.update_of_ne (inv.pending_ne isPending before)]
  exact inv.pending other isPending

variable [DecidableEq Thread]

theorem update_calls (property : Thread → DiskCall → Prop) (fits : property thread call)
    (others : ∀ other, other ≠ thread → property other (held.calls other)) (other : Thread) :
    property other (Function.update held.calls thread call other) := by
  by_cases here : other = thread
  · subst here
    rwa [Function.update_self]
  · rw [Function.update_of_ne here]
    exact others other here

/-- A thread moves and changes no batch. -/
theorem Owned.enter (inv : Owned held) {writeLock gateHolder : Option Thread}
    {managerLock : Option (Option Thread)} {flushGateSem : Nat} {pendingWrite : Option BatchIndex}
    (lock : call.locks = true → writeLock = some thread)
    (lockKept : ∀ other, other ≠ thread → held.writeLock = some other → writeLock = some other)
    (gate : call.gated = true → gateHolder = some thread)
    (gateKept : ∀ other, other ≠ thread → held.gateHolder = some other →
      gateHolder = some other)
    (count : flushGateSem = if gateHolder = none then 1 else 0)
    (manager : call.reads = true → managerLock = some (some thread))
    (managerKept : ∀ other, other ≠ some thread → held.managerLock = some other →
      managerLock = some other)
    (pending : pendingWrite = held.pendingWrite ∨
      held.writeLock = some thread ∧ pendingWrite = none)
    (fits : CallFits { held with pendingWrite } thread call)
    (sync : ∀ index user, held.calls thread = .publishReady index user → user.auto = false) :
    Owned { held with
      calls := Function.update held.calls thread call
      writeLock, gateHolder, flushGateSem, managerLock, pendingWrite } := by
  refine { inv with
    locked := update_calls (fun thread call => call.locks = true →
      writeLock = some thread) lock fun other here inside => lockKept other here
        (inv.locked other inside)
    gated := update_calls (fun thread call => call.gated = true →
      gateHolder = some thread) gate fun other here inside => gateKept other here
        (inv.gated other inside)
    gate := count
    reading := update_calls (fun thread call => call.reads = true →
      managerLock = some (some thread)) manager fun other here inside => managerKept _ (by simpa)
        (inv.reading other inside)
    submitting := fun inside => managerKept _ (by simp) (inv.submitting inside)
    calls := ?_
    pending := ?_
    building := ?_ }
  · refine update_calls (fun thread call => CallFits _ thread call)
      (fits.frame (fun _ _ => rfl) fun _ => ⟨rfl, fun _ _ => rfl⟩) fun other here => ?_
    refine (inv.calls other).frame (fun _ _ => rfl) fun inside => ?_
    obtain same | ⟨mine, _⟩ := pending
    · exact ⟨same, fun _ _ => rfl⟩
    · have theirs := inv.locked other inside
      rw [mine] at theirs
      exact absurd (Option.some.inj theirs).symm here
  · intro index isPending
    obtain same | ⟨_, none⟩ := pending
    · exact inv.pending index (same ▸ isPending)
    · simp [none] at isPending
  · intro index queued building
    obtain ⟨owner, user, ready, auto⟩ := inv.building index queued building
    refine ⟨owner, user, ?_, auto⟩
    have here : owner ≠ thread := by
      rintro rfl
      simp [sync index user ready] at auto
    simpa [Function.update_of_ne here] using ready

/-- A thread moves inside the locks it holds. -/
theorem Owned.goto (inv : Owned held)
    (lock : call.locks = true → (held.calls thread).locks = true)
    (gate : call.gated = true → (held.calls thread).gated = true)
    (manager : call.reads = true → (held.calls thread).reads = true)
    (fits : CallFits held thread call)
    (sync : ∀ index user, held.calls thread = .publishReady index user → user.auto = false) :
    Owned { held with calls := Function.update held.calls thread call } :=
  inv.enter (fun inside => inv.locked thread (lock inside)) (fun _ _ same => same)
    (fun inside => inv.gated thread (gate inside)) (fun _ _ same => same) inv.gate
    (fun inside => inv.reading thread (manager inside)) (fun _ _ same => same) (.inl rfl) fits sync

/-- A thread stores into a batch that nobody else relies on. -/
theorem Owned.store (inv : Owned held) {index : BatchIndex} {batch : Batch Thread}
    {pendingWrite : Option BatchIndex} {queue : List BatchIndex}
    (lock : call.locks = true → (held.calls thread).locks = true)
    (gate : call.gated = true → (held.calls thread).gated = true)
    (manager : call.reads = true → (held.calls thread).reads = true)
    (own : ∀ other, other ≠ thread → (held.batches index).role ≠ .held other ∧
      (held.batches index).role ≠ .submitted other)
    (shared : held.writeLock = some thread ∨ pendingWrite = held.pendingWrite ∧
      (held.batches index).role ≠ .pending ∧ (held.batches index).role ≠ .queued)
    (idle : (held.batches index).state ≠ .processing ∧ batch.state ≠ .processing)
    (role : batch.Fits)
    (pending : ∀ other, pendingWrite = some other →
      (Function.update held.batches index batch other).role = .pending)
    (queued : ∀ other, other ∈ queue ↔
      (Function.update held.batches index batch other).role = .queued)
    (nodup : queue.Nodup)
    (building : batch.role = .queued → batch.state = .building →
      ∃ user, call = .publishReady index user ∧ user.auto = true)
    (sync : ∀ other user, held.calls thread = .publishReady other user → user.auto = true →
      other = index)
    (fits : CallFits { held with
      batches := Function.update held.batches index batch, pendingWrite, queue } thread call) :
    Owned { held with
      batches := Function.update held.batches index batch
      calls := Function.update held.calls thread call
      pendingWrite, queue } := by
  have elsewhere : ∀ other, (held.batches other).state = .processing →
      Function.update held.batches index batch other = held.batches other := by
    intro other processing
    refine Function.update_of_ne ?_ _ _
    rintro rfl
    exact idle.1 processing
  refine { inv with
    locked := update_calls (fun thread call => call.locks = true → _ = some thread)
      (fun inside => inv.locked thread (lock inside)) fun other _ => inv.locked other
    gated := update_calls (fun thread call => call.gated = true → _ = some thread)
      (fun inside => inv.gated thread (gate inside)) fun other _ => inv.gated other
    reading := update_calls (fun thread call => call.reads = true →
        _ = some (some thread))
      (fun inside => inv.reading thread (manager inside)) fun other _ => inv.reading other
    calls := ?_
    roles := ?_
    pending := pending
    queued := queued
    nodup := nodup
    building := ?_
    worker := ?_
    processing := ?_ }
  · refine update_calls (fun thread call => CallFits _ thread call)
      (fits.frame (fun _ _ => rfl) fun _ => ⟨rfl, fun _ _ => rfl⟩) fun other here => ?_
    refine (inv.calls other).frame (fun slot mine => Function.update_of_ne ?_ _ _) fun inside => ?_
    · rintro rfl
      exact mine.elim (own other here).1 (own other here).2
    · obtain mine | ⟨same, notPending, notQueued⟩ := shared
      · have theirs := inv.locked other inside
        rw [mine] at theirs
        exact absurd (Option.some.inj theirs).symm here
      · refine ⟨same, fun slot relied => Function.update_of_ne ?_ _ _⟩
        rintro rfl
        rcases relied with isPending | isQueued
        · exact notPending (inv.pending slot isPending)
        · exact notQueued isQueued.1
  · intro other
    by_cases here : other = index
    · subst here
      simpa using role
    · simpa [Function.update_of_ne here] using inv.roles other
  · intro other isQueued isBuilding
    by_cases here : other = index
    · subst here
      simp only [Function.update_self] at isQueued isBuilding
      obtain ⟨user, ready, auto⟩ := building isQueued isBuilding
      exact ⟨thread, user, by simpa using ready, auto⟩
    · simp only [Function.update_of_ne here] at isQueued isBuilding
      obtain ⟨owner, user, ready, auto⟩ := inv.building other isQueued isBuilding
      refine ⟨owner, user, ?_, auto⟩
      have notUs : owner ≠ thread := by
        rintro rfl
        exact here (sync other user ready auto)
      simpa [Function.update_of_ne notUs] using ready
  · have worker := inv.worker
    have processing := inv.processing
    cases at_ : held.worker <;> simp only [at_, WorkerFits] at worker processing ⊢
    case stage slot _ | header slot | lock slot | submit slot | unlock slot _ | check slot _ =>
      rwa [elsewhere slot worker.1]
    case storeDone slot => rwa [elsewhere slot worker.1]
    case storeError slot | release slot =>
      have leaving := inv.roles slot
      simp only [Batch.Fits, worker] at leaving
      rwa [elsewhere slot leaving.1]
  · intro other isProcessing
    refine inv.processing other ?_
    by_cases here : other = index
    · subst here
      simp only [Function.update_self] at isProcessing
      exact absurd isProcessing idle.2
    · simpa [Function.update_of_ne here] using isProcessing

end Threads

/-! ## Steps of the threads -/

section Steps

variable {size : Nat} [DecidableEq Thread] {state : DiskState Thread}

theorem claimed_owned (inv : Owned state.holdings) {index : BatchIndex} {user : ClaimUser}
    {position : Nat} (at_ : state.calls thread = .claimScan user position)
    (free : (state.batches index).state = .free) :
    Owned (state.claimed thread index user).holdings := by
  have role := (inv.roles index).free free
  simp only [DiskState.holdings] at role
  cases user with
  | flush =>
      refine inv.store (by simp [DiskCall.locks]) (by simp [DiskCall.gated])
        (by simp [DiskCall.reads]) ?_ (.inr ⟨rfl, ?_, ?_⟩) ⟨?_, by simp⟩ rfl
        (inv.pending_update ?_) (inv.queued_update ?_ (by simp)) inv.nodup (by simp) ?_ ?_
      all_goals simp [DiskState.holdings, role, free, at_, CallFits]
  | write offset buf =>
      have locked : state.writeLock = some thread :=
        inv.locked thread (by simp [DiskState.holdings, at_, DiskCall.locks, ClaimUser.locks])
      refine inv.store (fun _ => ?_) (by simp [DiskCall.gated]) (by simp [DiskCall.reads]) ?_
        (.inl locked) ⟨?_, by simp⟩ rfl ?_ (inv.queued_update ?_ (by simp)) inv.nodup (by simp) ?_ ?_
      case refine_4 =>
        rintro other isPending
        cases isPending
        simp
      all_goals simp [DiskState.holdings, role, free, at_, CallFits, DiskCall.locks,
        ClaimUser.locks]

theorem publish_owned (inv : Owned state.holdings) {index : BatchIndex} {user : PublishUser}
    (at_ : state.calls thread = .publishSequence index user) :
    Owned (state.publish thread index user).holdings := by
  have fits := inv.calls thread
  simp only [DiskState.holdings, at_, CallFits] at fits
  unfold DiskState.publish
  cases auto : user.auto with
  | true =>
      rw [auto, if_pos rfl] at fits
      have role : (state.batches index).role = .pending := inv.pending index fits.1
      have building : (state.batches index).state = .building := by
        have fits := inv.roles index
        simpa [DiskState.holdings, Batch.Fits, role] using fits
      have locked : state.writeLock = some thread :=
        inv.locked thread (by simp [DiskState.holdings, at_, DiskCall.locks, auto])
      have outside : index ∉ state.queue := by
        intro member
        have queued := (inv.queued index).mp member
        simp [DiskState.holdings, role] at queued
      rw [if_pos rfl]
      refine inv.store (fun _ => ?_) (fun gated => ?_) (by simp [DiskCall.reads]) ?_ (.inl locked)
        ⟨?_, ?_⟩ ?_ (by simp) ?_ ?_ (fun _ _ => ⟨user, rfl, auto⟩) ?_ ?_
      case refine_6 => simp [Batch.Fits, building]
      case refine_7 =>
        intro other
        by_cases here : other = index
        · subst here
          simp
        · have queued := inv.queued other
          simp only [DiskState.holdings] at queued
          simp [here, queued, DiskState.holdings]
      case refine_8 =>
        refine List.nodup_append.mpr ⟨inv.nodup, by simp, fun other member last isLast => ?_⟩
        rw [List.mem_singleton.mp isLast]
        rintro rfl
        exact outside member
      all_goals simp_all [DiskState.holdings, CallFits, DiskCall.locks, DiskCall.gated]
  | false =>
      rw [auto, if_neg Bool.false_ne_true] at fits
      have building : (state.batches index).state = .building := by
        have role := inv.roles index
        simpa [DiskState.holdings, Batch.Fits, fits] using role
      rw [if_neg Bool.false_ne_true]
      refine inv.store (fun locks => ?_) (fun gated => ?_) (by simp [DiskCall.reads]) ?_
        (.inr ⟨rfl, ?_, ?_⟩) ⟨?_, ?_⟩ ?_ (inv.pending_update ?_) (inv.queued_update ?_ ?_) inv.nodup
        ?_ ?_ ?_
      all_goals simp_all [DiskState.holdings, CallFits, DiskCall.locks, DiskCall.gated, Batch.Fits,
        Ne.symm]

theorem publishReady_owned (inv : Owned state.holdings) {index : BatchIndex} {user : PublishUser}
    (at_ : state.calls thread = .publishReady index user) :
    Owned ((state.setBatch index { state.batches index with state := .ready }).enter thread
      (.publishSignal index user)).holdings := by
  have fits := inv.calls thread
  have role := inv.roles index
  simp only [DiskState.holdings, at_, CallFits] at fits role
  obtain ⟨building, isRole, taken⟩ := fits
  have fitsReady : Batch.Fits { state.batches index with state := .ready } := by
    unfold Batch.Fits at role ⊢
    cases auto : user.auto <;> simp_all
  have queued : ∀ other, other ∈ state.queue ↔ (Function.update state.batches index
      { state.batches index with state := .ready } other).role = .queued := by
    intro other
    refine (inv.queued other).trans ?_
    by_cases here : other = index
    · subst here
      simp [DiskState.holdings]
    · simp [DiskState.holdings, Function.update_of_ne here]
  refine inv.store (fun locks => ?_) (fun gated => ?_) (by simp [DiskCall.reads]) ?_ ?_
    ⟨by simp [DiskState.holdings, building], by simp⟩ fitsReady ?_ queued inv.nodup
    (by simp) ?_ ?_
  · simpa [DiskState.holdings, at_, DiskCall.locks] using locks
  · simpa [DiskState.holdings, at_, DiskCall.gated] using gated
  · intro other different
    simp only [DiskState.holdings, isRole]
    cases user.auto <;> simp [Ne.symm different]
  · cases auto : user.auto with
    | true => exact .inl (inv.locked thread (by simp [DiskState.holdings, at_, DiskCall.locks, auto]))
    | false => exact .inr ⟨rfl, by simp [DiskState.holdings, isRole, auto],
        by simp [DiskState.holdings, isRole, auto]⟩
  · refine inv.pending_update ?_
    simp only [DiskState.holdings, isRole]
    cases user.auto <;> simp
  · intro other otherUser ready _
    simp only [DiskState.holdings, at_, DiskCall.publishReady.injEq] at ready
    exact ready.1.symm
  · refine ⟨fun sync => ?_, taken⟩
    simp [isRole, sync]

/-- A step that leaves every batch and lock as it is. -/
theorem goto_owned (inv : Owned state.holdings)
    (lock : call.locks = true → (state.calls thread).locks = true)
    (gate : call.gated = true → (state.calls thread).gated = true)
    (manager : call.reads = true → (state.calls thread).reads = true)
    (fits : CallFits state.holdings thread call)
    (sync : ∀ index user, state.calls thread = .publishReady index user → user.auto = false) :
    Owned (state.enter thread call).holdings :=
  inv.goto lock gate manager fits sync

theorem stepCall_owned (inv : Owned state.holdings) {target : DiskState Thread}
    (moved : stepCall size state thread = some target) : Owned target.holdings := by
  have fits := inv.calls thread
  have mine := inv.locked thread
  have gate := inv.gated thread
  have reading := inv.reading thread
  simp only [DiskState.holdings] at fits mine gate reading
  unfold stepCall at moved
  cases at_ : state.calls thread <;> simp only [at_] at moved fits mine gate reading
  case idle => cases moved
  case gateDown user =>
    split at moved
    next => cases moved
    next opened =>
      cases moved
      have count := inv.gate
      have nobody : state.gateHolder = none := by
        by_contra held
        simp [DiskState.holdings, held] at count
        exact opened count
      refine inv.enter (by simp [DiskCall.locks]) (fun _ _ same => same) (fun _ => rfl) ?_ ?_
        (by simp [DiskCall.reads]) (fun _ _ same => same) (.inl rfl) trivial
        (by simp [DiskState.holdings, at_])
      · intro other _ held
        simp [DiskState.holdings, nobody] at held
      · simp [DiskState.holdings, nobody] at count
        simp [count]
  case flushLock user =>
    split at moved
    next free =>
      cases moved
      refine inv.enter (fun _ => rfl) ?_ (fun _ => gate rfl) (fun _ _ same => same) inv.gate
        (by simp [DiskCall.reads]) (fun _ _ same => same) (.inl rfl) trivial
        (by simp [DiskState.holdings, at_])
      intro other _ held
      simp [DiskState.holdings, free] at held
    next => cases moved
  case flushTake user =>
    split at moved
    next nothing =>
      cases moved
      exact goto_owned inv (fun _ => by rw [at_]; rfl) (fun _ => by rw [at_]; rfl)
        (by simp [DiskCall.reads]) nothing (by simp [at_])
    next index isPending =>
      split at moved
      next empty =>
        cases moved
        exact inv.enter (fun _ => mine rfl) (fun _ _ same => same) (fun _ => gate rfl)
          (fun _ _ same => same) inv.gate (by simp [DiskCall.reads]) (fun _ _ same => same)
          (.inr ⟨mine rfl, rfl⟩) rfl (by simp [DiskState.holdings, at_])
      next filled =>
        cases moved
        refine goto_owned inv (fun _ => by rw [at_]; rfl) (fun _ => by rw [at_]; rfl)
          (by simp [DiskCall.reads]) ?_ (by simp [at_])
        exact ⟨isPending, filled⟩
  case publishSequence index user =>
    cases moved
    exact publish_owned inv at_
  case publishReady index user =>
    cases moved
    exact publishReady_owned inv at_
  case publishSignal index user =>
    cases moved
    cases user with
    | flush user =>
        exact goto_owned inv (fun _ => by rw [at_]; rfl) (fun _ => by rw [at_]; rfl)
          (by simp [PublishUser.resume, DiskCall.reads]) (fits.2 rfl) (by simp [at_])
    | write offset buf =>
        exact goto_owned inv (fun _ => by rw [at_]; rfl) (by simp [PublishUser.resume, DiskCall.gated])
          (by simp [PublishUser.resume, DiskCall.reads]) trivial (by simp [at_])
    | submit =>
        exact goto_owned inv (by simp [PublishUser.resume, DiskCall.locks])
          (by simp [PublishUser.resume, DiskCall.gated])
          (by simp [PublishUser.resume, DiskCall.reads]) (fits.1 rfl) (by simp [at_])
  case exchange user =>
    cases moved
    exact goto_owned inv (fun _ => by rw [at_]; rfl) (fun _ => by rw [at_]; rfl)
      (by simp [DiskCall.reads]) trivial (by simp [at_])
  case flushUnlock user pending =>
    cases moved
    refine inv.enter (by simp [DiskCall.locks]) ?_ (fun _ => gate rfl) (fun _ _ same => same)
      inv.gate (by simp [DiskCall.reads]) (fun _ _ same => same) (.inl rfl) trivial
      (by simp [DiskState.holdings, at_])
    intro other different held
    have ours := mine rfl
    simp only [DiskState.holdings, ours, Option.some.injEq] at held
    exact absurd held.symm different
  case flushWait user remaining =>
    cases remaining with
    | zero =>
        cases moved
        exact goto_owned inv (by simp [DiskCall.locks]) (fun _ => by rw [at_]; rfl)
          (by simp [DiskCall.reads]) trivial (by simp [at_])
    | succ remaining =>
        simp only at moved
        split at moved
        next => cases moved
        next =>
          cases moved
          exact goto_owned inv (by simp [DiskCall.locks]) (fun _ => by rw [at_]; rfl)
            (by simp [DiskCall.reads]) trivial (by simp [at_])
  case gateUp user failed =>
    cases moved
    have ours := gate rfl
    have count := inv.gate
    simp only [DiskState.holdings, ours] at count
    have plain := user.resume_plain.orError failed
    refine inv.enter (by simp [plain.locks]) (fun _ _ same => same) (by simp [plain.gated]) ?_ ?_
      (by simp [plain.reads]) (fun _ _ same => same) (.inl rfl) (plain.fits _ _)
      (by simp [DiskState.holdings, at_])
    · intro other different held
      simp only [DiskState.holdings, ours, Option.some.injEq] at held
      exact absurd held.symm different
    · simp [count, semUp]
  case claimDown user =>
    split at moved
    next => cases moved
    next =>
      cases moved
      exact goto_owned inv (by simp [at_, DiskCall.locks]) (by simp [DiskCall.gated])
        (by simp [DiskCall.reads]) fits (by simp [at_])
  case claimScan user position =>
    split at moved
    next inside =>
      split at moved
      next free =>
        cases moved
        exact claimed_owned inv at_ free
      next taken =>
        cases moved
        exact goto_owned inv (by simp [at_, DiskCall.locks]) (by simp [DiskCall.gated])
          (by simp [DiskCall.reads]) fits (by simp [at_])
    next =>
      cases moved
      cases user with
      | flush =>
          exact goto_owned inv (by simp [DiskCall.locks]) (by simp [DiskCall.gated])
            (by simp [DiskCall.reads]) trivial (by simp [at_])
      | write offset buf =>
          exact goto_owned inv (by simp [at_, DiskCall.locks, ClaimUser.locks])
            (by simp [DiskCall.gated]) (by simp [DiskCall.reads]) trivial (by simp [at_])
  case build index =>
    cases moved
    have touched := inv.touch index
      { state.batches index with slots := [⟨.flush, 0, [], 0⟩] } rfl rfl rfl (by simp)
    refine touched.goto (by simp [DiskCall.locks, PublishUser.auto])
      (by simp [DiskCall.gated, PublishUser.gated]) (by simp [DiskCall.reads]) ?_
      (by simp [DiskState.holdings, at_])
    simpa [CallFits, PublishUser.auto, DiskState.holdings] using fits
  case submitDown index =>
    split at moved
    next => cases moved
    next =>
      cases moved
      have touched := inv.touch index { state.batches index with
        completionSem := (state.batches index).completionSem - 1 } rfl rfl rfl id
      refine touched.goto (by simp [DiskCall.locks]) (by simp [DiskCall.gated])
        (by simp [DiskCall.reads]) ?_ (by simp [DiskState.holdings, at_])
      simpa [CallFits, DiskState.holdings] using fits
  case submitCheck index =>
    cases moved
    refine goto_owned inv ?_ ?_ ?_ ?_ (by simp [at_])
    · split <;> simp [DiskCall.locks]
    · split <;> simp [DiskCall.gated]
    · split <;> simp [DiskCall.reads]
    · split
      next done => exact ⟨fits, done⟩
      next => trivial
  case submitFree index =>
    cases moved
    obtain ⟨role, done⟩ := fits
    refine inv.store (by simp [DiskCall.locks]) (by simp [DiskCall.gated]) (by simp [DiskCall.reads])
      ?_ (.inr ⟨rfl, ?_, ?_⟩) ⟨?_, by simp⟩ rfl (inv.pending_update ?_)
      (inv.queued_update ?_ (by simp)) inv.nodup (by simp) ?_ trivial
    all_goals simp_all [DiskState.holdings, Ne.symm]
  case submitUp failed =>
    cases moved
    exact goto_owned inv (by simp [DiskCall.locks]) (by simp [DiskCall.gated])
      (by simp [DiskCall.reads]) trivial (by simp [at_])
  case writeLock offset buf =>
    split at moved
    next free =>
      cases moved
      refine inv.enter (fun _ => rfl) ?_ (by simp [DiskCall.gated]) (fun _ _ same => same) inv.gate
        (by simp [DiskCall.reads]) (fun _ _ same => same) (.inl rfl) trivial
        (by simp [DiskState.holdings, at_])
      intro other _ held
      simp [DiskState.holdings, free] at held
    next => cases moved
  case fill offset buf =>
    split at moved
    next =>
      cases moved
      exact goto_owned inv (fun _ => by rw [at_]; rfl) (by simp [DiskCall.gated])
        (by simp [DiskCall.reads]) trivial (by simp [at_])
    next =>
      cases moved
      exact goto_owned inv (fun _ => by rw [at_]; rfl) (by simp [DiskCall.gated])
        (by simp [DiskCall.reads]) trivial (by simp [at_])
    next byte bytes rest =>
      split at moved
      next nothing =>
        cases moved
        exact goto_owned inv (fun _ => by rw [at_]; rfl) (by simp [DiskCall.gated])
          (by simp [DiskCall.reads]) (fun _ => nothing) (by simp [at_])
      next index isPending =>
        cases moved
        have touched := inv.touch index
          { state.batches index with
            slots := (state.batches index).slots ++ [⟨.write, offset,
              (byte :: bytes).take lunaDiskBatchSlotSize, (state.tickets thread).writer⟩] }
          rfl rfl rfl (by simp)
        refine touched.goto (fun _ => ?_) ?_ ?_ ?_ (by simp [DiskState.holdings, at_])
        · simp [DiskState.holdings, at_, DiskCall.locks]
        · split <;> simp [DiskCall.gated, PublishUser.gated]
        · split <;> simp [DiskCall.reads]
        · split
          · exact ⟨isPending, by simp⟩
          · trivial
  case writeUnlock failed =>
    cases moved
    refine inv.enter ?_ ?_ ?_ (fun _ _ same => same) inv.gate ?_ (fun _ _ same => same)
      (.inl rfl) ?_ (by simp [DiskState.holdings, at_])
    · split <;> simp [DiskCall.locks]
    · intro other different held
      have ours := mine rfl
      simp only [DiskState.holdings, ours, Option.some.injEq] at held
      exact absurd held.symm different
    · split <;> simp [DiskCall.gated]
    · split <;> simp [DiskCall.reads]
    · split <;> trivial
  case writeError =>
    cases moved
    exact goto_owned inv (by simp [DiskCall.locks]) (by simp [DiskCall.gated])
      (by simp [DiskCall.reads]) trivial (by simp [at_])
  case readLock offset lengths data =>
    split at moved
    next free =>
      cases moved
      refine inv.enter (by simp [DiskCall.locks]) (fun _ _ same => same) (by simp [DiskCall.gated])
        (fun _ _ same => same) inv.gate (fun _ => rfl) ?_ (.inl rfl) trivial
        (by simp [DiskState.holdings, at_])
      intro other _ held
      simp [DiskState.holdings, free] at held
    next => cases moved
  case readServe offset lengths data =>
    cases moved
    refine goto_owned inv ?_ ?_ (fun _ => by rw [at_]; rfl) ?_ (by simp [at_])
    · split <;> simp [DiskCall.locks]
    · split <;> simp [DiskCall.gated]
    · split <;> trivial
  case readCopy offset lengths data =>
    cases moved
    exact goto_owned inv (by simp [DiskCall.locks]) (by simp [DiskCall.gated])
      (fun _ => by rw [at_]; rfl) trivial (by simp [at_])
  case readUnlock offset lengths data failed =>
    cases moved
    have plain := (readNext_plain offset lengths data).orError failed
    refine inv.enter (by simp [plain.locks]) (fun _ _ same => same) (by simp [plain.gated])
      (fun _ _ same => same) inv.gate (by simp [plain.reads]) ?_ (.inl rfl) (plain.fits _ _)
      (by simp [DiskState.holdings, at_])
    intro other different held
    have ours := reading rfl
    simp only [DiskState.holdings, ours, Option.some.injEq] at held
    exact absurd held.symm different
  case finish status data =>
    cases moved
    exact goto_owned inv (by simp [DiskCall.locks]) (by simp [DiskCall.gated])
      (by simp [DiskCall.reads]) trivial (by simp [at_])

end Steps

/-! ## Steps of the worker -/

section Worker

variable {size : Nat} {worker : DiskWorker}

/-- The worker moves and changes no batch. -/
theorem Owned.work (inv : Owned held) {managerLock : Option (Option Thread)}
    (manager : worker.holdsManager = true → managerLock = some none)
    (managerKept : ∀ thread, held.managerLock = some (some thread) →
      managerLock = some (some thread))
    (fits : WorkerFits held.batches worker) (batch : worker.batch = held.worker.batch) :
    Owned { held with worker, managerLock } :=
  { inv with
    reading := fun thread inside => managerKept thread (inv.reading thread inside)
    submitting := manager
    calls := fun thread => (inv.calls thread).frame (fun _ _ => rfl) fun _ => ⟨rfl, fun _ _ => rfl⟩
    worker := fits
    processing := fun index processing => batch.trans (inv.processing index processing) }

/-- The worker stores into a batch that is neither under construction nor done. -/
theorem CallFits.published (inv : Owned held) {index : BatchIndex} {batch : Batch Thread}
    (published : (held.batches index).state ≠ .building ∧ (held.batches index).state ≠ .done)
    (role : ∀ thread, (held.batches index).role = .submitted thread →
      batch.role = .submitted thread)
    (fits : CallFits held thread call) :
    CallFits { held with batches := Function.update held.batches index batch } thread call := by
  have built : ∀ {other}, (held.batches other).state = .building → other ≠ index := by
    rintro other building rfl
    exact published.1 building
  have roles : ∀ {other}, (held.batches other).role = .held thread →
      (held.batches other).state = .building := by
    intro other isHeld
    simpa [Batch.Fits, isHeld] using inv.roles other
  have submitted : ∀ {other}, (held.batches other).role = .submitted thread →
      (Function.update held.batches index batch other).role = .submitted thread := by
    intro other isSubmitted
    by_cases here : other = index
    · subst here
      simpa using role thread isSubmitted
    · rwa [Function.update_of_ne here]
  cases call <;> simp only [CallFits] at fits ⊢
  case publishSequence other user =>
    split at fits
    next auto =>
      have building : (held.batches other).state = .building := by
        simpa [Batch.Fits, inv.pending other fits.1] using inv.roles other
      rw [if_pos auto, Function.update_of_ne (built building)]
      exact fits
    next sync => rwa [if_neg sync, Function.update_of_ne (built (roles fits))]
  case claimDown | claimScan | exchange => exact fits
  case publishReady other user => rwa [Function.update_of_ne (built fits.1)]
  case publishSignal other user => exact ⟨fun sync => submitted (fits.1 sync), fits.2⟩
  case build other => rwa [Function.update_of_ne (built (roles fits))]
  case submitDown other | submitCheck other => exact submitted fits
  case submitFree other =>
    have here : other ≠ index := by
      rintro rfl
      exact published.2 fits.2
    rwa [Function.update_of_ne here]

variable (worker) in
theorem Owned.workStore (inv : Owned held) {index : BatchIndex} {batch : Batch Thread}
    {queue : List BatchIndex}
    (manager : worker.holdsManager = true → held.worker.holdsManager = true)
    (published : (held.batches index).state ≠ .building ∧ (held.batches index).state ≠ .done)
    (role : ∀ thread, (held.batches index).role = .submitted thread →
      batch.role = .submitted thread)
    (notPending : (held.batches index).role ≠ .pending)
    (fits : batch.Fits) (notBuilding : batch.state ≠ .building)
    (queued : ∀ other, other ∈ queue ↔
      (Function.update held.batches index batch other).role = .queued)
    (nodup : queue.Nodup)
    (workerFits : WorkerFits (Function.update held.batches index batch) worker)
    (processing : ∀ other, (Function.update held.batches index batch other).state = .processing →
      worker.batch = some other) :
    Owned { held with batches := Function.update held.batches index batch, worker, queue } := by
  refine { inv with
    submitting := fun inside => inv.submitting (manager inside)
    calls := fun thread => (CallFits.published inv published role (inv.calls thread)).frame
      (fun _ _ => rfl) fun _ => ⟨rfl, fun _ _ => rfl⟩
    roles := fun other => ?_
    pending := inv.pending_update notPending
    queued := queued
    nodup := nodup
    building := fun other isQueued isBuilding => ?_
    worker := workerFits
    processing := processing }
  · by_cases here : other = index
    · subst here
      simpa using fits
    · simpa [Function.update_of_ne here] using inv.roles other
  · have here : other ≠ index := by
      rintro rfl
      simp only [Function.update_self] at isBuilding
      exact notBuilding isBuilding
    simp only [Function.update_of_ne here] at isQueued isBuilding
    exact inv.building other isQueued isBuilding

theorem Batch.Fits.processing {batch : Batch Thread} (fits : batch.Fits)
    (processing : batch.state = .processing) :
    batch.role = .queued ∧ batch.autoRelease = true ∨
      (∃ thread, batch.role = .submitted thread) ∧ batch.autoRelease = false ∨
      batch.role = .leaving ∧ batch.autoRelease = true := by
  unfold Batch.Fits at fits
  split at fits <;> simp_all

theorem Batch.Fits.ready {batch : Batch Thread} (fits : batch.Fits)
    (ready : batch.state = .ready) :
    batch.role = .queued ∨ ∃ thread, batch.role = .submitted thread := by
  unfold Batch.Fits at fits
  split at fits <;> simp_all

variable {state : DiskState Thread}

theorem submit_owned (inv : Owned state.holdings) {index : BatchIndex} {fault : Option Nat}
    (at_ : state.worker = .submit index) :
    Owned (state.submit size index fault).holdings := by
  have fits := inv.worker
  have processing := inv.processing
  simp only [DiskState.holdings, at_, WorkerFits] at fits processing
  unfold DiskState.submit
  obtain ⟨isProcessing, notLeaving⟩ := fits
  rcases (inv.roles index).processing isProcessing with ⟨role, auto⟩ | ⟨⟨owner, role⟩, sync⟩ |
    ⟨role, _⟩
  · simp only [DiskState.holdings] at role auto
    simp only [auto, if_true]
    refine inv.workStore (.unlock index _) (fun _ => by rw [DiskState.holdings, at_]; rfl)
      ⟨by simp [DiskState.holdings, isProcessing], by simp [DiskState.holdings, isProcessing]⟩
      (by simp [DiskState.holdings, role]) (by simp [DiskState.holdings, role])
      (by simp [Batch.Fits, isProcessing]) (by simp [isProcessing]) ?_
      (inv.nodup.erase _) (by simp [WorkerFits, isProcessing]) ?_
    · intro other
      have queued := inv.queued other
      simp only [DiskState.holdings] at queued
      by_cases here : other = index
      · subst here
        simpa using (List.Nodup.not_mem_erase inv.nodup : other ∉ state.queue.erase other)
      · simp [DiskState.holdings, List.mem_erase_of_ne here, Function.update_of_ne here, queued]
    · intro other otherProcessing
      refine processing other ?_
      by_cases here : other = index
      · rwa [here]
      · simpa [DiskState.holdings, Function.update_of_ne here] using otherProcessing
  · simp only [DiskState.holdings] at role sync
    simp only [sync, Bool.false_eq_true, if_false]
    refine inv.work (fun _ => inv.submitting
      (by simp [DiskState.holdings, at_, DiskWorker.holdsManager]))
      (fun _ same => same) ⟨isProcessing, by simp [DiskState.holdings, role]⟩ ?_
    simp [DiskState.holdings, at_, DiskWorker.batch]
  · exact absurd role notLeaving

theorem stepWorker_owned (inv : Owned state.holdings) {fault : Option Nat}
    {target : DiskState Thread} (moved : stepWorker size state fault = some target) :
    Owned target.holdings := by
  have fits := inv.worker
  have processing := inv.processing
  simp only [DiskState.holdings] at fits processing
  unfold stepWorker at moved
  cases at_ : state.worker <;> simp only [at_] at moved fits processing
  case semDown =>
    split at moved
    next => cases moved
    next =>
      cases moved
      exact inv.work (by simp [DiskWorker.holdsManager]) (fun _ same => same) trivial
        (by simp [DiskState.holdings, at_, DiskWorker.batch])
  case scan index selected best ready limit =>
    split at moved
    next inside =>
      cases moved
      exact inv.work (by simp [DiskWorker.holdsManager]) (fun _ same => same) trivial
        (by simp [DiskState.holdings, at_, DiskWorker.batch])
    next =>
      cases selected with
      | none =>
          cases moved
          exact inv.work (by simp [DiskWorker.holdsManager]) (fun _ same => same) trivial
            (by simp [DiskState.holdings, at_, DiskWorker.batch])
      | some selected =>
          cases moved
          exact inv.work (by simp [DiskWorker.holdsManager]) (fun _ same => same) trivial
            (by simp [DiskState.holdings, at_, DiskWorker.batch])
  case claim index =>
    split at moved
    next ready =>
      cases moved
      have role := (inv.roles index).ready ready
      have kept := inv.roles index
      simp only [DiskState.holdings] at role kept
      refine inv.workStore _ (by simp [DiskWorker.holdsManager])
        ⟨by simp [DiskState.holdings, ready], by simp [DiskState.holdings, ready]⟩
        (fun _ same => same) ?_ ?_ (by simp) ?_ inv.nodup ?_ ?_
      · rcases role with role | ⟨owner, role⟩ <;> simp [DiskState.holdings, role]
      · unfold Batch.Fits at kept ⊢
        rcases role with role | ⟨owner, role⟩ <;> simp_all
      · intro other
        refine (inv.queued other).trans ?_
        by_cases here : other = index
        · subst here
          simp [DiskState.holdings]
        · simp [DiskState.holdings, Function.update_of_ne here]
      · rcases role with role | ⟨owner, role⟩ <;> simp [WorkerFits, DiskState.holdings, role]
      · intro other otherProcessing
        by_cases here : other = index
        · rw [here]
          rfl
        · have none := processing other (by
            simpa [DiskState.holdings, Function.update_of_ne here] using otherProcessing)
          simp [DiskWorker.batch] at none
    next =>
      cases moved
      exact inv.work (by simp [DiskWorker.holdsManager]) (fun _ same => same) trivial
        (by simp [DiskState.holdings, at_, DiskWorker.batch])
  case stage index position =>
    split at moved
    next =>
      cases moved
      exact inv.work (by simp [DiskWorker.holdsManager]) (fun _ same => same) fits
        (by simp [DiskState.holdings, at_, DiskWorker.batch])
    next =>
      cases moved
      exact inv.work (by simp [DiskWorker.holdsManager]) (fun _ same => same) fits
        (by simp [DiskState.holdings, at_, DiskWorker.batch])
  case header index =>
    cases moved
    exact inv.work (by simp [DiskWorker.holdsManager]) (fun _ same => same) fits
      (by simp [DiskState.holdings, at_, DiskWorker.batch])
  case lock index =>
    split at moved
    next free =>
      cases moved
      refine inv.work (fun _ => rfl) ?_ fits (by simp [DiskState.holdings, at_, DiskWorker.batch])
      intro thread held
      simp [DiskState.holdings, free] at held
    next => cases moved
  case submit index =>
    cases moved
    exact submit_owned inv at_
  case unlock index failed =>
    cases moved
    refine inv.work (by simp [DiskWorker.holdsManager]) ?_ fits
      (by simp [DiskState.holdings, at_, DiskWorker.batch])
    intro thread held
    have ours := inv.submitting (by simp [DiskState.holdings, at_, DiskWorker.holdsManager])
    simp [ours] at held
  case check index failed =>
    cases moved
    obtain ⟨isProcessing, notQueued⟩ := fits
    have touched := inv.touch index { state.batches index with
      failed := batchFailed (state.batches index).slots.length failed state.window } rfl rfl rfl id
    refine touched.work ?_ (fun _ same => same) ?_ ?_
    · repeat' split
      all_goals simp [DiskWorker.holdsManager]
    · rcases (inv.roles index).processing isProcessing with ⟨role, auto⟩ | ⟨⟨owner, role⟩, sync⟩ |
        ⟨role, auto⟩
      · exact absurd role notQueued
      · simp only [DiskState.holdings] at role sync
        simp [sync, WorkerFits, isProcessing, role, DiskState.holdings]
      · simp only [DiskState.holdings] at role auto
        rw [if_pos auto]
        split <;> simp [WorkerFits, role, DiskState.holdings]
    · simp only [DiskState.holdings, at_]
      repeat' split
      all_goals simp [DiskWorker.batch]
  case storeError index =>
    cases moved
    exact inv.work (by simp [DiskWorker.holdsManager]) (fun _ same => same) fits
      (by simp [DiskState.holdings, at_, DiskWorker.batch])
  case release index =>
    cases moved
    simp only [WorkerFits] at fits
    have leaving := inv.roles index
    simp only [DiskState.holdings, Batch.Fits, fits] at leaving
    refine inv.workStore _ (by simp [DiskWorker.holdsManager])
      ⟨by simp [DiskState.holdings, leaving], by simp [DiskState.holdings, leaving]⟩
      (by simp [DiskState.holdings, fits]) (by simp [DiskState.holdings, fits]) rfl (by simp)
      (inv.queued_update (by simp [DiskState.holdings, fits]) (by simp)) inv.nodup trivial ?_
    intro other otherProcessing
    by_cases here : other = index
    · subst here
      simp at otherProcessing
    · have same := processing other (by
        simpa [DiskState.holdings, Function.update_of_ne here] using otherProcessing)
      simp only [DiskWorker.batch, Option.some.injEq] at same
      exact absurd same.symm here
  case freeUp =>
    cases moved
    exact inv.work (by simp [DiskWorker.holdsManager]) (fun _ same => same) trivial
      (by simp [DiskState.holdings, at_, DiskWorker.batch])
  case completionUp =>
    cases moved
    exact inv.work (by simp [DiskWorker.holdsManager]) (fun _ same => same) trivial
      (by simp [DiskState.holdings, at_, DiskWorker.batch])
  case storeDone index =>
    cases moved
    obtain ⟨isProcessing, owner, role⟩ := fits
    have kept := inv.roles index
    simp only [DiskState.holdings, Batch.Fits, role] at kept
    refine inv.workStore _ (by simp [DiskWorker.holdsManager])
      ⟨by simp [DiskState.holdings, isProcessing], by simp [DiskState.holdings, isProcessing]⟩
      (fun _ same => same) (by simp [DiskState.holdings, role])
      (by simp [Batch.Fits, role, kept]) (by simp)
      (inv.queued_update (by simp [DiskState.holdings, role]) (by simp [role])) inv.nodup trivial ?_
    intro other otherProcessing
    by_cases here : other = index
    · subst here
      simp at otherProcessing
    · have same := processing other (by
        simpa [DiskState.holdings, Function.update_of_ne here] using otherProcessing)
      simp only [DiskWorker.batch, Option.some.injEq] at same
      exact absurd same.symm here
  case doneUp index =>
    cases moved
    have touched := inv.touch index { state.batches index with
      completionSem := semUp (state.batches index).completionSem } rfl rfl rfl id
    exact touched.work (by simp [DiskWorker.holdsManager]) (fun _ same => same) trivial
      (by simp [DiskState.holdings, at_, DiskWorker.batch])

end Worker

/-! ## Whole runs -/

/-- The backend after `luna_lkl_task_configure_disk` and the start of the worker. -/
structure DiskInitial (state : DiskState Thread) : Prop where
  batches : ∀ index, state.batches index = ⟨.free, 0, [], false, false, 0, .free⟩
  workerSem : state.workerSem = 0
  queueFreeSem : state.queueFreeSem = lunaDiskLocalQueueCount
  asyncCompletionSem : state.asyncCompletionSem = 0
  flushGateSem : state.flushGateSem = 1
  writeLock : state.writeLock = none
  managerLock : state.managerLock = none
  pendingWrite : state.pendingWrite = none
  sequence : state.sequence = 1
  asyncPending : state.asyncPending = 0
  asyncError : state.asyncError = false
  calls : ∀ thread, state.calls thread = .idle
  worker : state.worker = .semDown
  gateHolder : state.gateHolder = none
  history : state.writes = 0 ∧ state.queue = [] ∧ state.stream = [] ∧ state.done = [] ∧
    state.transfers = [] ∧ state.exchanged = 0 ∧ state.downs = 0 ∧ state.ups = 0 ∧
    state.returned = [] ∧ state.acknowledged = [] ∧ state.log = []

theorem DiskInitial.owned {state : DiskState Thread} (initial : DiskInitial state) :
    Owned state.holdings where
  locked thread := by simp [DiskState.holdings, initial.calls, DiskCall.locks]
  gated thread := by simp [DiskState.holdings, initial.calls, DiskCall.gated]
  gate := by simp [DiskState.holdings, initial.flushGateSem, initial.gateHolder]
  reading thread := by simp [DiskState.holdings, initial.calls, DiskCall.reads]
  submitting := by simp [DiskState.holdings, initial.worker, DiskWorker.holdsManager]
  calls thread := by simp [DiskState.holdings, initial.calls, CallFits]
  roles index := by simp [DiskState.holdings, initial.batches, Batch.Fits]
  pending index := by simp [DiskState.holdings, initial.pendingWrite]
  queued index := by simp [DiskState.holdings, initial.history.2.1, initial.batches]
  nodup := by simp [DiskState.holdings, initial.history.2.1]
  building index := by simp [DiskState.holdings, initial.batches]
  worker := by simp [DiskState.holdings, initial.worker, WorkerFits]
  processing index := by simp [DiskState.holdings, initial.batches]

/-- The backend of a disk of zeros. -/
def configuredDisk : DiskState Thread where
  batches _ := ⟨.free, 0, [], false, false, 0, .free⟩
  workerSem := 0
  queueFreeSem := lunaDiskLocalQueueCount
  asyncCompletionSem := 0
  flushGateSem := 1
  writeLock := none
  managerLock := none
  pendingWrite := none
  sequence := 1
  asyncPending := 0
  asyncError := false
  window := ⟨0, 0, fun _ => ⟨.read, 0, 0, false⟩, fun _ => 0⟩
  backing _ := 0
  calls _ := .idle
  worker := .semDown
  tickets _ := ⟨⟨.other, 0, []⟩, 0, [], false⟩
  gateHolder := none
  writes := 0
  queue := []
  stream := []
  done := []
  transfers := []
  exchanged := 0
  downs := 0
  ups := 0
  returned := []
  acknowledged := []
  log := []

theorem configuredDisk_initial : DiskInitial (configuredDisk : DiskState Thread) :=
  ⟨fun _ => rfl, rfl, rfl, rfl, rfl, rfl, rfl, rfl, rfl, rfl, rfl, fun _ => rfl, rfl, rfl,
    rfl, rfl, rfl, rfl, rfl, rfl, rfl, rfl, rfl, rfl, rfl⟩

def diskSystem [DecidableEq Thread] (size : Nat) :
    Interleaving.System (DiskState Thread) (DiskAction Thread) :=
  ⟨DiskInitial, diskNext size⟩

theorem diskNext_owned [DecidableEq Thread] {size : Nat} {state target : DiskState Thread}
    {action : DiskAction Thread} (inv : Owned state.holdings)
    (moved : diskNext size state action = some target) : Owned target.holdings := by
  cases action with
  | start thread request =>
      simp only [diskNext] at moved
      split at moved
      next idle =>
        cases moved
        have plain := taskDiskRequest_plain size request
        exact goto_owned inv (by simp [plain.locks]) (by simp [plain.gated]) (by simp [plain.reads])
          (plain.fits _ _) (by simp [idle])
      next => cases moved
  | call thread => exact stepCall_owned inv moved
  | worker fault => exact stepWorker_owned inv moved

end Luna.Disk
