import Luna.Lib.Tally
import Luna.Disk.Ownership

/-!
# From the stream of writes to the answered batches

The worker answers the asynchronous batches in publishing order, and every
flush waits for exactly as many completions as it took from
`task_disk_async_pending`.  Both rest on counting: a token of
`task_disk_worker_sem` stands for a ready batch, a completion for an answered
one.
-/

namespace Luna.Disk

variable {Thread : Type}

/-! ## The invariant -/

/-- The thread has made a batch ready and not signalled it yet. -/
def DiskCall.owed : DiskCall → Nat
  | .publishSignal _ _ => 1
  | _ => 0

/-- Completions the thread has still to wait for. -/
def DiskCall.waits : DiskCall → Nat
  | .flushUnlock _ pending => pending
  | .flushWait _ remaining => remaining
  | _ => 0

/-- The worker has taken a token and no batch for it yet. -/
def DiskWorker.token : DiskWorker → Nat
  | .scan _ _ _ _ _ | .claim _ => 1
  | _ => 0

def Batch.countReady (batch : Batch Thread) : Nat := if batch.state = .ready then 1 else 0

def Role.countLeaving : Role Thread → Nat
  | .leaving => 1
  | _ => 0

/-- The part of the state that batches pass through; `verdict` is what the
header of the window says about a batch. -/
structure Pipe (Thread : Type) where
  batches : BatchIndex → Batch Thread
  workerSem : Nat
  asyncCompletionSem : Nat
  pendingWrite : Option BatchIndex
  sequence : Nat
  asyncPending : Nat
  asyncError : Bool
  verdict : Nat → Bool → Bool
  worker : DiskWorker
  queue : List BatchIndex
  stream : List Slot
  done : List (List Slot × Bool)
  exchanged : Nat
  downs : Nat
  ups : Nat
  owed : Nat
  waits : Nat

def DiskState.pipe [Fintype Thread] (state : DiskState Thread) : Pipe Thread :=
  ⟨state.batches, state.workerSem, state.asyncCompletionSem, state.pendingWrite, state.sequence,
    state.asyncPending, state.asyncError, fun count failed => batchFailed count failed state.window,
    state.worker, state.queue, state.stream, state.done, state.exchanged, state.downs, state.ups,
    Tally.total DiskCall.owed state.calls, Tally.total DiskCall.waits state.calls⟩

/-- The worker looks for the oldest batch.  The batches ready at the beginning
are still ready, and what is queued behind any other batch is younger. -/
structure Scanning (batches : BatchIndex → Batch Thread) (queue : List BatchIndex)
    (sequence position : Nat) (selected : Option BatchIndex) (best : Nat)
    (ready : BatchIndex → Bool) (limit : Nat) : Prop where
  bounded : limit ≤ sequence
  start : ∃ index, ready index = true
  stillReady : ∀ index, ready index = true → (batches index).state = .ready ∧
    (batches index).sequence < limit ∧
    (index.val < position → best ≤ (batches index).sequence)
  chosen : ∀ index, selected = some index →
    (batches index).state = .ready ∧ (batches index).sequence = best
  behind : queue.Pairwise fun first second =>
    ready first = false → limit ≤ (batches second).sequence

def Selecting (batches : BatchIndex → Batch Thread) (queue : List BatchIndex) (sequence : Nat) :
    DiskWorker → Prop
  | .scan position selected best ready limit =>
      Scanning batches queue sequence position selected best ready limit
  | .claim selected => (batches selected).state = .ready ∧
      (selected ∈ queue → queue.head? = some selected)
  | .stage index _ | .header index | .lock index | .submit index =>
      index ∈ queue → queue.head? = some index
  | _ => True

structure Ordered (pipe : Pipe Thread) : Prop where
  bound : pipe.sequence < 2 ^ 64
  below : ∀ index, (pipe.batches index).sequence < pipe.sequence
  increasing : pipe.queue.Pairwise fun first second =>
    (pipe.batches first).sequence < (pipe.batches second).sequence
  built : pipe.queue.Pairwise fun first _ => (pipe.batches first).state ≠ .building
  tokens : pipe.workerSem + pipe.worker.token + pipe.owed ≤
    Tally.total Batch.countReady pipe.batches
  worker : Selecting pipe.batches pipe.queue pipe.sequence pipe.worker

/-- Answered asynchronous batches whose completion is not signalled yet. -/
def unreported (batches : BatchIndex → Batch Thread) : DiskWorker → Nat
  | .unlock index _ | .check index _ => (batches index).role.countLeaving
  | .storeError _ | .release _ | .freeUp | .completionUp => 1
  | _ => 0

def Reporting (pipe : Pipe Thread) : DiskWorker → Prop
  | .unlock index failed | .check index failed => (pipe.batches index).role = .leaving →
      ∃ front, pipe.done = front ++ [((pipe.batches index).slots,
        !pipe.verdict (pipe.batches index).slots.length failed)]
  | .release _ | .freeUp | .completionUp =>
      ∀ entry ∈ pipe.done, entry.2 = false → pipe.asyncError = true
  | _ => True

structure Counted (pipe : Pipe Thread) : Prop where
  counts : pipe.exchanged + pipe.asyncPending = pipe.done.length + pipe.queue.length
  completions : pipe.asyncCompletionSem + pipe.downs ≤ pipe.ups
  waiting : pipe.exchanged = pipe.downs + pipe.waits
  answered : pipe.done.length = pipe.ups + unreported pipe.batches pipe.worker
  errors : ∀ entry ∈ pipe.done.take pipe.ups, entry.2 = false → pipe.asyncError = true
  reporting : Reporting pipe pipe.worker

/-- The slots of the batch under construction. -/
def Pipe.pending (pipe : Pipe Thread) : List Slot :=
  match pipe.pendingWrite with
  | none => []
  | some index => (pipe.batches index).slots

/-- The asynchronous batches, answered or not, in publishing order. -/
def Pipe.published (pipe : Pipe Thread) : List (List Slot) :=
  pipe.done.map Prod.fst ++ pipe.queue.map fun index => (pipe.batches index).slots

def Streamed (pipe : Pipe Thread) : Prop :=
  pipe.stream = pipe.published.flatten ++ pipe.pending

structure Flow (pipe : Pipe Thread) : Prop where
  ordered : Ordered pipe
  counted : Counted pipe
  streamed : Streamed pipe

/-- A batch is published only while neither `task_disk_sequence` nor, for an
asynchronous batch, `task_disk_async_pending` is about to wrap around. -/
def RoomToPublish (state : DiskState Thread) : DiskAction Thread → Prop
  | .call thread =>
      match state.calls thread with
      | .publishSequence _ user =>
          state.sequence < 2 ^ 64 - 1 ∧ (user.auto = true → state.asyncPending < 2 ^ 32 - 1)
      | _ => True
  | _ => True

instance (state : DiskState Thread) (action : DiskAction Thread) :
    Decidable (RoomToPublish state action) := by
  unfold RoomToPublish
  split
  · split <;> infer_instance
  · infer_instance

/-! ## Stores into a batch -/

variable {pipe : Pipe Thread}

section Stores

variable {index : BatchIndex} {batch : Batch Thread}

theorem Scanning.store {batches : BatchIndex → Batch Thread} {queue : List BatchIndex}
    {counter position best limit : Nat} {selected : Option BatchIndex} {ready : BatchIndex → Bool}
    (inv : Scanning batches queue counter position selected best ready limit)
    (sequence : batch.sequence = (batches index).sequence)
    (isReady : batch.state = .ready ↔ (batches index).state = .ready) :
    Scanning (Function.update batches index batch) queue counter position selected best ready
      limit := by
  have same : ∀ other, (Function.update batches index batch other).sequence =
      (batches other).sequence ∧
      ((Function.update batches index batch other).state = .ready ↔
        (batches other).state = .ready) := by
    intro other
    by_cases here : other = index
    · subst here
      simpa using ⟨sequence, isReady⟩
    · simp [Function.update_of_ne here]
  exact { inv with
    stillReady := fun other => by rw [(same other).1, (same other).2]; exact inv.stillReady other
    chosen := fun other => by rw [(same other).1, (same other).2]; exact inv.chosen other
    behind := by simpa only [same] using inv.behind }

variable (index batch) in
theorem Ordered.store (inv : Ordered pipe)
    (sequence : batch.sequence = (pipe.batches index).sequence)
    (isReady : batch.state = .ready ↔ (pipe.batches index).state = .ready)
    (building : batch.state = .building → index ∈ pipe.queue →
      (pipe.batches index).state = .building) :
    Ordered { pipe with batches := Function.update pipe.batches index batch } := by
  have same : ∀ other, (Function.update pipe.batches index batch other).sequence =
      (pipe.batches other).sequence := by
    intro other
    by_cases here : other = index
    · subst here
      simpa using sequence
    · simp [Function.update_of_ne here]
  have count : batch.countReady = (pipe.batches index).countReady := by
    simp [Batch.countReady, isReady]
  have total := Tally.total_update Batch.countReady pipe.batches index batch
  refine { inv with
    below := fun other => by rw [same]; exact inv.below other
    increasing := by simpa only [same] using inv.increasing
    built := ?_
    tokens := by have tokens := inv.tokens; dsimp only; omega
    worker := ?_ }
  · refine inv.built.imp_of_mem fun {first second} member _ notBuilding => ?_
    by_cases here : first = index
    · subst here
      simp only [Function.update_self]
      exact fun isBuilding => notBuilding (building isBuilding member)
    · simpa only [Function.update_of_ne here] using notBuilding
  · have worker := inv.worker
    cases at_ : pipe.worker <;> simp only [at_, Selecting] at worker ⊢
    case scan => exact worker.store sequence isReady
    case claim selected =>
      refine ⟨?_, worker.2⟩
      by_cases here : selected = index
      · subst here
        simpa [isReady] using worker.1
      · simpa [Function.update_of_ne here] using worker.1
    all_goals exact worker

variable (index batch) in
theorem Counted.store (inv : Counted pipe) (before : (pipe.batches index).role ≠ .leaving)
    (after : batch.role ≠ .leaving) :
    Counted { pipe with batches := Function.update pipe.batches index batch } := by
  have elsewhere : ∀ other, (pipe.batches other).role = .leaving ∨
      (Function.update pipe.batches index batch other).role = .leaving → other ≠ index := by
    rintro other leaving rfl
    simp [before, after] at leaving
  have count : ∀ other, (Function.update pipe.batches index batch other).role.countLeaving =
      (pipe.batches other).role.countLeaving := by
    intro other
    by_cases here : other = index
    · subst here
      rw [Function.update_self]
      cases first : batch.role <;> cases second : (pipe.batches other).role <;>
        simp_all [Role.countLeaving]
    · rw [Function.update_of_ne here]
  refine { inv with
    answered := ?_
    reporting := ?_ }
  · have answered := inv.answered
    cases at_ : pipe.worker <;> simp only [at_, unreported, count] at answered ⊢
    all_goals exact answered
  · have reporting := inv.reporting
    cases at_ : pipe.worker <;> simp only [at_, Reporting] at reporting ⊢
    case unlock other failed | check other failed =>
      intro leaving
      have here := elsewhere other (.inr leaving)
      simp only [Function.update_of_ne here] at leaving ⊢
      exact reporting leaving
    all_goals exact reporting

/-- A store into a batch that is neither queued nor under construction. -/
theorem Streamed.store (inv : Streamed pipe) (queue : index ∉ pipe.queue)
    (pending : pipe.pendingWrite ≠ some index) :
    Streamed { pipe with batches := Function.update pipe.batches index batch } := by
  have elsewhere : (pipe.queue.map fun other =>
      (Function.update pipe.batches index batch other).slots) =
      pipe.queue.map fun other => (pipe.batches other).slots := by
    refine List.map_congr_left fun other member => ?_
    rw [Function.update_of_ne]
    rintro rfl
    exact queue member
  have built : Pipe.pending { pipe with batches := Function.update pipe.batches index batch } =
      pipe.pending := by
    unfold Pipe.pending
    cases at_ : pipe.pendingWrite with
    | none => rfl
    | some other =>
        have here : other ≠ index := by
          rintro rfl
          exact pending at_
        simp [Function.update_of_ne here]
  unfold Streamed Pipe.published at inv ⊢
  rw [built]
  simp only [elsewhere]
  exact inv

variable (index batch) in
theorem Streamed.keep (inv : Streamed pipe) (slots : batch.slots = (pipe.batches index).slots) :
    Streamed { pipe with batches := Function.update pipe.batches index batch } := by
  have same : ∀ other, (Function.update pipe.batches index batch other).slots =
      (pipe.batches other).slots := by
    intro other
    by_cases here : other = index
    · subst here
      simpa using slots
    · simp [Function.update_of_ne here]
  simpa only [Streamed, Pipe.published, Pipe.pending, same] using inv

/-- A store that leaves sequence number, readiness and role of a batch alone,
and the slots of a batch that is queued or under construction. -/
theorem Flow.touch (inv : Flow pipe)
    (sequence : batch.sequence = (pipe.batches index).sequence)
    (isReady : batch.state = .ready ↔ (pipe.batches index).state = .ready)
    (before : (pipe.batches index).role ≠ .leaving) (after : batch.role ≠ .leaving)
    (queue : index ∉ pipe.queue) (pending : pipe.pendingWrite ≠ some index) :
    Flow { pipe with batches := Function.update pipe.batches index batch } where
  ordered := inv.ordered.store index batch sequence isReady fun _ member => absurd member queue
  counted := inv.counted.store index batch before after
  streamed := inv.streamed.store queue pending

/-- A batch under construction gets the next sequence number and, when it is
asynchronous, its place at the end of the queue. -/
theorem Ordered.publish (inv : Ordered pipe) {tail : List BatchIndex}
    (room : pipe.sequence < 2 ^ 64 - 1)
    (sequence : batch.sequence = pipe.sequence) (building : (pipe.batches index).state = .building)
    (state : batch.state = (pipe.batches index).state) (outside : index ∉ pipe.queue)
    (busy : pipe.worker.batch ≠ some index)
    (last : tail = [] ∨ tail = [index] ∧ ∀ other ∈ pipe.queue,
      (pipe.batches other).state ≠ .building) :
    Ordered { pipe with
      batches := Function.update pipe.batches index batch
      sequence := pipe.sequence + 1
      queue := pipe.queue ++ tail } := by
  have inTail : ∀ other ∈ tail, other = index := by
    rcases last with rfl | ⟨rfl, _⟩ <;> simp
  have tailSorted : ∀ relation : BatchIndex → BatchIndex → Prop, tail.Pairwise relation := by
    rcases last with rfl | ⟨rfl, _⟩ <;> simp
  have elsewhere : ∀ other ∈ pipe.queue,
      Function.update pipe.batches index batch other = pipe.batches other := by
    intro other member
    refine Function.update_of_ne ?_ _ _
    rintro rfl
    exact outside member
  have readyElsewhere : ∀ other, (pipe.batches other).state = .ready →
      Function.update pipe.batches index batch other = pipe.batches other := by
    intro other ready
    refine Function.update_of_ne ?_ _ _
    rintro rfl
    simp [building] at ready
  have head : ∀ other, other ≠ index → (other ∈ pipe.queue → pipe.queue.head? = some other) →
      other ∈ pipe.queue ++ tail → (pipe.queue ++ tail).head? = some other := by
    intro other different first member
    rcases List.mem_append.mp member with member | member
    · rw [List.head?_append, first member]
      rfl
    · exact absurd (inTail other member) different
  have count : batch.countReady = (pipe.batches index).countReady := by
    simp [Batch.countReady, state]
  have total := Tally.total_update Batch.countReady pipe.batches index batch
  exact {
    bound := by dsimp only; omega
    below := fun other => by
      by_cases here : other = index
      · subst here
        simp [sequence]
      · simp only [Function.update_of_ne here]
        exact (inv.below other).trans (Nat.lt_succ_self _)
    increasing := by
      refine List.pairwise_append.mpr ⟨inv.increasing.imp_of_mem ?_, tailSorted _, ?_⟩
      · intro first second firstMember secondMember less
        dsimp only
        rwa [elsewhere first firstMember, elsewhere second secondMember]
      · intro first member second isLast
        dsimp only
        rw [inTail second isLast, elsewhere first member, Function.update_self, sequence]
        exact inv.below first
    built := by
      refine List.pairwise_append.mpr ⟨inv.built.imp_of_mem ?_, tailSorted _, ?_⟩
      · intro first second member _ notBuilding
        dsimp only
        rwa [elsewhere first member]
      · intro first member second isLast
        dsimp only
        rw [elsewhere first member]
        rcases last with rfl | ⟨_, built⟩
        · simp at isLast
        · exact built first member
    tokens := by have tokens := inv.tokens; dsimp only; omega
    worker := by
      have worker := inv.worker
      cases at_ : pipe.worker <;> simp only [at_, Selecting, DiskWorker.batch] at worker busy ⊢
      case scan position selected best ready limit =>
        exact {
          bounded := worker.bounded.trans (Nat.le_succ _)
          start := worker.start
          stillReady := fun other isReady => by
            rw [readyElsewhere other (worker.stillReady other isReady).1]
            exact worker.stillReady other isReady
          chosen := fun other isChosen => by
            rw [readyElsewhere other (worker.chosen other isChosen).1]
            exact worker.chosen other isChosen
          behind := by
            refine List.pairwise_append.mpr ⟨worker.behind.imp_of_mem ?_, tailSorted _, ?_⟩
            · intro first second _ member younger
              rwa [elsewhere second member]
            · intro first member second isLast _
              rw [inTail second isLast, Function.update_self, sequence]
              exact worker.bounded }
      case claim selected =>
        refine ⟨?_, head selected ?_ worker.2⟩
        · rw [readyElsewhere selected worker.1]
          exact worker.1
        · rintro rfl
          simp [building] at worker
      case stage other _ | header other | lock other | submit other =>
        exact head other (fun same => busy (by rw [same])) worker }

/-- A published batch becomes ready and its signal is owed. -/
theorem Ordered.ready (inv : Ordered pipe)
    (building : (pipe.batches index).state = .building)
    (sequence : batch.sequence = (pipe.batches index).sequence) (isReady : batch.state = .ready) :
    Ordered { pipe with
      batches := Function.update pipe.batches index batch
      owed := pipe.owed + 1 } := by
  have same : ∀ other, (Function.update pipe.batches index batch other).sequence =
      (pipe.batches other).sequence := by
    intro other
    by_cases here : other = index
    · subst here
      simpa using sequence
    · simp [Function.update_of_ne here]
  have still : ∀ other, (pipe.batches other).state = .ready →
      (Function.update pipe.batches index batch other).state = .ready := by
    intro other ready
    by_cases here : other = index
    · subst here
      simpa using isReady
    · simpa [Function.update_of_ne here] using ready
  have total := Tally.total_update Batch.countReady pipe.batches index batch
  simp only [Batch.countReady, building, isReady, reduceCtorEq, if_true, if_false] at total
  refine { inv with
    below := fun other => by rw [same]; exact inv.below other
    increasing := by simpa only [same] using inv.increasing
    built := ?_
    tokens := by have tokens := inv.tokens; dsimp only at tokens ⊢; omega
    worker := ?_ }
  · refine inv.built.imp_of_mem fun {first second} member _ notBuilding => ?_
    by_cases here : first = index
    · subst here
      simp [isReady]
    · simpa only [Function.update_of_ne here] using notBuilding
  · have worker := inv.worker
    cases at_ : pipe.worker <;> simp only [at_, Selecting] at worker ⊢
    case scan =>
      exact { worker with
        stillReady := fun other isReady => by
          rw [same]
          exact ⟨still other (worker.stillReady other isReady).1,
            (worker.stillReady other isReady).2⟩
        chosen := fun other isChosen => by
          rw [same]
          exact ⟨still other (worker.chosen other isChosen).1, (worker.chosen other isChosen).2⟩
        behind := by simpa only [same] using worker.behind }
    case claim selected => exact ⟨still selected worker.1, worker.2⟩
    all_goals exact worker

variable (index batch) in
theorem Flow.publishAsync (inv : Flow pipe) (room : pipe.sequence < 2 ^ 64 - 1)
    (sequence : batch.sequence = pipe.sequence) (building : (pipe.batches index).state = .building)
    (state : batch.state = (pipe.batches index).state)
    (slots : batch.slots = (pipe.batches index).slots)
    (before : (pipe.batches index).role ≠ .leaving) (after : batch.role ≠ .leaving)
    (pending : pipe.pendingWrite = some index) (outside : index ∉ pipe.queue)
    (busy : pipe.worker.batch ≠ some index)
    (built : ∀ other ∈ pipe.queue, (pipe.batches other).state ≠ .building) :
    Flow { pipe with
      batches := Function.update pipe.batches index batch
      sequence := pipe.sequence + 1
      asyncPending := pipe.asyncPending + 1
      pendingWrite := none
      queue := pipe.queue ++ [index] } where
  ordered := { inv.ordered.publish room sequence building state outside busy
    (.inr ⟨rfl, built⟩) with }
  counted := { inv.counted.store index batch before after with
    counts := by
      have counts := inv.counted.counts
      simp only [List.length_append, List.length_singleton]
      omega }
  streamed := by
    have streamed := inv.streamed
    have elsewhere : (pipe.queue.map fun other =>
        (Function.update pipe.batches index batch other).slots) =
        pipe.queue.map fun other => (pipe.batches other).slots := by
      refine List.map_congr_left fun other member => ?_
      rw [Function.update_of_ne]
      rintro rfl
      exact outside member
    simp only [Streamed, Pipe.published, Pipe.pending, pending] at streamed
    simp [Streamed, Pipe.published, Pipe.pending, elsewhere, streamed, slots]

variable (index batch) in
theorem Flow.publishSync (inv : Flow pipe) (room : pipe.sequence < 2 ^ 64 - 1)
    (sequence : batch.sequence = pipe.sequence) (building : (pipe.batches index).state = .building)
    (state : batch.state = (pipe.batches index).state)
    (before : (pipe.batches index).role ≠ .leaving) (after : batch.role ≠ .leaving)
    (pending : pipe.pendingWrite ≠ some index) (outside : index ∉ pipe.queue)
    (busy : pipe.worker.batch ≠ some index) :
    Flow { pipe with
      batches := Function.update pipe.batches index batch
      sequence := pipe.sequence + 1 } where
  ordered := by
    have ordered := inv.ordered.publish room sequence building state outside busy (.inl rfl)
    simpa only [List.append_nil] using ordered
  counted := { inv.counted.store index batch before after with }
  streamed := inv.streamed.store outside pending

end Stores

/-! ## Steps of the threads -/

section Threads

variable [Fintype Thread] [DecidableEq Thread] {size : Nat} {state : DiskState Thread}
  {thread : Thread} {call : DiskCall}

/-- A thread moves and neither owes a signal nor waits before or after. -/
theorem pipe_enter (owed : call.owed = (state.calls thread).owed)
    (waits : call.waits = (state.calls thread).waits) :
    (state.enter thread call).pipe = state.pipe := by
  have totalOwed := Tally.total_update DiskCall.owed state.calls thread call
  have totalWaits := Tally.total_update DiskCall.waits state.calls thread call
  have sameOwed : Tally.total DiskCall.owed (Function.update state.calls thread call) =
      Tally.total DiskCall.owed state.calls := by omega
  have sameWaits : Tally.total DiskCall.waits (Function.update state.calls thread call) =
      Tally.total DiskCall.waits state.calls := by omega
  simp only [DiskState.pipe, DiskState.enter, sameOwed, sameWaits]

variable (state) in
theorem Flow.enter (inv : Flow state.pipe) (owed : call.owed = (state.calls thread).owed)
    (waits : call.waits = (state.calls thread).waits) : Flow (state.enter thread call).pipe := by
  rwa [pipe_enter owed waits]

omit [DecidableEq Thread] in
theorem Flow.setBatch (inv : Flow state.pipe) {index : BatchIndex} {batch : Batch Thread}
    (sequence : batch.sequence = (state.batches index).sequence)
    (isReady : batch.state = .ready ↔ (state.batches index).state = .ready)
    (before : (state.batches index).role ≠ .leaving) (after : batch.role ≠ .leaving)
    (queue : index ∉ state.queue) (pending : state.pendingWrite ≠ some index) :
    Flow (state.setBatch index batch).pipe :=
  inv.touch sequence isReady before after queue pending

omit [Fintype Thread] [DecidableEq Thread] in
/-- Nobody else builds a batch of the queue while a thread holds the write lock. -/
theorem Owned.built (owned : Owned state.holdings) (locked : state.writeLock = some thread)
    (quiet : ∀ index user, state.calls thread ≠ .publishReady index user) :
    ∀ index ∈ state.queue, (state.batches index).state ≠ .building := by
  intro index member building
  obtain ⟨owner, user, ready, auto⟩ :=
    owned.building index ((owned.queued index).mp member) building
  have theirs := owned.locked owner (by rw [ready]; exact auto)
  have same : thread = owner := Option.some.inj (locked.symm.trans theirs)
  exact quiet index user (same ▸ ready)

theorem publish_flow (owned : Owned state.holdings) (inv : Flow state.pipe) {index : BatchIndex}
    {user : PublishUser} (at_ : state.calls thread = .publishSequence index user)
    (room : state.sequence < 2 ^ 64 - 1)
    (few : user.auto = true → state.asyncPending < 2 ^ 32 - 1) :
    Flow (state.publish thread index user).pipe := by
  have fits := owned.calls thread
  simp only [DiskState.holdings, at_, CallFits] at fits
  have number : (state.sequence + 1) % 2 ^ 64 = state.sequence + 1 := Nat.mod_eq_of_lt (by omega)
  have notBusy : (state.batches index).state = .building → state.worker.batch ≠ some index := by
    intro building busy
    have worker := owned.worker
    simp only [DiskState.holdings] at worker
    cases working : state.worker <;>
      simp_all [WorkerFits, DiskWorker.batch]
    all_goals
      have role := owned.roles index
      simp_all [DiskState.holdings, Batch.Fits]
  unfold DiskState.publish
  cases auto : user.auto with
  | true =>
      rw [auto, if_pos rfl] at fits
      have pending : state.pendingWrite = some index := fits.1
      have role : (state.batches index).role = .pending := owned.pending index pending
      have building : (state.batches index).state = .building := by
        have fits := owned.roles index
        simpa [DiskState.holdings, Batch.Fits, role] using fits
      have outside : index ∉ state.queue := owned.not_queued role (by simp)
      have locked : state.writeLock = some thread :=
        owned.locked thread (by simp [DiskState.holdings, at_, DiskCall.locks, auto])
      have count : (state.asyncPending + 1) % 2 ^ 32 = state.asyncPending + 1 :=
        Nat.mod_eq_of_lt (by have := few auto; omega)
      rw [if_pos rfl, number, count]
      have published := inv.publishAsync index { state.batches index with
        sequence := state.sequence, failed := true, autoRelease := true, role := .queued }
        room rfl building rfl rfl (by simp [DiskState.pipe, role]) (by simp) pending outside
        (notBusy building) (owned.built locked (by simp [at_]))
      exact Flow.enter { state.setBatch index _ with
        sequence := state.sequence + 1
        asyncPending := state.asyncPending + 1
        pendingWrite := none
        queue := state.queue ++ [index] } published
        (by simp [DiskState.setBatch, at_, DiskCall.owed])
        (by simp [DiskState.setBatch, at_, DiskCall.waits])
  | false =>
      rw [auto, if_neg Bool.false_ne_true] at fits
      have role : (state.batches index).role = .held thread := fits
      have building : (state.batches index).state = .building := by
        have fits := owned.roles index
        simpa [DiskState.holdings, Batch.Fits, role] using fits
      have outside : index ∉ state.queue := owned.not_queued role (by simp)
      have notPending : state.pendingWrite ≠ some index := by
        intro pending
        have isPending := owned.pending index pending
        simp [DiskState.holdings, role] at isPending
      rw [if_neg Bool.false_ne_true, number]
      have published := inv.publishSync index { state.batches index with
        sequence := state.sequence, failed := true, autoRelease := false, role := .submitted thread }
        room rfl building rfl (by simp [DiskState.pipe, role]) (by simp) notPending outside
        (notBusy building)
      exact Flow.enter { state.setBatch index _ with sequence := state.sequence + 1 }
        published (by simp [DiskState.setBatch, at_, DiskCall.owed])
        (by simp [DiskState.setBatch, at_, DiskCall.waits])

theorem publishReady_flow (owned : Owned state.holdings) (inv : Flow state.pipe)
    {index : BatchIndex} {user : PublishUser} (at_ : state.calls thread = .publishReady index user) :
    Flow ((state.setBatch index { state.batches index with state := .ready }).enter thread
      (.publishSignal index user)).pipe := by
  have fits := owned.calls thread
  simp only [DiskState.holdings, at_, CallFits] at fits
  have role : (state.batches index).role ≠ .leaving := by
    rw [fits.2.1]
    split <;> simp
  have owed := Tally.total_update DiskCall.owed state.calls thread (.publishSignal index user)
  have waits := Tally.total_update DiskCall.waits state.calls thread (.publishSignal index user)
  simp only [at_, DiskCall.owed, DiskCall.waits, Nat.add_zero] at owed waits
  simp only [DiskState.pipe, DiskState.enter, DiskState.setBatch, owed, waits]
  exact ⟨inv.ordered.ready fits.1 rfl rfl, { inv.counted.store _ _ role (by simpa using role) with },
    inv.streamed.keep _ _ rfl⟩

theorem publishSignal_flow (inv : Flow state.pipe) {index : BatchIndex} {user : PublishUser}
    (at_ : state.calls thread = .publishSignal index user) :
    Flow ({ state.enter thread (user.resume index) with
      workerSem := semUp state.workerSem } : DiskState Thread).pipe := by
  have owed := Tally.total_update DiskCall.owed state.calls thread (user.resume index)
  have waits := Tally.total_update DiskCall.waits state.calls thread (user.resume index)
  have none : (user.resume index).owed = 0 ∧ (user.resume index).waits = 0 := by
    cases user <;> exact ⟨rfl, rfl⟩
  rw [none.1, at_] at owed
  rw [none.2, at_] at waits
  simp only [DiskCall.owed, DiskCall.waits, Nat.add_zero] at owed waits
  have tokens := inv.ordered.tokens
  have signalled : semUp state.workerSem ≤ state.workerSem + 1 := by
    unfold semUp
    split <;> omega
  refine ⟨{ inv.ordered with tokens := ?_ }, ?_, inv.streamed⟩
  · simp only [DiskState.pipe, DiskState.enter] at tokens ⊢
    omega
  · simp only [DiskState.pipe, DiskState.enter, waits]
    exact { inv.counted with }

theorem exchange_flow (inv : Flow state.pipe) {user : FlushUser}
    (at_ : state.calls thread = .exchange user) :
    Flow ({ state.enter thread (.flushUnlock user state.asyncPending) with
      asyncPending := 0
      exchanged := state.exchanged + state.asyncPending } : DiskState Thread).pipe := by
  have owed := Tally.total_update DiskCall.owed state.calls thread
    (.flushUnlock user state.asyncPending)
  have waits := Tally.total_update DiskCall.waits state.calls thread
    (.flushUnlock user state.asyncPending)
  simp only [at_, DiskCall.owed, DiskCall.waits, Nat.add_zero] at owed waits
  simp only [DiskState.pipe, DiskState.enter, owed]
  have counts := inv.counted.counts
  have waiting := inv.counted.waiting
  simp only [DiskState.pipe] at counts waiting
  exact ⟨{ inv.ordered with },
    { inv.counted with
      counts := by dsimp only; omega
      waiting := by dsimp only; omega },
    inv.streamed⟩

theorem flushWait_flow (inv : Flow state.pipe) {user : FlushUser} {remaining : Nat}
    (at_ : state.calls thread = .flushWait user (remaining + 1))
    (opened : state.asyncCompletionSem ≠ 0) :
    Flow ({ state.enter thread (.flushWait user remaining) with
      asyncCompletionSem := state.asyncCompletionSem - 1
      downs := state.downs + 1 } : DiskState Thread).pipe := by
  have owed := Tally.total_update DiskCall.owed state.calls thread (.flushWait user remaining)
  have waits := Tally.total_update DiskCall.waits state.calls thread (.flushWait user remaining)
  simp only [at_, DiskCall.owed, DiskCall.waits, Nat.add_zero] at owed waits
  simp only [DiskState.pipe, DiskState.enter, owed]
  have completions := inv.counted.completions
  have waiting := inv.counted.waiting
  simp only [DiskState.pipe] at completions waiting
  exact ⟨{ inv.ordered with },
    { inv.counted with
      completions := by dsimp only; omega
      waiting := by dsimp only; omega },
    inv.streamed⟩

theorem claimed_flow (owned : Owned state.holdings) (inv : Flow state.pipe) {index : BatchIndex}
    {user : ClaimUser} {position : Nat} (at_ : state.calls thread = .claimScan user position)
    (free : (state.batches index).state = .free) :
    Flow (state.claimed thread index user).pipe := by
  have role : (state.batches index).role = .free := (owned.roles index).free free
  have outside : index ∉ state.queue := owned.not_queued role (by simp)
  have notPending : state.pendingWrite ≠ some index := by
    intro pending
    have isPending := owned.pending index pending
    simp [DiskState.holdings, role] at isPending
  cases user with
  | flush =>
      refine Flow.enter _ (inv.setBatch rfl (by simp [free]) (by simp [role]) (by simp) outside
        notPending) ?_ ?_
      · simp [DiskState.setBatch, at_, DiskCall.owed]
      · simp [DiskState.setBatch, at_, DiskCall.waits]
  | write offset buf =>
      have fits := owned.calls thread
      simp only [DiskState.holdings, at_, CallFits, ClaimUser.locks, true_implies] at fits
      have stored : Flow (state.setBatch index { state.batches index with
          state := .building, slots := [], role := .pending }).pipe :=
        inv.setBatch rfl (by simp [free]) (by simp [role]) (by simp) outside notPending
      have streamed := stored.streamed
      have claimed : Flow ({ state.setBatch index { state.batches index with
          state := .building, slots := [], role := .pending } with
          pendingWrite := some index } : DiskState Thread).pipe := by
        refine ⟨{ stored.ordered with }, { stored.counted with }, ?_⟩
        simp only [Streamed, Pipe.published, Pipe.pending, DiskState.pipe, DiskState.setBatch,
          fits] at streamed ⊢
        simpa using streamed
      exact claimed.enter _ (by simp [DiskState.setBatch, at_, DiskCall.owed])
        (by simp [DiskState.setBatch, at_, DiskCall.waits])

theorem fillSlot_flow (owned : Owned state.holdings) (inv : Flow state.pipe) {index : BatchIndex}
    {offset : Nat} {buf : List (List UInt8)} {bytes : List UInt8} {rest : List (List UInt8)}
    (at_ : state.calls thread = .fill offset buf) (pending : state.pendingWrite = some index) :
    Flow (state.fillSlot thread index offset bytes rest).pipe := by
  have role : (state.batches index).role = .pending := owned.pending index pending
  have outside : index ∉ state.queue := owned.not_queued role (by simp)
  have building : (state.batches index).state = .building := by
    have fits := owned.roles index
    simpa [DiskState.holdings, Batch.Fits, role] using fits
  unfold DiskState.fillSlot
  have filled : ∀ slot, Flow ({ state.setBatch index { state.batches index with
      slots := (state.batches index).slots ++ [slot] } with
      stream := state.stream ++ [slot] } : DiskState Thread).pipe := by
    intro slot
    refine ⟨{ inv.ordered.store index { state.batches index with
        slots := (state.batches index).slots ++ [slot] } rfl Iff.rfl (fun _ _ => building) with },
      { inv.counted.store index { state.batches index with
        slots := (state.batches index).slots ++ [slot] } (by simp [DiskState.pipe, role])
        (by simp [role]) with }, ?_⟩
    have streamed := inv.streamed
    have elsewhere : (state.queue.map fun other => (Function.update state.batches index
        { state.batches index with slots := (state.batches index).slots ++ [slot] } other).slots) =
        state.queue.map fun other => (state.batches other).slots := by
      refine List.map_congr_left fun other member => ?_
      rw [Function.update_of_ne]
      rintro rfl
      exact outside member
    simp only [Streamed, Pipe.published, Pipe.pending, DiskState.pipe, pending] at streamed
    simp [Streamed, Pipe.published, Pipe.pending, DiskState.pipe, DiskState.setBatch, elsewhere,
      streamed, pending]
  refine Flow.enter _ (filled _) ?_ ?_
  · simp only [DiskState.setBatch, at_]
    split <;> rfl
  · simp only [DiskState.setBatch, at_]
    split <;> rfl

/-- A call that neither owes a signal nor waits. -/
def DiskCall.Quiet (call : DiskCall) : Prop := call.owed = 0 ∧ call.waits = 0

theorem readNext_quiet (offset : Nat) (lengths : List Nat) (data : List UInt8) :
    (readNext offset lengths data).Quiet := by
  induction lengths with
  | nil => exact ⟨rfl, rfl⟩
  | cons length rest inductionHypothesis =>
      cases length with
      | zero => exact inductionHypothesis
      | succ length => exact ⟨rfl, rfl⟩

theorem FlushUser.resume_quiet (user : FlushUser) : user.resume.Quiet := by
  cases user with
  | flush => exact ⟨rfl, rfl⟩
  | read offset lengths => exact readNext_quiet offset lengths []

theorem taskDiskRequest_quiet (size : Nat) (request : BlkReq) :
    (taskDiskRequest size request).Quiet := by
  unfold taskDiskRequest
  repeat' split
  all_goals exact ⟨rfl, rfl⟩

theorem Flow.quiet (inv : Flow state.pipe) (before : (state.calls thread).Quiet)
    (after : call.Quiet) : Flow (state.enter thread call).pipe :=
  inv.enter _ (after.1.trans before.1.symm) (after.2.trans before.2.symm)

theorem stepCall_flow (owned : Owned state.holdings) (inv : Flow state.pipe)
    (room : RoomToPublish state (.call thread)) {target : DiskState Thread}
    (moved : stepCall size state thread = some target) : Flow target.pipe := by
  unfold stepCall at moved
  cases at_ : state.calls thread <;> simp only [at_] at moved
  case idle => cases moved
  case gateDown user =>
    split at moved
    next => cases moved
    next => cases moved; exact inv.quiet (by rw [at_]; exact ⟨rfl, rfl⟩) ⟨rfl, rfl⟩
  case flushLock user =>
    split at moved
    next => cases moved; exact inv.quiet (by rw [at_]; exact ⟨rfl, rfl⟩) ⟨rfl, rfl⟩
    next => cases moved
  case flushTake user =>
    split at moved
    next => cases moved; exact inv.quiet (by rw [at_]; exact ⟨rfl, rfl⟩) ⟨rfl, rfl⟩
    next index pending =>
      split at moved
      next empty =>
        cases moved
        have taken : Flow ({ state with pendingWrite := none } : DiskState Thread).pipe := by
          refine ⟨{ inv.ordered with }, { inv.counted with }, ?_⟩
          have streamed := inv.streamed
          simp only [Streamed, Pipe.published, Pipe.pending, DiskState.pipe, pending, empty]
            at streamed ⊢
          exact streamed
        exact taken.quiet (by rw [at_]; exact ⟨rfl, rfl⟩) ⟨rfl, rfl⟩
      next => cases moved; exact inv.quiet (by rw [at_]; exact ⟨rfl, rfl⟩) ⟨rfl, rfl⟩
  case publishSequence index user =>
    cases moved
    simp only [RoomToPublish, at_] at room
    exact publish_flow owned inv at_ room.1 room.2
  case publishReady index user =>
    cases moved
    exact publishReady_flow owned inv at_
  case publishSignal index user =>
    cases moved
    exact publishSignal_flow inv at_
  case exchange user =>
    cases moved
    exact exchange_flow inv at_
  case flushUnlock user pending =>
    cases moved
    exact inv.enter _ (by rw [at_]; rfl) (by rw [at_]; rfl)
  case flushWait user remaining =>
    cases remaining with
    | zero =>
        cases moved
        exact inv.quiet (by rw [at_]; exact ⟨rfl, rfl⟩) ⟨rfl, rfl⟩
    | succ remaining =>
        simp only at moved
        split at moved
        next => cases moved
        next opened =>
          cases moved
          exact flushWait_flow inv at_ opened
  case gateUp user failed =>
    cases moved
    refine inv.quiet (by rw [at_]; exact ⟨rfl, rfl⟩) ?_
    cases failed with
    | true => exact ⟨rfl, rfl⟩
    | false => exact user.resume_quiet
  case claimDown user =>
    split at moved
    next => cases moved
    next => cases moved; exact inv.quiet (by rw [at_]; exact ⟨rfl, rfl⟩) ⟨rfl, rfl⟩
  case claimScan user position =>
    split at moved
    next inside =>
      split at moved
      next free =>
        cases moved
        exact claimed_flow owned inv at_ free
      next => cases moved; exact inv.quiet (by rw [at_]; exact ⟨rfl, rfl⟩) ⟨rfl, rfl⟩
    next =>
      cases moved
      refine inv.quiet (by rw [at_]; exact ⟨rfl, rfl⟩) ?_
      cases user <;> exact ⟨rfl, rfl⟩
  case build index =>
    cases moved
    have fits := owned.calls thread
    simp only [DiskState.holdings, at_, CallFits] at fits
    refine Flow.quiet (inv.setBatch rfl Iff.rfl (by simp [fits]) (by simp [fits])
      (owned.not_queued fits (by simp)) ?_) ?_ ⟨rfl, rfl⟩
    · intro pending
      have isPending := owned.pending index pending
      simp [DiskState.holdings, fits] at isPending
    · simp only [DiskState.setBatch, at_]
      exact ⟨rfl, rfl⟩
  case submitDown index =>
    split at moved
    next => cases moved
    next =>
      cases moved
      have fits := owned.calls thread
      simp only [DiskState.holdings, at_, CallFits] at fits
      refine Flow.quiet (inv.setBatch rfl Iff.rfl (by simp [fits]) (by simp [fits])
        (owned.not_queued fits (by simp)) ?_) ?_ ⟨rfl, rfl⟩
      · intro pending
        have isPending := owned.pending index pending
        simp [DiskState.holdings, fits] at isPending
      · simp only [DiskState.setBatch, at_]
        exact ⟨rfl, rfl⟩
  case submitCheck index =>
    cases moved
    refine inv.quiet (by rw [at_]; exact ⟨rfl, rfl⟩) ?_
    split <;> exact ⟨rfl, rfl⟩
  case submitFree index =>
    cases moved
    have fits := owned.calls thread
    simp only [DiskState.holdings, at_, CallFits] at fits
    refine Flow.quiet (inv.setBatch rfl (by simp [fits.2]) (by simp [fits.1]) (by simp)
      (owned.not_queued fits.1 (by simp)) ?_) ?_ ⟨rfl, rfl⟩
    · intro pending
      have isPending := owned.pending index pending
      simp [DiskState.holdings, fits.1] at isPending
    · simp only [DiskState.setBatch, at_]
      exact ⟨rfl, rfl⟩
  case submitUp failed => cases moved; exact inv.quiet (by rw [at_]; exact ⟨rfl, rfl⟩) ⟨rfl, rfl⟩
  case writeLock offset buf =>
    split at moved
    next => cases moved; exact inv.quiet (by rw [at_]; exact ⟨rfl, rfl⟩) ⟨rfl, rfl⟩
    next => cases moved
  case fill offset buf =>
    split at moved
    next => cases moved; exact inv.quiet (by rw [at_]; exact ⟨rfl, rfl⟩) ⟨rfl, rfl⟩
    next => cases moved; exact inv.quiet (by rw [at_]; exact ⟨rfl, rfl⟩) ⟨rfl, rfl⟩
    next byte bytes rest =>
      split at moved
      next => cases moved; exact inv.quiet (by rw [at_]; exact ⟨rfl, rfl⟩) ⟨rfl, rfl⟩
      next index pending =>
        cases moved
        exact fillSlot_flow owned inv at_ pending
  case writeUnlock failed =>
    cases moved
    refine inv.quiet (by rw [at_]; exact ⟨rfl, rfl⟩) ?_
    split <;> exact ⟨rfl, rfl⟩
  case writeError => cases moved; exact inv.quiet (by rw [at_]; exact ⟨rfl, rfl⟩) ⟨rfl, rfl⟩
  case readLock offset lengths data =>
    split at moved
    next => cases moved; exact inv.quiet (by rw [at_]; exact ⟨rfl, rfl⟩) ⟨rfl, rfl⟩
    next => cases moved
  case readServe offset lengths data =>
    cases moved
    refine inv.quiet (by rw [at_]; exact ⟨rfl, rfl⟩) ?_
    split <;> exact ⟨rfl, rfl⟩
  case readCopy offset lengths data =>
    cases moved
    exact inv.quiet (by rw [at_]; exact ⟨rfl, rfl⟩) ⟨rfl, rfl⟩
  case readUnlock offset lengths data failed =>
    cases moved
    refine inv.quiet (by rw [at_]; exact ⟨rfl, rfl⟩) ?_
    cases failed with
    | true => exact ⟨rfl, rfl⟩
    | false => exact readNext_quiet offset lengths data
  case finish status data =>
    cases moved
    exact inv.quiet (by rw [at_]; exact ⟨rfl, rfl⟩) ⟨rfl, rfl⟩

end Threads

/-! ## Steps of the worker -/

section Worker

variable {index : BatchIndex} {batch : Batch Thread} {worker : DiskWorker}

variable (worker) in
theorem Ordered.work (inv : Ordered pipe) (token : worker.token ≤ pipe.worker.token)
    (selecting : Selecting pipe.batches pipe.queue pipe.sequence worker) :
    Ordered { pipe with worker } :=
  { inv with
    tokens := by have tokens := inv.tokens; dsimp only; omega
    worker := selecting }

variable (worker) in
/-- The worker moves; the header of the window may change. -/
theorem Flow.work (inv : Flow pipe) {verdict : Nat → Bool → Bool}
    (token : worker.token ≤ pipe.worker.token)
    (selecting : Selecting pipe.batches pipe.queue pipe.sequence worker)
    (same : unreported pipe.batches worker = unreported pipe.batches pipe.worker)
    (reporting : Reporting { pipe with verdict } worker) :
    Flow { pipe with worker, verdict } where
  ordered := { inv.ordered.work worker token selecting with }
  counted := { inv.counted with
    answered := by dsimp only; rw [same]; exact inv.counted.answered
    reporting := by
      cases worker <;> exact reporting }
  streamed := inv.streamed

/-- The search begins: a token stands for a batch that is ready, and only the
last batch of the queue can be unready. -/
theorem Ordered.start (inv : Ordered pipe) (taken : pipe.workerSem ≠ 0)
    (ready : BatchIndex → Bool)
    (isReady : ∀ index, ready index = true ↔ (pipe.batches index).state = .ready)
    (queued : ∀ index ∈ pipe.queue, (pipe.batches index).state = .ready ∨
      (pipe.batches index).state = .building) :
    Scanning pipe.batches pipe.queue pipe.sequence 0 none (2 ^ 64 - 1) ready pipe.sequence where
  bounded := le_rfl
  start := by
    by_contra nothing
    have noneReady : Tally.total Batch.countReady pipe.batches = 0 := by
      rw [Tally.total_eq_zero_iff]
      intro index
      have notReady : (pipe.batches index).state ≠ .ready := fun isReady' =>
        nothing ⟨index, (isReady index).mpr isReady'⟩
      simp [Batch.countReady, notReady]
    have tokens := inv.tokens
    omega
  stillReady index member := ⟨(isReady index).mp member, inv.below index, by simp⟩
  chosen index isChosen := by simp at isChosen
  behind := by
    refine inv.built.imp_of_mem fun {first second} member _ notBuilding notReady => ?_
    rcases queued first member with ready' | building
    · simp [(isReady first).mpr ready'] at notReady
    · exact absurd building notBuilding

theorem Scanning.advance {batches : BatchIndex → Batch Thread} {queue : List BatchIndex}
    {counter position best limit : Nat} {selected : Option BatchIndex} {ready : BatchIndex → Bool}
    (inv : Scanning batches queue counter position selected best ready limit)
    (inside : position < lunaDiskLocalQueueCount) :
    Scanning batches queue counter (position + 1)
      (if (batches ⟨position, inside⟩).state = .ready ∧ (batches ⟨position, inside⟩).sequence < best
        then some ⟨position, inside⟩ else selected)
      (if (batches ⟨position, inside⟩).state = .ready ∧ (batches ⟨position, inside⟩).sequence < best
        then (batches ⟨position, inside⟩).sequence else best) ready limit := by
  refine { inv with
    stillReady := fun index isReady => ?_
    chosen := fun index isChosen => ?_ }
  · obtain ⟨state, below, passed⟩ := inv.stillReady index isReady
    refine ⟨state, below, fun reached => ?_⟩
    by_cases here : index.val = position
    · have same : index = ⟨position, inside⟩ := Fin.ext here
      subst same
      split
      next => exact le_rfl
      next worse => exact Nat.le_of_not_lt fun less => worse ⟨state, less⟩
    · have earlier := passed (by omega)
      split
      next better => exact better.2.le.trans earlier
      next => exact earlier
  · split at isChosen
    next better =>
      cases isChosen
      rw [if_pos better]
      exact ⟨better.1, rfl⟩
    next worse =>
      rw [if_neg worse]
      exact inv.chosen index isChosen

/-- The batch found is the oldest: if it is queued, it is first in the queue. -/
theorem Scanning.oldest {batches : BatchIndex → Batch Thread} {queue : List BatchIndex}
    {counter position best limit : Nat} {index : BatchIndex} {ready : BatchIndex → Bool}
    (inv : Scanning batches queue counter position (some index) best ready limit)
    (increasing : queue.Pairwise fun first second =>
      (batches first).sequence < (batches second).sequence)
    (finished : lunaDiskLocalQueueCount ≤ position) (member : index ∈ queue) :
    queue.head? = some index := by
  obtain ⟨_, isBest⟩ := inv.chosen index rfl
  cases queue with
  | nil => simp at member
  | cons first rest =>
      rcases List.mem_cons.mp member with rfl | later
      · rfl
      · exfalso
        have less := List.rel_of_pairwise_cons increasing later
        by_cases wasReady : ready first = true
        · have best' := (inv.stillReady first wasReady).2.2 (first.isLt.trans_le finished)
          omega
        · -- the first batch is younger than the search, but a batch ready then is not
          have younger := List.rel_of_pairwise_cons inv.behind later (by simpa using wasReady)
          obtain ⟨other, otherReady⟩ := inv.start
          obtain ⟨_, older, best'⟩ := inv.stillReady other otherReady
          have bound := best' (other.isLt.trans_le finished)
          omega

theorem Ordered.claim (inv : Ordered pipe) (at_ : pipe.worker = .claim index)
    (sequence : batch.sequence = (pipe.batches index).sequence)
    (processing : batch.state = .processing) :
    Ordered { pipe with
      batches := Function.update pipe.batches index batch
      worker := .stage index 0 } := by
  have worker := inv.worker
  have tokens := inv.tokens
  simp only [at_, Selecting, DiskWorker.token] at worker tokens
  have same : ∀ other, (Function.update pipe.batches index batch other).sequence =
      (pipe.batches other).sequence := by
    intro other
    by_cases here : other = index
    · subst here
      simpa using sequence
    · simp [Function.update_of_ne here]
  have total := Tally.total_update Batch.countReady pipe.batches index batch
  simp only [Batch.countReady, processing, worker.1, reduceCtorEq, if_true, if_false] at total
  refine { inv with
    below := fun other => by rw [same]; exact inv.below other
    increasing := by simpa only [same] using inv.increasing
    built := ?_
    tokens := by simp only [DiskWorker.token] at tokens ⊢; omega
    worker := worker.2 }
  refine inv.built.imp_of_mem fun {first second} member _ notBuilding => ?_
  by_cases here : first = index
  · subst here
    simp [processing]
  · simpa only [Function.update_of_ne here] using notBuilding

/-- The manager answers the first batch of the queue. -/
theorem Flow.answer (inv : Flow pipe) {failed : Bool} {verdict : Nat → Bool → Bool}
    (at_ : pipe.worker = .submit index) (member : index ∈ pipe.queue) (nodup : pipe.queue.Nodup)
    (sequence : batch.sequence = (pipe.batches index).sequence)
    (state : batch.state = (pipe.batches index).state)
    (slots : batch.slots = (pipe.batches index).slots) (role : batch.role = .leaving) :
    Flow { pipe with
      batches := Function.update pipe.batches index batch
      worker := .unlock index failed
      verdict
      queue := pipe.queue.erase index
      done := pipe.done ++ [((pipe.batches index).slots,
        !verdict (pipe.batches index).slots.length failed)] } := by
  have ordered := inv.ordered.store index batch sequence (by rw [state])
    fun building _ => state ▸ building
  have counts := inv.counted.counts
  have answered := inv.counted.answered
  have errors := inv.counted.errors
  have streamed := inv.streamed
  have first := inv.ordered.worker
  have tokens := ordered.tokens
  simp only [at_, Selecting, unreported, DiskWorker.token] at first answered tokens
  cases queue : pipe.queue with
  | nil => simp [queue] at member
  | cons head rest =>
      have isFirst := first member
      simp only [queue, List.head?_cons, Option.some.injEq] at isFirst
      subst isFirst
      have elsewhere : (rest.map fun other =>
          (Function.update pipe.batches head batch other).slots) =
          rest.map fun other => (pipe.batches other).slots := by
        refine List.map_congr_left fun other later => ?_
        rw [Function.update_of_ne]
        rintro rfl
        rw [queue] at nodup
        exact (List.nodup_cons.mp nodup).1 later
      have increasing := ordered.increasing
      have built := ordered.built
      simp only [queue] at increasing built counts
      rw [List.erase_cons_head]
      refine ⟨{ ordered with
        increasing := increasing.of_cons
        built := built.of_cons
        tokens := by simpa [DiskWorker.token] using tokens
        worker := trivial }, { inv.counted with
        counts := ?_
        answered := ?_
        errors := ?_
        reporting := ?_ }, ?_⟩
      · simp only [List.length_append, List.length_cons, List.length_nil] at counts ⊢
        omega
      · simp only [List.length_append, List.length_cons, List.length_nil, unreported,
          Function.update_self, role, Role.countLeaving]
        omega
      · intro entry member
        dsimp only at member
        rw [List.take_append_of_le_length (by omega)] at member
        exact errors entry member
      · intro _
        exact ⟨pipe.done, by simp [slots]⟩
      · simp only [Streamed, Pipe.published, Pipe.pending, queue] at streamed ⊢
        cases pending : pipe.pendingWrite with
        | none =>
            simp only [pending] at streamed
            simp [elsewhere, streamed]
        | some other =>
            have same : (Function.update pipe.batches head batch other).slots =
                (pipe.batches other).slots := by
              by_cases here : other = head
              · subst here
                simpa using slots
              · rw [Function.update_of_ne here]
            simp only [pending] at streamed
            simp [elsewhere, streamed, same]

variable [Fintype Thread] {size : Nat} {state : DiskState Thread}

theorem submit_flow (owned : Owned state.holdings) (inv : Flow state.pipe) {fault : Option Nat}
    (at_ : state.worker = .submit index) : Flow (state.submit size index fault).pipe := by
  have fits := owned.worker
  simp only [DiskState.holdings, at_, WorkerFits] at fits
  unfold DiskState.submit
  rcases (owned.roles index).processing fits.1 with ⟨role, auto⟩ | ⟨⟨owner, role⟩, sync⟩ | ⟨role, _⟩
  · have member : index ∈ state.queue := (owned.queued index).mpr role
    simp only [DiskState.holdings] at auto
    simp only [auto, if_true]
    exact inv.answer at_ member owned.nodup rfl rfl rfl rfl
  · simp only [DiskState.holdings] at role sync
    simp only [sync, Bool.false_eq_true, if_false]
    refine inv.work (.unlock index _) (by simp [DiskWorker.token]) trivial ?_ ?_
    · simp [unreported, DiskState.pipe, role, at_, Role.countLeaving]
    · intro leaving
      simp [DiskState.pipe, role] at leaving
  · exact absurd role fits.2

omit [Fintype Thread] in
/-- A queued batch is ready or being built while the worker processes none. -/
theorem Owned.waiting (owned : Owned state.holdings) (idle : state.worker.batch = none) :
    ∀ index ∈ state.queue, (state.batches index).state = .ready ∨
      (state.batches index).state = .building := by
  intro index member
  have role : (state.batches index).role = .queued := (owned.queued index).mp member
  have fits := owned.roles index
  simp only [DiskState.holdings, Batch.Fits, role] at fits
  cases at_ : (state.batches index).state <;> simp_all
  have busy := owned.processing index at_
  simp [DiskState.holdings, idle] at busy

theorem stepWorker_flow (owned : Owned state.holdings) (inv : Flow state.pipe)
    {fault : Option Nat} {target : DiskState Thread}
    (moved : stepWorker size state fault = some target) : Flow target.pipe := by
  have fits := owned.worker
  have selecting := inv.ordered.worker
  have reporting := inv.counted.reporting
  simp only [DiskState.holdings, DiskState.pipe] at fits selecting reporting
  unfold stepWorker at moved
  cases at_ : state.worker <;> simp only [at_] at moved fits selecting reporting
  case semDown =>
    split at moved
    next => cases moved
    next taken =>
      cases moved
      have tokens := inv.ordered.tokens
      have scanning := inv.ordered.start taken (fun index => (state.batches index).state = .ready)
        (by simp [DiskState.pipe]) (owned.waiting (by rw [at_]; rfl))
      have answered := inv.counted.answered
      simp only [DiskState.pipe, at_, DiskWorker.token, unreported] at tokens answered
      exact ⟨{ inv.ordered with
        tokens := by simp only [DiskState.pipe, DiskWorker.token]; omega
        worker := scanning }, { inv.counted with
        answered := answered
        reporting := trivial }, inv.streamed⟩
  case scan position selected best ready limit =>
    split at moved
    next inside =>
      cases moved
      refine inv.work _ (by simp [DiskState.pipe, at_, DiskWorker.token]) ?_
        (by simp [DiskState.pipe, at_, unreported]) trivial
      have advanced := selecting.advance inside
      simp only [Selecting, DiskState.consider]
      split
      next better =>
        rw [if_pos better, if_pos better] at advanced
        exact advanced
      next worse =>
        rw [if_neg worse, if_neg worse] at advanced
        exact advanced
    next outside =>
      cases selected with
      | none =>
          cases moved
          exact inv.work _ (by simp [DiskWorker.token]) trivial
            (by simp [DiskState.pipe, at_, unreported]) trivial
      | some selected =>
          cases moved
          refine inv.work _ (by simp [DiskState.pipe, at_, DiskWorker.token])
            ⟨(selecting.chosen selected rfl).1, fun member => ?_⟩
            (by simp [DiskState.pipe, at_, unreported]) trivial
          exact selecting.oldest inv.ordered.increasing (Nat.le_of_not_lt outside) member
  case claim selected =>
    split at moved
    next isReady =>
      cases moved
      have role : (state.batches selected).role ≠ .leaving := by
        rcases (owned.roles selected).ready isReady with role | ⟨owner, role⟩ <;>
          simp only [DiskState.holdings] at role <;> simp [role]
      have counted := inv.counted.store selected { state.batches selected with
        state := .processing } role (by simpa using role)
      have answered := counted.answered
      simp only [DiskState.pipe, at_, unreported] at answered
      exact ⟨inv.ordered.claim at_ rfl rfl, { counted with
        answered := answered
        reporting := trivial }, inv.streamed.keep _ _ rfl⟩
    next =>
      cases moved
      exact inv.work _ (by simp [DiskWorker.token]) trivial (by simp [DiskState.pipe, at_, unreported])
        trivial
  case stage index position =>
    split at moved
    next =>
      cases moved
      exact inv.work _ (by simp [DiskWorker.token]) selecting
        (by simp [DiskState.pipe, at_, unreported]) trivial
    next =>
      cases moved
      exact inv.work _ (by simp [DiskWorker.token]) selecting
        (by simp [DiskState.pipe, at_, unreported]) trivial
  case header index =>
    cases moved
    exact inv.work _ (by simp [DiskWorker.token]) selecting (by simp [DiskState.pipe, at_, unreported])
      trivial
  case lock index =>
    split at moved
    next =>
      cases moved
      exact inv.work _ (by simp [DiskWorker.token]) selecting
        (by simp [DiskState.pipe, at_, unreported]) trivial
    next => cases moved
  case submit index =>
    cases moved
    exact submit_flow owned inv at_
  case unlock index failed =>
    cases moved
    exact inv.work _ (by simp [DiskWorker.token]) trivial (by simp [DiskState.pipe, at_, unreported])
      reporting
  case check index failed =>
    cases moved
    have answered := inv.counted.answered
    have errors := inv.counted.errors
    simp only [DiskState.pipe, at_, unreported] at answered errors
    have ordered := inv.ordered.store index { state.batches index with
      failed := batchFailed (state.batches index).slots.length failed state.window }
      rfl Iff.rfl fun building _ => building
    have streamed := inv.streamed.keep index { state.batches index with
      failed := batchFailed (state.batches index).slots.length failed state.window } rfl
    rcases (owned.roles index).processing fits.1 with ⟨role, _⟩ | ⟨⟨owner, role⟩, sync⟩ |
      ⟨role, auto⟩
    · exact absurd role fits.2
    · simp only [DiskState.holdings] at role sync
      rw [if_neg (by simp [sync])]
      rw [role] at answered
      exact ⟨{ ordered.work (.storeDone index) (by simp [DiskWorker.token]) trivial with },
        { inv.counted with
          answered := answered
          reporting := trivial }, streamed⟩
    · simp only [DiskState.holdings] at role auto
      rw [if_pos auto]
      rw [role] at answered
      obtain ⟨front, isLast⟩ := reporting role
      simp only at isLast
      have frontLength : front.length = state.ups := by
        rw [isLast, List.length_append] at answered
        simpa [Role.countLeaving] using answered
      split
      next isFailed =>
        exact ⟨{ ordered.work (.storeError index) (by simp [DiskWorker.token]) trivial with },
          { inv.counted with
            answered := answered
            reporting := trivial }, streamed⟩
      next succeeded =>
        refine ⟨{ ordered.work (.release index) (by simp [DiskWorker.token]) trivial with },
          { inv.counted with
            answered := answered
            reporting := ?_ }, streamed⟩
        intro entry member isFalse
        simp only [DiskState.pipe, DiskState.setBatch, isLast, List.mem_append,
          List.mem_singleton] at member
        rcases member with member | rfl
        · refine errors entry ?_ isFalse
          rwa [isLast, List.take_left' frontLength]
        · simp [succeeded] at isFalse
  case storeError index =>
    cases moved
    have answered := inv.counted.answered
    have tokens := inv.ordered.tokens
    simp only [DiskState.pipe, at_, unreported, DiskWorker.token] at answered tokens
    exact ⟨{ inv.ordered with
      tokens := tokens
      worker := trivial }, { inv.counted with
      answered := answered
      errors := fun _ _ _ => rfl
      reporting := fun _ _ _ => rfl }, inv.streamed⟩
  case release index =>
    cases moved
    simp only [WorkerFits] at fits
    have processing := owned.roles index
    simp only [DiskState.holdings, Batch.Fits, fits] at processing
    have answered := inv.counted.answered
    simp only [DiskState.pipe, at_, unreported] at answered
    have ordered := inv.ordered.store index { state.batches index with
      state := .free, slots := [], autoRelease := false, role := .free } rfl
      (by simp [DiskState.pipe, processing]) (by simp)
    refine ⟨{ ordered.work .freeUp (by simp [DiskWorker.token]) trivial with },
      { inv.counted with
        answered := answered
        reporting := reporting }, inv.streamed.store (owned.not_queued fits (by simp)) ?_⟩
    intro pending
    have isPending := owned.pending index pending
    simp [DiskState.holdings, fits] at isPending
  case freeUp =>
    cases moved
    exact inv.work _ (by simp [DiskWorker.token]) trivial (by simp [DiskState.pipe, at_, unreported])
      reporting
  case completionUp =>
    cases moved
    have answered := inv.counted.answered
    have tokens := inv.ordered.tokens
    have completions := inv.counted.completions
    simp only [DiskState.pipe, at_, unreported, DiskWorker.token] at answered tokens completions
    have signalled : semUp state.asyncCompletionSem ≤ state.asyncCompletionSem + 1 := by
      unfold semUp
      split <;> omega
    exact ⟨{ inv.ordered with
      tokens := tokens
      worker := trivial }, { inv.counted with
      completions := by simp only [DiskState.pipe]; omega
      answered := by simp only [DiskState.pipe, unreported]; omega
      errors := fun entry member => reporting entry (List.mem_of_mem_take member)
      reporting := trivial }, inv.streamed⟩
  case storeDone index =>
    cases moved
    obtain ⟨processing, owner, role⟩ := fits
    have answered := inv.counted.answered
    simp only [DiskState.pipe, at_, unreported] at answered
    have ordered := inv.ordered.store index { state.batches index with
      state := .done } rfl (by simp [DiskState.pipe, processing]) (by simp)
    exact ⟨{ ordered.work (.doneUp index) (by simp [DiskWorker.token]) trivial with },
      { inv.counted with
        answered := answered
        reporting := trivial }, inv.streamed.keep _ _ rfl⟩
  case doneUp index =>
    cases moved
    have answered := inv.counted.answered
    simp only [DiskState.pipe, at_, unreported] at answered
    have ordered := inv.ordered.store index { state.batches index with
      completionSem := semUp (state.batches index).completionSem } rfl Iff.rfl
      fun building _ => building
    exact ⟨{ ordered.work .semDown (by simp [DiskWorker.token]) trivial with },
      { inv.counted with
        answered := answered
        reporting := trivial }, inv.streamed.keep _ _ rfl⟩

end Worker

/-! ## Whole runs -/

section Runs

variable [Fintype Thread] {size : Nat} {state target : DiskState Thread}

theorem DiskInitial.flow (initial : DiskInitial state) : Flow state.pipe := by
  obtain ⟨_, queue, stream, done, _, exchanged, downs, ups, _⟩ := initial.history
  refine ⟨{ bound := ?_, below := ?_, increasing := ?_, built := ?_, tokens := ?_, worker := ?_ },
    { counts := ?_, completions := ?_, waiting := ?_, answered := ?_, errors := ?_,
      reporting := ?_ }, ?_⟩
  all_goals simp [DiskState.pipe, initial.batches, initial.workerSem, initial.asyncCompletionSem,
    initial.pendingWrite, initial.sequence, initial.asyncPending, initial.calls, initial.worker,
    queue, stream, done, exchanged, downs, ups, Tally.total, DiskCall.owed, DiskCall.waits,
    DiskWorker.token, unreported, Selecting, Reporting, Streamed, Pipe.published, Pipe.pending]

variable [DecidableEq Thread]

theorem diskNext_flow {action : DiskAction Thread} (owned : Owned state.holdings)
    (inv : Flow state.pipe) (room : RoomToPublish state action)
    (moved : diskNext size state action = some target) : Flow target.pipe := by
  cases action with
  | start thread request =>
      simp only [diskNext] at moved
      split at moved
      next idle =>
        cases moved
        exact inv.quiet (by rw [idle]; exact ⟨rfl, rfl⟩) (taskDiskRequest_quiet size request)
      next => cases moved
  | call thread => exact stepCall_flow owned inv room moved
  | worker fault => exact stepWorker_flow owned inv moved

end Runs

end Luna.Disk
