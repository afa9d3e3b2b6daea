import Mathlib.Algebra.BigOperators.Option
import Mathlib.Data.Fintype.Option
import Mathlib.Data.Fintype.BigOperators
import Luna.Lib.SlotPool
import Luna.Disk.Ownership

/-!
# Tokens for free batches

`task_disk_queue_free_sem` counts free batches, and `task_disk_claim_batch` looks for one
from left to right after it has taken a token.  Threads and worker are the agents of a
`SlotPool`: the batches are its slots.
-/

namespace Luna.Disk

open Interleaving SlotPool

variable {Thread : Type}

/-- A thread in the scan of `task_disk_claim_batch` looks at a batch; one that leaves
`task_disk_submit_batch` has freed its batch and owes the token. -/
def DiskCall.phase : DiskCall → Phase
  | .claimScan _ index => .looking index
  | .submitUp _ => .freed
  | _ => .out

def DiskWorker.phase : DiskWorker → Phase
  | .freeUp => .freed
  | _ => .out

def DiskState.pool (state : DiskState Thread) :
    Pool lunaDiskLocalQueueCount (Option Thread) where
  free index := decide ((state.batches index).state = .free)
  tokens := state.queueFreeSem
  phase
    | none => state.worker.phase
    | some thread => (state.calls thread).phase

theorem semUp_le (count : Nat) : semUp count ≤ count + 1 := by
  unfold semUp
  split <;> omega

section Stores

variable {state : DiskState Thread} {index : BatchIndex} {batch : Batch Thread}

/-- A store that neither frees nor takes a batch. -/
theorem free_kept (same : batch.state = .free ↔ (state.batches index).state = .free) :
    (fun other => decide ((Function.update state.batches index batch other).state = .free)) =
      state.pool.free := by
  funext other
  by_cases here : other = index
  · subst here
    rw [Function.update_self]
    exact decide_eq_decide.mpr same
  · rw [Function.update_of_ne here]
    rfl

theorem free_update :
    (fun other => decide ((Function.update state.batches index batch other).state = .free)) =
      Function.update state.pool.free index (decide (batch.state = .free)) := by
  funext other
  by_cases here : other = index
  · subst here
    rw [Function.update_self, Function.update_self]
  · rw [Function.update_of_ne here, Function.update_of_ne here]
    rfl

end Stores

section Steps

variable [DecidableEq Thread] {state target : DiskState Thread} {thread : Thread}
  {call : DiskCall} {size : Nat}

/-- A thread that moves changes its own phase. -/
theorem phase_enter (calls : target.calls = Function.update state.calls thread call)
    (worker : target.worker = state.worker) :
    target.pool.phase = Function.update state.pool.phase (some thread) call.phase := by
  funext agent
  cases agent with
  | none =>
      rw [Function.update_of_ne (Option.some_ne_none thread).symm]
      exact congrArg DiskWorker.phase worker
  | some other =>
      change (target.calls other).phase = _
      rw [calls]
      by_cases here : other = thread
      · subst here
        rw [Function.update_self, Function.update_self]
      · rw [Function.update_of_ne here, Function.update_of_ne fun same => here (Option.some.inj same)]
        rfl

theorem phase_work (calls : target.calls = state.calls) :
    target.pool.phase = Function.update state.pool.phase none target.worker.phase := by
  funext agent
  cases agent with
  | none =>
      rw [Function.update_self]
      rfl
  | some other =>
      rw [Function.update_of_ne (Option.some_ne_none other)]
      exact congrArg (fun calls => (calls other).phase) calls

theorem move_enter {free : BatchIndex → Bool} {tokens : Nat} {phase : Phase}
    (move : Move state.pool
      { free, tokens, phase := Function.update state.pool.phase (some thread) phase })
    (calls : target.calls = Function.update state.calls thread call)
    (worker : target.worker = state.worker) (sameFree : target.pool.free = free)
    (sameTokens : target.queueFreeSem = tokens) (samePhase : call.phase = phase) :
    Move state.pool target.pool := by
  have phases := phase_enter calls worker
  rw [samePhase] at phases
  have same : target.pool =
      { free, tokens, phase := Function.update state.pool.phase (some thread) phase } :=
    Pool.ext sameFree sameTokens phases
  rw [same]
  exact move

theorem move_work {free : BatchIndex → Bool} {tokens : Nat} {phase : Phase}
    (move : Move state.pool
      { free, tokens, phase := Function.update state.pool.phase none phase })
    (calls : target.calls = state.calls) (sameFree : target.pool.free = free)
    (sameTokens : target.queueFreeSem = tokens) (samePhase : target.worker.phase = phase) :
    Move state.pool target.pool := by
  have phases := phase_work calls
  rw [samePhase] at phases
  have same : target.pool =
      { free, tokens, phase := Function.update state.pool.phase none phase } :=
    Pool.ext sameFree sameTokens phases
  rw [same]
  exact move

/-- A thread that has nothing to do with the pool. -/
theorem pool_enter (calls : target.calls = Function.update state.calls thread call)
    (worker : target.worker = state.worker) (free : target.pool.free = state.pool.free)
    (tokens : target.queueFreeSem = state.queueFreeSem)
    (before : (state.calls thread).phase = .out) (after : call.phase = .out) :
    target.pool = state.pool := by
  have phase := phase_enter calls worker
  have same : Function.update state.pool.phase (some thread) call.phase = state.pool.phase := by
    rw [after, ← before]
    exact Function.update_eq_self _ _
  rw [same] at phase
  exact Pool.ext free tokens phase

theorem pool_work (calls : target.calls = state.calls) (free : target.pool.free = state.pool.free)
    (tokens : target.queueFreeSem = state.queueFreeSem)
    (before : state.worker.phase = .out) (after : target.worker.phase = .out) :
    target.pool = state.pool := by
  have phase := phase_work calls
  have same : Function.update state.pool.phase none target.worker.phase = state.pool.phase := by
    rw [after, ← before]
    exact Function.update_eq_self _ _
  rw [same] at phase
  exact Pool.ext free tokens phase

theorem readNext_phase (offset : Nat) (lengths : List Nat) (data : List UInt8) :
    (readNext offset lengths data).phase = .out := by
  induction lengths with
  | nil => rfl
  | cons length rest inductionHypothesis =>
      cases length with
      | zero => exact inductionHypothesis
      | succ length => rfl

theorem FlushUser.resume_phase (user : FlushUser) : user.resume.phase = .out := by
  cases user with
  | flush => rfl
  | read offset lengths => exact readNext_phase offset lengths []

theorem PublishUser.resume_phase (index : BatchIndex) (user : PublishUser) :
    (user.resume index).phase = .out := by
  cases user <;> rfl

theorem taskDiskRequest_phase (size : Nat) (request : BlkReq) :
    (taskDiskRequest size request).phase = .out := by
  unfold taskDiskRequest
  repeat' split
  all_goals rfl

theorem orError_phase {call : DiskCall} (out : call.phase = .out) (failed : Bool) :
    (if failed then DiskCall.finish .ioerr [] else call).phase = .out := by
  cases failed with
  | true => rfl
  | false => exact out

/-- A step of a thread is a move of its agent or none. -/
theorem stepCall_pool (inv : Owned state.holdings) (moved : stepCall size state thread = some target) :
    Move state.pool target.pool ∨ target.pool = state.pool := by
  have fits := inv.calls thread
  simp only [DiskState.holdings] at fits
  have agent : state.pool.phase (some thread) = (state.calls thread).phase := rfl
  unfold stepCall at moved
  cases at_ : state.calls thread <;> simp only [at_] at moved fits agent
  case idle => cases moved
  case gateDown user =>
    split at moved
    next => cases moved
    next opened =>
      cases moved
      exact .inr (pool_enter rfl rfl rfl rfl (by rw [at_]; rfl) rfl)
  case flushLock user =>
    split at moved
    next free =>
      cases moved
      exact .inr (pool_enter rfl rfl rfl rfl (by rw [at_]; rfl) rfl)
    next => cases moved
  case flushTake user =>
    split at moved
    next nothing =>
      cases moved
      exact .inr (pool_enter rfl rfl rfl rfl (by rw [at_]; rfl) rfl)
    next index isPending =>
      split at moved <;> cases moved
      · exact .inr (pool_enter rfl rfl rfl rfl (by rw [at_]; rfl) rfl)
      · exact .inr (pool_enter rfl rfl rfl rfl (by rw [at_]; rfl) rfl)
  case publishSequence index user =>
    cases moved
    unfold DiskState.publish
    dsimp only
    split <;>
      exact .inr (pool_enter rfl rfl (free_kept Iff.rfl) rfl (by rw [at_]; rfl) rfl)
  case publishReady index user =>
    cases moved
    refine .inr (pool_enter rfl rfl (free_kept ?_) rfl (by rw [at_]; rfl) rfl)
    rw [fits.1]
    exact iff_of_false (by simp) (by simp)
  case publishSignal index user =>
    cases moved
    exact .inr (pool_enter rfl rfl rfl rfl (by rw [at_]; rfl) (user.resume_phase index))
  case exchange user =>
    cases moved
    exact .inr (pool_enter rfl rfl rfl rfl (by rw [at_]; rfl) rfl)
  case flushUnlock user pending =>
    cases moved
    exact .inr (pool_enter rfl rfl rfl rfl (by rw [at_]; rfl) rfl)
  case flushWait user remaining =>
    split at moved
    next =>
      cases moved
      exact .inr (pool_enter rfl rfl rfl rfl (by rw [at_]; rfl) rfl)
    next remaining =>
      split at moved
      next => cases moved
      next =>
        cases moved
        exact .inr (pool_enter rfl rfl rfl rfl (by rw [at_]; rfl) rfl)
  case gateUp user failed =>
    cases moved
    exact .inr (pool_enter rfl rfl rfl rfl (by rw [at_]; rfl)
      (orError_phase user.resume_phase failed))
  case claimDown user =>
    split at moved
    next => cases moved
    next opened =>
      cases moved
      exact .inl (move_enter (Move.down (some thread) agent opened) rfl rfl rfl rfl rfl)
  case claimScan user index =>
    split at moved
    next inside =>
      split at moved
      next isFree =>
        have free : state.pool.free ⟨index, inside⟩ = true := decide_eq_true isFree
        have take := Move.take (some thread) ⟨index, inside⟩ agent free
        cases moved
        cases user with
        | flush => exact .inl (move_enter take rfl rfl free_update rfl rfl)
        | write offset buf => exact .inl (move_enter take rfl rfl free_update rfl rfl)
      next busy =>
        cases moved
        have pass := Move.pass (some thread) ⟨index, inside⟩ agent (decide_eq_false busy)
        exact .inl (move_enter pass rfl rfl rfl rfl rfl)
    next outside =>
      cases moved
      have leave := Move.leave (some thread) index (semUp state.queueFreeSem) agent
        (Nat.not_lt.mp outside)
      refine .inl (move_enter leave rfl rfl rfl rfl ?_)
      cases user <;> rfl
  case build index =>
    cases moved
    exact .inr (pool_enter rfl rfl (free_kept Iff.rfl) rfl (by rw [at_]; rfl) rfl)
  case submitDown index =>
    split at moved
    next => cases moved
    next =>
      cases moved
      exact .inr (pool_enter rfl rfl (free_kept Iff.rfl) rfl (by rw [at_]; rfl) rfl)
  case submitCheck index =>
    cases moved
    refine .inr (pool_enter rfl rfl rfl rfl (by rw [at_]; rfl) ?_)
    split <;> rfl
  case submitFree index =>
    cases moved
    have used : state.pool.free index = false := by
      refine decide_eq_false ?_
      rw [fits.2]
      simp
    exact .inl (move_enter (Move.release (some thread) index agent used) rfl rfl free_update rfl
      rfl)
  case submitUp failed =>
    cases moved
    have up := Move.up (some thread) (semUp state.queueFreeSem) agent (semUp_le _)
    exact .inl (move_enter up rfl rfl rfl rfl rfl)
  case writeLock offset buf =>
    split at moved
    next free =>
      cases moved
      exact .inr (pool_enter rfl rfl rfl rfl (by rw [at_]; rfl) rfl)
    next => cases moved
  case fill offset buf =>
    split at moved
    next =>
      cases moved
      exact .inr (pool_enter rfl rfl rfl rfl (by rw [at_]; rfl) rfl)
    next =>
      cases moved
      exact .inr (pool_enter rfl rfl rfl rfl (by rw [at_]; rfl) rfl)
    next byte bytes rest =>
      split at moved <;> cases moved
      · exact .inr (pool_enter rfl rfl rfl rfl (by rw [at_]; rfl) rfl)
      · refine .inr (pool_enter rfl rfl (free_kept Iff.rfl) rfl (by rw [at_]; rfl) ?_)
        split <;> rfl
  case writeUnlock failed =>
    cases moved
    exact .inr (pool_enter rfl rfl rfl rfl (by rw [at_]; rfl) (orError_phase rfl failed))
  case writeError =>
    cases moved
    exact .inr (pool_enter rfl rfl rfl rfl (by rw [at_]; rfl) rfl)
  case readLock offset lengths data =>
    split at moved
    next free =>
      cases moved
      exact .inr (pool_enter rfl rfl rfl rfl (by rw [at_]; rfl) rfl)
    next => cases moved
  case readServe offset lengths data =>
    cases moved
    refine .inr (pool_enter rfl rfl rfl rfl (by rw [at_]; rfl) ?_)
    split <;> rfl
  case readCopy offset lengths data =>
    cases moved
    exact .inr (pool_enter rfl rfl rfl rfl (by rw [at_]; rfl) rfl)
  case readUnlock offset lengths data failed =>
    cases moved
    exact .inr (pool_enter rfl rfl rfl rfl (by rw [at_]; rfl)
      (orError_phase (readNext_phase offset lengths data) failed))
  case finish status data =>
    cases moved
    exact .inr (pool_enter rfl rfl rfl rfl (by rw [at_]; rfl) rfl)

/-- A step of the worker is a move of its agent or none. -/
theorem stepWorker_pool (inv : Owned state.holdings) {fault : Option Nat}
    (moved : stepWorker size state fault = some target) :
    Move state.pool target.pool ∨ target.pool = state.pool := by
  have fits := inv.worker
  simp only [DiskState.holdings] at fits
  have agent : state.pool.phase none = state.worker.phase := rfl
  unfold stepWorker at moved
  cases at_ : state.worker <;> simp only [at_] at moved fits agent
  case semDown =>
    split at moved
    next => cases moved
    next =>
      cases moved
      exact .inr (pool_work rfl rfl rfl (by rw [at_]; rfl) rfl)
  case scan index selected best ready limit =>
    split at moved
    next inside =>
      cases moved
      exact .inr (pool_work rfl rfl rfl (by rw [at_]; rfl) rfl)
    next outside =>
      split at moved <;> cases moved
      · exact .inr (pool_work rfl rfl rfl (by rw [at_]; rfl) rfl)
      · exact .inr (pool_work rfl rfl rfl (by rw [at_]; rfl) rfl)
  case claim selected =>
    split at moved
    next isReady =>
      cases moved
      refine .inr (pool_work rfl (free_kept ?_) rfl (by rw [at_]; rfl) rfl)
      rw [isReady]
      exact iff_of_false (by simp) (by simp)
    next =>
      cases moved
      exact .inr (pool_work rfl rfl rfl (by rw [at_]; rfl) rfl)
  case stage index position =>
    split at moved <;> cases moved
    · exact .inr (pool_work rfl rfl rfl (by rw [at_]; rfl) rfl)
    · exact .inr (pool_work rfl rfl rfl (by rw [at_]; rfl) rfl)
  case header index =>
    cases moved
    exact .inr (pool_work rfl rfl rfl (by rw [at_]; rfl) rfl)
  case lock index =>
    split at moved
    next =>
      cases moved
      exact .inr (pool_work rfl rfl rfl (by rw [at_]; rfl) rfl)
    next => cases moved
  case submit index =>
    cases moved
    unfold DiskState.submit
    dsimp only
    split
    · exact .inr (pool_work rfl (free_kept Iff.rfl) rfl (by rw [at_]; rfl) rfl)
    · exact .inr (pool_work rfl rfl rfl (by rw [at_]; rfl) rfl)
  case unlock index failed =>
    cases moved
    exact .inr (pool_work rfl rfl rfl (by rw [at_]; rfl) rfl)
  case check index failed =>
    cases moved
    refine .inr (pool_work rfl (free_kept Iff.rfl) rfl (by rw [at_]; rfl) ?_)
    dsimp only
    split
    · split <;> rfl
    · rfl
  case storeError index =>
    cases moved
    exact .inr (pool_work rfl rfl rfl (by rw [at_]; rfl) rfl)
  case release index =>
    cases moved
    have used : state.pool.free index = false := by
      refine decide_eq_false ?_
      have leaving : (state.batches index).state = .processing := by
        have role := inv.roles index
        change (state.batches index).Fits at role
        rw [Batch.Fits, fits] at role
        exact role.1
      rw [leaving]
      simp
    exact .inl (move_work (Move.release none index agent used) rfl free_update rfl rfl)
  case freeUp =>
    cases moved
    have up := Move.up none (semUp state.queueFreeSem) agent (semUp_le _)
    exact .inl (move_work up rfl rfl rfl rfl)
  case completionUp =>
    cases moved
    exact .inr (pool_work rfl rfl rfl (by rw [at_]; rfl) rfl)
  case storeDone index =>
    cases moved
    refine .inr (pool_work rfl (free_kept ?_) rfl (by rw [at_]; rfl) rfl)
    rw [fits.1]
    exact iff_of_false (by simp) (by simp)
  case doneUp index =>
    cases moved
    exact .inr (pool_work rfl (free_kept Iff.rfl) rfl (by rw [at_]; rfl) rfl)

theorem diskNext_pool (inv : Owned state.holdings) {action : DiskAction Thread}
    (moved : diskNext size state action = some target) :
    Move state.pool target.pool ∨ target.pool = state.pool := by
  cases action with
  | start thread request =>
      simp only [diskNext] at moved
      split at moved
      next idle =>
        cases moved
        exact .inr (pool_enter rfl rfl rfl rfl (by rw [idle]; rfl)
          (taskDiskRequest_phase size request))
      next => cases moved
  | call thread => exact stepCall_pool inv moved
  | worker fault => exact stepWorker_pool inv moved

end Steps

variable [Fintype Thread] {size : Nat} {state : DiskState Thread}

theorem DiskInitial.backed (initial : DiskInitial state) : Backed state.pool := by
  have tokens : state.pool.tokens = lunaDiskLocalQueueCount := initial.queueFreeSem
  refine Backed.fresh (fun index => ?_) tokens fun agent => ?_
  · change decide ((state.batches index).state = .free) = true
    rw [initial.batches]
    rfl
  · cases agent with
    | none => exact congrArg DiskWorker.phase initial.worker
    | some thread => exact congrArg DiskCall.phase (initial.calls thread)

/-- How many threads scan after they have taken a token. -/
def claimants (state : DiskState Thread) : Nat :=
  Tally.total (Phase.lookingFrom 0) fun thread => (state.calls thread).phase

/-- The batches that are free. -/
def freeBatches (state : DiskState Thread) : Nat :=
  (Finset.univ.filter fun index => (state.batches index).state = .free).card

/-- A token always finds a free batch: a thread that scans is at one of the batches, a free
one is at its place or further on, and tokens and claimants are no more than the free
batches. -/
structure TokensBacked (state : DiskState Thread) : Prop where
  inside : ∀ thread user index, state.calls thread = .claimScan user index →
    index < lunaDiskLocalQueueCount
  finds : ∀ thread user index, state.calls thread = .claimScan user index →
    ∃ other : BatchIndex, index ≤ other.val ∧ (state.batches other).state = .free
  covered : state.queueFreeSem + claimants state ≤ freeBatches state

variable [DecidableEq Thread]

theorem System.backed (reached : (diskSystem size).Reachable state) :
    Backed state.pool := by
  have both : Owned state.holdings ∧ Backed state.pool := by
    refine System.Reachable.invariant
      (fun state : DiskState Thread => Owned state.holdings ∧ Backed state.pool) ?_ ?_ reached
    · exact fun state initial => ⟨initial.owned, initial.backed⟩
    · rintro state action target ⟨owned, backed⟩ moved
      refine ⟨diskNext_owned owned moved, ?_⟩
      rcases diskNext_pool owned moved with move | same
      · exact move.backed backed
      · rw [same]
        exact backed
  exact both.2

theorem claim_finds_batch (reached : (diskSystem size).Reachable state) : TokensBacked state := by
  have backed := System.backed reached
  have finds : ∀ thread user index, state.calls thread = .claimScan user index →
      ∃ other : BatchIndex, index ≤ other.val ∧ (state.batches other).state = .free := by
    intro thread user index scans
    have agent : state.pool.phase (some thread) = .looking index := by
      change (state.calls thread).phase = _
      rw [scans]
      rfl
    obtain ⟨other, after, free⟩ := backed.finds agent
    exact ⟨other, after, of_decide_eq_true free⟩
  refine ⟨?_, finds, ?_⟩
  · intro thread user index scans
    obtain ⟨other, after, -⟩ := finds thread user index scans
    exact Nat.lt_of_le_of_lt after other.isLt
  · have tokens := backed.tokens
    have looking : Tally.total (Phase.lookingFrom 0) state.pool.phase =
        state.worker.phase.lookingFrom 0 + claimants state := Fintype.sum_option _
    have free : freeFrom 0 state.pool.free = freeBatches state := by
      unfold freeFrom freeBatches
      rw [Finset.card_filter]
      refine Finset.sum_congr rfl fun index _ => ?_
      simp [DiskState.pool]
    change state.queueFreeSem + _ + _ ≤ _ at tokens
    omega

/-- Two threads have taken a token and scan. -/
theorem claim_finds_batch_two :
    ∃ state : DiskState (Fin 2), (diskSystem 1024).Reachable state ∧
      state.calls 0 = .claimScan .flush 0 ∧ state.calls 1 = .claimScan .flush 0 ∧
        state.queueFreeSem = 6 ∧ TokensBacked state := by
  obtain ⟨state, reached, ends⟩ := System.exists_reach_of_exec (diskSystem 1024)
    (fun _ _ => True) (configuredDisk : DiskState (Fin 2))
    [.start 0 ⟨.flush, 0, []⟩, .call 0, .call 0, .call 0, .call 0, .call 0, .call 0, .call 0,
      .call 0, .start 1 ⟨.flush, 0, []⟩, .call 1, .call 1, .call 1, .call 1, .call 1, .call 1,
      .call 1, .call 1]
    (fun state => decide (state.calls 0 = .claimScan .flush 0 ∧
      state.calls 1 = .claimScan .flush 0 ∧ state.queueFreeSem = 6))
    configuredDisk_initial (by decide +kernel)
  obtain ⟨first, second, tokens⟩ := of_decide_eq_true ends
  exact ⟨state, reached, first, second, tokens, claim_finds_batch reached⟩

end Luna.Disk
