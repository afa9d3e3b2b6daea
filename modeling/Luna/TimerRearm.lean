import Luna.TimerCallback

/-!
# Rearming the timer

The service thread compares the generation once and then calls the function a few
steps later.  A `task_timer_set_oneshot` that runs in between has returned when the
callback of the old deadline begins; `task_timer_free` waits for
`task_timer_callback_running`, but `task_timer_set_oneshot` does not.  When no call
returns in between, a rearm supersedes every older generation.
-/

namespace Luna.TimerCallback

open Interleaving
open Timer (SetCall word_succ)
open TimerManager (word)

variable {Thread Fn : Type}

/-- The generation a call of `task_timer_set_oneshot` has taken. -/
def Caller.owns : Caller Fn → Option Nat
  | .setEpoch call | .setOldGeneration call | .setOldDeadline call | .setDeadline call
  | .setArmed call | .setDecide call | .setUnlock call _ | .setArm call => some call.generation
  | .setRetract generation | .setReturn generation => some generation
  | _ => none

structure RearmInv (state : State Thread Fn) : Prop where
  owns : ∀ thread, ∀ generation ∈ (state.callers thread).owns,
    generation ≤ state.words.generation
  returned : ∀ generation ∈ state.words.returned, generation ≤ state.words.generation
  passed : ∀ passed ∈ state.words.service.passed, ∀ generation ∈ state.words.returned,
    generation ≤ passed
  superseded : state.words.Superseded

section Steps

variable {state target : State Thread Fn} {thread : Thread}

/-- The service thread passes the check only for the current generation. -/
theorem RearmInv.service {after : Words Thread Fn} {granted : Bool} (inv : RearmInv state)
    (moved : stepService state.words granted = some after) :
    RearmInv { state with words := after } := by
  have quiet : ∀ words : Words Thread Fn, words.generation = state.words.generation →
      words.returned = state.words.returned → words.invocations = state.words.invocations →
      (∀ passed ∈ words.service.passed, passed = state.words.generation ∨
        passed ∈ state.words.service.passed) → RearmInv { state with words } := by
    intro words generation returned invocations passes
    refine ⟨fun thread => generation ▸ inv.owns thread, ?_, fun passed isPassed => ?_, ?_⟩
    · rw [returned, generation]
      exact inv.returned
    · rw [returned]
      rcases passes passed isPassed with current | old
      · rw [current]
        exact inv.returned
      · exact inv.passed passed old
    · rw [Words.Superseded, invocations]
      exact inv.superseded
  unfold stepService at moved
  cases stands : state.words.service with
  | unstarted =>
      rw [stands] at moved
      cases moved
  | checkGeneration generation =>
      rw [stands] at moved
      cases moved
      refine quiet _ rfl rfl rfl fun passed isPassed => .inl ?_
      dsimp only at isPassed
      split at isPassed
      next current =>
        rw [current]
        exact (Option.mem_some_iff.mp isPassed).symm
      next stale => cases isPassed
  | checkAllocated generation =>
      rw [stands] at moved
      cases moved
      refine quiet _ rfl rfl rfl fun passed isPassed => .inr ?_
      rw [stands]
      dsimp only at isPassed
      split at isPassed
      next taken => exact isPassed
      next gone => cases isPassed
  | loadFn generation =>
      rw [stands] at moved
      cases moved
      refine quiet _ rfl rfl rfl fun passed isPassed => .inr ?_
      rw [stands]
      dsimp only at isPassed
      split at isPassed
      next found => exact isPassed
      next gone => cases isPassed
  | call generation fn =>
      rw [stands] at moved
      cases moved
      have passed := inv.passed generation (by rw [stands]; rfl)
      refine ⟨inv.owns, inv.returned, nofun, fun invocation member => ?_⟩
      rcases List.mem_append.mp member with old | new
      · exact inv.superseded invocation old
      · rw [List.mem_singleton.mp new]
        exact passed
  | clear generation =>
      rw [stands] at moved
      dsimp only at moved
      split at moved <;> cases moved <;> exact quiet _ rfl rfl rfl nofun
  | loadArmed | compare _ _ | rearm _ =>
      rw [stands] at moved
      cases moved
      refine quiet _ rfl rfl rfl fun passed isPassed => ?_
      dsimp only at isPassed
      split at isPassed <;> cases isPassed
  | _ =>
      rw [stands] at moved
      cases moved
      exact quiet _ rfl rfl rfl nofun

variable [DecidableEq Thread]

/-- What a step of a caller does to the words that matter here. -/
structure CallerMove (state : State Thread Fn) (thread : Thread) (target : State Thread Fn) :
    Prop where
  generation : state.words.generation ≤ target.words.generation
  invocations : target.words.invocations = state.words.invocations
  passed : target.words.service.passed = state.words.service.passed
  returned : target.words.returned = state.words.returned ∨
    ∃ generation, state.callers thread = .setReturn generation ∧
      target.words.returned = state.words.returned ++ [generation]
  others : ∀ other, other ≠ thread → target.callers other = state.callers other
  owns : ∀ generation ∈ (target.callers thread).owns,
    generation ∈ (state.callers thread).owns ∨ generation = target.words.generation

theorem CallerMove.put {caller : Caller Fn} {after : Words Thread Fn}
    (generation : state.words.generation ≤ after.generation)
    (invocations : after.invocations = state.words.invocations)
    (passed : after.service.passed = state.words.service.passed)
    (returned : after.returned = state.words.returned ∨
      ∃ generation, state.callers thread = .setReturn generation ∧
        after.returned = state.words.returned ++ [generation])
    (owns : ∀ generation ∈ caller.owns,
      generation ∈ (state.callers thread).owns ∨ generation = after.generation) :
    CallerMove state thread (state.put thread caller after) := by
  refine ⟨generation, invocations, passed, returned, fun other different => ?_, ?_⟩
  · simp [State.put, State.enter, different]
  · simpa [State.put, State.enter] using owns

/-- Only the program counter and the lock change. -/
theorem CallerMove.enter {caller : Caller Fn} {lock : Option Thread}
    (owns : ∀ generation ∈ caller.owns, generation ∈ (state.callers thread).owns) :
    CallerMove state thread { state.enter thread caller with lock } := by
  refine ⟨Nat.le_refl _, rfl, rfl, .inl rfl, fun other different => ?_, ?_⟩
  · simp [State.enter, different]
  · intro generation member
    simp only [State.enter, Function.update_self] at member
    exact .inl (owns generation member)

theorem CallerMove.acquire {caller : Caller Fn} (none : caller.owns = none)
    (acquired : state.acquire thread caller = some target) : CallerMove state thread target := by
  unfold State.acquire at acquired
  split at acquired
  next free =>
    cases acquired
    refine .enter fun generation member => ?_
    rw [none] at member
    cases member
  next taken => cases acquired

/-- A store that keeps the generation, the callbacks and the returns. -/
theorem CallerMove.store {caller : Caller Fn} {after : Words Thread Fn}
    (generation : after.generation = state.words.generation)
    (invocations : after.invocations = state.words.invocations)
    (passed : after.service.passed = state.words.service.passed)
    (returned : after.returned = state.words.returned)
    (owns : ∀ generation ∈ caller.owns, generation ∈ (state.callers thread).owns) :
    CallerMove state thread (state.put thread caller after) :=
  .put (Nat.le_of_eq generation.symm) invocations passed (.inl returned)
    fun generation member => .inl (owns generation member)

theorem stepCaller_move {granted : Bool}
    (wraps : GenerationFits state (.caller thread granted))
    (moved : stepCaller state thread granted = some target) :
    CallerMove state thread target := by
  unfold stepCaller at moved
  simp only [GenerationFits] at wraps
  cases stands : state.callers thread with
  | idle =>
      rw [stands] at moved
      cases moved
  | allocLock _ | setLock _ _ | freeLock _ =>
      rw [stands] at moved
      exact .acquire rfl moved
  | allocBump | freeBump =>
      rw [stands] at moved wraps
      cases moved
      refine .put ?_ rfl rfl (.inl rfl) (by simp [Caller.owns])
      rw [word_succ wraps]
      exact Nat.le_succ _
  | setBump ns =>
      rw [stands] at moved wraps
      cases moved
      refine .put ?_ rfl rfl (.inl rfl) fun generation member => .inr ?_
      · rw [word_succ wraps]
        exact Nat.le_succ _
      · exact (Option.mem_some_iff.mp member).symm
  | allocCheck _ | setCheck _ _ | freeCheck _ =>
      rw [stands] at moved
      cases moved
      refine .enter fun generation member => ?_
      split at member <;> cases member
  | allocStart =>
      rw [stands] at moved
      dsimp only at moved
      split at moved
      next started =>
        cases moved
        exact .enter (by simp [Caller.owns])
      next unstarted =>
        split at moved
        next starts =>
          cases moved
          refine .store rfl rfl ?_ rfl (by simp [Caller.owns])
          cases service : state.words.service with
          | unstarted => rfl
          | _ => simp [service, Service.started] at unstarted
        next fails =>
          cases moved
          exact .enter (by simp [Caller.owns])
  | allocFn _ | allocArmed | allocPublish | allocUndo | allocUndoFn | freeAllocated | freeArmed
  | freeFn =>
      rw [stands] at moved
      cases moved
      exact .store rfl rfl rfl rfl (by simp [Caller.owns])
  | setEpoch call | setOldGeneration call | setOldDeadline call | setDecide call =>
      rw [stands] at moved
      cases moved
      exact .enter fun generation member => stands ▸ member
  | setDeadline call | setArmed call =>
      rw [stands] at moved
      cases moved
      exact .store rfl rfl rfl rfl fun generation member => stands ▸ member
  | setUnlock call defer =>
      rw [stands] at moved
      cases moved
      refine .enter fun generation member => ?_
      cases defer <;> exact stands ▸ member
  | setArm call =>
      rw [stands] at moved
      cases moved
      refine .enter fun generation member => ?_
      cases granted <;> exact stands ▸ member
  | setRetract generation =>
      rw [stands] at moved
      cases moved
      exact .store rfl rfl rfl rfl (by simp [Caller.owns])
  | setReturn generation =>
      rw [stands] at moved
      cases moved
      exact .put (Nat.le_refl _) rfl rfl (.inr ⟨generation, stands, rfl⟩) (by simp [Caller.owns])
  | freeUnlock | freeCancel | unlock =>
      rw [stands] at moved
      cases moved
      exact .enter (by simp [Caller.owns])
  | freeDrain =>
      rw [stands] at moved
      dsimp only at moved
      split at moved
      next running => cases moved
      next quiet =>
        cases moved
        exact .store rfl rfl rfl rfl (by simp [Caller.owns])

theorem RearmInv.caller (inv : RearmInv state)
    (clear : ∀ generation, state.callers thread = .setReturn generation →
      ∀ passed ∈ state.words.service.passed, generation ≤ passed)
    (move : CallerMove state thread target) : RearmInv target := by
  have below : ∀ other, ∀ generation ∈ (target.callers other).owns,
      generation ≤ target.words.generation := by
    intro other generation member
    by_cases same : other = thread
    · subst same
      rcases move.owns generation member with old | new
      · exact Nat.le_trans (inv.owns other generation old) move.generation
      · exact Nat.le_of_eq new
    · rw [move.others other same] at member
      exact Nat.le_trans (inv.owns other generation member) move.generation
  refine ⟨below, fun generation member => ?_, fun passed isPassed generation member => ?_, ?_⟩
  · rcases move.returned with same | ⟨last, stands, same⟩
    · rw [same] at member
      exact Nat.le_trans (inv.returned generation member) move.generation
    · rw [same] at member
      rcases List.mem_append.mp member with old | new
      · exact Nat.le_trans (inv.returned generation old) move.generation
      · rw [List.mem_singleton.mp new]
        exact Nat.le_trans (inv.owns thread last (by rw [stands]; rfl)) move.generation
  · rw [move.passed] at isPassed
    rcases move.returned with same | ⟨last, stands, same⟩
    · rw [same] at member
      exact inv.passed passed isPassed generation member
    · rw [same] at member
      rcases List.mem_append.mp member with old | new
      · exact inv.passed passed isPassed generation old
      · rw [List.mem_singleton.mp new]
        exact clear last stands passed isPassed
  · rw [Words.Superseded, move.invocations]
    exact inv.superseded

theorem rearmNext_inv (state : State Thread Fn) (action : Action Thread Fn)
    (target : State Thread Fn) (inv : RearmInv state)
    (guarded : GenerationFits state action ∧ ReturnsClear state action)
    (moved : next state action = some target) : RearmInv target := by
  cases action with
  | tick elapsed =>
      cases moved
      exact ⟨inv.owns, inv.returned, inv.passed, inv.superseded⟩
  | call thread request =>
      simp only [next] at moved
      split at moved
      next idle =>
        cases moved
        refine inv.caller (fun generation stands => ?_) (.enter fun generation member => ?_)
        · rw [stands] at idle
          cases idle
        · cases request <;> cases member
      next busy => cases moved
  | caller thread granted =>
      refine inv.caller (fun generation stands => ?_) (stepCaller_move guarded.1 moved)
      have clear := guarded.2
      simp only [ReturnsClear, stands] at clear
      exact clear
  | service granted =>
      obtain ⟨after, served, rfl⟩ := Option.map_eq_some_iff.mp moved
      exact inv.service served

/-- In every run in which no call returns between the service thread's check of an older
generation and its call of the function, a rearm supersedes the old deadline. -/
theorem rearm_supersedes_of_returnsClear (state : State Thread Fn)
    (reached : system.Reach (fun state action => GenerationFits state action ∧
      ReturnsClear state action) state) : state.words.Superseded := by
  have inv : RearmInv state := by
    refine reached.invariant RearmInv (fun state initial => ?_) rearmNext_inv
    refine ⟨fun thread => ?_, ?_, ?_, ?_⟩
    · rw [initial.callers thread]
      simp [Caller.owns]
    · rw [initial.returned]
      simp
    · rw [initial.returned]
      simp
    · rw [Words.Superseded, initial.invocations]
      simp
  exact inv.superseded

end Steps

theorem rearm_supersedes_twice : ∃ state : State Unit Unit,
    system.Reach (fun state action => GenerationFits state action ∧ ReturnsClear state action)
      state ∧ state.words.invocations.map (fun invocation => (invocation.generation,
        invocation.returned)) = [(3, [2, 3])] ∧ state.words.Superseded := by
  obtain ⟨state, reached, called⟩ := System.exists_reach_of_exec system
    (fun state action => GenerationFits state action ∧ ReturnsClear state action) fresh
    (allocates ++ arms ++ arms ++ [.tick 1] ++ serves ++ [.service true])
    (fun state => state.words.invocations.map (fun invocation => (invocation.generation,
      invocation.returned)) == [(3, [2, 3])]) fresh_initial (by decide +kernel)
  exact ⟨state, reached, by simpa using called, rearm_supersedes_of_returnsClear state reached⟩

/-- Generation 2 has passed the check; a call arms generation 3 and returns 0; then the
callback of generation 2 begins. -/
theorem rearm_does_not_supersede : ¬ ∀ state : State Unit Unit,
    system.Reach GenerationFits state → state.words.Superseded := by
  intro always
  obtain ⟨state, reached, called⟩ := System.exists_reach_of_exec system GenerationFits fresh
    (allocates ++ arms ++ [.tick 1] ++ serves ++ arms ++ [.service true])
    (fun state => state.words.invocations.any fun invocation =>
      decide (invocation.generation = 2) && decide (3 ∈ invocation.returned))
    fresh_initial (by decide +kernel)
  obtain ⟨invocation, member, late⟩ := List.any_eq_true.mp called
  simp only [Bool.and_eq_true, decide_eq_true_eq] at late
  have ordered := always state reached invocation member 3 late.2
  rw [late.1] at ordered
  exact absurd ordered (by decide)

end Luna.TimerCallback
