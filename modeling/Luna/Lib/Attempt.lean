import Mathlib.Data.List.Basic

/-!
# Code that gives up

An attempt changes a state and says whether it succeeded; what it has done
before it gave up stays done.  `Meets` is the specification of one: from which
states it starts, what holds where it succeeds and what holds where it gave up.
-/

def Attempt (State : Type*) := State → Bool × State

namespace Attempt

variable {State Index : Type*}

/-- A change that cannot fail. -/
def always (change : State → State) : Attempt State := fun state => (true, change state)

/-- Give up before doing anything unless `check` holds. -/
def require (check : State → Bool) : Attempt State := fun state => (check state, state)

/-- Go on only after a success. -/
def andThen (first second : Attempt State) : Attempt State := fun state =>
  match first state with
  | (true, middle) => second middle
  | (false, middle) => (false, middle)

/-- Clean up after a failure, and still fail. -/
def orUndo (attempt : Attempt State) (undo : State → State) : Attempt State := fun state =>
  match attempt state with
  | (true, middle) => (true, middle)
  | (false, middle) => (false, undo middle)

/-- A loop that stops at the first failure. -/
def forEach (body : Index → Attempt State) : List Index → Attempt State
  | [] => always id
  | index :: rest => (body index).andThen (forEach body rest)

def Meets (before : State → Prop) (attempt : Attempt State) (success failure : State → Prop) :
    Prop :=
  ∀ state, before state → ((attempt state).1 = true → success (attempt state).2) ∧
    ((attempt state).1 = false → failure (attempt state).2)

section Rules

variable {before success failure : State → Prop} {first second attempt : Attempt State}

theorem Meets.weaken {stronger weaker : State → Prop} (meets : Meets before attempt success failure)
    (pre : ∀ state, stronger state → before state) (post : ∀ state, success state → weaker state) :
    Meets stronger attempt weaker failure := by
  intro state holds
  have outcome := meets state (pre state holds)
  exact ⟨fun succeeded => post _ (outcome.1 succeeded), outcome.2⟩

theorem meets_always {change : State → State}
    (changed : ∀ state, before state → success (change state)) :
    Meets before (always change) success failure :=
  fun state holds => ⟨fun _ => changed state holds, nofun⟩

theorem meets_require {check : State → Bool} (refused : ∀ state, before state → failure state) :
    Meets before (require check) before failure :=
  fun state holds => ⟨fun _ => holds, fun _ => refused state holds⟩

theorem Meets.andThen (middle : State → Prop) (firstMeets : Meets before first middle failure)
    (secondMeets : Meets middle second success failure) :
    Meets before (first.andThen second) success failure := by
  intro state holds
  have outcome := firstMeets state holds
  unfold Attempt.andThen
  generalize first state = result at outcome ⊢
  obtain ⟨succeeded, reached⟩ := result
  cases succeeded with
  | true => exact secondMeets reached (outcome.1 rfl)
  | false => exact ⟨nofun, fun _ => outcome.2 rfl⟩

theorem Meets.orUndo {undo : State → State} (gaveUp : State → Prop)
    (meets : Meets before attempt success gaveUp)
    (undone : ∀ state, gaveUp state → failure (undo state)) :
    Meets before (attempt.orUndo undo) success failure := by
  intro state holds
  have outcome := meets state holds
  unfold Attempt.orUndo
  generalize attempt state = result at outcome ⊢
  obtain ⟨succeeded, reached⟩ := result
  cases succeeded with
  | true => exact ⟨fun _ => outcome.1 rfl, nofun⟩
  | false => exact ⟨nofun, fun _ => undone _ (outcome.2 rfl)⟩

/-- What an attempt keeps whichever way it ends. -/
theorem Meets.either (meets : Meets before attempt success success) {state : State}
    (holds : before state) : success (attempt state).2 := by
  have outcome := meets state holds
  cases succeeded : (attempt state).1 with
  | true => exact outcome.1 succeeded
  | false => exact outcome.2 succeeded

/-- The loop rule: `progress` is indexed by what is still to be done. -/
theorem meets_forEach {body : Index → Attempt State} (progress : List Index → State → Prop)
    (step : ∀ index rest,
      Meets (progress (index :: rest)) (body index) (progress rest) failure)
    (indices : List Index) :
    Meets (progress indices) (forEach body indices) (progress []) failure := by
  induction indices with
  | nil => exact meets_always fun _ holds => holds
  | cons index rest inductionHypothesis => exact Meets.andThen _ (step index rest) inductionHypothesis

end Rules

section Frames

variable {View : Type*} {view : State → View} {first second attempt : Attempt State}

/-- The attempt does not change what `view` sees, whether or not it succeeds. -/
def Keeps (view : State → View) (attempt : Attempt State) : Prop :=
  ∀ state, view (attempt state).2 = view state

theorem Keeps.andThen (firstKeeps : Keeps view first) (secondKeeps : Keeps view second) :
    Keeps view (first.andThen second) := by
  intro state
  have kept := firstKeeps state
  unfold Attempt.andThen
  generalize first state = result at kept ⊢
  obtain ⟨succeeded, reached⟩ := result
  cases succeeded with
  | true => exact (secondKeeps reached).trans kept
  | false => exact kept

theorem Keeps.orUndo {undo : State → State} (keeps : Keeps view attempt)
    (undone : ∀ state, view (undo state) = view state) : Keeps view (attempt.orUndo undo) := by
  intro state
  have kept := keeps state
  unfold Attempt.orUndo
  generalize attempt state = result at kept ⊢
  obtain ⟨succeeded, reached⟩ := result
  cases succeeded with
  | true => exact kept
  | false => exact (undone reached).trans kept

theorem keeps_forEach {body : Index → Attempt State} (keeps : ∀ index, Keeps view (body index))
    (indices : List Index) : Keeps view (forEach body indices) := by
  induction indices with
  | nil => exact fun _ => rfl
  | cons index rest inductionHypothesis => exact (keeps index).andThen inductionHypothesis

/-- The frame rule. -/
theorem Meets.frame {before success failure : State → Prop} (seen : View → Prop)
    (meets : Meets before attempt success failure) (keeps : Keeps view attempt) :
    Meets (fun state => before state ∧ seen (view state)) attempt
      (fun state => success state ∧ seen (view state)) failure := by
  intro state holds
  have outcome := meets state holds.1
  refine ⟨fun succeeded => ⟨outcome.1 succeeded, ?_⟩, outcome.2⟩
  rw [keeps state]
  exact holds.2

end Frames

end Attempt
