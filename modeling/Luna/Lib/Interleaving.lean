import Mathlib.Data.List.Basic
import Mathlib.Logic.Relation

/-!
# Interleaved systems

A system is a set of initial states and a partial step function.  Everything a
run can choose (which thread moves, what the environment answers) is carried
by the action, so a run is determined by its list of actions.  Invariants are
stated over the states reachable by steps that all meet a guard; the guard
`fun _ _ => True` gives every interleaving.
-/

namespace Interleaving

universe u v

/-- States, actions and the step each action makes, when it is enabled. -/
structure System (State : Type u) (Action : Type v) where
  init : State → Prop
  next : State → Action → Option State

namespace System

variable {State : Type u} {Action : Type v} (system : System State Action)

/-- States reached by runs whose every step meets `guard` in the state it
leaves. -/
inductive Reach (guard : State → Action → Prop) : State → Prop
  | init {state} : system.init state → Reach guard state
  | step {state action target} : Reach guard state → guard state action →
      system.next state action = some target → Reach guard target

/-- States reached by any interleaving. -/
def Reachable (state : State) : Prop := system.Reach (fun _ _ => True) state

variable {system}

/-- The invariant rule: what holds initially and across every guarded step
holds in every state a guarded run reaches. -/
theorem Reach.invariant {guard : State → Action → Prop} (inv : State → Prop)
    (initial : ∀ state, system.init state → inv state)
    (preserved : ∀ state action target, inv state → guard state action →
      system.next state action = some target → inv target)
    {state : State} (reached : system.Reach guard state) : inv state := by
  induction reached with
  | init start => exact initial _ start
  | step _ meets moved inductionHypothesis =>
      exact preserved _ _ _ inductionHypothesis meets moved

theorem Reach.mono {guard weaker : State → Action → Prop}
    (implies : ∀ state action, guard state action → weaker state action)
    {state : State} (reached : system.Reach guard state) :
    system.Reach weaker state := by
  induction reached with
  | init start => exact .init start
  | step _ meets moved inductionHypothesis =>
      exact .step inductionHypothesis (implies _ _ meets) moved

theorem Reach.reachable {guard : State → Action → Prop} {state : State}
    (reached : system.Reach guard state) : system.Reachable state :=
  reached.mono fun _ _ _ => trivial

theorem Reachable.next {state target : State} (action : Action) (reached : system.Reachable state)
    (moved : system.next state action = some target) : system.Reachable target :=
  .step reached trivial moved

/-- The invariant rule for unrestricted runs. -/
theorem Reachable.invariant (inv : State → Prop)
    (initial : ∀ state, system.init state → inv state)
    (preserved : ∀ state action target, inv state →
      system.next state action = some target → inv target)
    {state : State} (reached : system.Reachable state) : inv state :=
  Reach.invariant inv initial
    (fun _ _ _ holds _ moved => preserved _ _ _ holds moved) reached

variable (system)

/-- A guarded run leads from the first state to the second. -/
def Leads (guard : State → Action → Prop) : State → State → Prop :=
  Relation.ReflTransGen fun state target =>
    ∃ action, guard state action ∧ system.next state action = some target

variable {system}

theorem Leads.next {guard : State → Action → Prop} {state target : State} (action : Action)
    (meets : guard state action) (moved : system.next state action = some target) :
    system.Leads guard state target :=
  .single ⟨action, meets, moved⟩

theorem Leads.invariant {guard : State → Action → Prop} {inv : State → Prop}
    (preserved : ∀ state action target, inv state → guard state action →
      system.next state action = some target → inv target)
    {state target : State} (leads : system.Leads guard state target) (holds : inv state) :
    inv target := by
  induction leads with
  | refl => exact holds
  | tail _ moved inductionHypothesis =>
      obtain ⟨action, meets, moved⟩ := moved
      exact preserved _ _ _ inductionHypothesis meets moved

theorem Reach.leads {guard : State → Action → Prop} {state target : State}
    (reached : system.Reach guard state) (leads : system.Leads guard state target) :
    system.Reach guard target := by
  induction leads with
  | refl => exact reached
  | tail _ moved inductionHypothesis =>
      obtain ⟨action, meets, moved⟩ := moved
      exact .step inductionHypothesis meets moved

variable (system)

/-- Perform a list of actions, or fail at the first one that is not enabled or
does not meet the guard. -/
def exec (guard : State → Action → Prop) [∀ state action, Decidable (guard state action)] :
    State → List Action → Option State
  | state, [] => some state
  | state, action :: rest =>
      if guard state action then
        (system.next state action).bind fun target => exec guard target rest
      else none

variable {system}

theorem Reach.exec {guard : State → Action → Prop}
    [∀ state action, Decidable (guard state action)]
    {state target : State} {actions : List Action} (reached : system.Reach guard state)
    (performed : system.exec guard state actions = some target) :
    system.Reach guard target := by
  induction actions generalizing state with
  | nil =>
      cases performed
      exact reached
  | cons action rest inductionHypothesis =>
      unfold System.exec at performed
      split at performed
      next meets =>
        obtain ⟨middle, moved, remaining⟩ := Option.bind_eq_some_iff.mp performed
        exact inductionHypothesis (.step reached meets moved) remaining
      next refused => cases performed

theorem Leads.exec {guard : State → Action → Prop}
    [∀ state action, Decidable (guard state action)]
    {state target : State} {actions : List Action}
    (performed : system.exec guard state actions = some target) :
    system.Leads guard state target := by
  induction actions generalizing state with
  | nil =>
      cases performed
      exact .refl
  | cons action rest inductionHypothesis =>
      unfold System.exec at performed
      split at performed
      next meets =>
        obtain ⟨middle, moved, remaining⟩ := Option.bind_eq_some_iff.mp performed
        exact (Leads.next action meets moved).trans (inductionHypothesis remaining)
      next refused => cases performed

/-- The invariant rule with a history: what relates the states of a performed run to the
actions performed so far. -/
theorem exec_history {guard : State → Action → Prop}
    [∀ state action, Decidable (guard state action)] (related : State → List Action → Prop)
    (preserved : ∀ state action target history, related state history → guard state action →
      system.next state action = some target → related target (history ++ [action]))
    {state target : State} {history actions : List Action} (holds : related state history)
    (performed : system.exec guard state actions = some target) :
    related target (history ++ actions) := by
  induction actions generalizing state history with
  | nil =>
      cases performed
      simpa using holds
  | cons action rest inductionHypothesis =>
      unfold System.exec at performed
      split at performed
      next meets =>
        obtain ⟨middle, moved, remaining⟩ := Option.bind_eq_some_iff.mp performed
        have middleHolds := preserved _ _ _ _ holds meets moved
        simpa using inductionHypothesis middleHolds remaining
      next refused => cases performed

/-- The actions of a run, each as often as it is repeated. -/
def repeated (script : List (Nat × Action)) : List Action :=
  script.flatMap fun (count, action) => List.replicate count action

/-- A concrete run that ends in a state with `property` exhibits a reachable
state with it. -/
theorem exists_reach_of_exec (system : System State Action) (guard : State → Action → Prop)
    [∀ state action, Decidable (guard state action)] (start : State)
    (actions : List Action) (property : State → Bool) (initial : system.init start)
    (ends : (system.exec guard start actions).map property = some true) :
    ∃ state, system.Reach guard state ∧ property state = true := by
  obtain ⟨state, performed, holds⟩ := Option.map_eq_some_iff.mp ends
  exact ⟨state, Reach.exec (.init initial) performed, holds⟩

theorem exists_leads_of_exec (system : System State Action) (guard : State → Action → Prop)
    [∀ state action, Decidable (guard state action)] (start : State)
    (actions : List Action) (property : State → Bool)
    (ends : (system.exec guard start actions).map property = some true) :
    ∃ state, system.Leads guard start state ∧ property state = true := by
  obtain ⟨state, performed, holds⟩ := Option.map_eq_some_iff.mp ends
  exact ⟨state, Leads.exec performed, holds⟩

end System

end Interleaving
