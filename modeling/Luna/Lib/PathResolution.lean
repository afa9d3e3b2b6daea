import Mathlib.Data.List.Infix
import Mathlib.Logic.Relation

/-!
# Path resolution

A path is a list of parts that is walked one part at a time; a symbolic link puts the
parts of its target in front of the others.  The walk does not look at the place it
leaves.  A checked walk does: every place it leaves is a directory.
-/

namespace PathResolution

open Relation

universe u

inductive Segment (Name : Type u) where
  | self
  | parent
  | name (name : Name)
  deriving DecidableEq, Repr

inductive Node (Name : Type u) where
  | directory
  | file
  | link (absolute : Bool) (target : List (Segment Name))
  deriving DecidableEq, Repr

def Node.IsLink {Name : Type u} : Node Name → Prop
  | .link _ _ => True
  | _ => False

/-- Where the walk is, what is left and how many links it followed. -/
structure Config (Name : Type u) where
  place : List Name
  parts : List (Segment Name)
  links : Nat
  deriving DecidableEq, Repr

variable {Name : Type u}

def arrive (place : List Name) (name : Name) (rest : List (Segment Name)) (links : Nat) :
    Node Name → Config Name
  | .link absolute target => ⟨if absolute then [] else place, target ++ rest, links + 1⟩
  | _ => ⟨place ++ [name], rest, links⟩

/-- One part of the walk over the tree `nodes`. -/
def advance (nodes : List Name → Option (Node Name)) : Config Name → Option (Config Name)
  | ⟨_, [], _⟩ => none
  | ⟨place, .self :: rest, links⟩ => some ⟨place, rest, links⟩
  | ⟨place, .parent :: rest, links⟩ => some ⟨place.dropLast, rest, links⟩
  | ⟨place, .name name :: rest, links⟩ =>
      (nodes (place ++ [name])).map (arrive place name rest links)

def Walks (nodes : List Name → Option (Node Name)) : Config Name → Config Name → Prop :=
  ReflTransGen fun before after => advance nodes before = some after

/-- The place is a directory. -/
def Checked (nodes : List Name → Option (Node Name)) (config : Config Name) : Prop :=
  nodes config.place = some .directory

def WalksChecked (nodes : List Name → Option (Node Name)) :
    Config Name → Config Name → Prop :=
  ReflTransGen fun before after => Checked nodes before ∧ advance nodes before = some after

variable {nodes : List Name → Option (Node Name)}

theorem advance_name (place : List Name) (name : Name) (rest : List (Segment Name)) (links : Nat) :
    advance nodes ⟨place, .name name :: rest, links⟩ =
      (nodes (place ++ [name])).map (arrive place name rest links) :=
  rfl

theorem WalksChecked.walks {start finish : Config Name}
    (walks : WalksChecked nodes start finish) : Walks nodes start finish :=
  ReflTransGen.mono (fun _ _ step => step.2) _ _ walks

theorem advance_ended {config : Config Name} (ended : config.parts = []) :
    advance nodes config = none := by
  obtain ⟨place, parts, links⟩ := config
  cases ended
  rfl

/-- A walk from an end goes nowhere. -/
theorem Walks.eq_of_ended {start finish : Config Name} (walks : Walks nodes start finish)
    (ended : start.parts = []) : start = finish := by
  cases walks.cases_head with
  | inl same => exact same
  | inr step =>
      obtain ⟨next, advanced, -⟩ := step
      rw [advance_ended ended] at advanced
      cases advanced

/-- A walk that ends is the only one. -/
theorem Walks.continues {start config finish : Config Name}
    (walks : Walks nodes start finish) (ended : finish.parts = [])
    (toward : Walks nodes start config) : Walks nodes config finish := by
  have unique : Relator.RightUnique fun before after : Config Name =>
      advance nodes before = some after := by
    intro before first second one two
    exact Option.some.inj (one.symm.trans two)
  rcases ReflTransGen.total_of_right_unique unique walks toward with further | further
  · rw [Walks.eq_of_ended further ended]
    exact .refl
  · exact further

/-- A walk can be made checked exactly when every place it leaves is a directory. -/
theorem walksChecked_iff {start finish : Config Name} (walks : Walks nodes start finish)
    (ended : finish.parts = []) :
    WalksChecked nodes start finish ↔
      ∀ config, Walks nodes start config → config.parts ≠ [] → Checked nodes config := by
  constructor
  · intro checked config toward unfinished
    induction checked using ReflTransGen.head_induction_on generalizing config with
    | refl =>
        rw [← Walks.eq_of_ended toward ended] at unfinished
        exact absurd ended unfinished
    | head step rest inductionHypothesis =>
        cases toward.cases_head with
        | inl same => exact same ▸ step.1
        | inr further =>
            obtain ⟨next, advanced, later⟩ := further
            cases Option.some.inj (step.2.symm.trans advanced)
            exact inductionHypothesis (WalksChecked.walks rest) config later unfinished
  · intro all
    induction walks using ReflTransGen.head_induction_on with
    | refl => exact .refl
    | @head before after step rest inductionHypothesis =>
        refine .head ⟨all before .refl fun nothing => ?_, step⟩
          (inductionHypothesis fun config toward => all config (.head step toward))
        rw [advance_ended nothing] at step
        cases step

/-! ## What a walk keeps -/

/-- The place is one that a walk comes to: what is on the way to it exists and is no
link. -/
def Standing (nodes : List Name → Option (Node Name)) (place : List Name) : Prop :=
  ∀ before, before <+: place → before ≠ [] → ∃ node, nodes before = some node ∧ ¬ node.IsLink

theorem standing_root : Standing nodes [] :=
  fun _ ahead nonempty => absurd (List.prefix_nil.mp ahead) nonempty

theorem Standing.up {place : List Name} (standing : Standing nodes place) :
    Standing nodes place.dropLast :=
  fun before ahead => standing before (ahead.trans place.dropLast_prefix)

theorem Standing.down {place : List Name} {name : Name} {node : Node Name}
    (standing : Standing nodes place) (found : nodes (place ++ [name]) = some node)
    (plain : ¬ node.IsLink) : Standing nodes (place ++ [name]) := by
  intro before ahead nonempty
  rcases List.prefix_concat_iff.mp ahead with whole | earlier
  · rw [whole]
    exact ⟨node, found, plain⟩
  · exact standing before earlier nonempty

theorem Standing.advance {before after : Config Name} (standing : Standing nodes before.place)
    (step : advance nodes before = some after) : Standing nodes after.place := by
  obtain ⟨place, parts, links⟩ := before
  match parts, step with
  | .self :: rest, rfl => exact standing
  | .parent :: rest, rfl => exact standing.up
  | .name name :: rest, step =>
      obtain ⟨node, found, rfl⟩ := Option.map_eq_some_iff.mp step
      match node, found with
      | .link true target, found => exact standing_root
      | .link false target, found => exact standing
      | .directory, found => exact standing.down found id
      | .file, found => exact standing.down found id

theorem Walks.standing {start finish : Config Name} (walks : Walks nodes start finish)
    (standing : Standing nodes start.place) : Standing nodes finish.place := by
  induction walks with
  | refl => exact standing
  | tail _ step inductionHypothesis => exact inductionHypothesis.advance step

/-! ## Parts that stay where they are -/

variable [DecidableEq Name]

/-- The parts other than `self`. -/
def significant (parts : List (Segment Name)) : List (Segment Name) :=
  parts.filter (· ≠ .self)

@[simp] theorem significant_append (first second : List (Segment Name)) :
    significant (first ++ second) = significant first ++ significant second :=
  List.filter_append ..

@[simp] theorem significant_self (rest : List (Segment Name)) :
    significant (.self :: rest) = significant rest :=
  List.filter_cons_of_neg (by simp)

theorem significant_cons {part : Segment Name} (moves : part ≠ .self) (rest : List (Segment Name)) :
    significant (part :: rest) = part :: significant rest :=
  List.filter_cons_of_pos (by simpa using moves)

/-- A walk passes what stays where it is. -/
theorem walks_significant (nodes : List Name → Option (Node Name)) (place : List Name)
    (links : Nat) (parts : List (Segment Name)) :
    ∃ rest, Walks nodes ⟨place, parts, links⟩ ⟨place, rest, links⟩ ∧
      significant rest = significant parts ∧ rest.head? ≠ some .self := by
  induction parts with
  | nil => exact ⟨[], .refl, rfl, nofun⟩
  | cons part parts inductionHypothesis =>
      cases part with
      | self =>
          obtain ⟨rest, walks, same, moves⟩ := inductionHypothesis
          exact ⟨rest, .head rfl walks, by rw [same, significant_self], moves⟩
      | parent => exact ⟨_, .refl, rfl, by simp⟩
      | name name => exact ⟨_, .refl, rfl, by simp⟩

theorem walks_cons (nodes : List Name → Option (Node Name)) (place : List Name) (links : Nat)
    {parts rest : List (Segment Name)} {part : Segment Name} (same : significant parts = part :: rest) :
    ∃ later, Walks nodes ⟨place, parts, links⟩ ⟨place, part :: later, links⟩ ∧
      significant later = rest := by
  obtain ⟨later, walks, kept, moves⟩ := walks_significant nodes place links parts
  rw [same] at kept
  cases later with
  | nil => cases kept
  | cons head later =>
      have moving : head ≠ .self := fun self => moves (congrArg some self)
      rw [significant_cons moving] at kept
      obtain ⟨rfl, rfl⟩ := List.cons.inj kept
      exact ⟨later, walks, rfl⟩

theorem walks_nil {place : List Name} {links : Nat} {parts : List (Segment Name)}
    (same : significant parts = []) :
    Walks nodes ⟨place, parts, links⟩ ⟨place, [], links⟩ := by
  obtain ⟨later, walks, kept, moves⟩ := walks_significant nodes place links parts
  rw [same] at kept
  cases later with
  | nil => exact walks
  | cons head later =>
      have moving : head ≠ .self := fun self => moves (congrArg some self)
      rw [significant_cons moving] at kept
      cases kept

end PathResolution
