import Luna.Lib.Tally

/-!
# Slots behind a counting semaphore

Agents take a token and then look through the slots from the first to the last, taking the
first one they find free.  A slot is freed before its token is given back.  Freed slots may
lie behind an agent that looks, and others may be taken ahead of it; still every agent that
looks finds one, because for every position there are at least as many free slots at or
after it as agents that have got that far.
-/

namespace SlotPool

/-- What an agent does: nothing with the pool, it looks at a position, or it has freed a
slot and owes the token. -/
inductive Phase where
  | out
  | looking (position : Nat)
  | freed
  deriving DecidableEq, Repr

@[ext]
structure Pool (count : Nat) (Agent : Type*) where
  free : Fin count → Bool
  tokens : Nat
  phase : Agent → Phase

variable {count : Nat} {Agent : Type*}

/-- The steps of an agent; a token given back may get lost. -/
inductive Move [DecidableEq Agent] : Pool count Agent → Pool count Agent → Prop
  | down {pool : Pool count Agent} (agent : Agent) : pool.phase agent = .out →
      pool.tokens ≠ 0 → Move pool
        { pool with
          tokens := pool.tokens - 1
          phase := Function.update pool.phase agent (.looking 0) }
  | pass {pool : Pool count Agent} (agent : Agent) (slot : Fin count) :
      pool.phase agent = .looking slot.val → pool.free slot = false → Move pool
        { pool with phase := Function.update pool.phase agent (.looking (slot.val + 1)) }
  | take {pool : Pool count Agent} (agent : Agent) (slot : Fin count) :
      pool.phase agent = .looking slot.val → pool.free slot = true → Move pool
        { pool with
          free := Function.update pool.free slot false
          phase := Function.update pool.phase agent .out }
  | leave {pool : Pool count Agent} (agent : Agent) (position tokens : Nat) :
      pool.phase agent = .looking position → count ≤ position → Move pool
        { pool with
          tokens := tokens
          phase := Function.update pool.phase agent .out }
  | release {pool : Pool count Agent} (agent : Agent) (slot : Fin count) :
      pool.phase agent = .out → pool.free slot = false → Move pool
        { pool with
          free := Function.update pool.free slot true
          phase := Function.update pool.phase agent .freed }
  | up {pool : Pool count Agent} (agent : Agent) (tokens : Nat) :
      pool.phase agent = .freed → tokens ≤ pool.tokens + 1 → Move pool
        { pool with
          tokens := tokens
          phase := Function.update pool.phase agent .out }

/-- The agent has got at least that far. -/
def Phase.lookingFrom (position : Nat) : Phase → Nat
  | .looking reached => if position ≤ reached then 1 else 0
  | _ => 0

def Phase.owing : Phase → Nat
  | .freed => 1
  | _ => 0

/-- The free slots from a position on. -/
def freeFrom (position : Nat) (free : Fin count → Bool) : Nat :=
  Tally.total id fun slot => if position ≤ slot.val ∧ free slot = true then 1 else 0

theorem freeFrom_update (free : Fin count → Bool) (position : Nat) (slot : Fin count) (value : Bool) :
    freeFrom position (Function.update free slot value) +
        (if position ≤ slot.val ∧ free slot = true then 1 else 0) =
      freeFrom position free + if position ≤ slot.val ∧ value = true then 1 else 0 := by
  let marked (table : Fin count → Bool) (slot : Fin count) : Nat :=
    if position ≤ slot.val ∧ table slot = true then 1 else 0
  have table : marked (Function.update free slot value) = Function.update (marked free) slot
      (if position ≤ slot.val ∧ value = true then 1 else 0) := by
    funext other
    by_cases same : other = slot
    · subst same
      simp [marked]
    · simp [marked, Function.update_of_ne same]
  have updated := Tally.total_update id (marked free) slot
    (if position ≤ slot.val ∧ value = true then 1 else 0)
  rw [← table] at updated
  exact updated

theorem freeFrom_succ {free : Fin count → Bool} {slot : Fin count} (used : free slot = false) :
    freeFrom slot.val free = freeFrom (slot.val + 1) free := by
  unfold freeFrom
  congr 1
  funext other
  by_cases same : other = slot
  · subst same
    simp [used]
  · have apart : other.val ≠ slot.val := fun equal => same (Fin.ext equal)
    have shifted : slot.val ≤ other.val ↔ slot.val + 1 ≤ other.val := by omega
    simp only [shifted]

theorem exists_free {free : Fin count → Bool} {position : Nat} (some : 0 < freeFrom position free) :
    ∃ slot : Fin count, position ≤ slot.val ∧ free slot = true := by
  by_contra none
  refine absurd ((Tally.total_eq_zero_iff id _).mpr fun slot => ?_) (Nat.ne_of_gt some)
  exact if_neg fun both => none ⟨slot, both⟩

variable [Fintype Agent]

/-- Tokens, agents that look and tokens owed are covered by free slots, and so are, for
every position, the agents that have got that far. -/
structure Backed (pool : Pool count Agent) : Prop where
  tokens : pool.tokens + Tally.total (Phase.lookingFrom 0) pool.phase +
    Tally.total Phase.owing pool.phase ≤ freeFrom 0 pool.free
  ahead : ∀ position,
    Tally.total (Phase.lookingFrom position) pool.phase ≤ freeFrom position pool.free

variable {pool target : Pool count Agent}

theorem looking_anti (phases : Agent → Phase) {position further : Nat}
    (later : position ≤ further) :
    Tally.total (Phase.lookingFrom further) phases ≤
      Tally.total (Phase.lookingFrom position) phases := by
  refine Finset.sum_le_sum fun agent _ => ?_
  cases phases agent with
  | looking reached =>
      simp only [Phase.lookingFrom]
      split <;> split <;> omega
  | out => exact Nat.le_refl 0
  | freed => exact Nat.le_refl 0

theorem Phase.lookingFrom_looking (position reached : Nat) :
    (Phase.looking reached).lookingFrom position = if position ≤ reached then 1 else 0 := rfl

theorem Phase.lookingFrom_out (position : Nat) : Phase.out.lookingFrom position = 0 := rfl

theorem Phase.lookingFrom_freed (position : Nat) : Phase.freed.lookingFrom position = 0 := rfl

/-- An agent that looks has a free slot at or after its position. -/
theorem Backed.finds (backed : Backed pool) {agent : Agent} {position : Nat}
    (before : pool.phase agent = .looking position) :
    ∃ slot : Fin count, position ≤ slot.val ∧ pool.free slot = true := by
  have one := Tally.le_total (Phase.lookingFrom position) pool.phase agent
  rw [before, Phase.lookingFrom_looking, if_pos (Nat.le_refl _)] at one
  have ahead := backed.ahead position
  exact exists_free (by omega)

/-- A pool with a token for each slot, all free, and nobody at it. -/
theorem Backed.fresh (free : ∀ slot, pool.free slot = true) (tokens : pool.tokens = count)
    (out : ∀ agent, pool.phase agent = .out) : Backed pool := by
  have nobody (position : Nat) : Tally.total (Phase.lookingFrom position) pool.phase = 0 := by
    refine (Tally.total_eq_zero_iff _ _).mpr fun agent => ?_
    rw [out agent, Phase.lookingFrom_out]
  have noDebt : Tally.total Phase.owing pool.phase = 0 := by
    refine (Tally.total_eq_zero_iff _ _).mpr fun agent => ?_
    rw [out agent]
    rfl
  refine ⟨?_, fun position => ?_⟩
  · have all : freeFrom 0 pool.free = count := by
      unfold freeFrom Tally.total
      simp [free]
    rw [nobody, noDebt, tokens, all]
    exact Nat.le_refl _
  · rw [nobody]
    exact Nat.zero_le _

variable [DecidableEq Agent]

/-- An agent that moves changes the count of a position by its own part. -/
theorem looking_update (phases : Agent → Phase) {agent : Agent} {before : Phase}
    (at_ : phases agent = before) (position : Nat) (phase : Phase) :
    Tally.total (Phase.lookingFrom position) (Function.update phases agent phase) +
        before.lookingFrom position =
      Tally.total (Phase.lookingFrom position) phases + phase.lookingFrom position := by
  rw [← at_]
  exact Tally.total_update _ _ _ _

theorem owing_update (phases : Agent → Phase) {agent : Agent} {before : Phase}
    (at_ : phases agent = before) (phase : Phase) :
    Tally.total Phase.owing (Function.update phases agent phase) + before.owing =
      Tally.total Phase.owing phases + phase.owing := by
  rw [← at_]
  exact Tally.total_update _ _ _ _

/-- Past a slot that is used there are as many free slots as at it, and one agent more may
have got there. -/
theorem Backed.pass (backed : Backed pool) {agent : Agent} {slot : Fin count}
    (before : pool.phase agent = .looking slot.val) (used : pool.free slot = false) :
    Tally.total (Phase.lookingFrom (slot.val + 1)) pool.phase + 1 ≤
      freeFrom (slot.val + 1) pool.free := by
  have here := looking_update pool.phase before slot.val .out
  have next := looking_update pool.phase before (slot.val + 1) .out
  rw [Phase.lookingFrom_looking, Phase.lookingFrom_out] at here next
  rw [if_pos (Nat.le_refl _)] at here
  rw [if_neg (Nat.not_succ_le_self _)] at next
  have fewer := looking_anti (Function.update pool.phase agent .out)
    (show slot.val ≤ slot.val + 1 by omega)
  have ahead := backed.ahead slot.val
  rw [freeFrom_succ used] at ahead
  omega

/-- Every step keeps the free slots ahead of the agents that look. -/
theorem Move.backed (move : Move pool target) (backed : Backed pool) : Backed target := by
  have tokens := backed.tokens
  cases move with
  | down agent before some =>
      have owing := owing_update pool.phase before (.looking 0)
      have looking := fun position => looking_update pool.phase before position (.looking 0)
      simp only [Phase.lookingFrom_looking, Phase.lookingFrom_out, Phase.owing] at looking owing
      have first := looking 0
      rw [if_pos (Nat.le_refl 0)] at first
      refine ⟨?_, fun position => ?_⟩
      · dsimp only
        omega
      · have ahead := backed.ahead position
        have each := looking position
        dsimp only
        rcases Nat.eq_zero_or_pos position with zero | positive
        · subst zero
          omega
        · rw [if_neg (Nat.not_le.mpr positive)] at each
          omega
  | pass agent slot before used =>
      have owing := owing_update pool.phase before (.looking (slot.val + 1))
      have looking := fun position =>
        looking_update pool.phase before position (.looking (slot.val + 1))
      simp only [Phase.lookingFrom_looking, Phase.owing] at looking owing
      have first := looking 0
      rw [if_pos (Nat.zero_le _), if_pos (Nat.zero_le _)] at first
      refine ⟨?_, fun position => ?_⟩
      · dsimp only
        omega
      · have ahead := backed.ahead position
        have each := looking position
        dsimp only
        by_cases next : position = slot.val + 1
        · have room := backed.pass before used
          rw [next] at each ⊢
          rw [if_neg (Nat.not_succ_le_self _), if_pos (Nat.le_refl _)] at each
          omega
        · split at each <;> split at each <;> omega
  | take agent slot before isFree =>
      have owing := owing_update pool.phase before .out
      have looking := fun position => looking_update pool.phase before position .out
      have free := fun position => freeFrom_update pool.free position slot false
      simp only [Phase.lookingFrom_looking, Phase.lookingFrom_out, Phase.owing] at looking owing
      simp only [isFree, and_true, Bool.false_eq_true, and_false, if_false] at free
      have first := looking 0
      have firstFree := free 0
      rw [if_pos (Nat.zero_le _)] at first firstFree
      refine ⟨?_, fun position => ?_⟩
      · dsimp only
        omega
      · have ahead := backed.ahead position
        have each := looking position
        have eachFree := free position
        dsimp only
        split at each
        next reached =>
          rw [if_pos reached] at eachFree
          omega
        next behind =>
          rw [if_neg behind] at eachFree
          omega
  | leave agent position tokens before beyond =>
      obtain ⟨slot, after, -⟩ := backed.finds before
      have inside := slot.isLt
      omega
  | release agent slot before used =>
      have owing := owing_update pool.phase before .freed
      have looking := fun position => looking_update pool.phase before position .freed
      have free := fun position => freeFrom_update pool.free position slot true
      simp only [Phase.lookingFrom_freed, Phase.lookingFrom_out, Phase.owing] at looking owing
      simp only [used, and_true, Bool.false_eq_true, and_false, if_false] at free
      have first := looking 0
      have firstFree := free 0
      rw [if_pos (Nat.zero_le _)] at firstFree
      refine ⟨?_, fun position => ?_⟩
      · dsimp only
        omega
      · have ahead := backed.ahead position
        have each := looking position
        have eachFree := free position
        dsimp only
        omega
  | up agent tokens before few =>
      have owing := owing_update pool.phase before .out
      have looking := fun position => looking_update pool.phase before position .out
      simp only [Phase.lookingFrom_freed, Phase.lookingFrom_out, Phase.owing] at looking owing
      have first := looking 0
      refine ⟨?_, fun position => ?_⟩
      · dsimp only
        omega
      · have ahead := backed.ahead position
        have each := looking position
        dsimp only
        omega

end SlotPool
