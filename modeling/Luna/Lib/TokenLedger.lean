import Luna.Lib.Tally

/-!
# Space counted twice

A buffer whose free slots are also counted by a semaphore.  An agent takes a token and then
looks at a flag: while the flag is down it is let in and may put something into the buffer,
otherwise it gives the token back.  Slots that the consumer has emptied get their tokens
back later.  While the flag is down no token is lost (`accounted`).  Once it is up tokens
may be added at will, but nobody is let in any more, so the agents that were still find
room.
-/

namespace TokenLedger

/-- An agent has no token, has one, or has one and was let in. -/
inductive Standing where
  | outside
  | holding
  | admitted
  deriving DecidableEq, Repr

@[ext]
structure Ledger (Agent : Type*) where
  tokens : Nat
  filled : Nat
  emptied : Nat
  broken : Bool
  standing : Agent → Standing

variable {Agent : Type*} {capacity : Nat}

inductive Move [DecidableEq Agent] : Ledger Agent → Ledger Agent → Prop
  | stay {ledger : Ledger Agent} : Move ledger ledger
  | take {ledger : Ledger Agent} (agent : Agent) : ledger.standing agent = .outside →
      ledger.tokens ≠ 0 → Move ledger
        { ledger with
          tokens := ledger.tokens - 1
          standing := Function.update ledger.standing agent .holding }
  | letIn {ledger : Ledger Agent} (agent : Agent) : ledger.standing agent = .holding →
      ledger.broken = false → Move ledger
        { ledger with standing := Function.update ledger.standing agent .admitted }
  | dismiss {ledger : Ledger Agent} (agent : Agent) : ledger.standing agent = .admitted →
      Move ledger { ledger with standing := Function.update ledger.standing agent .holding }
  | giveBack {ledger : Ledger Agent} (agent : Agent) : ledger.standing agent = .holding →
      Move ledger
        { ledger with
          tokens := ledger.tokens + 1
          standing := Function.update ledger.standing agent .outside }
  | put {ledger : Ledger Agent} (agent : Agent) : ledger.standing agent = .admitted →
      Move ledger
        { ledger with
          filled := ledger.filled + 1
          standing := Function.update ledger.standing agent .outside }
  | remove {ledger : Ledger Agent} : ledger.filled ≠ 0 → Move ledger
        { ledger with filled := ledger.filled - 1, emptied := ledger.emptied + 1 }
  | restore {ledger : Ledger Agent} : ledger.emptied ≠ 0 → Move ledger
        { ledger with tokens := ledger.tokens + 1, emptied := ledger.emptied - 1 }
  | fail {ledger : Ledger Agent} : Move ledger { ledger with broken := true }
  | flood {ledger : Ledger Agent} : ledger.broken = true → Move ledger
        { ledger with tokens := ledger.tokens + 1 }

section Outside

variable [DecidableEq Agent] {ledger : Ledger Agent} {agent : Agent} {standing : Standing}

/-- An agent that moves without a change of standing. -/
theorem Move.still (same : ledger.standing agent = standing) : Move ledger
    { ledger with standing := Function.update ledger.standing agent standing } := by
  rw [← same, Function.update_eq_self]
  exact .stay

theorem Move.failAt (agent : Agent) (same : ledger.standing agent = standing) : Move ledger
    { ledger with
      broken := true
      standing := Function.update ledger.standing agent standing } := by
  rw [← same, Function.update_eq_self]
  exact .fail

theorem Move.floodAt (agent : Agent) (same : ledger.standing agent = standing)
    (broken : ledger.broken = true) : Move ledger
      { ledger with
        tokens := ledger.tokens + 1
        standing := Function.update ledger.standing agent standing } := by
  rw [← same, Function.update_eq_self]
  exact .flood broken

end Outside

/-- Tokens that an agent has. -/
def Standing.held : Standing → Nat
  | .outside => 0
  | .holding | .admitted => 1

/-- Slots that an agent may still fill. -/
def Standing.claim : Standing → Nat
  | .outside | .holding => 0
  | .admitted => 1

variable [Fintype Agent]

structure Balanced (capacity : Nat) (ledger : Ledger Agent) : Prop where
  accounted : ledger.broken = false → ledger.tokens + ledger.filled +
    Tally.total Standing.held ledger.standing + ledger.emptied = capacity
  room : ledger.filled + Tally.total Standing.claim ledger.standing ≤ capacity

variable {ledger target : Ledger Agent}

theorem claims_le_held (standing : Agent → Standing) :
    Tally.total Standing.claim standing ≤ Tally.total Standing.held standing := by
  refine Finset.sum_le_sum fun agent _ => ?_
  cases standing agent <;> simp [Standing.claim, Standing.held]

/-- An agent that was let in finds a free slot. -/
theorem Balanced.finds_room (balanced : Balanced capacity ledger) {agent : Agent}
    (admitted : ledger.standing agent = .admitted) : ledger.filled < capacity := by
  have one := Tally.le_total Standing.claim ledger.standing agent
  rw [admitted] at one
  have room := balanced.room
  simp only [Standing.claim] at one
  omega

/-- A token for every slot, an empty buffer and nobody at it. -/
theorem Balanced.fresh (tokens : ledger.tokens = capacity) (filled : ledger.filled = 0)
    (emptied : ledger.emptied = 0) (outside : ∀ agent, ledger.standing agent = .outside) :
    Balanced capacity ledger := by
  have held : Tally.total Standing.held ledger.standing = 0 := by
    refine (Tally.total_eq_zero_iff _ _).mpr fun agent => ?_
    rw [outside agent]
    rfl
  have claims := claims_le_held ledger.standing
  refine ⟨fun _ => ?_, ?_⟩
  · omega
  · omega

section Moves

variable [DecidableEq Agent]

theorem held_update (standing : Agent → Standing) {agent : Agent} {before : Standing}
    (at_ : standing agent = before) (after : Standing) :
    Tally.total Standing.held (Function.update standing agent after) + before.held =
      Tally.total Standing.held standing + after.held := by
  rw [← at_]
  exact Tally.total_update _ _ _ _

theorem claim_update (standing : Agent → Standing) {agent : Agent} {before : Standing}
    (at_ : standing agent = before) (after : Standing) :
    Tally.total Standing.claim (Function.update standing agent after) + before.claim =
      Tally.total Standing.claim standing + after.claim := by
  rw [← at_]
  exact Tally.total_update _ _ _ _

/-- What an agent gives up in tokens it has, it leaves in the semaphore or in the buffer. -/
theorem Balanced.pass (balanced : Balanced capacity ledger) {agent : Agent}
    {before after : Standing} {tokens filled : Nat} (at_ : ledger.standing agent = before)
    (kept : tokens + filled + after.held = ledger.tokens + ledger.filled + before.held)
    (within : filled + after.claim ≤ ledger.filled + before.claim) : Balanced capacity
      { ledger with
        tokens := tokens
        filled := filled
        standing := Function.update ledger.standing agent after } := by
  have held := held_update ledger.standing at_ after
  have claim := claim_update ledger.standing at_ after
  have room := balanced.room
  refine ⟨fun intact => ?_, ?_⟩
  · have accounted := balanced.accounted intact
    dsimp only
    omega
  · dsimp only
    omega

/-- While the flag is down every token is somewhere, so there is room for one agent more. -/
theorem Balanced.letIn (balanced : Balanced capacity ledger) {agent : Agent}
    (before : ledger.standing agent = .holding) (intact : ledger.broken = false) :
    Balanced capacity
      { ledger with standing := Function.update ledger.standing agent .admitted } := by
  have held := held_update ledger.standing before .admitted
  have claims := claims_le_held (Function.update ledger.standing agent .admitted)
  have accounted := balanced.accounted intact
  simp only [Standing.held] at held
  refine ⟨fun _ => ?_, ?_⟩
  · dsimp only
    omega
  · dsimp only
    omega

/-- Every step keeps the tokens accounted for and room for those who were let in. -/
theorem Move.balanced (move : Move ledger target) (balanced : Balanced capacity ledger) :
    Balanced capacity target := by
  cases move with
  | stay => exact balanced
  | take agent before some =>
      refine balanced.pass before ?_ (Nat.le_refl _)
      simp only [Standing.held]
      omega
  | letIn agent before intact => exact balanced.letIn before intact
  | dismiss agent before => exact balanced.pass before rfl (Nat.le_succ _)
  | giveBack agent before =>
      refine balanced.pass before ?_ (Nat.le_refl _)
      simp only [Standing.held]
      omega
  | put agent before => exact balanced.pass before rfl (Nat.le_refl _)
  | remove some =>
      have room := balanced.room
      refine ⟨fun intact => ?_, ?_⟩
      · have accounted := balanced.accounted intact
        dsimp only
        omega
      · dsimp only
        omega
  | restore some =>
      refine ⟨fun intact => ?_, balanced.room⟩
      have accounted := balanced.accounted intact
      dsimp only
      omega
  | fail => exact ⟨fun intact => absurd intact (by simp), balanced.room⟩
  | flood broken =>
      refine ⟨fun intact => ?_, balanced.room⟩
      rw [broken] at intact
      cases intact

end Moves

end TokenLedger
