import Mathlib.Data.Finset.Card
import Mathlib.Order.Interval.Finset.Nat

/-!
# Bitmaps with range fills and first-fit search

`fill` marks or clears a range, `population` counts the marked positions below a
bound, and `findFree` looks for a run of clear positions the way a first-fit
page allocator does, skipping past the position that stopped the last run.
-/

abbrev Bitmap := Nat → Bool

namespace Bitmap

def fill (bitmap : Bitmap) (first count : Nat) (value : Bool) : Bitmap :=
  fun position => if first ≤ position ∧ position < first + count then value else bitmap position

/-- Number of marked positions below `bound`. -/
def population (bound : Nat) (bitmap : Bitmap) : Nat :=
  ((Finset.range bound).filter fun position => bitmap position = true).card

/-- Length of the clear run at `start`, at most the given count. -/
def freeRun (bitmap : Bitmap) (start : Nat) : Nat → Nat
  | 0 => 0
  | count + 1 => if bitmap start then 0 else freeRun bitmap (start + 1) count + 1

/-- The first position from `start` on where `count` positions below `bound` are clear. -/
def findFree (bound : Nat) (bitmap : Bitmap) (count start : Nat) : Option Nat :=
  if start + count ≤ bound then
    let run := freeRun bitmap start count
    if run = count then some start else findFree bound bitmap count (start + run + 1)
  else none
termination_by bound + 1 - start

theorem fill_inside {bitmap : Bitmap} {first count position : Nat} {value : Bool}
    (low : first ≤ position) (high : position < first + count) :
    fill bitmap first count value position = value := by
  simp [fill, low, high]

theorem fill_outside {bitmap : Bitmap} {first count position : Nat} {value : Bool}
    (outside : ¬ (first ≤ position ∧ position < first + count)) :
    fill bitmap first count value position = bitmap position := by
  simp [fill, outside]

@[simp] theorem fill_true_eq_true_iff {bitmap : Bitmap} {first count position : Nat} :
    fill bitmap first count true position = true ↔
      (first ≤ position ∧ position < first + count) ∨ bitmap position = true := by
  by_cases inside : first ≤ position ∧ position < first + count <;> simp [fill, inside]

@[simp] theorem fill_false_eq_true_iff {bitmap : Bitmap} {first count position : Nat} :
    fill bitmap first count false position = true ↔
      ¬ (first ≤ position ∧ position < first + count) ∧ bitmap position = true := by
  by_cases inside : first ≤ position ∧ position < first + count <;> simp [fill, inside]

theorem freeRun_clear {bitmap : Bitmap} {start count : Nat}
    (complete : freeRun bitmap start count = count) {position : Nat} (low : start ≤ position)
    (high : position < start + count) : bitmap position = false := by
  induction count generalizing start with
  | zero => omega
  | succ count inductionHypothesis =>
      unfold freeRun at complete
      split at complete
      next marked => cases complete
      next clear =>
        rcases Nat.eq_or_lt_of_le low with here | later
        · simpa [here] using clear
        · exact inductionHypothesis (Nat.succ.inj complete) later (by omega)

theorem findFree_spec {bound : Nat} {bitmap : Bitmap} {count start first : Nat}
    (found : findFree bound bitmap count start = some first) :
    first + count ≤ bound ∧
      ∀ position, first ≤ position → position < first + count → bitmap position = false := by
  induction start using findFree.induct bound bitmap count with
  | case1 start fits run complete =>
      unfold findFree at found
      simp only [if_pos fits, run, if_pos complete, Option.some.injEq] at found
      subst found
      exact ⟨fits, fun position low high => freeRun_clear complete low high⟩
  | case2 start fits run incomplete inductionHypothesis =>
      unfold findFree at found
      rw [if_pos fits] at found
      dsimp only at found
      rw [if_neg incomplete] at found
      exact inductionHypothesis found
  | case3 start tooFar =>
      unfold findFree at found
      simp [tooFar] at found

/-- The `count` positions from `first` on lie below `bound` and are clear. -/
def FreeAt (bound : Nat) (bitmap : Bitmap) (count first : Nat) : Prop :=
  first + count ≤ bound ∧
    ∀ position, first ≤ position → position < first + count → bitmap position = false

/-- What ends a clear run is marked. -/
theorem freeRun_marked {bitmap : Bitmap} {start count : Nat}
    (incomplete : freeRun bitmap start count ≠ count) :
    freeRun bitmap start count < count ∧ bitmap (start + freeRun bitmap start count) = true := by
  induction count generalizing start with
  | zero => exact absurd rfl incomplete
  | succ count inductionHypothesis =>
      unfold freeRun at incomplete ⊢
      split
      next marked => exact ⟨Nat.succ_pos _, by simpa using marked⟩
      next clear =>
        rw [if_neg clear] at incomplete
        obtain ⟨short, marked⟩ := inductionHypothesis fun full => incomplete (congrArg (· + 1) full)
        refine ⟨Nat.succ_lt_succ short, ?_⟩
        rw [← marked]
        congr 1
        omega

/-- No run starts at or before the position that stopped the last one. -/
theorem not_freeAt_skipped {bound start count : Nat} {bitmap : Bitmap}
    (incomplete : freeRun bitmap start count ≠ count) {first : Nat} (low : start ≤ first)
    (high : first ≤ start + freeRun bitmap start count) : ¬ FreeAt bound bitmap count first := by
  rintro ⟨_, clear⟩
  obtain ⟨short, marked⟩ := freeRun_marked incomplete
  have inside := clear (start + freeRun bitmap start count) high (by omega)
  rw [inside] at marked
  cases marked

/-- The search finds the lowest run, or there is none. -/
theorem findFree_lowest (bound : Nat) (bitmap : Bitmap) (count start : Nat) :
    match findFree bound bitmap count start with
    | some first => start ≤ first ∧ FreeAt bound bitmap count first ∧
        ∀ earlier, start ≤ earlier → earlier < first → ¬ FreeAt bound bitmap count earlier
    | none => ∀ first, start ≤ first → ¬ FreeAt bound bitmap count first := by
  induction start using findFree.induct bound bitmap count with
  | case1 start fits run complete =>
      unfold findFree
      rw [if_pos fits]
      dsimp only
      rw [if_pos complete]
      refine ⟨Nat.le_refl _, ⟨fits, fun _ low high => freeRun_clear complete low high⟩, ?_⟩
      intro earlier low high
      omega
  | case2 start fits run incomplete inductionHypothesis =>
      unfold findFree
      rw [if_pos fits]
      dsimp only
      rw [if_neg incomplete]
      -- The starts in between are ruled out by the marked position.
      have skipped : ∀ first, start ≤ first → first < start + run + 1 →
          ¬ FreeAt bound bitmap count first :=
        fun first low high => not_freeAt_skipped incomplete low (Nat.le_of_lt_succ high)
      change match findFree bound bitmap count (start + run + 1) with
        | some first => _
        | none => _
      cases found : findFree bound bitmap count (start + run + 1) with
      | none =>
          rw [found] at inductionHypothesis
          intro first low
          by_cases near : first < start + run + 1
          · exact skipped first low near
          · exact inductionHypothesis first (Nat.le_of_not_lt near)
      | some lowest =>
          rw [found] at inductionHypothesis
          obtain ⟨above, free, none⟩ := inductionHypothesis
          refine ⟨by omega, free, fun earlier low high => ?_⟩
          by_cases near : earlier < start + run + 1
          · exact skipped earlier low near
          · exact none earlier (Nat.le_of_not_lt near) high
  | case3 start tooFar =>
      unfold findFree
      rw [if_neg tooFar]
      rintro first low ⟨fits, _⟩
      omega

section Population

variable {bound first count : Nat} {bitmap : Bitmap}

theorem population_fill_true (fits : first + count ≤ bound)
    (clear : ∀ position, first ≤ position → position < first + count → bitmap position = false) :
    population bound (fill bitmap first count true) = population bound bitmap + count := by
  have split : (Finset.range bound).filter (fun position =>
      fill bitmap first count true position = true) =
      (Finset.range bound).filter (fun position => bitmap position = true) ∪
        Finset.Ico first (first + count) := by
    ext position
    simp only [Finset.mem_filter, Finset.mem_range, fill_true_eq_true_iff, Finset.mem_union,
      Finset.mem_Ico]
    constructor
    · rintro ⟨inside, covered | marked⟩
      · exact .inr covered
      · exact .inl ⟨inside, marked⟩
    · rintro (⟨inside, marked⟩ | covered)
      · exact ⟨inside, .inr marked⟩
      · exact ⟨by omega, .inl covered⟩
  have apart : Disjoint ((Finset.range bound).filter (fun position => bitmap position = true))
      (Finset.Ico first (first + count)) := by
    refine Finset.disjoint_left.mpr fun position marked covered => ?_
    obtain ⟨low, high⟩ := Finset.mem_Ico.mp covered
    simp [clear position low high] at marked
  unfold population
  rw [split, Finset.card_union_of_disjoint apart, Nat.card_Ico]
  omega

variable (bitmap) in
theorem population_fill_false (fits : first + count ≤ bound)
    (marked : ∀ position, first ≤ position → position < first + count → bitmap position = true) :
    population bound (fill bitmap first count false) + count = population bound bitmap := by
  have cleared : ∀ position, first ≤ position → position < first + count →
      fill bitmap first count false position = false :=
    fun position low high => fill_inside low high
  have restored : fill (fill bitmap first count false) first count true = bitmap := by
    funext position
    by_cases inside : first ≤ position ∧ position < first + count
    · rw [fill_inside inside.1 inside.2, marked position inside.1 inside.2]
    · rw [fill_outside inside, fill_outside inside]
  rw [← population_fill_true fits cleared, restored]

end Population

end Bitmap
