import Mathlib.Data.Int.Order.Basic
import Mathlib.Data.List.Perm.Basic
import Mathlib.Tactic.Linarith

/-!
# Nearest-rank percentiles

The percentile of a list of samples is the least sample that at least the given share of
the samples does not exceed.  There is at most one, and a sorted list has it at the index
found by rounding the share up.
-/

namespace NearestRank

variable {α : Type*} [LinearOrder α]

/-- How many samples are at most `bound`. -/
def upTo (values : List α) (bound : α) : Nat := values.countP fun value => decide (value ≤ bound)

def Reaches (values : List α) (percent : Int) (bound : α) : Prop :=
  percent * values.length ≤ 100 * upTo values bound

structure IsPercentile (values : List α) (percent : Int) (value : α) : Prop where
  sample : value ∈ values
  reaches : Reaches values percent value
  least : ∀ other ∈ values, Reaches values percent other → value ≤ other

theorem IsPercentile.unique {values : List α} {percent : Int} {first second : α}
    (firstIs : IsPercentile values percent first) (secondIs : IsPercentile values percent second) :
    first = second := by
  apply le_antisymm
  · exact firstIs.least second secondIs.sample secondIs.reaches
  · exact secondIs.least first firstIs.sample firstIs.reaches

theorem IsPercentile.le {values : List α} {low high : Int} {first second : α}
    (ordered : low ≤ high) (firstIs : IsPercentile values low first)
    (secondIs : IsPercentile values high second) : first ≤ second := by
  apply firstIs.least second secondIs.sample
  have weaker : low * (values.length : Int) ≤ high * values.length :=
    mul_le_mul_of_nonneg_right ordered (Int.natCast_nonneg _)
  exact weaker.trans secondIs.reaches

section Sorted

variable {values ordered : List α} {index : Nat}

theorem upTo_perm (perm : ordered.Perm values) (bound : α) : upTo ordered bound = upTo values bound :=
  perm.countP_eq _

theorem index_lt_upTo (sorted : ordered.Pairwise (· ≤ ·)) (inside : index < ordered.length) :
    index < upTo ordered ordered[index] := by
  have front : ∀ value ∈ ordered.take (index + 1), value ≤ ordered[index] := by
    intro value member
    obtain ⟨position, bound, rfl⟩ := List.mem_take_iff_getElem.mp member
    rcases Nat.lt_or_ge position index with before | same
    · exact List.pairwise_iff_getElem.mp sorted position index (by omega) inside before
    · have : position = index := by omega
      subst this
      exact le_refl _
  have taken : (ordered.take (index + 1)).countP (fun value => decide (value ≤ ordered[index])) =
      (ordered.take (index + 1)).length := by
    apply List.countP_eq_length.mpr
    intro value member
    simpa using front value member
  have split : upTo ordered ordered[index] =
      (ordered.take (index + 1)).countP (fun value => decide (value ≤ ordered[index])) +
        (ordered.drop (index + 1)).countP (fun value => decide (value ≤ ordered[index])) := by
    rw [← List.countP_append, List.take_append_drop]
    rfl
  rw [taken, List.length_take] at split
  omega

theorem upTo_le_index (sorted : ordered.Pairwise (· ≤ ·)) (inside : index < ordered.length)
    {other : α} (below : other < ordered[index]) : upTo ordered other ≤ index := by
  have back : ∀ value ∈ ordered.drop index, ¬ value ≤ other := by
    intro value member within
    obtain ⟨position, bound, rfl⟩ := List.mem_drop_iff_getElem.mp member
    rcases Nat.eq_zero_or_pos position with first | later
    · subst first
      exact absurd (below.trans_le within) (lt_irrefl _)
    · have after := List.pairwise_iff_getElem.mp sorted index (index + position) inside
        (by omega) (by omega)
      exact absurd (below.trans_le (after.trans within)) (lt_irrefl _)
  have dropped : (ordered.drop index).countP (fun value => decide (value ≤ other)) = 0 := by
    apply List.countP_eq_zero.mpr
    intro value member
    simpa using back value member
  have split : upTo ordered other =
      (ordered.take index).countP (fun value => decide (value ≤ other)) +
        (ordered.drop index).countP (fun value => decide (value ≤ other)) := by
    rw [← List.countP_append, List.take_append_drop]
    rfl
  have short := List.countP_le_length (l := ordered.take index)
    (p := fun value => decide (value ≤ other))
  rw [List.length_take] at short
  omega

/-- In a sorted list the percentile stands at the first index whose rank reaches the share. -/
theorem isPercentile_of_sorted {percent : Int} (perm : ordered.Perm values)
    (sorted : ordered.Pairwise (· ≤ ·)) (inside : index < ordered.length)
    (enough : percent * values.length ≤ 100 * (index + 1))
    (first : index = 0 ∨ 100 * (index : Int) < percent * values.length) :
    IsPercentile values percent ordered[index] where
  sample := perm.mem_iff.mp (List.getElem_mem inside)
  reaches := by
    have rank := index_lt_upTo sorted inside
    rw [upTo_perm perm] at rank
    unfold Reaches
    omega
  least := by
    intro other member reached
    apply not_lt.mp
    intro below
    have rank := upTo_le_index sorted inside below
    rw [upTo_perm perm] at rank
    have counted : 0 < upTo values other := by
      apply List.countP_pos_iff.mpr
      exact ⟨other, member, by simp⟩
    unfold Reaches at reached
    omega

end Sorted

end NearestRank
