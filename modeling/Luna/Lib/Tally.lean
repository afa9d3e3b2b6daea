import Mathlib.Algebra.BigOperators.Group.Finset.Basic
import Mathlib.Algebra.Order.BigOperators.Group.Finset
import Mathlib.Data.Fintype.Basic

/-!
# Weighted sums over a table

A table gives a value to every index of a finite type; `total` adds up a weight
of its entries.  Counting is the case of weights 0 and 1.  `total_update` says
how one store changes the sum, without subtraction.
-/

namespace Tally

variable {ι α : Type*} [Fintype ι]

def total (weight : α → Nat) (table : ι → α) : Nat := ∑ index, weight (table index)

theorem total_update [DecidableEq ι] (weight : α → Nat) (table : ι → α) (index : ι) (value : α) :
    total weight (Function.update table index value) + weight (table index) =
      total weight table + weight value := by
  have others : ∑ other ∈ Finset.univ.erase index, weight (Function.update table index value other) =
      ∑ other ∈ Finset.univ.erase index, weight (table other) := by
    refine Finset.sum_congr rfl fun other member => ?_
    rw [Function.update_of_ne (Finset.ne_of_mem_erase member)]
  have before := Finset.add_sum_erase Finset.univ (fun other => weight (table other))
    (Finset.mem_univ index)
  have after := Finset.add_sum_erase Finset.univ
    (fun other => weight (Function.update table index value other)) (Finset.mem_univ index)
  simp only [Function.update_self] at after
  unfold total
  omega

theorem le_total (weight : α → Nat) (table : ι → α) (index : ι) :
    weight (table index) ≤ total weight table :=
  Finset.single_le_sum (f := fun index => weight (table index)) (fun _ _ => Nat.zero_le _)
    (Finset.mem_univ index)

/-- When the weights add up to at most one, only one index has a weight. -/
theorem eq_of_total_le_one [DecidableEq ι] {weight : α → Nat} {table : ι → α} {first second : ι}
    (atMost : total weight table ≤ 1) (firstWeight : 0 < weight (table first))
    (secondWeight : 0 < weight (table second)) : first = second := by
  by_contra distinct
  have pair : weight (table first) + weight (table second) ≤ total weight table := by
    rw [← Finset.sum_pair (f := fun index => weight (table index)) distinct]
    exact Finset.sum_le_sum_of_subset (Finset.subset_univ _)
  omega

theorem total_eq_zero_iff (weight : α → Nat) (table : ι → α) :
    total weight table = 0 ↔ ∀ index, weight (table index) = 0 := by
  simp [total]

end Tally
