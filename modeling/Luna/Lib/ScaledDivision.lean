import Mathlib.Algebra.Order.Floor.Div
import Mathlib.GroupTheory.GroupAction.Ring

/-!
# Scaling by a fraction in two parts

`value * mul / div`, computed from the quotient and the remainder of `value` by `div` so that
no product of two large numbers is formed, rounded down or up; and what a value rounded up is
worth after it is scaled back and rounded down.
-/

namespace ScaledDivision

variable {value mul div bound : Nat}

theorem floor_split (positive : 0 < div) :
    value / div * mul + value % div * mul / div = value * mul / div := by
  have whole : value * mul = value % div * mul + div * (value / div * mul) := by
    conv_lhs => rw [← Nat.mod_add_div value div]
    rw [Nat.add_mul, Nat.mul_assoc]
  rw [whole, Nat.add_mul_div_left _ _ positive, Nat.add_comm]

theorem ceil_split (positive : 0 < div) :
    value / div * mul + (value % div * mul + (div - 1)) / div = value * mul ⌈/⌉ div := by
  have whole : value * mul = value % div * mul + div * (value / div * mul) := by
    conv_lhs => rw [← Nat.mod_add_div value div]
    rw [Nat.add_mul, Nat.mul_assoc]
  rw [Nat.ceilDiv_eq_add_pred_div, whole, Nat.add_sub_assoc positive, Nat.add_right_comm,
    Nat.add_mul_div_left _ _ positive, Nat.add_comm]

theorem le_mul_ceilDiv (positive : 0 < div) : value ≤ div * (value ⌈/⌉ div) :=
  (ceilDiv_le_iff_le_mul positive).mp le_rfl

/-- A span rounded up on the one scale is not shorter when rounded down on the other, wherever
it begins. -/
theorem add_le_floor_of_ceil {start span : Nat} (mulPositive : 0 < mul) (divPositive : 0 < div) :
    start * div / mul + span ≤ (start + (span * mul ⌈/⌉ div)) * div / mul := by
  have covered : span * mul ≤ (span * mul ⌈/⌉ div) * div := by
    rw [Nat.mul_comm _ div]
    exact le_mul_ceilDiv divPositive
  calc start * div / mul + span = (start * div + span * mul) / mul := by
        rw [Nat.add_mul_div_right _ _ mulPositive]
    _ ≤ (start * div + (span * mul ⌈/⌉ div) * div) / mul :=
        Nat.div_le_div_right (Nat.add_le_add_left covered _)
    _ = (start + (span * mul ⌈/⌉ div)) * div / mul := by rw [Nat.add_mul]

theorem floor_mono {other : Nat} (ordered : value ≤ other) : value * mul / div ≤ other * mul / div :=
  Nat.div_le_div_right (Nat.mul_le_mul_right _ ordered)

end ScaledDivision
