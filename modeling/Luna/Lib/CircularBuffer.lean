import Mathlib.Data.List.Basic
import Mathlib.Logic.Function.Basic

/-!
# Circular buffers

A buffer of `capacity` slots with a head (next slot to fill) and a tail (next
slot to drain); one slot stays empty so that `head = tail` means empty.
`contents` is the abstract queue.  The lemmas say what the three elementary
moves do to it: filling the head slot is invisible, advancing the head appends
and advancing the tail removes the first element.
-/

namespace CircularBuffer

universe u

variable {Slot : Type u}

/-- Number of filled slots between tail and head. -/
def used (capacity head tail : Nat) : Nat := (head + capacity - tail) % capacity

/-- The queue held between tail and head, oldest first. -/
def contents (capacity : Nat) (slots : Nat → Slot) (head tail : Nat) : List Slot :=
  (List.range (used capacity head tail)).map fun offset =>
    slots ((tail + offset) % capacity)

variable {capacity head tail : Nat} {slots : Nat → Slot}

/-- Closed form of `used`: the head is either above the tail or has wrapped. -/
theorem used_eq (headLt : head < capacity) (tailLt : tail < capacity) :
    used capacity head tail = if tail ≤ head then head - tail else head + capacity - tail := by
  unfold used
  split
  next above =>
    have shifted : head + capacity - tail = head - tail + capacity := by omega
    rw [shifted, Nat.add_mod_right, Nat.mod_eq_of_lt (by omega)]
  next wrapped => exact Nat.mod_eq_of_lt (by omega)

theorem succ_mod (indexLt : head < capacity) :
    (head + 1) % capacity = if head + 1 = capacity then 0 else head + 1 := by
  split
  next full => rw [full, Nat.mod_self]
  next room => exact Nat.mod_eq_of_lt (by omega)

theorem used_lt (headLt : head < capacity) (tailLt : tail < capacity) :
    used capacity head tail < capacity := by
  rw [used_eq headLt tailLt]
  split <;> omega

theorem used_eq_zero_iff (headLt : head < capacity) (tailLt : tail < capacity) :
    used capacity head tail = 0 ↔ head = tail := by
  rw [used_eq headLt tailLt]
  split <;> omega

/-- The fullness test of the producers: the next head meets the tail. -/
theorem succ_mod_eq_tail_iff (headLt : head < capacity) (tailLt : tail < capacity) :
    (head + 1) % capacity = tail ↔ used capacity head tail = capacity - 1 := by
  rw [used_eq headLt tailLt, succ_mod headLt]
  split <;> split <;> omega

theorem used_push (headLt : head < capacity) (tailLt : tail < capacity)
    (room : (head + 1) % capacity ≠ tail) :
    used capacity ((head + 1) % capacity) tail = used capacity head tail + 1 := by
  have nextLt : (head + 1) % capacity < capacity := Nat.mod_lt _ (by omega)
  have advance := succ_mod headLt
  rw [used_eq nextLt tailLt, used_eq headLt tailLt]
  by_cases wraps : head + 1 = capacity
  · rw [if_pos wraps] at advance
    rw [advance] at room ⊢
    split <;> split <;> omega
  · rw [if_neg wraps] at advance
    rw [advance] at room ⊢
    split <;> split <;> omega

theorem used_pop (headLt : head < capacity) (tailLt : tail < capacity)
    (nonempty : head ≠ tail) :
    used capacity head tail = used capacity head ((tail + 1) % capacity) + 1 := by
  have nextLt : (tail + 1) % capacity < capacity := Nat.mod_lt _ (by omega)
  rw [used_eq headLt nextLt, used_eq headLt tailLt, succ_mod tailLt]
  split <;> split <;> split <;> omega

/-- The slot after the last filled one is the head. -/
theorem tail_add_used (headLt : head < capacity) (tailLt : tail < capacity) :
    (tail + used capacity head tail) % capacity = head := by
  rw [used_eq headLt tailLt]
  split
  next above =>
    rw [show tail + (head - tail) = head by omega, Nat.mod_eq_of_lt headLt]
  next wrapped =>
    rw [show tail + (head + capacity - tail) = head + capacity by omega,
      Nat.add_mod_right, Nat.mod_eq_of_lt headLt]

/-- No filled slot is the head slot. -/
theorem filled_ne_head (headLt : head < capacity) (tailLt : tail < capacity)
    {offset : Nat} (filled : offset < used capacity head tail) :
    (tail + offset) % capacity ≠ head := by
  rw [used_eq headLt tailLt] at filled
  intro equal
  by_cases inside : tail + offset < capacity
  · rw [Nat.mod_eq_of_lt inside] at equal
    split at filled <;> omega
  · rw [show tail + offset = tail + offset - capacity + capacity by omega,
      Nat.add_mod_right, Nat.mod_eq_of_lt (by split at filled <;> omega)] at equal
    split at filled <;> omega

@[simp] theorem length_contents :
    (contents capacity slots head tail).length = used capacity head tail := by
  simp [contents]

theorem contents_eq_nil_iff (headLt : head < capacity) (tailLt : tail < capacity) :
    contents capacity slots head tail = [] ↔ head = tail := by
  rw [← List.length_eq_zero_iff, length_contents, used_eq_zero_iff headLt tailLt]

@[simp] theorem contents_self : contents capacity slots tail tail = [] := by
  simp [contents, used]

theorem contents_congr {other : Nat → Slot}
    (agree : ∀ offset < used capacity head tail,
      slots ((tail + offset) % capacity) = other ((tail + offset) % capacity)) :
    contents capacity slots head tail = contents capacity other head tail := by
  apply List.map_congr_left
  intro offset member
  exact agree offset (List.mem_range.mp member)

variable (slots)

/-- Filling the head slot does not change the queue. -/
theorem contents_update_head (headLt : head < capacity) (tailLt : tail < capacity)
    (value : Slot) :
    contents capacity (Function.update slots head value) head tail =
      contents capacity slots head tail := by
  apply contents_congr
  intro offset filled
  exact Function.update_of_ne (filled_ne_head headLt tailLt filled) _ _

/-- Publishing the head slot appends its value. -/
theorem contents_push (headLt : head < capacity) (tailLt : tail < capacity)
    (room : (head + 1) % capacity ≠ tail) :
    contents capacity slots ((head + 1) % capacity) tail =
      contents capacity slots head tail ++ [slots head] := by
  simp only [contents, used_push headLt tailLt room, List.range_succ, List.map_append,
    List.map_cons, List.map_nil, tail_add_used headLt tailLt]

/-- Advancing the tail removes the oldest value. -/
theorem contents_pop (headLt : head < capacity) (tailLt : tail < capacity)
    (nonempty : head ≠ tail) :
    contents capacity slots head tail =
      slots tail :: contents capacity slots head ((tail + 1) % capacity) := by
  simp only [contents, used_pop headLt tailLt nonempty, List.range_succ_eq_map,
    List.map_cons, List.map_map, Nat.add_zero, Nat.mod_eq_of_lt tailLt]
  congr 1
  apply List.map_congr_left
  intro offset _
  simp only [Function.comp_apply, Nat.succ_eq_add_one, Nat.mod_add_mod]
  congr 2
  omega

/-- Clearing the drained slot does not change what is left of the queue. -/
theorem contents_update_tail (headLt : head < capacity) (tailLt : tail < capacity)
    (nonempty : head ≠ tail) (value : Slot) :
    contents capacity (Function.update slots tail value) head ((tail + 1) % capacity) =
      contents capacity slots head ((tail + 1) % capacity) := by
  apply contents_congr
  intro offset filled
  refine Function.update_of_ne ?_ _ _
  have nextLt : (tail + 1) % capacity < capacity := Nat.mod_lt _ (by omega)
  have shift := used_pop headLt tailLt nonempty
  have bound := used_lt headLt tailLt
  intro equal
  rw [Nat.mod_add_mod] at equal
  by_cases inside : tail + 1 + offset < capacity
  · rw [Nat.mod_eq_of_lt inside] at equal
    omega
  · rw [show tail + 1 + offset = tail + 1 + offset - capacity + capacity by omega,
      Nat.add_mod_right, Nat.mod_eq_of_lt (by omega)] at equal
    omega

end CircularBuffer
