import Mathlib.Data.List.Basic
import Mathlib.Data.List.GetD

/-!
# Byte memory

A memory is a total function from offsets to bytes.  `read` takes a run of
bytes out, `write` puts a list of bytes in and `blit` is `memcpy` between two
memories.  The lemmas relate the three: a `blit` is a `write` of what was
`read`, consecutive writes are one write, and accesses to disjoint ranges do
not see each other.
-/

namespace ByteMemory

abbrev Memory := Nat → UInt8

/-- The `length` bytes from `offset` on. -/
def read (memory : Memory) (offset length : Nat) : List UInt8 :=
  (List.range length).map fun index => memory (offset + index)

/-- Replace the bytes from `offset` on by `bytes`. -/
def write (memory : Memory) (offset : Nat) (bytes : List UInt8) : Memory := fun address =>
  if offset ≤ address then bytes.getD (address - offset) (memory address) else memory address

/-- Copy `length` bytes of `source` from `sourceOffset` to `offset`. -/
def blit (memory : Memory) (offset : Nat) (source : Memory) (sourceOffset length : Nat) :
    Memory := fun address =>
  if offset ≤ address ∧ address < offset + length then
    source (sourceOffset + (address - offset))
  else memory address

variable {memory source : Memory} {offset sourceOffset length : Nat} {bytes : List UInt8}

@[simp] theorem length_read : (read memory offset length).length = length := by
  simp [read]

@[simp] theorem read_zero : read memory offset 0 = [] := rfl

theorem read_add (first second : Nat) :
    read memory offset (first + second) =
      read memory offset first ++ read memory (offset + first) second := by
  simp [read, List.range_add, Function.comp_def, Nat.add_assoc]

theorem take_read (limit : Nat) :
    (read memory offset length).take limit = read memory offset (min limit length) := by
  simp [read, ← List.map_take, List.take_range]

theorem read_congr {other : Memory} (agree : ∀ index < length,
    memory (offset + index) = other (offset + index)) :
    read memory offset length = read other offset length := by
  apply List.map_congr_left
  intro index member
  exact agree index (List.mem_range.mp member)

theorem write_apply_of_lt {address : Nat} (below : address < offset) :
    write memory offset bytes address = memory address := by
  simp [write, Nat.not_le.mpr below]

theorem write_apply_of_ge {address : Nat} (above : offset + bytes.length ≤ address) :
    write memory offset bytes address = memory address := by
  unfold write
  split
  next inside => exact List.getD_eq_default _ _ (by omega)
  next outside => rfl

@[simp] theorem write_nil : write memory offset [] = memory := by
  funext address
  simp [write]

theorem write_append (first second : List UInt8) :
    write memory offset (first ++ second) =
      write (write memory offset first) (offset + first.length) second := by
  funext address
  simp only [write]
  by_cases inFirst : address < offset + first.length
  · have notSecond : ¬ offset + first.length ≤ address := by omega
    simp only [notSecond, if_false]
    split
    next above =>
      rw [List.getD_append _ _ _ _ (by omega)]
    next below => rfl
  · have above : offset ≤ address := by omega
    have second' : offset + first.length ≤ address := by omega
    simp only [above, second', if_true]
    rw [List.getD_append_right _ _ _ _ (by omega), List.getD_eq_default first _ (by omega)]
    congr 1
    omega

/-- `memcpy` writes what it read. -/
theorem blit_eq_write :
    blit memory offset source sourceOffset length =
      write memory offset (read source sourceOffset length) := by
  funext address
  simp only [blit, write, read]
  by_cases inside : offset ≤ address ∧ address < offset + length
  · have bound : address - offset < length := by omega
    rw [if_pos inside, if_pos inside.1,
      List.getD_eq_getElem _ _ (by simpa using bound)]
    simp
  · rw [if_neg inside]
    split
    next above => rw [List.getD_eq_default _ _ (by simp; omega)]
    next below => rfl

theorem read_write_same : read (write memory offset bytes) offset bytes.length = bytes := by
  apply List.ext_getElem
  · simp
  · intro index first second
    simp only [read, write, List.getElem_map, List.getElem_range, Nat.le_add_right, if_true,
      Nat.add_sub_cancel_left]
    exact List.getD_eq_getElem _ _ second

theorem read_write_disjoint {at_ span : Nat}
    (apart : at_ + span ≤ offset ∨ offset + bytes.length ≤ at_) :
    read (write memory offset bytes) at_ span = read memory at_ span := by
  apply read_congr
  intro index inside
  rcases apart with before | after
  · exact write_apply_of_lt (by omega)
  · exact write_apply_of_ge (by omega)

@[simp] theorem read_blit_same :
    read (blit memory offset source sourceOffset length) offset length =
      read source sourceOffset length := by
  have copied : read (write memory offset (read source sourceOffset length)) offset
      (read source sourceOffset length).length = _ := read_write_same
  rw [length_read] at copied
  rw [blit_eq_write, copied]

theorem read_blit_disjoint {at_ span : Nat}
    (apart : at_ + span ≤ offset ∨ offset + length ≤ at_) :
    read (blit memory offset source sourceOffset length) at_ span = read memory at_ span := by
  rw [blit_eq_write]
  exact read_write_disjoint (by simpa using apart)

end ByteMemory
