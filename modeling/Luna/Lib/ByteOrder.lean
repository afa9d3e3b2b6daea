import Mathlib.Algebra.Order.Group.Nat
import Mathlib.Data.List.Induction
import Mathlib.Data.Nat.Basic

/-!
# Byte orders

Numbers as bytes, the most significant first or last.  A function on words that swaps
their bytes turns a store in one order into a store in the other.
-/

namespace ByteOrder

def bigEndian : Nat → Nat → List UInt8
  | 0, _ => []
  | width + 1, value => bigEndian width (value / 256) ++ [UInt8.ofNat value]

theorem bigEndian_succ (width value : Nat) :
    bigEndian (width + 1) value = bigEndian width (value / 256) ++ [UInt8.ofNat value] :=
  rfl

def littleEndian (width value : Nat) : List UInt8 := (bigEndian width value).reverse

def ofBigEndian (bytes : List UInt8) : Nat :=
  bytes.foldl (fun value byte => value * 256 + byte.toNat) 0

def ofLittleEndian (bytes : List UInt8) : Nat := ofBigEndian bytes.reverse

@[simp] theorem length_bigEndian (width value : Nat) : (bigEndian width value).length = width := by
  induction width generalizing value with
  | zero => rfl
  | succ width inductionHypothesis =>
      unfold bigEndian
      rw [List.length_append, inductionHypothesis, List.length_singleton]

@[simp] theorem length_littleEndian (width value : Nat) :
    (littleEndian width value).length = width := by
  unfold littleEndian
  rw [List.length_reverse, length_bigEndian]

theorem ofBigEndian_concat (bytes : List UInt8) (last : UInt8) :
    ofBigEndian (bytes ++ [last]) = ofBigEndian bytes * 256 + last.toNat := by
  unfold ofBigEndian
  rw [List.foldl_append, List.foldl_cons, List.foldl_nil]

theorem ofBigEndian_bigEndian (width value : Nat) :
    ofBigEndian (bigEndian width value) = value % 256 ^ width := by
  induction width generalizing value with
  | zero =>
      rw [Nat.pow_zero, Nat.mod_one]
      rfl
  | succ width inductionHypothesis =>
      have byte : (UInt8.ofNat value).toNat = value % 256 := UInt8.toNat_ofNat'
      unfold bigEndian
      rw [ofBigEndian_concat, inductionHypothesis, byte, Nat.pow_succ, Nat.mul_comm (256 ^ width),
        Nat.mod_mul]
      omega

theorem bigEndian_ofBigEndian (bytes : List UInt8) :
    bigEndian bytes.length (ofBigEndian bytes) = bytes := by
  induction bytes using List.reverseRecOn with
  | nil => rfl
  | append_singleton before last inductionHypothesis =>
      have bound := last.toNat_lt
      have quotient : (ofBigEndian before * 256 + last.toNat) / 256 = ofBigEndian before := by
        omega
      have byte : UInt8.ofNat (ofBigEndian before * 256 + last.toNat) = last := by
        apply UInt8.toNat_inj.mp
        rw [UInt8.toNat_ofNat']
        omega
      rw [ofBigEndian_concat, List.length_append, List.length_singleton]
      unfold bigEndian
      rw [quotient, byte, inductionHypothesis]

theorem ofBigEndian_lt (bytes : List UInt8) : ofBigEndian bytes < 256 ^ bytes.length := by
  have value := ofBigEndian_bigEndian bytes.length (ofBigEndian bytes)
  rw [bigEndian_ofBigEndian] at value
  rw [value]
  exact Nat.mod_lt _ (Nat.pow_pos (by decide))

theorem bigEndian_mod (width value : Nat) :
    bigEndian width (value % 256 ^ width) = bigEndian width value := by
  have bytes := bigEndian_ofBigEndian (bigEndian width value)
  rw [length_bigEndian, ofBigEndian_bigEndian] at bytes
  exact bytes

theorem bigEndian_add (first second value : Nat) : bigEndian (first + second) value =
    bigEndian first (value / 256 ^ second) ++ bigEndian second value := by
  induction second generalizing value with
  | zero =>
      rw [Nat.pow_zero, Nat.div_one]
      exact (List.append_nil _).symm
  | succ second inductionHypothesis =>
      rw [← Nat.add_assoc, bigEndian_succ, bigEndian_succ, inductionHypothesis,
        Nat.div_div_eq_div_mul, List.append_assoc, Nat.pow_succ, Nat.mul_comm 256]

theorem ofLittleEndian_littleEndian (width value : Nat) :
    ofLittleEndian (littleEndian width value) = value % 256 ^ width := by
  unfold ofLittleEndian littleEndian
  rw [List.reverse_reverse, ofBigEndian_bigEndian]

/-- Two numbers with the same bytes. -/
theorem eq_of_bigEndian {width first second : Nat} (same : bigEndian width first =
    bigEndian width second) (firstFits : first < 256 ^ width) (secondFits : second < 256 ^ width) :
    first = second := by
  have values := congrArg ofBigEndian same
  rw [ofBigEndian_bigEndian, ofBigEndian_bigEndian, Nat.mod_eq_of_lt firstFits,
    Nat.mod_eq_of_lt secondFits] at values
  exact values

/-! ## Words whose bytes are swapped -/

section Swap

variable {bits width : Nat} {swap : BitVec bits → BitVec bits}

/-- What is read in the host's order and swapped is what the bytes say in the network's. -/
theorem toNat_swap_ofLittleEndian (size : 2 ^ bits = 256 ^ width)
    (swaps : ∀ word, littleEndian width (swap word).toNat = bigEndian width word.toNat)
    {bytes : List UInt8} (length : bytes.length = width) :
    (swap (BitVec.ofNat bits (ofLittleEndian bytes))).toNat = ofBigEndian bytes := by
  have fits : ∀ word : BitVec bits, word.toNat < 256 ^ width := fun word => by
    rw [← size]
    exact word.isLt
  have read : (BitVec.ofNat bits (ofLittleEndian bytes)).toNat = ofLittleEndian bytes := by
    have bound := ofBigEndian_lt bytes.reverse
    rw [List.length_reverse, length, ← size] at bound
    rw [BitVec.toNat_ofNat]
    exact Nat.mod_eq_of_lt bound
  have swapped := swaps (BitVec.ofNat bits (ofLittleEndian bytes))
  have bigEndianRead : bigEndian width (ofLittleEndian bytes) = bytes.reverse := by
    unfold ofLittleEndian
    rw [← length, ← List.length_reverse, bigEndian_ofBigEndian]
  rw [read, bigEndianRead] at swapped
  unfold littleEndian at swapped
  have back := List.reverse_inj.mp swapped
  rw [← length] at back fits
  have direct := bigEndian_ofBigEndian bytes
  exact eq_of_bigEndian (back.trans direct.symm) (fits _) (ofBigEndian_lt bytes)

end Swap

end ByteOrder
