import Mathlib.Data.List.Induction
import Luna.Lib.NearestRank

/-!
# Percentiles of the block benchmark and of `benchmark.py`

`task_sample_percentiles` sorts a copy of at most `LUNA_BLOCK_BENCH_SAMPLES` samples in place
and reads fixed indices; `percentile` sorts the list and computes the rank.
-/

namespace Luna.Percentiles

open NearestRank

def lunaBlockBenchSamples : UInt32 := 7

/-- The inner loop from `j`, with the store that follows it. -/
def settle (ordered : List UInt64) (value : UInt64) : Nat → List UInt64
  | 0 => ordered.set 0 value
  | j + 1 =>
    if ordered.getD j 0 > value then settle (ordered.set (j + 1) (ordered.getD j 0)) value j
    else ordered.set (j + 1) value

/-- The outer loop, over the indices it takes. -/
def sortPasses (ordered : List UInt64) (indices : List Nat) : List UInt64 :=
  indices.foldl (fun ordered i => settle ordered (ordered.getD i 0) i) ordered

/-- What `p50`, `p95` and `p99` point to. -/
structure SamplePercentiles where
  p50 : UInt64
  p95 : UInt64
  p99 : UInt64
deriving DecidableEq

/-- `none` stands for a read of a place that was never written. -/
def taskSamplePercentiles (samples : List UInt64) (count : UInt32) : Option SamplePercentiles :=
  let count := if count > lunaBlockBenchSamples then lunaBlockBenchSamples else count
  let ordered := sortPasses (samples.take count.toNat) (List.range' 1 (count.toNat - 1))
  do
    let p50 ← ordered[((count - 1) / 2).toNat]?
    let p95 ← ordered[(count - 1).toNat]?
    let p99 ← ordered[(count - 1).toNat]?
    return { p50, p95, p99 }

inductive PyError where
  | valueError (message : String)
  | indexError
deriving DecidableEq

def percentile (values : List Int) (percent : Int) : Except PyError Int :=
  if values = [] then .error (.valueError "cannot calculate a percentile without samples")
  else
    let ordered := values.mergeSort
    let rank := (ordered.length * percent + 99) / 100
    match ordered[(max 1 rank - 1).toNat]? with
    | some value => .ok value
    | none => .error .indexError

section Insertion

variable {front back placed : List UInt64} {value hole : UInt64}

/-- The place where the value comes to stand splits the front, which moves up by one. -/
structure Placed (front placed : List UInt64) (value : UInt64) : Prop where
  perm : placed.Perm (front ++ [value])
  sorted : front.Pairwise (· ≤ ·) → placed.Pairwise (· ≤ ·)

theorem placed_last {last : UInt64} (notAbove : ¬ last > value) :
    Placed (front ++ [last]) (front ++ [last] ++ [value]) value where
  perm := List.Perm.refl _
  sorted := by
    intro sorted
    apply List.pairwise_append.mpr
    refine ⟨sorted, by simp, ?_⟩
    intro earlier member new newMember
    rw [List.mem_singleton.mp newMember]
    rcases List.mem_append.mp member with inFront | isLast
    · have belowLast := (List.pairwise_append.mp sorted).2.2 earlier inFront last (by simp)
      exact UInt64.le_trans belowLast (UInt64.not_lt.mp notAbove)
    · rw [List.mem_singleton.mp isLast]
      exact UInt64.not_lt.mp notAbove

theorem placed_below {last : UInt64} (above : last > value) (below : Placed front placed value) :
    Placed (front ++ [last]) (placed ++ [last]) value where
  perm := by
    have swapped : (front ++ [value] ++ [last]).Perm (front ++ [last] ++ [value]) := by
      rw [List.append_assoc, List.append_assoc]
      exact List.Perm.append_left front (List.Perm.swap last value [])
    exact (below.perm.append_right [last]).trans swapped
  sorted := by
    intro sorted
    obtain ⟨frontSorted, _, belowLast⟩ := List.pairwise_append.mp sorted
    apply List.pairwise_append.mpr
    refine ⟨below.sorted frontSorted, by simp, ?_⟩
    intro earlier member highest highestMember
    rw [List.mem_singleton.mp highestMember]
    rcases List.mem_append.mp (below.perm.mem_iff.mp member) with inFront | isValue
    · exact belowLast earlier inFront last (by simp)
    · rw [List.mem_singleton.mp isValue]
      exact UInt64.le_of_lt above

theorem settle_placed (front : List UInt64) (value hole : UInt64) (back : List UInt64) :
    ∃ placed, settle (front ++ hole :: back) value front.length = placed ++ back ∧
      Placed front placed value := by
  induction front using List.reverseRecOn generalizing hole back with
  | nil => exact ⟨[value], rfl, List.Perm.refl _, fun _ => by simp⟩
  | append_singleton front last inductionHypothesis =>
    have read : (front ++ [last] ++ hole :: back).getD front.length 0 = last := by
      simp [List.getD]
    have store (stored : UInt64) :
        (front ++ [last] ++ hole :: back).set (front.length + 1) stored =
          front ++ last :: stored :: back := by
      simp
    rw [List.length_append, List.length_singleton, settle, read]
    split
    · case isTrue above =>
      rw [store]
      obtain ⟨placed, settled, below⟩ := inductionHypothesis last (last :: back)
      exact ⟨placed ++ [last], by rw [settled]; simp, placed_below above below⟩
    · case isFalse notAbove =>
      rw [store]
      exact ⟨front ++ [last] ++ [value], by simp, placed_last notAbove⟩

/-- Each pass takes the next sample into the sorted front. -/
theorem sortPasses_sorted (front back : List UInt64) (sorted : front.Pairwise (· ≤ ·)) :
    (sortPasses (front ++ back) (List.range' front.length back.length)).Perm (front ++ back) ∧
      (sortPasses (front ++ back) (List.range' front.length back.length)).Pairwise (· ≤ ·) := by
  induction back generalizing front with
  | nil => exact ⟨List.Perm.refl _, by simpa [sortPasses] using sorted⟩
  | cons value back inductionHypothesis =>
    obtain ⟨placed, settled, position⟩ := settle_placed front value value back
    have read : (front ++ value :: back).getD front.length 0 = value := by simp [List.getD]
    have length : placed.length = front.length + 1 := by
      rw [position.perm.length_eq, List.length_append, List.length_singleton]
    have pass : sortPasses (front ++ value :: back)
        (List.range' front.length (value :: back).length) =
        sortPasses (placed ++ back) (List.range' placed.length back.length) := by
      rw [List.length_cons, List.range'_succ, length, sortPasses, List.foldl_cons, read, settled]
      rfl
    obtain ⟨perm, inOrder⟩ := inductionHypothesis placed (position.sorted sorted)
    rw [pass]
    refine ⟨perm.trans ?_, inOrder⟩
    have moved := position.perm.append_right back
    simpa using moved

end Insertion

/-- The samples in order, as the loops leave them. -/
def inOrder (samples : List UInt64) : List UInt64 :=
  sortPasses samples (List.range' 1 (samples.length - 1))

theorem inOrder_spec (samples : List UInt64) :
    (inOrder samples).Perm samples ∧ (inOrder samples).Pairwise (· ≤ ·) := by
  cases samples with
  | nil => exact ⟨List.Perm.refl _, List.Pairwise.nil⟩
  | cons value rest => exact sortPasses_sorted [value] rest (by simp)

theorem inOrder_length (samples : List UInt64) : (inOrder samples).length = samples.length :=
  (inOrder_spec samples).1.length_eq

theorem taskSamplePercentiles_eq {samples : List UInt64} (nonempty : samples ≠ [])
    (short : samples.length ≤ lunaBlockBenchSamples.toNat) :
    ∃ (median : (samples.length - 1) / 2 < (inOrder samples).length)
      (last : samples.length - 1 < (inOrder samples).length),
      taskSamplePercentiles samples (UInt32.ofNat samples.length) =
        some ⟨(inOrder samples)[(samples.length - 1) / 2], (inOrder samples)[samples.length - 1],
          (inOrder samples)[samples.length - 1]⟩ := by
  have positive := List.length_pos_iff.mpr nonempty
  have length := inOrder_length samples
  have seven : samples.length ≤ 7 := short
  have word : (UInt32.ofNat samples.length).toNat = samples.length :=
    UInt32.toNat_ofNat_of_lt' (by simp only [UInt32.size]; omega)
  have inCapacity : ¬ UInt32.ofNat samples.length > lunaBlockBenchSamples := by
    rw [gt_iff_lt, UInt32.lt_iff_toNat_lt, word]
    exact not_lt.mpr short
  have less : (UInt32.ofNat samples.length - 1).toNat = samples.length - 1 := by
    rw [UInt32.toNat_sub_of_le, word]
    · rfl
    · rw [UInt32.le_iff_toNat_le, word]
      exact positive
  have half : ((UInt32.ofNat samples.length - 1) / 2).toNat = (samples.length - 1) / 2 := by
    rw [UInt32.toNat_div, less]
    rfl
  refine ⟨by omega, by omega, ?_⟩
  unfold taskSamplePercentiles
  simp only [if_neg inCapacity, word, half, less, List.take_length]
  rw [← inOrder, List.getElem?_eq_getElem (by omega : (samples.length - 1) / 2 < _),
    List.getElem?_eq_getElem (by omega : samples.length - 1 < _)]
  rfl

theorem percentile_nearestRank {values : List Int} (nonempty : values ≠ []) {percent : Int}
    (share : percent ≤ 100) :
    ∃ value, percentile values percent = .ok value ∧ IsPercentile values percent value := by
  have positive := List.length_pos_iff.mpr nonempty
  have length : (values.mergeSort).length = values.length := List.length_mergeSort values
  have perm : (values.mergeSort).Perm values := List.mergeSort_perm values _
  have sorted : (values.mergeSort).Pairwise (· ≤ ·) := by
    have compared : values.mergeSort.Pairwise fun first second => decide (first ≤ second) = true := by
      apply List.pairwise_mergeSort
      · intro first second third
        simpa using le_trans
      · intro first second
        simpa using le_total first second
    simpa using compared
  obtain ⟨rank, rankEq⟩ : ∃ rank, rank = ((values.length : Int) * percent + 99) / 100 := ⟨_, rfl⟩
  have product : (values.length : Int) * percent ≤ values.length * 100 :=
    mul_le_mul_of_nonneg_left share (Int.natCast_nonneg _)
  have commuted : percent * (values.length : Int) = values.length * percent := mul_comm _ _
  have inside : (max 1 rank - 1).toNat < values.mergeSort.length := by
    rw [length]
    omega
  refine ⟨values.mergeSort[(max 1 rank - 1).toNat], ?_, ?_⟩
  · unfold percentile
    rw [if_neg nonempty]
    simp only [length, ← rankEq]
    rw [List.getElem?_eq_getElem inside]
  · apply isPercentile_of_sorted perm sorted inside
    · rw [commuted]
      omega
    · rw [commuted]
      omega

theorem percentile_ok {values : List Int} {percent value : Int}
    (returned : percentile values percent = .ok value) : values ≠ [] ∧ percent ≤ 100 := by
  have nonempty : values ≠ [] := by
    intro empty
    rw [percentile, if_pos empty] at returned
    cases returned
  refine ⟨nonempty, not_lt.mp fun above => ?_⟩
  have positive := List.length_pos_iff.mpr nonempty
  have product : (values.length : Int) * 101 ≤ values.length * percent :=
    mul_le_mul_of_nonneg_left above (Int.natCast_nonneg _)
  have outside : values.mergeSort.length ≤
      (max 1 (((values.mergeSort).length * percent + 99) / 100) - 1).toNat := by
    rw [List.length_mergeSort]
    omega
  rw [percentile, if_neg nonempty] at returned
  simp only [List.getElem?_eq_none outside] at returned
  cases returned

/-- The samples as the numbers they are printed as. -/
def printed (samples : List UInt64) : List Int := samples.map fun sample => (sample.toNat : Int)

theorem isPercentile_inOrder {samples : List UInt64} (percent : Int) {index : Nat}
    (inside : index < (inOrder samples).length)
    (enough : percent * samples.length ≤ 100 * (index + 1))
    (first : index = 0 ∨ 100 * (index : Int) < percent * samples.length) :
    IsPercentile (printed samples) percent ((inOrder samples)[index].toNat : Int) := by
  obtain ⟨perm, sorted⟩ := inOrder_spec samples
  have printedPerm : (printed (inOrder samples)).Perm (printed samples) := perm.map _
  have printedSorted : (printed (inOrder samples)).Pairwise (· ≤ ·) := by
    apply List.pairwise_map.mpr
    exact sorted.imp fun below => Int.ofNat_le.mpr below
  have length : (printed samples).length = samples.length := List.length_map _
  have printedInside : index < (printed (inOrder samples)).length := by
    rw [printed, List.length_map]
    exact inside
  have found : IsPercentile (printed samples) percent (printed (inOrder samples))[index] :=
    isPercentile_of_sorted printedPerm printedSorted printedInside (by rwa [length])
      (by rwa [length])
  simpa [printed] using found

/-- The rank that `percentile` computes is the one the samples have. -/
theorem percentile_eq {values : List Int} (nonempty : values ≠ []) {percent value : Int}
    (share : percent ≤ 100) (isPercentile : IsPercentile values percent value) :
    percentile values percent = .ok value := by
  obtain ⟨found, returned, foundIs⟩ := percentile_nearestRank nonempty share
  rw [returned, foundIs.unique isPercentile]

/-- Both sides return the nearest-rank percentile of the samples. -/
theorem percentiles_agree :
    (∀ samples : List UInt64, samples ≠ [] → samples.length ≤ lunaBlockBenchSamples.toNat →
      ∃ found : SamplePercentiles,
        taskSamplePercentiles samples (UInt32.ofNat samples.length) = some found ∧
        percentile (printed samples) 50 = .ok (found.p50.toNat : Int) ∧
        percentile (printed samples) 95 = .ok (found.p95.toNat : Int) ∧
        percentile (printed samples) 99 = .ok (found.p99.toNat : Int) ∧
        IsPercentile (printed samples) 50 found.p50.toNat ∧
        IsPercentile (printed samples) 95 found.p95.toNat ∧
        IsPercentile (printed samples) 99 found.p99.toNat) ∧
    (∀ values : List Int, values ≠ [] → ∀ percent ≤ 100,
      ∃ value, percentile values percent = .ok value ∧ IsPercentile values percent value) ∧
    (∀ (values : List Int) (low high : Int), low ≤ high → ∀ first second : Int,
      percentile values low = .ok first → percentile values high = .ok second →
        first ≤ second) := by
  refine ⟨?agree, ?nearestRank, ?monotone⟩
  case agree =>
    intro samples nonempty short
    obtain ⟨median, last, computed⟩ := taskSamplePercentiles_eq nonempty short
    have printedNonempty : printed samples ≠ [] := by simpa [printed] using nonempty
    have positive := List.length_pos_iff.mpr nonempty
    have seven : samples.length ≤ 7 := short
    have isMedian := isPercentile_inOrder 50 median (by omega) (by omega)
    have is95 := isPercentile_inOrder 95 last (by omega) (by omega)
    have is99 := isPercentile_inOrder 99 last (by omega) (by omega)
    exact ⟨_, computed, percentile_eq printedNonempty (by decide) isMedian,
      percentile_eq printedNonempty (by decide) is95,
      percentile_eq printedNonempty (by decide) is99, isMedian, is95, is99⟩
  case nearestRank =>
    intro values nonempty percent share
    exact percentile_nearestRank nonempty share
  case monotone =>
    intro values low high ordered first second returnedFirst returnedSecond
    obtain ⟨nonempty, lowShare⟩ := percentile_ok returnedFirst
    obtain ⟨_, highShare⟩ := percentile_ok returnedSecond
    obtain ⟨firstValue, firstReturned, isFirst⟩ := percentile_nearestRank nonempty lowShare
    obtain ⟨secondValue, secondReturned, isSecond⟩ := percentile_nearestRank nonempty highShare
    rw [returnedFirst] at firstReturned
    rw [returnedSecond] at secondReturned
    cases firstReturned
    cases secondReturned
    exact isFirst.le ordered isSecond

theorem percentiles_agree_of_four :
    ([9, 1, 5, 3] : List UInt64) ≠ [] ∧ ∃ found : SamplePercentiles,
      taskSamplePercentiles [9, 1, 5, 3] 4 = some found ∧
      percentile (printed [9, 1, 5, 3]) 50 = .ok (found.p50.toNat : Int) ∧
      percentile (printed [9, 1, 5, 3]) 95 = .ok (found.p95.toNat : Int) := by
  obtain ⟨found, computed, p50, p95, _⟩ :=
    percentiles_agree.1 [9, 1, 5, 3] (by decide) (by decide)
  exact ⟨by decide, found, computed, p50, p95⟩

end Luna.Percentiles
