import Luna.Static.Streams

/-!
# Short returns of `luna_bb_fread`

The loop of `luna_bb_fread` stops at the first `lkl_sys_read` that returns less than was
asked for.  When that read returned a positive amount, nothing is recorded and the bytes of
an element that was read in part are gone.
-/

namespace Luna.Streams

open Stdin

/-- What the loop starts from: `lead` bytes are read ahead, the descriptor holds `left`
more, and `total` are asked for. -/
structure Demand where
  answers : Nat → Option Nat
  reads : Nat
  left : Nat
  lead : Nat
  total : Nat

namespace Demand

/-- How much the k-th `lkl_sys_read` asks for when those before it returned all. -/
def asked (demand : Demand) (k : Nat) : Nat :=
  min lunaStdioIoChunk (demand.total - k * lunaStdioIoChunk) - if k = 0 then demand.lead else 0

/-- How much those before it took. -/
def taken (demand : Demand) (k : Nat) : Nat := k * lunaStdioIoChunk - demand.lead

/-- What it returns. -/
def granted (demand : Demand) (k : Nat) : Option Nat :=
  (demand.answers (demand.reads + k)).map fun most =>
    min most (min (demand.asked k) (demand.left - demand.taken k))

/-- The first `lkl_sys_read` that does not return all it was asked for returns a positive
amount, and the descriptor holds `rest` more. -/
def CutShort (demand : Demand) (rest : Nat) : Prop :=
  ∃ k amount, k * lunaStdioIoChunk < demand.total ∧
    (∀ before < k, demand.granted before = some (demand.asked before)) ∧
    demand.granted k = some amount ∧ 0 < amount ∧ amount < demand.asked k ∧
    rest = demand.left - demand.taken k - amount

/-- What remains after a first read that returned all it was asked for. -/
def next (demand : Demand) : Demand where
  answers := demand.answers
  reads := demand.reads + 1
  left := demand.left - demand.asked 0
  lead := 0
  total := demand.total - lunaStdioIoChunk

end Demand

inductive Ending where
  /-- All that was asked for was read. -/
  | whole
  /-- A read failed or returned nothing. -/
  | ended
  /-- A read returned a positive amount less than was asked for. -/
  | cut
  deriving DecidableEq, Repr

/-- The loop reads so many bytes, with the number of reads made and what the descriptor
holds afterwards. -/
inductive Reads : Demand → Nat → Nat → Nat → Ending → Prop
  | ahead {demand : Demand} : demand.total ≤ demand.lead →
      Reads demand demand.total demand.reads demand.left .whole
  | failed {demand : Demand} : demand.lead < demand.total → demand.granted 0 = none →
      Reads demand demand.lead (demand.reads + 1) demand.left .ended
  | empty {demand : Demand} : demand.lead < demand.total → demand.granted 0 = some 0 →
      Reads demand demand.lead (demand.reads + 1) demand.left .ended
  | short {demand : Demand} {amount : Nat} : demand.granted 0 = some amount → 0 < amount →
      amount < demand.asked 0 →
      Reads demand (demand.lead + amount) (demand.reads + 1) (demand.left - amount) .cut
  | full {demand : Demand} {got reads left : Nat} {ending : Ending} :
      demand.lead < demand.total → demand.granted 0 = some (demand.asked 0) →
      Reads demand.next got reads left ending →
      Reads demand (min lunaStdioIoChunk demand.total + got) reads left ending

section Demands

variable {demand : Demand} {got reads left rest : Nat} {ending : Ending}

theorem Demand.asked_zero :
    demand.asked 0 = min lunaStdioIoChunk demand.total - demand.lead := by
  rw [Demand.asked, if_pos rfl, Nat.zero_mul, Nat.sub_zero]

theorem Demand.next_small (demand : Demand) : demand.next.lead < lunaStdioIoChunk :=
  show 0 < lunaStdioIoChunk by decide

theorem Demand.next_left (demand : Demand) :
    demand.next.left = demand.left - (min lunaStdioIoChunk demand.total - demand.lead) := by
  rw [← Demand.asked_zero]
  rfl

theorem Demand.asked_pos (small : demand.lead < lunaStdioIoChunk)
    (more : demand.lead < demand.total) : 0 < demand.asked 0 := by
  rw [Demand.asked_zero]
  omega

theorem Demand.granted_first : demand.granted 0 =
    (demand.answers demand.reads).map fun most => min most (min (demand.asked 0) demand.left) := by
  rw [Demand.granted, Demand.taken, Nat.zero_mul, Nat.zero_sub, Nat.sub_zero, Nat.add_zero]

theorem Demand.granted_zero {amount : Nat} (result : demand.granted 0 = some amount) :
    ∃ most, demand.answers demand.reads = some most ∧
      amount = min most (min (demand.asked 0) demand.left) := by
  rw [Demand.granted_first] at result
  obtain ⟨most, answer, same⟩ := Option.map_eq_some_iff.mp result
  exact ⟨most, answer, same.symm⟩

theorem Demand.asked_next (k : Nat) : demand.next.asked k = demand.asked (k + 1) := by
  unfold Demand.asked Demand.next
  rw [if_neg (Nat.succ_ne_zero k), Nat.succ_mul]
  dsimp only
  rw [ite_self, Nat.sub_sub, Nat.add_comm (k * _)]

/-- What the second and later reads of a demand find is what the next demand finds. -/
theorem Demand.left_next (small : demand.lead < lunaStdioIoChunk) {k : Nat}
    (more : (k + 1) * lunaStdioIoChunk < demand.total) :
    demand.next.left - demand.next.taken k = demand.left - demand.taken (k + 1) := by
  have first : demand.asked 0 = lunaStdioIoChunk - demand.lead := by
    rw [Nat.succ_mul] at more
    rw [Demand.asked_zero]
    omega
  unfold Demand.taken
  rw [Nat.succ_mul]
  change demand.left - demand.asked 0 - (k * lunaStdioIoChunk - 0) = _
  rw [first]
  omega

theorem Demand.granted_next (small : demand.lead < lunaStdioIoChunk) {k : Nat}
    (more : (k + 1) * lunaStdioIoChunk < demand.total) :
    demand.next.granted k = demand.granted (k + 1) := by
  unfold Demand.granted
  rw [Demand.asked_next, Demand.left_next small more]
  change (demand.answers (demand.reads + 1 + k)).map _ = _
  rw [Nat.add_assoc, Nat.add_comm 1 k]

/-- Past a full first read a demand is cut short where the next one is. -/
theorem Demand.cutShort_next (small : demand.lead < lunaStdioIoChunk)
    (full : demand.granted 0 = some (demand.asked 0)) :
    demand.CutShort rest ↔ demand.next.CutShort rest := by
  constructor
  · rintro ⟨k, amount, more, before, result, positive, less, isRest⟩
    cases k with
    | zero =>
        rw [full] at result
        cases result
        exact absurd less (Nat.lt_irrefl _)
    | succ k =>
        refine ⟨k, amount, ?_, ?_, ?_, positive, ?_, ?_⟩
        · rw [Nat.succ_mul] at more
          change k * lunaStdioIoChunk < demand.total - lunaStdioIoChunk
          omega
        · intro earlier inside
          have within : (earlier + 1) * lunaStdioIoChunk < demand.total :=
            Nat.lt_of_le_of_lt (Nat.mul_le_mul_right _ (by omega)) more
          rw [Demand.granted_next small within, Demand.asked_next]
          exact before (earlier + 1) (by omega)
        · rw [Demand.granted_next small more]
          exact result
        · rw [Demand.asked_next]
          exact less
        · rw [Demand.left_next small more]
          exact isRest
  · rintro ⟨k, amount, more, before, result, positive, less, isRest⟩
    have more : (k + 1) * lunaStdioIoChunk < demand.total := by
      change k * lunaStdioIoChunk < demand.total - lunaStdioIoChunk at more
      rw [Nat.succ_mul]
      omega
    refine ⟨k + 1, amount, more, ?_, ?_, positive, ?_, ?_⟩
    · intro earlier inside
      cases earlier with
      | zero => exact full
      | succ earlier =>
          have within : (earlier + 1) * lunaStdioIoChunk < demand.total :=
            Nat.lt_of_le_of_lt (Nat.mul_le_mul_right _ (by omega)) more
          rw [← Demand.granted_next small within, ← Demand.asked_next]
          exact before earlier (by omega)
    · rw [← Demand.granted_next small more]
      exact result
    · rw [← Demand.asked_next]
      exact less
    · rw [← Demand.left_next small more]
      exact isRest

/-- When the first read is not full nothing else decides. -/
theorem Demand.cutShort_first (not_full : demand.granted 0 ≠ some (demand.asked 0)) :
    demand.CutShort rest ↔ ∃ amount, 0 < demand.total ∧ demand.granted 0 = some amount ∧
      0 < amount ∧ amount < demand.asked 0 ∧ rest = demand.left - amount := by
  have start : demand.taken 0 = 0 := by rw [Demand.taken, Nat.zero_mul, Nat.zero_sub]
  constructor
  · rintro ⟨k, amount, more, before, result, positive, less, isRest⟩
    cases k with
    | zero =>
        rw [start, Nat.sub_zero] at isRest
        exact ⟨amount, by omega, result, positive, less, isRest⟩
    | succ k => exact absurd (before 0 (Nat.succ_pos k)) not_full
  · rintro ⟨amount, more, result, positive, less, isRest⟩
    refine ⟨0, amount, by omega, ?_, result, positive, less, ?_⟩
    · intro earlier inside
      exact absurd inside (Nat.not_lt_zero _)
    · rw [start, Nat.sub_zero]
      exact isRest

theorem Demand.not_cutShort_ahead (small : demand.lead < lunaStdioIoChunk)
    (ahead : demand.total ≤ demand.lead) : ¬ demand.CutShort rest := by
  rintro ⟨k, amount, more, before, result, positive, less, isRest⟩
  cases k with
  | zero =>
      rw [Demand.asked_zero] at less
      omega
  | succ k =>
      rw [Nat.succ_mul] at more
      omega

theorem Reads.cutShort_iff (loop : Reads demand got reads left ending)
    (small : demand.lead < lunaStdioIoChunk) :
    demand.CutShort rest ↔ ending = .cut ∧ rest = left := by
  induction loop with
  | ahead enough =>
      exact iff_of_false (Demand.not_cutShort_ahead small enough) (by rintro ⟨⟨⟩, -⟩)
  | failed more result =>
      rw [Demand.cutShort_first (by rw [result]; exact nofun), result]
      exact iff_of_false (by rintro ⟨_, _, ⟨⟩, _⟩) (by rintro ⟨⟨⟩, -⟩)
  | @empty demand more result =>
      have some := Demand.asked_pos small more
      rw [Demand.cutShort_first (by rw [result]; intro same; have := Option.some.inj same; omega),
        result]
      refine iff_of_false ?_ (by rintro ⟨⟨⟩, -⟩)
      rintro ⟨amount, _, same, positive, _⟩
      cases same
      exact Nat.lt_irrefl 0 positive
  | @short demand amount result positive less =>
      rw [Demand.cutShort_first (by rw [result]; intro same; have := Option.some.inj same; omega)]
      constructor
      · rintro ⟨other, _, same, _, _, isRest⟩
        rw [result] at same
        cases same
        exact ⟨rfl, isRest⟩
      · rintro ⟨-, isRest⟩
        rw [Demand.asked_zero] at less
        exact ⟨amount, by omega, result, positive, Demand.asked_zero ▸ less, isRest⟩
  | full more result _ inductionHypothesis =>
      rw [Demand.cutShort_next small result]
      exact inductionHypothesis (Demand.next_small _)

/-- The bytes read are those read ahead and those the descriptor no longer holds. -/
theorem Reads.got_eq (loop : Reads demand got reads left ending)
    (small : demand.lead < lunaStdioIoChunk) :
    left ≤ demand.left ∧ got = min demand.lead demand.total + (demand.left - left) := by
  induction loop with
  | ahead enough => omega
  | failed more result => omega
  | empty more result => omega
  | short result positive less =>
      obtain ⟨most, -, same⟩ := Demand.granted_zero result
      rw [Demand.asked_zero] at less same
      omega
  | @full demand got reads left ending more result _ inductionHypothesis =>
      obtain ⟨most, -, same⟩ := Demand.granted_zero result
      obtain ⟨within, same'⟩ := inductionHypothesis (Demand.next_small _)
      have none (total : Nat) : min demand.next.lead total = 0 := Nat.zero_min total
      rw [Demand.asked_zero] at same
      rw [Demand.next_left] at within same'
      rw [none] at same'
      omega

theorem Reads.got_whole (loop : Reads demand got reads left ending)
    (small : demand.lead < lunaStdioIoChunk) : got ≤ demand.total ∧
      (got = demand.total ↔ ending = .whole) := by
  induction loop with
  | ahead enough => exact ⟨Nat.le_refl _, iff_of_true rfl rfl⟩
  | failed more result => exact ⟨Nat.le_of_lt more, iff_of_false (Nat.ne_of_lt more) nofun⟩
  | empty more result => exact ⟨Nat.le_of_lt more, iff_of_false (Nat.ne_of_lt more) nofun⟩
  | short result positive less =>
      rw [Demand.asked_zero] at less
      exact ⟨by omega, iff_of_false (by omega) nofun⟩
  | @full demand got reads left ending more result _ inductionHypothesis =>
      obtain ⟨within, same⟩ := inductionHypothesis (Demand.next_small _)
      have rest : demand.next.total = demand.total - lunaStdioIoChunk := rfl
      rw [← same]
      omega

/-- A loop that ended found the descriptor empty or made a read that failed or returned
nothing. -/
theorem Reads.ended_cause (loop : Reads demand got reads left ending)
    (small : demand.lead < lunaStdioIoChunk) (ended : ending = .ended) :
    left = 0 ∨ ∃ read, demand.reads ≤ read ∧ read < reads ∧
      (demand.answers read = none ∨ demand.answers read = some 0) := by
  induction loop with
  | ahead enough => cases ended
  | failed more result =>
      have answer := Option.map_eq_none_iff.mp result
      exact Or.inr ⟨_, Nat.le_refl _, Nat.lt_succ_self _, Or.inl answer⟩
  | empty more result =>
      obtain ⟨most, answer, same⟩ := Demand.granted_zero result
      have some := Demand.asked_pos small more
      rcases Nat.eq_zero_or_pos most with none | positive
      · rw [none] at answer
        exact Or.inr ⟨_, Nat.le_refl _, Nat.lt_succ_self _, Or.inr answer⟩
      · exact Or.inl (by omega)
  | short result positive less => cases ended
  | full more result _ inductionHypothesis =>
      rcases inductionHypothesis (Demand.next_small _) ended with none | ⟨read, after, before, answer⟩
      · exact Or.inl none
      · exact Or.inr ⟨read, Nat.le_of_succ_le after, before, answer⟩

/-- All reads of a loop that was cut short returned a positive amount. -/
theorem Reads.cut_answers (loop : Reads demand got reads left ending)
    (small : demand.lead < lunaStdioIoChunk) (cut : ending = .cut) :
    ∀ read, demand.reads ≤ read → read < reads →
      ∃ most, demand.answers read = some most ∧ 0 < most := by
  induction loop with
  | ahead enough => cases cut
  | failed more result => cases cut
  | empty more result => cases cut
  | short result positive less =>
      intro read after before
      obtain ⟨most, answer, same⟩ := Demand.granted_zero result
      rw [Nat.le_antisymm (Nat.le_of_lt_succ before) after]
      exact ⟨most, answer, by omega⟩
  | full more result _ inductionHypothesis =>
      intro read after before
      rcases Nat.eq_or_lt_of_le after with first | later
      · obtain ⟨most, answer, same⟩ := Demand.granted_zero result
        have some := Demand.asked_pos small more
        rw [← first]
        exact ⟨most, answer, by omega⟩
      · exact inductionHypothesis (Demand.next_small _) cut read later before

end Demands

/-- One of these reads returned nothing or failed, and `eof` or `error` says so. -/
def File.EndedBy (file : File) (results : List (Option Nat)) : Prop :=
  some 0 ∈ results ∧ file.eof = true ∨ none ∈ results ∧ file.error = true

theorem File.endedBy_cons {file : File} {amount : Nat} {results : List (Option Nat)}
    (positive : 0 < amount) : file.EndedBy (some amount :: results) ↔ file.EndedBy results := by
  have nothing : some 0 ∈ some amount :: results ↔ some 0 ∈ results := by
    rw [List.mem_cons, or_iff_right]
    intro same
    exact Nat.ne_of_lt positive (Option.some.inj same)
  have failed : none ∈ some amount :: results ↔ none ∈ results := by
    rw [List.mem_cons, or_iff_right]
    intro same
    cases same
  unfold File.EndedBy
  rw [nothing, failed]

def File.demand (file : File) (total : Nat) : Demand where
  answers := file.descriptor.answers
  reads := file.descriptor.reads
  left := file.descriptor.left.length
  lead := 0
  total := total

def standardDemand (state : Stdin.State) (total : Nat) : Demand where
  answers := state.answers
  reads := state.reads
  left := state.input.length
  lead := state.unread.length
  total := total

section Loops

theorem Descriptor.lklSysRead_granted (descriptor : Descriptor) (count : Nat) :
    (descriptor.lklSysRead count).1.answers = descriptor.answers ∧
      (descriptor.lklSysRead count).1.reads = descriptor.reads + 1 ∧
      (descriptor.lklSysRead count).1.left =
        descriptor.left.drop ((descriptor.lklSysRead count).2.getD []).length ∧
      (descriptor.lklSysRead count).1.results =
        descriptor.results ++ [(descriptor.lklSysRead count).2.map List.length] ∧
      (descriptor.lklSysRead count).2.map List.length =
        (descriptor.answers descriptor.reads).map fun most =>
          min most (min count descriptor.left.length) := by
  unfold Descriptor.lklSysRead
  split
  next failed => exact ⟨rfl, rfl, rfl, rfl, by rw [failed]; rfl⟩
  next most answer =>
    refine ⟨rfl, rfl, ?_, rfl, ?_⟩
    · unfold Descriptor.left
      dsimp only [Option.getD_some]
      rw [List.drop_drop]
    · rw [answer]
      dsimp only [Option.map_some]
      rw [List.length_take, Nat.min_assoc]

theorem File.freadLoop_reads (remaining : Nat) (file : File) :
    ∃ ending results, Reads (file.demand remaining) (file.freadLoop remaining).2.length
        (file.freadLoop remaining).1.descriptor.reads
        (file.freadLoop remaining).1.descriptor.left.length ending ∧
      (file.freadLoop remaining).1.descriptor.results = file.descriptor.results ++ results ∧
      ((file.freadLoop remaining).1.EndedBy results ↔ ending = .ended) ∧
      (file.freadLoop remaining).1.ungot = file.ungot := by
  induction remaining using Nat.strongRecOn generalizing file with
  | ind remaining inductionHypothesis =>
      unfold File.freadLoop
      split
      next zero =>
        subst zero
        refine ⟨.whole, [], Reads.ahead (Nat.le_refl 0), (List.append_nil _).symm, ?_, rfl⟩
        simp [File.EndedBy]
      next positive =>
        have more : (file.demand remaining).lead < (file.demand remaining).total :=
          Nat.pos_of_ne_zero positive
        dsimp only
        generalize isChunk : (if remaining < lunaStdioIoChunk then remaining
          else lunaStdioIoChunk) = chunk
        have isMin : chunk = min lunaStdioIoChunk remaining := by
          rw [← isChunk]
          split <;> omega
        have asked : (file.demand remaining).asked 0 = chunk :=
          Demand.asked_zero.trans isMin.symm
        have chunks : 0 < lunaStdioIoChunk := by decide
        obtain ⟨answers, reads, left, results, lengths⟩ :=
          file.descriptor.lklSysRead_granted chunk
        have granted : (file.demand remaining).granted 0 =
            (file.descriptor.lklSysRead chunk).2.map List.length := by
          rw [Demand.granted_first, asked, lengths]
          rfl
        split
        next failed result =>
          rw [result] at granted reads left results
          have loop := Reads.failed more granted
          refine ⟨.ended, [none], ?_, results,
            iff_of_true (.inr ⟨List.mem_singleton_self _, rfl⟩) rfl, rfl⟩
          change Reads _ _ failed.reads failed.left.length _
          rw [reads, left]
          exact loop
        next ended result =>
          rw [result] at granted reads left results
          have loop := Reads.empty more granted
          refine ⟨.ended, [some 0], ?_, results,
            iff_of_true (.inl ⟨List.mem_singleton_self _, rfl⟩) rfl, rfl⟩
          change Reads _ _ ended.reads ended.left.length _
          rw [reads, left]
          exact loop
        next after byte bytes result =>
          rw [result] at granted reads left answers results
          have nonempty : 0 < (byte :: bytes).length := Nat.succ_pos _
          dsimp only [Option.map_some] at granted
          dsimp only [Option.getD_some] at left
          split
          next less =>
            have loop := Reads.short granted (Nat.succ_pos _) (asked ▸ less)
            refine ⟨.cut, [some (byte :: bytes).length], ?_, results, ?_, rfl⟩
            rotate_left
            · rw [File.endedBy_cons nonempty]
              simp [File.EndedBy]
            change Reads _ (0 + _) _ _ _ at loop
            change Reads _ _ after.reads after.left.length _
            rw [reads, left, List.length_drop]
            rw [Nat.zero_add] at loop
            exact loop
          next not_less =>
            obtain ⟨most, -, amount⟩ := Demand.granted_zero granted
            have full : (byte :: bytes).length = chunk := by omega
            rw [full, ← asked] at granted
            have following : (File.mk after file.valid file.error file.eof file.ungot).demand
                (remaining - chunk) = (file.demand remaining).next := by
              change Demand.mk after.answers after.reads after.left.length 0 _ =
                Demand.mk file.descriptor.answers (file.descriptor.reads + 1)
                  (file.descriptor.left.length - (file.demand remaining).asked 0) 0
                  (remaining - lunaStdioIoChunk)
              have rest : remaining - chunk = remaining - lunaStdioIoChunk := by omega
              rw [answers, reads, left, List.length_drop, full, asked, rest]
            obtain ⟨ending, later, loop, grown, recorded, ungot⟩ :=
              inductionHypothesis (remaining - chunk) (by omega)
                ⟨after, file.valid, file.error, file.eof, file.ungot⟩
            rw [following] at loop
            have loop := Reads.full more granted loop
            refine ⟨ending, some (byte :: bytes).length :: later, ?_, ?_,
              (File.endedBy_cons nonempty).trans recorded, ungot⟩
            rotate_left
            · refine grown.trans ?_
              rw [results, List.append_assoc]
              rfl
            dsimp only
            rw [List.length_append, full]
            change Reads _ (min lunaStdioIoChunk remaining + _) _ _ _ at loop
            rw [← isMin] at loop
            exact loop

theorem lklSysRead_granted (state : Stdin.State) (count : Nat) :
    (state.lklSysRead count).1.answers = state.answers ∧
      (state.lklSysRead count).1.reads = state.reads + 1 ∧
      (state.lklSysRead count).1.input =
        state.input.drop ((state.lklSysRead count).2.getD []).length ∧
      (state.lklSysRead count).2.map List.length =
        (state.answers state.reads).map fun most => min most (min count state.input.length) := by
  unfold Stdin.State.lklSysRead
  split
  next failed => exact ⟨rfl, rfl, rfl, by rw [failed]; rfl⟩
  next most answer =>
    refine ⟨rfl, rfl, ?_, ?_⟩
    · dsimp only [Option.getD_some]
      rw [List.length_take]
      rcases Nat.le_total (min most count) state.input.length with inside | beyond
      · rw [Nat.min_eq_left inside]
      · rw [Nat.min_eq_right beyond, List.drop_length, List.drop_eq_nil_of_le beyond]
    · rw [answer]
      dsimp only [Option.map_some]
      rw [List.length_take, Nat.min_assoc]

/-- A read for which what is read ahead is enough. -/
theorem lunaBbRead_ahead {state : Stdin.State} (sound : Sound state) {count : Nat}
    (positive : count ≠ 0) (enough : count ≤ state.unread.length) :
    (state.lunaBbRead count).1 = { state with offset := state.offset + count } ∧
      ((state.lunaBbRead count).2.getD []).length = count := by
  rw [sound.unread_length] at enough
  have buffered : (if state.offset < state.length then
      min count (state.length - state.offset) else 0) = count := by
    rw [if_pos (by omega)]
    exact Nat.min_eq_left enough
  have length := sound.length
  have buffer := sound.buffer
  unfold Stdin.State.lunaBbRead
  rw [if_neg positive, buffered]
  dsimp only
  rw [if_pos rfl]
  refine ⟨rfl, ?_⟩
  dsimp only [Option.getD_some]
  rw [List.length_take, List.length_drop]
  omega

/-- A read that asks the kernel for what is not read ahead. -/
theorem lunaBbRead_granted {state : Stdin.State} (sound : Sound state) {count : Nat}
    (more : state.unread.length < count) :
    ∃ fresh : Option (List UInt8),
      (state.lunaBbRead count).1.answers = state.answers ∧
      (state.lunaBbRead count).1.reads = state.reads + 1 ∧
      (state.lunaBbRead count).1.input = state.input.drop (fresh.getD []).length ∧
      (state.lunaBbRead count).1.unread = [] ∧
      ((state.lunaBbRead count).2.getD []).length =
        state.unread.length + (fresh.getD []).length ∧
      fresh.map List.length = (state.answers state.reads).map fun most =>
        min most (min (count - state.unread.length) state.input.length) := by
  have lead := sound.unread_length
  have length := sound.length
  have buffer := sound.buffer
  have buffered : (if state.offset < state.length then
      min count (state.length - state.offset) else 0) = state.unread.length := by
    split <;> omega
  have drained := sound.drain (Nat.le_of_eq lead)
  have empty : ({ state with offset := state.offset + state.unread.length } :
      Stdin.State).unread = [] := by
    refine List.eq_nil_of_length_eq_zero ?_
    rw [drained.sound.unread_length]
    dsimp only
    omega
  have unread := (drained.sound.lklSysRead (count - state.unread.length)).2.1
  have front : ((state.buffer.drop state.offset).take state.unread.length).length =
      state.unread.length := by
    rw [List.length_take, List.length_drop]
    omega
  obtain ⟨answers, reads, input, lengths⟩ := lklSysRead_granted
    { state with offset := state.offset + state.unread.length } (count - state.unread.length)
  refine ⟨_, ?_, ?_, ?_, ?_, ?_, lengths⟩
  all_goals
    unfold Stdin.State.lunaBbRead
    rw [if_neg (by omega), buffered]
    dsimp only
    rw [if_neg (by omega)]
    split
  all_goals
    rename_i result
    rw [result] at answers reads input unread
  · exact answers
  · exact answers
  · exact reads
  · exact reads
  · rw [result]
    exact input
  · rw [result]
    exact input
  · exact unread.trans empty
  · exact unread.trans empty
  · rw [result]
    split
    next some => exact front
    next none => exact (not_not.mp none).symm
  · rw [result]
    dsimp only [Option.getD_some]
    rw [List.length_append, front]

/-- One pass of the loop; a failed read counts as no bytes. -/
theorem freadLoop_pass {state : Stdin.State} {remaining : Nat} (positive : remaining ≠ 0) :
    state.freadLoop remaining =
      let chunk := min lunaStdioIoChunk remaining
      let read := state.lunaBbRead chunk
      if (read.2.getD []).length < chunk then (read.1, read.2.getD [])
      else ((read.1.freadLoop (remaining - chunk)).1,
        read.2.getD [] ++ (read.1.freadLoop (remaining - chunk)).2) := by
  have some : 0 < lunaStdioIoChunk := by decide
  have chunk : (if remaining < lunaStdioIoChunk then remaining else lunaStdioIoChunk) =
      min lunaStdioIoChunk remaining := by
    split <;> omega
  rw [Stdin.State.freadLoop, if_neg positive]
  dsimp only
  rw [chunk]
  split
  next failed result =>
    rw [result]
    exact (if_pos (show 0 < min lunaStdioIoChunk remaining by omega)).symm
  next after bytes result =>
    rw [result]
    rfl

theorem freadLoop_reads (remaining : Nat) {state : Stdin.State} (sound : Sound state) :
    ∃ ending, Reads (standardDemand state remaining) (state.freadLoop remaining).2.length
      (state.freadLoop remaining).1.reads (state.freadLoop remaining).1.input.length ending := by
  induction remaining using Nat.strongRecOn generalizing state with
  | ind remaining inductionHypothesis =>
      have lead := sound.unread_length
      have length := sound.length
      have getc : lunaStdioGetcBuffer < lunaStdioIoChunk := by decide
      by_cases zero : remaining = 0
      · subst zero
        rw [Stdin.State.freadLoop, if_pos rfl]
        exact ⟨.whole, Reads.ahead (Nat.zero_le _)⟩
      rw [freadLoop_pass zero]
      dsimp only
      have moves := sound.lunaBbRead (min lunaStdioIoChunk remaining)
      by_cases enough : remaining ≤ state.unread.length
      · have all : min lunaStdioIoChunk remaining = remaining := by omega
        obtain ⟨after, bytes⟩ := lunaBbRead_ahead sound zero enough
        rw [all, if_neg (by omega), Nat.sub_self, Stdin.State.freadLoop, if_pos rfl, after]
        dsimp only
        rw [List.append_nil, bytes]
        exact ⟨.whole, Reads.ahead enough⟩
      · have more : (standardDemand state remaining).lead < (standardDemand state remaining).total :=
          Nat.lt_of_not_le enough
        obtain ⟨fresh, answers, reads, input, unread, bytes, lengths⟩ :=
          lunaBbRead_granted sound (show state.unread.length < min lunaStdioIoChunk remaining by omega)
        have granted : (standardDemand state remaining).granted 0 = fresh.map List.length := by
          rw [Demand.granted_first, Demand.asked_zero, lengths]
          rfl
        have asked : (standardDemand state remaining).asked 0 =
            min lunaStdioIoChunk remaining - state.unread.length := Demand.asked_zero
        split
        next less =>
          dsimp only
          rw [bytes, reads, input, List.length_drop]
          rw [bytes] at less
          cases fresh with
          | none => exact ⟨.ended, Reads.failed more granted⟩
          | some fresh =>
              dsimp only [Option.map_some, Option.getD_some] at granted less ⊢
              rcases Nat.eq_zero_or_pos fresh.length with none | positive
              · rw [none] at granted ⊢
                exact ⟨.ended, Reads.empty more granted⟩
              · exact ⟨.cut, Reads.short granted positive (by omega)⟩
        next not_less =>
          have full : (fresh.getD []).length = (standardDemand state remaining).asked 0 ∧
              (standardDemand state remaining).granted 0 =
                some ((standardDemand state remaining).asked 0) := by
            cases fresh with
            | none =>
                rw [bytes] at not_less
                exact absurd (show state.unread.length + 0 < min lunaStdioIoChunk remaining by omega)
                  not_less
            | some fresh =>
                obtain ⟨most, -, amount⟩ := Demand.granted_zero granted
                dsimp only [Option.getD_some] at bytes ⊢
                have same : fresh.length = (standardDemand state remaining).asked 0 := by omega
                rw [granted, Option.map_some, same]
                exact ⟨rfl, rfl⟩
          have following : standardDemand (state.lunaBbRead (min lunaStdioIoChunk remaining)).1
              (remaining - min lunaStdioIoChunk remaining) =
                (standardDemand state remaining).next := by
            have rest : remaining - min lunaStdioIoChunk remaining =
                remaining - lunaStdioIoChunk := by omega
            unfold standardDemand
            rw [answers, reads, input, unread, List.length_drop, full.1, rest]
            rfl
          obtain ⟨ending, loop⟩ := inductionHypothesis
            (remaining - min lunaStdioIoChunk remaining) (by omega) moves.sound
          rw [following] at loop
          refine ⟨ending, ?_⟩
          dsimp only
          rw [List.length_append]
          have all : ((state.lunaBbRead (min lunaStdioIoChunk remaining)).2.getD []).length =
              min lunaStdioIoChunk remaining := by omega
          rw [all]
          exact Reads.full more full.2 loop

end Loops

theorem File.takeUngot_eq (file : File) :
    file.takeUngot.1.ungot = none ∧ file.takeUngot.1.descriptor = file.descriptor ∧
      file.takeUngot.2 = file.ungot.toList := by
  unfold File.takeUngot
  split
  next byte ungot => exact ⟨rfl, rfl, by rw [ungot]; rfl⟩
  next ungot => exact ⟨ungot, rfl, by rw [ungot]; rfl⟩

/-- A `FILE` object, or one of `stdin`, `stdout` and `stderr`. -/
inductive Stream where
  | object (file : File)
  | standard (state : { state : Stdin.State // Sound state })

theorem standardFread_sound {state : Stdin.State} (sound : Sound state) (size count : Nat) :
    Sound (standardFread state size count).1 := by
  unfold standardFread
  split
  · exact sound
  split
  · exact sound
  · exact (sound.freadLoop (size * count)).sound

namespace Stream

/-- The bytes the next reads deliver. -/
def available : Stream → List UInt8
  | object file => file.ungot.toList ++ file.descriptor.left
  | standard state => state.val.unread ++ state.val.input

/-- `luna_bb_fread`: the bytes stored and the number returned. -/
def lunaBbFread (stream : Stream) (size count : Nat) : Stream × List UInt8 × Nat :=
  match stream with
  | object file => (object (file.lunaBbFread size count).1, (file.lunaBbFread size count).2)
  | standard state =>
      (standard ⟨(standardFread state.val size count).1,
          standardFread_sound state.property size count⟩,
        (standardFread state.val size count).2)

/-- The stream has reached its end or a read failed in a call.  Of an object a read of the call
returned nothing or failed and is recorded; of the others, which have no flags, nothing is left
or a read of the call failed or returned nothing. -/
def Ended : Stream → Stream → Prop
  | object before, object after =>
      after.EndedBy (after.descriptor.results.drop before.descriptor.results.length)
  | standard before, standard after => (standard after).available = [] ∨
      ∃ read, before.val.reads ≤ read ∧ read < after.val.reads ∧
        (before.val.answers read = none ∨ before.val.answers read = some 0)
  | _, _ => False

/-- Fewer elements than asked for are returned only at an end, and elsewhere the bytes
consumed are those of the elements returned. -/
structure FreadWhole (before after : Stream) (size count returned : Nat) : Prop where
  short : returned < count → Ended before after
  exact : ¬ Ended before after →
    before.available.length = size * returned + after.available.length

/-- What `luna_bb_fread` needs from its arguments and from the reads. -/
def Supplied (stream : Stream) (size count : Nat) : Prop :=
  match stream with
  | object file => count = 0 ∨ size ≠ 0 ∧ count ≤ sizeMax / size ∧ file.valid = true ∧
      ∀ rest, ¬ (file.demand (size * count - file.ungot.toList.length)).CutShort rest
  | standard state => count = 0 ∨ (standard state).available = [] ∨ size ≠ 0 ∧
      count ≤ sizeMax / size ∧
        ∀ rest, (standardDemand state.val (size * count)).CutShort rest → rest = 0

end Stream

theorem div_lt_iff_short {size count got : Nat} (positive : size ≠ 0) (within : got ≤ size * count) :
    got / size < count ↔ got ≠ size * count := by
  rw [Nat.div_lt_iff_lt_mul (Nat.pos_of_ne_zero positive), Nat.mul_comm]
  omega

/-- A call that reads nothing. -/
theorem freadWhole_idle {stream after : Stream} {size count : Nat}
    (same : after.available = stream.available) :
    Stream.FreadWhole stream after size count 0 ↔ count = 0 ∨ Stream.Ended stream after := by
  constructor
  · intro whole
    rcases Nat.eq_zero_or_pos count with none | positive
    · exact Or.inl none
    · exact Or.inr (whole.short positive)
  · intro supplied
    refine ⟨fun less => supplied.resolve_left (by omega), fun _ => ?_⟩
    rw [same, Nat.mul_zero, Nat.zero_add]

/-- A call that ran the loop keeps the promise unless the loop was cut short where the stream
had not ended. -/
theorem freadWhole_of_loop {stream after : Stream} {size count got : Nat} {ending : Ending}
    (positive : size ≠ 0) (within : got ≤ size * count)
    (whole : got = size * count ↔ ending = .whole)
    (consumed : stream.available.length = got + after.available.length)
    (ended : ending = .ended → Stream.Ended stream after) :
    Stream.FreadWhole stream after size count (got / size) ↔
      (ending = .cut → Stream.Ended stream after) := by
  have short := div_lt_iff_short positive within
  constructor
  · intro kept cut
    refine kept.short (short.mpr ?_)
    rw [Ne, whole, cut]
    exact nofun
  · intro uncut
    have cases : ending = .whole ∨ Stream.Ended stream after := by
      cases ending with
      | whole => exact Or.inl rfl
      | ended => exact Or.inr (ended rfl)
      | cut => exact Or.inr (uncut rfl)
    constructor
    · intro less
      exact cases.resolve_left fun isWhole => short.mp less (whole.mpr isWhole)
    · intro going
      have all := whole.mpr (cases.resolve_right going)
      rw [consumed, all, Nat.mul_div_cancel_left count (Nat.pos_of_ne_zero positive)]

theorem File.lunaBbFread_reads {file : File} {size count : Nat}
    (some : ¬ (size = 0 ∨ count = 0)) (fits : ¬ sizeMax / size < count)
    (valid : file.valid = true) :
    ∃ ending got, Reads (file.demand (size * count - file.ungot.toList.length)) got
        (file.lunaBbFread size count).1.descriptor.reads
        (file.lunaBbFread size count).1.descriptor.left.length ending ∧
      (Stream.Ended (.object file) (.object (file.lunaBbFread size count).1) ↔
        ending = .ended) ∧
      (file.lunaBbFread size count).1.ungot = none ∧
      (file.lunaBbFread size count).2.2 = (file.ungot.toList.length + got) / size := by
  obtain ⟨ungot, descriptor, first⟩ := file.takeUngot_eq
  obtain ⟨ending, results, loop, grown, ended, ungot'⟩ := File.freadLoop_reads
    (size * count - file.takeUngot.2.length) file.takeUngot.1
  have same : file.takeUngot.1.demand (size * count - file.takeUngot.2.length) =
      file.demand (size * count - file.ungot.toList.length) := by
    unfold File.demand
    rw [descriptor, first]
  rw [same] at loop
  unfold Stream.Ended File.lunaBbFread
  rw [if_neg some, if_neg fits, if_pos valid]
  refine ⟨ending, _, loop, ?_, ungot'.trans ungot, ?_⟩
  · dsimp only
    rw [grown, descriptor, List.drop_left]
    exact ended
  · dsimp only
    rw [List.length_append, first]

/-- A call that reads nothing does not end. -/
theorem Stream.not_ended_unread {file after : File}
    (unread : after.descriptor = file.descriptor) :
    ¬ Stream.Ended (.object file) (.object after) := by
  unfold Stream.Ended
  dsimp only
  rw [unread, List.drop_length]
  simp [File.EndedBy]

theorem object_whole_iff (file : File) (size count : Nat) :
    Stream.FreadWhole (.object file) ((Stream.object file).lunaBbFread size count).1 size count
        ((Stream.object file).lunaBbFread size count).2.2 ↔
      (Stream.object file).Supplied size count := by
  have idle : ∀ after : File, file.lunaBbFread size count = (after, [], 0) →
      after.descriptor = file.descriptor → after.ungot = file.ungot →
      (Stream.FreadWhole (.object file)
          ((Stream.object file).lunaBbFread size count).1 size count
          ((Stream.object file).lunaBbFread size count).2.2 ↔ count = 0) := by
    intro after result descriptor ungot
    unfold Stream.lunaBbFread
    dsimp only
    rw [result]
    refine (freadWhole_idle ?_).trans (or_iff_left (Stream.not_ended_unread descriptor))
    unfold Stream.available
    dsimp only
    rw [descriptor, ungot]
  unfold Stream.Supplied
  dsimp only
  by_cases none : size = 0 ∨ count = 0
  · rw [idle file (by rw [File.lunaBbFread, if_pos none]) rfl rfl]
    rcases none with zero | zero
    · exact (or_iff_left fun both => both.1 zero).symm
    · exact iff_of_true zero (Or.inl zero)
  by_cases large : sizeMax / size < count
  · rw [idle { file with error := true } (by rw [File.lunaBbFread, if_neg none, if_pos large])
      rfl rfl]
    exact (or_iff_left fun both => absurd both.2.1 (Nat.not_le.mpr large)).symm
  by_cases valid : file.valid = true
  · have positive : size ≠ 0 := fun zero => none (Or.inl zero)
    have one : 0 < size * count :=
      Nat.mul_pos (Nat.pos_of_ne_zero positive) (Nat.pos_of_ne_zero fun zero => none (Or.inr zero))
    have pushed : file.ungot.toList.length ≤ 1 := by
      cases file.ungot with
      | none => exact Nat.zero_le 1
      | some byte => exact Nat.le_refl 1
    obtain ⟨ending, got, loop, ended, ungot, returned⟩ :=
      File.lunaBbFread_reads none large valid
    have small : (file.demand (size * count - file.ungot.toList.length)).lead <
        lunaStdioIoChunk := show 0 < lunaStdioIoChunk by decide
    obtain ⟨within, taken⟩ := loop.got_eq small
    obtain ⟨limit, whole⟩ := loop.got_whole small
    have lead : min (file.demand (size * count - file.ungot.toList.length)).lead
        (size * count - file.ungot.toList.length) = 0 := Nat.zero_min _
    change got = min _ (size * count - file.ungot.toList.length) + _ at taken
    change got ≤ size * count - file.ungot.toList.length at limit
    change got = size * count - file.ungot.toList.length ↔ _ at whole
    change _ ≤ file.descriptor.left.length at within
    change _ = _ + (file.descriptor.left.length - _) at taken
    have consumed : (Stream.object file).available.length = file.ungot.toList.length + got +
        ((Stream.object file).lunaBbFread size count).1.available.length := by
      change (file.ungot.toList ++ file.descriptor.left).length = _ +
        ((file.lunaBbFread size count).1.ungot.toList ++
          (file.lunaBbFread size count).1.descriptor.left).length
      rw [ungot, List.length_append, Option.toList_none, List.nil_append]
      omega
    have value : ((Stream.object file).lunaBbFread size count).2.2 =
        (file.ungot.toList.length + got) / size := returned
    rw [value, freadWhole_of_loop positive (by omega) (by rw [← whole]; omega) consumed ended.mpr]
    constructor
    · intro cutEnds
      refine Or.inr ⟨positive, Nat.not_lt.mp large, valid, fun rest cut => ?_⟩
      obtain ⟨isCut, -⟩ := (loop.cutShort_iff small).mp cut
      have isEnded := ended.mp (cutEnds isCut)
      rw [isCut] at isEnded
      cases isEnded
    · intro supplied isCut
      rcases supplied with zero | ⟨-, -, -, uncut⟩
      · exact absurd (Or.inr zero) none
      · exact absurd ((loop.cutShort_iff small).mpr ⟨isCut, rfl⟩) (uncut _)
  · rw [idle file (by rw [File.lunaBbFread, if_neg none, if_neg large, if_neg valid]) rfl rfl]
    exact (or_iff_left fun both => valid both.2.2.1).symm

theorem standard_whole_iff (state : { state : Stdin.State // Sound state }) (size count : Nat) :
    Stream.FreadWhole (.standard state) ((Stream.standard state).lunaBbFread size count).1 size
        count ((Stream.standard state).lunaBbFread size count).2.2 ↔
      (Stream.standard state).Supplied size count := by
  obtain ⟨state, sound⟩ := state
  have idle : standardFread state size count = (state, [], 0) →
      (Stream.FreadWhole (.standard ⟨state, sound⟩)
          ((Stream.standard ⟨state, sound⟩).lunaBbFread size count).1 size count
          ((Stream.standard ⟨state, sound⟩).lunaBbFread size count).2.2 ↔
        count = 0 ∨ (Stream.standard ⟨state, sound⟩).available = []) := by
    intro result
    unfold Stream.lunaBbFread
    dsimp only
    rw [show (standardFread state size count).2.2 = 0 by rw [result]]
    refine (freadWhole_idle ?_).trans (or_congr_right ?_)
    · unfold Stream.available
      dsimp only
      rw [result]
    · unfold Stream.Ended Stream.available
      dsimp only
      rw [result]
      refine or_iff_left ?_
      rintro ⟨read, after, before, -⟩
      exact absurd before (Nat.not_lt.mpr after)
  unfold Stream.Supplied
  dsimp only
  by_cases none : size = 0 ∨ count = 0
  · rw [idle (by rw [standardFread, if_pos none])]
    rcases none with zero | zero
    · rw [or_iff_left (a := (Stream.standard ⟨state, sound⟩).available = [])
        fun both => both.1 zero]
    · exact iff_of_true (Or.inl zero) (Or.inl zero)
  have positive : size ≠ 0 := fun zero => none (Or.inl zero)
  by_cases large : sizeMax / size < count
  · rw [idle (by rw [standardFread, if_neg none, if_pos large])]
    refine or_congr_right ?_
    rw [or_iff_left]
    exact fun both => absurd both.2.1 (Nat.not_le.mpr large)
  · obtain ⟨ending, loop⟩ := freadLoop_reads (size * count) sound
    have pending := congrArg List.length (sound.freadLoop (size * count)).pending
    rw [List.length_append, List.length_append, List.length_append] at pending
    have small : (standardDemand state (size * count)).lead < lunaStdioIoChunk := by
      have getc : lunaStdioGetcBuffer < lunaStdioIoChunk := by decide
      have lead := sound.unread_length
      have length := sound.length
      change state.unread.length < _
      omega
    obtain ⟨within, taken⟩ := loop.got_eq small
    obtain ⟨limit, whole⟩ := loop.got_whole small
    change _ ≤ state.input.length at within
    change _ = min state.unread.length (size * count) + (state.input.length - _) at taken
    change _ ≤ size * count at limit
    change _ = size * count ↔ _ at whole
    have result : standardFread state size count =
        ((state.freadLoop (size * count)).1, (state.freadLoop (size * count)).2,
          (state.freadLoop (size * count)).2.length / size) := by
      rw [standardFread, if_neg none, if_neg large]
    have available : ((Stream.standard ⟨state, sound⟩).lunaBbFread size count).1.available =
        (state.freadLoop (size * count)).1.unread ++ (state.freadLoop (size * count)).1.input := by
      change (standardFread state size count).1.unread ++ (standardFread state size count).1.input = _
      rw [result]
    have value : ((Stream.standard ⟨state, sound⟩).lunaBbFread size count).2.2 =
        (state.freadLoop (size * count)).2.length / size := by
      change (standardFread state size count).2.2 = _
      rw [result]
    have consumed : (Stream.standard ⟨state, sound⟩).available.length =
        (state.freadLoop (size * count)).2.length +
          ((Stream.standard ⟨state, sound⟩).lunaBbFread size count).1.available.length := by
      rw [available, List.length_append]
      exact List.length_append.trans pending.symm
    -- What was read ahead is used up before the descriptor is read.
    have exhausted : ending ≠ .whole → (state.freadLoop (size * count)).1.input.length = 0 →
        ((Stream.standard ⟨state, sound⟩).lunaBbFread size count).1.available = [] := by
      intro stopped nothing
      have less : (state.freadLoop (size * count)).2.length ≠ size * count := by
        rw [Ne, whole]
        exact stopped
      refine List.eq_nil_of_length_eq_zero ?_
      rw [available, List.length_append]
      omega
    have ended : Stream.Ended (.standard ⟨state, sound⟩)
        ((Stream.standard ⟨state, sound⟩).lunaBbFread size count).1 ↔
          ((Stream.standard ⟨state, sound⟩).lunaBbFread size count).1.available = [] ∨
            ∃ read, state.reads ≤ read ∧ read < (state.freadLoop (size * count)).1.reads ∧
              (state.answers read = .none ∨ state.answers read = some 0) := by
      have reads : (standardFread state size count).1.reads =
          (state.freadLoop (size * count)).1.reads := by rw [result]
      rw [← reads]
      exact Iff.rfl
    rw [value, freadWhole_of_loop positive limit whole consumed, ended]
    · constructor
      · intro cutEnds
        refine Or.inr (Or.inr ⟨positive, Nat.not_lt.mp large, ?_⟩)
        intro rest cut
        obtain ⟨isCut, isRest⟩ := (loop.cutShort_iff small).mp cut
        rcases cutEnds isCut with nothing | ⟨read, after, before, answer⟩
        · rw [available, List.append_eq_nil_iff] at nothing
          rw [isRest, nothing.2, List.length_nil]
        · obtain ⟨most, granted, some⟩ := loop.cut_answers small isCut read after before
          change state.answers read = _ at granted
          rw [granted] at answer
          rcases answer with answer | answer
          · cases answer
          · cases answer
            exact absurd some (Nat.lt_irrefl 0)
      · intro supplied isCut
        have stopped : ending ≠ .whole := by
          rw [isCut]
          exact nofun
        refine Or.inl (exhausted stopped ?_)
        rcases supplied with zero | nothing | ⟨-, -, uncut⟩
        · exact absurd (Or.inr zero) none
        · have nothing := (List.append_eq_nil_iff.mp nothing).2
          rw [nothing, List.length_nil] at within
          exact Nat.le_zero.mp within
        · exact uncut _ ((loop.cutShort_iff small).mpr ⟨isCut, rfl⟩)
    · intro isEnded
      have stopped : ending ≠ .whole := by
        rw [isEnded]
        exact nofun
      refine ended.mpr ((loop.ended_cause small isEnded).imp_left (exhausted stopped))

/-- `luna_bb_fread` keeps its promise exactly when no `lkl_sys_read` of the call returns a
positive amount less than it was asked for while the stream goes on. -/
theorem fread_whole_iff (stream : Stream) (size count : Nat) :
    Stream.FreadWhole stream (stream.lunaBbFread size count).1 size count
        (stream.lunaBbFread size count).2.2 ↔ stream.Supplied size count := by
  cases stream with
  | object file => exact object_whole_iff file size count
  | standard state => exact standard_whole_iff state size count

/-- A pipe that holds eight bytes, of which the first read returns three. -/
def shortFile : File where
  descriptor :=
    { contents := [1, 2, 3, 4, 5, 6, 7, 8]
      position := 0
      answers := fun _ => some 3
      reads := 0
      results := [] }
  valid := true
  error := false
  eof := false
  ungot := none

/-- Four elements of two bytes: one is returned, and the third byte is gone. -/
theorem fread_drops_part :
    ¬ Stream.FreadWhole (.object shortFile) ((Stream.object shortFile).lunaBbFread 2 4).1 2 4
      ((Stream.object shortFile).lunaBbFread 2 4).2.2 := by
  rw [object_whole_iff]
  rintro (⟨⟨⟩⟩ | ⟨-, -, -, uncut⟩)
  exact uncut 5 ⟨0, 3, by decide, fun before inside => absurd inside (Nat.not_lt_zero before),
    by decide, by decide, by decide, by decide⟩

end Luna.Streams
