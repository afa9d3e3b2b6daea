import Mathlib.Algebra.Ring.Int.Defs
import Mathlib.Algebra.Ring.Nat
import Luna.Static.Stdin

/-!
# Seeking standard input of a worker

`luna_bb_lseek` of descriptor 0 between the reads of `Luna.Static.Stdin`.  The kernel's
offset is ahead of the applet's by what is unread in `stdin_buffer`.  The kernel's own
`lseek` is a parameter; a pipe has no offset and refuses every seek.
-/

namespace Luna.StdinSeek

open Interleaving Stdin

def seekSet : Int := 0
def seekCur : Int := 1

/-- The `lseek` of a seekable file: from its bytes, the offset before, `offset` and
`whence` to the offset after. -/
structure Kernel where
  lseek : List UInt8 → Nat → Int64 → Int → Option Nat
  set : ∀ {contents position offset target},
    lseek contents position offset seekSet = some target → (target : Int) = offset.toInt
  cur : ∀ {contents position offset target},
    lseek contents position offset seekCur = some target →
      (target : Int) = position + offset.toInt
  bounded : ∀ {contents position offset whence target},
    lseek contents position offset whence = some target → target < 2 ^ 63

/-- What a descriptor is open on. -/
inductive Backing where
  | pipe
  | file (contents : List UInt8) (position : Nat)
  deriving DecidableEq, Repr

def Backing.advance : Backing → Nat → Backing
  | .pipe, _ => .pipe
  | .file contents position, count => .file contents (position + count)

structure State where
  stdin : Stdin.State
  backing : Backing

namespace State

/-- The bytes the applet has not read yet. -/
def pending (state : State) : List UInt8 := state.stdin.unread ++ state.stdin.input

/-- The kernel's offset less what is read ahead. -/
def logicalPosition (state : State) : Int :=
  match state.backing with
  | .pipe => 0
  | .file _ position => position - state.stdin.unread.length

/-- A call of `Luna.Static.Stdin`; the kernel's offset follows what it takes. -/
def call (state : State) (call : Call) : State × List UInt8 :=
  let after := state.stdin.call call
  ({ stdin := after.1
     backing := state.backing.advance (after.1.consumed.length - state.stdin.consumed.length) },
    after.2)

/-- The bytes each call returns. -/
def run (state : State) : List Call → State × List (List UInt8)
  | [] => (state, [])
  | call :: calls =>
      (((state.call call).1.run calls).1, (state.call call).2 :: ((state.call call).1.run calls).2)

def lklSysLseek (kernel : Kernel) (state : State) (offset : Int64) (whence : Int) : Option Nat :=
  match state.backing with
  | .pipe => none
  | .file contents position => kernel.lseek contents position offset whence

/-- The descriptor after a successful seek. -/
def moved (state : State) (target : Nat) : State :=
  match state.backing with
  | .pipe => state
  | .file contents _ =>
      { stdin := { state.stdin with input := contents.drop target }
        backing := .file contents target }

/-- The offset `luna_bb_lseek` passes on. -/
def seekOffset (state : State) (offset : Int64) (whence : Int) : Int64 :=
  if state.stdin.offset < state.stdin.length ∧ whence = seekCur then
    offset - Int64.ofNat (state.stdin.length - state.stdin.offset)
  else offset

def dropAhead (state : State) : State :=
  if state.stdin.offset < state.stdin.length then
    { state with stdin := { state.stdin with offset := 0, length := 0 } }
  else state

/-- `luna_bb_lseek` of descriptor 0; none is the result -1. -/
def lunaBbLseek (kernel : Kernel) (state : State) (offset : Int64) (whence : Int) :
    State × Option Nat :=
  let dropped := state.dropAhead
  match dropped.lklSysLseek kernel (state.seekOffset offset whence) whence with
  | none => (dropped, none)
  | some target => (dropped.moved target, some target)

end State

inductive Action where
  | call (call : Call)
  | lseek (offset : Int64) (whence : Int)
  deriving DecidableEq

def next (kernel : Kernel) (state : State) : Action → Option State
  | .call call => some (state.call call).1
  | .lseek offset whence => some (state.lunaBbLseek kernel offset whence).1

/-- A worker starts with an empty buffer. -/
structure Start (state : State) : Prop where
  fresh : Fresh state.stdin.input state.stdin
  reads : ∀ contents position, state.backing = .file contents position →
    state.stdin.input = contents.drop position

def system (kernel : Kernel) : System State Action where
  init := Start
  next := next kernel

/-- The seek succeeded: it returned the applet's new offset, and whatever is read from
now on is what the file holds there. -/
structure Seeks (state after : State) (offset : Int64) (whence : Int) (target : Nat) : Prop where
  cur : whence = seekCur → (target : Int) = state.logicalPosition + offset.toInt
  set : whence = seekSet → (target : Int) = offset.toInt
  position : after.logicalPosition = target
  continues : ∃ contents position, state.backing = .file contents position ∧
    ∀ calls, (after.run calls).2.flatten ++ (after.run calls).1.pending = contents.drop target

/-- `luna_bb_read` and `luna_bb_getc`. -/
def Plain : Call → Prop
  | .read _ => True
  | .getc => True
  | _ => False

/-- Reads return what they would have returned without the seek. -/
def Unharmed (state after : State) : Prop :=
  ∀ calls : List Call, (∀ call ∈ calls, Plain call) → (after.run calls).2 = (state.run calls).2

def SeekKept (kernel : Kernel) (state : State) (offset : Int64) (whence : Int) : Prop :=
  match state.lunaBbLseek kernel offset whence with
  | (after, some target) => Seeks state after offset whence target
  | (after, none) => Unharmed state after

/-- The buffer is within its bounds, and for a file the kernel's offset is what the
descriptor holds next, after the bytes that are unread. -/
structure Coherent (state : State) : Prop where
  sound : Sound state.stdin
  ahead : ∀ contents position, state.backing = .file contents position →
    state.stdin.unread.length ≤ position ∧ state.stdin.input = contents.drop position ∧
      state.pending = contents.drop (position - state.stdin.unread.length)

section Steps

variable {state : State} {kernel : Kernel}

/-- A call returns the front of what is pending. -/
theorem Coherent.call_pending (coherent : Coherent state) (call : Call) :
    (state.call call).2 ++ (state.call call).1.pending = state.pending :=
  (coherent.sound.call call).pending

theorem Coherent.call (coherent : Coherent state) (call : Call) :
    Coherent (state.call call).1 := by
  have moves := coherent.sound.call call
  refine ⟨moves.sound, ?_⟩
  intro contents position' backing
  obtain ⟨fresh, consumed, unread⟩ := moves.fresh
  have rest := moves.rest
  rw [consumed, List.append_assoc, List.append_cancel_left_eq] at rest
  have taken : (state.stdin.call call).1.consumed.length - state.stdin.consumed.length =
      fresh.length := by
    rw [consumed, List.length_append, Nat.add_sub_cancel_left]
  have backing : state.backing.advance fresh.length = .file contents position' := by
    rw [← taken]
    exact backing
  cases before : state.backing with
  | pipe =>
      rw [before] at backing
      cases backing
  | file bytes position =>
      rw [before] at backing
      cases backing
      obtain ⟨ahead, input, pending⟩ := coherent.ahead contents position before
      have lengths := congrArg List.length unread
      rw [List.length_append, List.length_append] at lengths
      have after := coherent.call_pending call
      refine ⟨?_, ?_, ?_⟩
      · change (state.stdin.call call).1.unread.length ≤ position + fresh.length
        omega
      · change (state.stdin.call call).1.input = _
        rw [← List.drop_drop, ← input, ← rest, List.drop_left]
      · have shifted : position + fresh.length - (state.stdin.call call).1.unread.length =
            position - state.stdin.unread.length + (state.call call).2.length := by
          change _ = _ + (state.stdin.call call).2.length
          omega
        change (state.call call).1.pending = contents.drop
          (position + fresh.length - (state.stdin.call call).1.unread.length)
        rw [shifted, ← List.drop_drop, ← pending, ← after, List.drop_left]

theorem Coherent.run (calls : List Call) {state : State} (coherent : Coherent state) :
    (state.run calls).2.flatten ++ (state.run calls).1.pending = state.pending := by
  induction calls generalizing state with
  | nil => rfl
  | cons call calls inductionHypothesis =>
      have rest := inductionHypothesis (coherent.call call)
      change ((state.call call).2 ++ ((state.call call).1.run calls).2.flatten) ++ _ = _
      rw [List.append_assoc]
      exact (congrArg _ rest).trans (coherent.call_pending call)

theorem unread_empty (empty : ¬ state.stdin.offset < state.stdin.length) :
    state.stdin.unread = [] := by
  refine List.drop_eq_nil_of_le ?_
  rw [List.length_take]
  omega

theorem Coherent.unread_iff (coherent : Coherent state) :
    state.stdin.unread = [] ↔ ¬ state.stdin.offset < state.stdin.length := by
  rw [← List.length_eq_zero_iff, coherent.sound.unread_length]
  omega

theorem dropAhead_backing : state.dropAhead.backing = state.backing := by
  unfold State.dropAhead
  split <;> rfl

theorem dropAhead_input : state.dropAhead.stdin.input = state.stdin.input := by
  unfold State.dropAhead
  split <;> rfl

theorem dropAhead_unread : state.dropAhead.stdin.unread = [] := by
  unfold State.dropAhead
  split
  · exact unread_empty (Nat.lt_irrefl 0)
  next empty => exact unread_empty empty

theorem Coherent.dropAhead (coherent : Coherent state) : Coherent state.dropAhead := by
  refine ⟨?_, ?_⟩
  · unfold State.dropAhead
    split
    · exact ⟨coherent.sound.buffer, Nat.zero_le _, Nat.zero_le _⟩
    · exact coherent.sound
  · intro contents position backing
    rw [dropAhead_backing] at backing
    obtain ⟨-, input, -⟩ := coherent.ahead contents position backing
    rw [State.pending, dropAhead_unread, dropAhead_input]
    exact ⟨Nat.zero_le _, input, input⟩

theorem Coherent.moved (coherent : Coherent state) (empty : state.stdin.unread = [])
    (target : Nat) : Coherent (state.moved target) := by
  unfold State.moved
  split
  · exact coherent
  next contents position backing =>
    refine ⟨⟨coherent.sound.buffer, coherent.sound.offset, coherent.sound.length⟩, ?_⟩
    rintro _ _ ⟨rfl, rfl⟩
    have unread : ({ state.stdin with input := contents.drop target } : Stdin.State).unread = [] :=
      empty
    rw [State.pending, unread]
    exact ⟨Nat.zero_le _, rfl, rfl⟩

theorem Coherent.lunaBbLseek (coherent : Coherent state) (offset : Int64) (whence : Int) :
    Coherent (state.lunaBbLseek kernel offset whence).1 := by
  unfold State.lunaBbLseek
  dsimp only
  split
  · exact coherent.dropAhead
  · exact coherent.dropAhead.moved dropAhead_unread _

/-- The offset is corrected without overflow when the kernel accepts the sum. -/
theorem seekOffset_toInt {offset : Int64} {ahead position target : Nat} (small : ahead < 2 ^ 62)
    (behind : ahead ≤ position) (bounded : target < 2 ^ 63)
    (sum : (target : Int) = position + (offset - Int64.ofNat ahead).toInt) :
    (target : Int) = position - ahead + offset.toInt := by
  have aheadInt : (Int64.ofNat ahead).toInt = ahead := Int64.toInt_ofNat_of_lt (by omega)
  rw [Int64.toInt_sub, aheadInt] at sum
  have least := Int64.le_toInt offset
  have most := Int64.toInt_lt offset
  by_cases fits : -2 ^ 63 ≤ offset.toInt - ahead
  · rw [Int.bmod_eq_of_le (by omega) (by omega)] at sum
    omega
  · have wraps : (offset.toInt - ahead).bmod (2 ^ 64) = offset.toInt - ahead + 2 ^ 64 := by
      rw [← Int.add_bmod_right, Int.bmod_eq_of_le (by omega) (by omega)]
      rfl
    rw [wraps] at sum
    omega

theorem Coherent.seeks (coherent : Coherent state) {offset : Int64} {whence : Int} {target : Nat}
    (succeeded : state.dropAhead.lklSysLseek kernel (state.seekOffset offset whence) whence =
      some target) :
    Seeks state (state.dropAhead.moved target) offset whence target := by
  have after : Coherent (state.dropAhead.moved target) :=
    coherent.dropAhead.moved dropAhead_unread target
  unfold State.lklSysLseek at succeeded
  rw [dropAhead_backing] at succeeded
  cases backing : state.backing with
  | pipe =>
      rw [backing] at succeeded
      cases succeeded
  | file contents position =>
      rw [backing] at succeeded
      dsimp only at succeeded
      have logical : state.logicalPosition = position - state.stdin.unread.length := by
        rw [State.logicalPosition, backing]
      obtain ⟨behind, -, -⟩ := coherent.ahead contents position backing
      have length := coherent.sound.unread_length
      have target_moved : state.dropAhead.moved target =
          { stdin := { state.dropAhead.stdin with input := contents.drop target }
            backing := .file contents target } := by
        rw [State.moved, dropAhead_backing, backing]
      have empty : (state.dropAhead.moved target).stdin.unread = [] := by
        rw [target_moved]
        exact dropAhead_unread
      refine ⟨?_, ?_, ?_, contents, position, backing, ?_⟩
      · rintro rfl
        have sum := kernel.cur succeeded
        rw [logical]
        by_cases ahead : state.stdin.offset < state.stdin.length
        · rw [State.seekOffset, if_pos ⟨ahead, rfl⟩, ← length] at sum
          have small := coherent.sound.length
          have chunk : lunaStdioGetcBuffer < 2 ^ 62 := by decide
          exact seekOffset_toInt (by omega) behind (kernel.bounded succeeded) sum
        · rw [State.seekOffset, if_neg fun both => ahead both.1] at sum
          rw [unread_empty ahead, sum, List.length_nil]
          omega
      · rintro rfl
        have same := kernel.set succeeded
        rw [State.seekOffset, if_neg fun both => by cases both.2] at same
        exact same
      · rw [State.logicalPosition, empty, target_moved]
        exact Int.sub_zero _
      · intro calls
        rw [after.run, State.pending, empty, target_moved]
        rfl

/-- Two states with nothing read ahead that the kernel answers alike. -/
structure Alike (left right : Stdin.State) : Prop where
  emptyLeft : ¬ left.offset < left.length
  emptyRight : ¬ right.offset < right.length
  input : left.input = right.input
  answers : left.answers = right.answers
  reads : left.reads = right.reads

theorem Alike.read {left right : Stdin.State} (alike : Alike left right) {count : Nat}
    (positive : count ≠ 0) :
    Alike (left.lunaBbRead count).1 (right.lunaBbRead count).1 ∧
      (left.lunaBbRead count).2 = (right.lunaBbRead count).2 := by
  rw [lunaBbRead_empty positive alike.emptyLeft, lunaBbRead_empty positive alike.emptyRight]
  unfold Stdin.State.lklSysRead
  rw [alike.answers, alike.reads]
  split
  · exact ⟨⟨alike.emptyLeft, alike.emptyRight, alike.input, rfl, rfl⟩, rfl⟩
  · rw [alike.input]
    exact ⟨⟨alike.emptyLeft, alike.emptyRight, rfl, rfl, rfl⟩, rfl⟩

theorem Alike.run_read {count : Nat} (positive : count ≠ 0) (times : Nat) {left right : State}
    (alike : Alike left.stdin right.stdin) :
    (left.run (List.replicate times (.read count))).2 =
      (right.run (List.replicate times (.read count))).2 := by
  induction times generalizing left right with
  | zero => rfl
  | succ times inductionHypothesis =>
      obtain ⟨after, same⟩ := alike.read positive
      exact congrArg₂ _ (congrArg (Option.getD · []) same) (inductionHypothesis after)

/-- A read of all that is unread does not reach the kernel. -/
theorem Coherent.read_unread (coherent : Coherent state)
    (ahead : state.stdin.offset < state.stdin.length) :
    state.stdin.lunaBbRead state.stdin.unread.length =
      ({ state.stdin with offset := state.stdin.length }, some state.stdin.unread) := by
  have length := coherent.sound.unread_length
  have whole : state.stdin.offset + (state.stdin.length - state.stdin.offset) =
      state.stdin.length := Nat.add_sub_cancel' coherent.sound.offset
  unfold Stdin.State.lunaBbRead
  rw [if_neg (by omega), if_pos ahead, length, Nat.min_self, if_pos rfl, whole,
    Stdin.State.unread, List.drop_take]

/-- Bytes dropped by a seek are missed by the reads after it: repeating the read of all that
was unread would have to return the same bytes for ever. -/
theorem Coherent.not_unharmed (coherent : Coherent state)
    (ahead : state.stdin.offset < state.stdin.length) : ¬ Unharmed state state.dropAhead := by
  intro unharmed
  have length := coherent.sound.unread_length
  let repeated (times : Nat) : List Call :=
    List.replicate times (.read state.stdin.unread.length)
  have plain : ∀ times, ∀ call ∈ repeated times, Plain call := by
    intro times call member
    rw [List.eq_of_mem_replicate member]
    trivial
  have dropped : state.dropAhead.stdin = { state.stdin with offset := 0, length := 0 } := by
    rw [State.dropAhead, if_pos ahead]
  have constant : ∀ times,
      (state.dropAhead.run (repeated times)).2 = List.replicate times state.stdin.unread := by
    intro times
    induction times with
    | zero => rfl
    | succ times inductionHypothesis =>
        have first := coherent.read_unread ahead
        have alike : Alike (state.call (.read state.stdin.unread.length)).1.stdin
            state.dropAhead.stdin := by
          change Alike (state.stdin.lunaBbRead _).1 _
          rw [first, dropped]
          exact ⟨Nat.lt_irrefl _, Nat.lt_irrefl _, rfl, rfl, rfl⟩
        have bytes : (state.call (.read state.stdin.unread.length)).2 = state.stdin.unread := by
          change (state.stdin.lunaBbRead _).2.getD [] = _
          rw [first]
          rfl
        rw [unharmed _ (plain (times + 1))]
        change _ :: ((state.call _).1.run (repeated times)).2 = _
        rw [bytes, alike.run_read (by omega), inductionHypothesis, List.replicate_succ]
  have all := coherent.dropAhead.run (repeated (state.stdin.input.length + 1))
  have total := congrArg List.length all
  have input : state.dropAhead.pending = state.stdin.input := by
    rw [State.pending, dropAhead_unread, dropAhead_input, List.nil_append]
  rw [constant, List.length_append, List.length_flatten, List.map_replicate,
    List.sum_replicate_nat, input] at total
  have some : state.stdin.input.length + 1 ≤
      (state.stdin.input.length + 1) * state.stdin.unread.length :=
    Nat.le_mul_of_pos_right _ (by omega)
  omega

end Steps

theorem System.coherent {kernel : Kernel} {state : State}
    (reached : (system kernel).Reachable state) : Coherent state := by
  refine System.Reachable.invariant Coherent ?_ ?_ reached
  · intro state start
    have empty : state.stdin.unread = [] := by
      refine unread_empty ?_
      rw [start.fresh.length]
      exact Nat.not_lt_zero _
    refine ⟨⟨start.fresh.buffer, ?_, ?_⟩, ?_⟩
    · rw [start.fresh.offset]
      exact Nat.zero_le _
    · rw [start.fresh.length]
      exact Nat.zero_le _
    · intro contents position backing
      have input := start.reads contents position backing
      rw [State.pending, empty]
      exact ⟨Nat.zero_le _, input, input⟩
  · intro state action target coherent moved
    cases action with
    | call call =>
        cases moved
        exact coherent.call call
    | lseek offset whence =>
        cases moved
        exact coherent.lunaBbLseek offset whence

/-- A seek keeps its promise exactly when the kernel accepts it or nothing was read ahead. -/
theorem seekKept_iff {kernel : Kernel} {state : State}
    (reached : (system kernel).Reachable state) (offset : Int64) (whence : Int) :
    SeekKept kernel state offset whence ↔
      (state.lklSysLseek kernel (state.seekOffset offset whence) whence).isSome ∨
        state.stdin.unread = [] := by
  have coherent := System.coherent reached
  have same : state.dropAhead.lklSysLseek kernel (state.seekOffset offset whence) whence =
      state.lklSysLseek kernel (state.seekOffset offset whence) whence := by
    unfold State.lklSysLseek
    rw [dropAhead_backing]
  unfold SeekKept State.lunaBbLseek
  dsimp only
  rw [← same]
  cases result : state.dropAhead.lklSysLseek kernel (state.seekOffset offset whence) whence with
  | some target => exact iff_of_true (coherent.seeks result) (Or.inl rfl)
  | none =>
      rw [coherent.unread_iff]
      refine ⟨fun unharmed => Or.inr fun ahead => coherent.not_unharmed ahead unharmed, ?_⟩
      rintro (accepted | empty)
      · cases accepted
      · intro calls plain
        rw [State.dropAhead, if_neg empty]

/-- Where `whence` counts from in a plain file. -/
def plainBase (contents : List UInt8) (position : Nat) (whence : Int) : Nat :=
  if whence = seekSet then 0 else if whence = seekCur then position else contents.length

/-- The `lseek` of a plain file. -/
def plainLseek (contents : List UInt8) (position : Nat) (offset : Int64) (whence : Int) :
    Option Nat :=
  let target : Int := plainBase contents position whence + offset.toInt
  if 0 ≤ target ∧ target < 2 ^ 63 then some target.toNat else none

theorem plainLseek_some {contents : List UInt8} {position target : Nat} {offset : Int64}
    {whence : Int} (accepted : plainLseek contents position offset whence = some target) :
    (target : Int) = plainBase contents position whence + offset.toInt ∧ target < 2 ^ 63 := by
  obtain ⟨inside, same⟩ := Option.ite_none_right_eq_some.mp accepted
  have same := Option.some.inj same
  omega

def plainKernel : Kernel where
  lseek := plainLseek
  set accepted := (plainLseek_some accepted).1.trans (Int.zero_add _)
  cur accepted := (plainLseek_some accepted).1
  bounded accepted := (plainLseek_some accepted).2

/-- A worker before its first read of a file. -/
def fileState (contents : List UInt8) : State where
  stdin := startState contents
  backing := .file contents 0

theorem seekKept_after_getc :
    ∃ state, (system plainKernel).Reachable state ∧ state.stdin.unread = [2, 3] ∧
      SeekKept plainKernel state 0 seekCur := by
  have fresh : Start (fileState [1, 2, 3, 4]) := by
    refine ⟨⟨rfl, List.length_replicate .., rfl, rfl, rfl, rfl⟩, ?_⟩
    rintro _ _ ⟨rfl, rfl⟩
    rfl
  obtain ⟨state, reached, ends⟩ := System.exists_reach_of_exec (system plainKernel)
    (fun _ _ => True) (fileState [1, 2, 3, 4]) [.call .getc]
    (fun state => decide (state.stdin.unread = [2, 3] ∧
      (state.lklSysLseek plainKernel (state.seekOffset 0 seekCur) seekCur).isSome = true))
    fresh (by decide +kernel)
  have ends := of_decide_eq_true ends
  exact ⟨state, reached, ends.1, (seekKept_iff reached 0 seekCur).mpr (Or.inl ends.2)⟩

/-- Bytes read ahead from a pipe are lost when a seek is refused. -/
theorem seek_loses_ahead :
    ∃ state, (system plainKernel).Reachable state ∧ state.backing = .pipe ∧
      ¬ SeekKept plainKernel state 0 seekCur := by
  have fresh : Start { stdin := startState [1, 2, 3, 4], backing := .pipe } :=
    ⟨⟨rfl, List.length_replicate .., rfl, rfl, rfl, rfl⟩, by
      intro contents position backing
      cases backing⟩
  obtain ⟨state, reached, ends⟩ := System.exists_reach_of_exec (system plainKernel)
    (fun _ _ => True) { stdin := startState [1, 2, 3, 4], backing := .pipe } [.call .getc]
    (fun state => decide (state.backing = .pipe ∧
      (state.lunaBbLseek plainKernel 0 seekCur).2 = none ∧
      ((state.lunaBbLseek plainKernel 0 seekCur).1.run [.read 1]).2 ≠ (state.run [.read 1]).2))
    fresh (by decide +kernel)
  obtain ⟨pipe, refused, differs⟩ := of_decide_eq_true ends
  refine ⟨state, reached, pipe, ?_⟩
  unfold SeekKept
  split
  next after target result =>
    rw [result] at refused
    cases refused
  next after result =>
    rw [result] at differs
    intro unharmed
    refine differs (unharmed [.read 1] ?_)
    intro call member
    rw [List.mem_singleton.mp member]
    trivial

end Luna.StdinSeek
