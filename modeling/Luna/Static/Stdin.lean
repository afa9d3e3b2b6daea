import Mathlib.Data.List.Basic
import Luna.Lib.Interleaving

/-!
# Standard input of a worker

`luna_bb_read` of descriptor 0, `luna_bb_getc`, `luna_bb_fgets` and `luna_bb_fread` of
`stdin` (with size 1) as a static worker calls them.  `luna_bb_getc` reads ahead into
`stdin_buffer`; the others take what is left there first.  How much each
`lkl_sys_read` returns, and whether it fails, is part of the state.  Byte counters
that are only reported are left out.
-/

namespace Luna.Stdin

open Interleaving

def lunaStdioIoChunk : Nat := 64 * 1024
def lunaStdioGetcBuffer : Nat := 16 * 1024

/-- `input` is what the descriptor still holds.  The n-th `lkl_sys_read` fails when its
answer is none and returns at most that many bytes otherwise.  `consumed` and
`returned` are history: the bytes taken from the descriptor and the bytes given to the
applet. -/
structure State where
  input : List UInt8
  answers : Nat → Option Nat
  reads : Nat
  buffer : List UInt8
  offset : Nat
  length : Nat
  consumed : List UInt8
  returned : List UInt8

namespace State

/-- The unread part of `stdin_buffer`. -/
def unread (state : State) : List UInt8 := (state.buffer.take state.length).drop state.offset

/-- The bytes of a successful `lkl_sys_read`, or none. -/
def lklSysRead (state : State) (count : Nat) : State × Option (List UInt8) :=
  match state.answers state.reads with
  | none => ({ state with reads := state.reads + 1 }, none)
  | some most =>
      let bytes := state.input.take (min most count)
      ({ state with
          reads := state.reads + 1
          input := state.input.drop (min most count)
          consumed := state.consumed ++ bytes }, some bytes)

/-- `luna_bb_read` of descriptor 0. -/
def lunaBbRead (state : State) (count : Nat) : State × Option (List UInt8) :=
  if count = 0 then (state, some [])
  else
    let buffered := if state.offset < state.length then
      min count (state.length - state.offset) else 0
    let bytes := (state.buffer.drop state.offset).take buffered
    let drained := { state with offset := state.offset + buffered }
    if buffered = count then (drained, some bytes)
    else
      match drained.lklSysRead (count - buffered) with
      | (after, none) => (after, if buffered ≠ 0 then some bytes else none)
      | (after, some fresh) => (after, some (bytes ++ fresh))

/-- `stdin_buffer[stdin_buffer_offset++]`. -/
def takeByte (state : State) : State × Option UInt8 :=
  ({ state with offset := state.offset + 1 }, some (state.buffer[state.offset]?.getD 0))

/-- `luna_bb_getc`; none is `EOF`. -/
def lunaBbGetc (state : State) : State × Option UInt8 :=
  if state.offset = state.length then
    match state.lunaBbRead lunaStdioGetcBuffer with
    | (after, none) => (after, none)
    | (after, some []) => (after, none)
    | (after, some (byte :: bytes)) =>
        let filled := byte :: bytes
        { after with
          buffer := filled ++ after.buffer.drop filled.length
          offset := 0
          length := filled.length }.takeByte
  else state.takeByte

/-- The loop of `luna_bb_fgets` with room for so many bytes. -/
def fgetsLoop (state : State) : Nat → State × List UInt8
  | 0 => (state, [])
  | room + 1 =>
      match state.lunaBbGetc with
      | (after, none) => (after, [])
      | (after, some byte) =>
          if byte = 10 then (after, [byte])
          else
            match after.fgetsLoop room with
            | (after, bytes) => (after, byte :: bytes)

/-- `luna_bb_fgets`; no bytes stand for a null result. -/
def lunaBbFgets (state : State) (size : Int) : State × List UInt8 :=
  if size ≤ 0 then (state, []) else state.fgetsLoop (size.toNat - 1)

/-- The loop of `luna_bb_fread`. -/
def freadLoop (state : State) (remaining : Nat) : State × List UInt8 :=
  if remaining = 0 then (state, [])
  else
    let chunk := if remaining < lunaStdioIoChunk then remaining else lunaStdioIoChunk
    match state.lunaBbRead chunk with
    | (after, none) => (after, [])
    | (after, some bytes) =>
        if bytes.length < chunk then (after, bytes)
        else
          match after.freadLoop (remaining - chunk) with
          | (after, rest) => (after, bytes ++ rest)
termination_by remaining
decreasing_by
  have positive : 0 < lunaStdioIoChunk := by decide
  grind

/-- `luna_bb_fread` with size 1. -/
def lunaBbFread (state : State) (count : Nat) : State × List UInt8 := state.freadLoop count

end State

inductive Call where
  | read (count : Nat)
  | getc
  | fgets (size : Int)
  | fread (count : Nat)
  deriving DecidableEq, Repr

/-- A call and the bytes it returns. -/
def State.call (state : State) : Call → State × List UInt8
  | .read count => ((state.lunaBbRead count).1, (state.lunaBbRead count).2.getD [])
  | .getc => (state.lunaBbGetc.1, state.lunaBbGetc.2.toList)
  | .fgets size => state.lunaBbFgets size
  | .fread count => state.lunaBbFread count

def next (state : State) (call : Call) : Option State :=
  some { (state.call call).1 with returned := state.returned ++ (state.call call).2 }

/-- `task_static_allocate` empties the buffer. -/
structure Fresh (stream : List UInt8) (state : State) : Prop where
  input : state.input = stream
  buffer : state.buffer.length = lunaStdioGetcBuffer
  offset : state.offset = 0
  length : state.length = 0
  consumed : state.consumed = []
  returned : state.returned = []

def system (stream : List UInt8) : System State Call where
  init := Fresh stream
  next := next

/-- The bytes returned are a prefix of the stream, and what was taken from the
descriptor is that prefix and the unread part of the buffer. -/
structure Ordered (stream : List UInt8) (state : State) : Prop where
  returned : state.returned <+: stream
  consumed : state.consumed = state.returned ++ state.unread
  rest : state.consumed ++ state.input = stream

/-- `stdin_buffer_offset` and `stdin_buffer_length` are within the buffer. -/
structure Sound (state : State) : Prop where
  buffer : state.buffer.length = lunaStdioGetcBuffer
  offset : state.offset ≤ state.length
  length : state.length ≤ lunaStdioGetcBuffer

/-- What a call does to the stream: it takes `fresh` bytes from the descriptor, and what
was unread before and those bytes are what it returns and what is unread after. -/
structure Moves (state after : State) (bytes : List UInt8) : Prop where
  sound : Sound after
  fresh : ∃ fresh, after.consumed = state.consumed ++ fresh ∧
    state.unread ++ fresh = bytes ++ after.unread
  rest : after.consumed ++ after.input = state.consumed ++ state.input

section Steps

variable {state after : State}

theorem Moves.stay (sound : Sound state) : Moves state state [] :=
  ⟨sound, ⟨[], (List.append_nil _).symm, List.append_nil _⟩, rfl⟩

theorem Moves.trans {middle : State} {first second : List UInt8}
    (left : Moves state middle first) (right : Moves middle after second) :
    Moves state after (first ++ second) := by
  obtain ⟨fresh, consumed, unread⟩ := left.fresh
  obtain ⟨fresh', consumed', unread'⟩ := right.fresh
  refine ⟨right.sound, ⟨fresh ++ fresh', ?_, ?_⟩, right.rest.trans left.rest⟩
  · rw [consumed', consumed, List.append_assoc]
  · rw [← List.append_assoc, unread, List.append_assoc, unread', List.append_assoc]

theorem Moves.pending {bytes : List UInt8} (moves : Moves state after bytes) :
    bytes ++ (after.unread ++ after.input) = state.unread ++ state.input := by
  obtain ⟨fresh, consumed, unread⟩ := moves.fresh
  have rest := moves.rest
  rw [consumed, List.append_assoc, List.append_cancel_left_eq] at rest
  rw [← rest, ← List.append_assoc, ← unread, List.append_assoc]

theorem Sound.unread_length (sound : Sound state) :
    state.unread.length = state.length - state.offset := by
  unfold State.unread
  rw [List.length_drop, List.length_take, sound.buffer, Nat.min_eq_left sound.length]

/-- A read of the descriptor leaves the buffer alone. -/
theorem Sound.lklSysRead (sound : Sound state) (count : Nat) :
    Sound (state.lklSysRead count).1 ∧
      (state.lklSysRead count).1.unread = state.unread ∧
      (state.lklSysRead count).1.consumed =
        state.consumed ++ (state.lklSysRead count).2.getD [] ∧
      (state.lklSysRead count).1.consumed ++ (state.lklSysRead count).1.input =
        state.consumed ++ state.input ∧
      ((state.lklSysRead count).2.getD []).length ≤ count := by
  unfold State.lklSysRead
  split
  next failed =>
    exact ⟨⟨sound.buffer, sound.offset, sound.length⟩, rfl, (List.append_nil _).symm, rfl,
      Nat.zero_le _⟩
  next most succeeded =>
    refine ⟨⟨sound.buffer, sound.offset, sound.length⟩, rfl, rfl, ?_, ?_⟩
    · dsimp only
      rw [List.append_assoc, List.take_append_drop]
    · dsimp only [Option.getD_some]
      rw [List.length_take]
      omega

/-- Bytes taken from the front of the buffer. -/
theorem Sound.drain (sound : Sound state) {count : Nat}
    (available : count ≤ state.length - state.offset) :
    Moves state { state with offset := state.offset + count }
      ((state.buffer.drop state.offset).take count) := by
  have ordered := sound.offset
  refine ⟨⟨sound.buffer, by dsimp only; omega, sound.length⟩, ⟨[], (List.append_nil _).symm, ?_⟩,
    rfl⟩
  have front : (state.buffer.drop state.offset).take count = state.unread.take count := by
    unfold State.unread
    rw [List.drop_take, List.take_take, Nat.min_eq_left available]
  have back : ({ state with offset := state.offset + count } : State).unread =
      state.unread.drop count := by
    unfold State.unread
    dsimp only
    rw [List.drop_drop]
  rw [List.append_nil, front, back, List.take_append_drop]

/-- When the buffer is empty a read goes to the descriptor. -/
theorem lunaBbRead_empty {count : Nat} (positive : count ≠ 0)
    (empty : ¬ state.offset < state.length) :
    state.lunaBbRead count = state.lklSysRead count := by
  unfold State.lunaBbRead
  rw [if_neg positive, if_neg empty]
  dsimp only
  rw [if_neg (Ne.symm positive), Nat.sub_zero, Nat.add_zero, List.take_zero]
  split
  next failed result =>
    rw [result]
    rfl
  next succeeded fresh result =>
    rw [result]
    rfl

theorem Sound.lunaBbRead (sound : Sound state) (count : Nat) :
    Moves state (state.lunaBbRead count).1 ((state.lunaBbRead count).2.getD []) := by
  unfold State.lunaBbRead
  split
  · exact Moves.stay sound
  next positive =>
    dsimp only
    generalize isBuffered : (if state.offset < state.length then
      min count (state.length - state.offset) else 0) = buffered
    have available : buffered ≤ state.length - state.offset := by
      rw [← isBuffered]
      split <;> omega
    have drained := sound.drain available
    split
    · exact drained
    next more =>
      obtain ⟨sound', unread, consumed, rest, -⟩ := drained.sound.lklSysRead (count - buffered)
      -- Fresh bytes are read only when the buffer has been drained.
      have empty : ({ state with offset := state.offset + buffered } : State).unread = [] := by
        refine List.eq_nil_of_length_eq_zero ?_
        rw [drained.sound.unread_length]
        dsimp only
        by_cases inside : state.offset < state.length
        · rw [if_pos inside] at isBuffered
          omega
        · omega
      have reads : Moves { state with offset := state.offset + buffered }
          (({ state with offset := state.offset + buffered } : State).lklSysRead
            (count - buffered)).1
          ((({ state with offset := state.offset + buffered } : State).lklSysRead
            (count - buffered)).2.getD []) := by
        refine ⟨sound', ⟨_, consumed, ?_⟩, rest⟩
        rw [unread, empty, List.nil_append, List.append_nil]
      have both := drained.trans reads
      split
      next failed result =>
        rw [result, Option.getD_none, List.append_nil] at both
        split
        next some => exact both
        next none =>
          have zero : buffered = 0 := not_not.mp none
          rw [zero, List.take_zero] at both
          exact both
      next succeeded fresh result =>
        rw [result] at both
        exact both

theorem Sound.takeByte (sound : Sound state) (some : state.offset < state.length) :
    Moves state state.takeByte.1 state.takeByte.2.toList := by
  have drained := sound.drain (show 1 ≤ state.length - state.offset by omega)
  have inside : state.offset < state.buffer.length := by
    have bounded := sound.length
    rw [sound.buffer]
    omega
  have byte : (state.buffer.drop state.offset).take 1 = state.takeByte.2.toList := by
    unfold State.takeByte
    rw [List.drop_eq_getElem_cons inside, List.take_succ_cons, List.take_zero,
      List.getElem?_eq_getElem inside]
    rfl
  rw [byte] at drained
  exact drained

/-- The bytes read ahead become the unread part of the buffer. -/
theorem Sound.fill {filled : List UInt8} (sound : Sound state)
    (small : filled.length ≤ lunaStdioGetcBuffer) :
    Sound { state with
      buffer := filled ++ state.buffer.drop filled.length
      offset := 0
      length := filled.length } ∧
    ({ state with
      buffer := filled ++ state.buffer.drop filled.length
      offset := 0
      length := filled.length } : State).unread = filled := by
  refine ⟨⟨?_, Nat.zero_le _, small⟩, ?_⟩
  · dsimp only
    rw [List.length_append, List.length_drop, sound.buffer]
    omega
  · unfold State.unread
    dsimp only
    rw [List.take_left, List.drop_zero]

theorem Sound.lunaBbGetc (sound : Sound state) :
    Moves state state.lunaBbGetc.1 state.lunaBbGetc.2.toList := by
  unfold State.lunaBbGetc
  split
  next empty =>
    have atEnd : ¬ state.offset < state.length := by omega
    have none : state.unread = [] := by
      refine List.eq_nil_of_length_eq_zero ?_
      rw [sound.unread_length]
      omega
    rw [lunaBbRead_empty (by decide) atEnd]
    obtain ⟨sound', unread, consumed, rest, length⟩ := sound.lklSysRead lunaStdioGetcBuffer
    have nothing : (state.lklSysRead lunaStdioGetcBuffer).2.getD [] = [] →
        Moves state (state.lklSysRead lunaStdioGetcBuffer).1 [] := by
      intro isEmpty
      rw [isEmpty, List.append_nil] at consumed
      refine ⟨sound', ⟨[], consumed.trans (List.append_nil _).symm, ?_⟩, rest⟩
      rw [unread, List.append_nil, List.nil_append]
    split
    next failed result =>
      rw [result] at nothing
      exact nothing rfl
    next ended result =>
      rw [result] at nothing
      exact nothing rfl
    next read byte bytes result =>
      rw [result] at sound' consumed rest length
      dsimp only [Option.getD_some] at sound' consumed rest length
      obtain ⟨filledSound, filledUnread⟩ := sound'.fill length
      have filling : Moves state { read with
          buffer := (byte :: bytes) ++ read.buffer.drop (byte :: bytes).length
          offset := 0
          length := (byte :: bytes).length } [] := by
        refine ⟨filledSound, ⟨byte :: bytes, consumed, ?_⟩, rest⟩
        rw [none]
        exact filledUnread.symm
      exact filling.trans (filledSound.takeByte (Nat.succ_pos _))
  next buffered => exact sound.takeByte (by have := sound.offset; omega)

theorem Sound.fgetsLoop (room : Nat) {state : State} (sound : Sound state) :
    Moves state (state.fgetsLoop room).1 (state.fgetsLoop room).2 := by
  induction room generalizing state with
  | zero => exact Moves.stay sound
  | succ room inductionHypothesis =>
      have moves := sound.lunaBbGetc
      unfold State.fgetsLoop
      split
      next ended result =>
        rw [result] at moves
        exact moves
      next read byte result =>
        rw [result] at moves
        split
        · exact moves
        · exact moves.trans (inductionHypothesis moves.sound)

theorem Sound.freadLoop (remaining : Nat) {state : State} (sound : Sound state) :
    Moves state (state.freadLoop remaining).1 (state.freadLoop remaining).2 := by
  induction remaining using Nat.strongRecOn generalizing state with
  | ind remaining inductionHypothesis =>
      unfold State.freadLoop
      split
      · exact Moves.stay sound
      next positive =>
        dsimp only
        generalize isChunk : (if remaining < lunaStdioIoChunk then remaining
          else lunaStdioIoChunk) = chunk
        have moves := sound.lunaBbRead chunk
        have progress : remaining - chunk < remaining := by
          have some : 0 < lunaStdioIoChunk := by decide
          rw [← isChunk]
          split <;> omega
        split
        next failed result =>
          rw [result] at moves
          exact moves
        next read bytes result =>
          rw [result] at moves
          split
          · exact moves
          · exact moves.trans (inductionHypothesis _ progress moves.sound)

theorem Sound.call (sound : Sound state) (call : Call) :
    Moves state (state.call call).1 (state.call call).2 := by
  cases call with
  | read count => exact sound.lunaBbRead count
  | getc => exact sound.lunaBbGetc
  | fgets size =>
      unfold State.call State.lunaBbFgets
      dsimp only
      split
      · exact Moves.stay sound
      · exact sound.fgetsLoop _
  | fread count => exact sound.freadLoop count

end Steps

structure Inv (stream : List UInt8) (state : State) : Prop where
  sound : Sound state
  consumed : state.consumed = state.returned ++ state.unread
  rest : state.consumed ++ state.input = stream

theorem Inv.step {stream : List UInt8} {state target : State} {call : Call}
    (inv : Inv stream state) (moved : next state call = some target) : Inv stream target := by
  cases moved
  have moves := inv.sound.call call
  obtain ⟨fresh, consumed, unread⟩ := moves.fresh
  refine ⟨⟨moves.sound.buffer, moves.sound.offset, moves.sound.length⟩, ?_,
    moves.rest.trans inv.rest⟩
  calc (state.call call).1.consumed
      = state.returned ++ (state.unread ++ fresh) := by
        rw [consumed, inv.consumed, List.append_assoc]
    _ = state.returned ++ (state.call call).2 ++ (state.call call).1.unread := by
        rw [unread, List.append_assoc]

theorem Inv.ordered {stream : List UInt8} {state : State} (inv : Inv stream state) :
    Ordered stream state := by
  refine ⟨⟨state.unread ++ state.input, ?_⟩, inv.consumed, inv.rest⟩
  rw [← List.append_assoc, ← inv.consumed, inv.rest]

/-- Worker stdin is one ordered byte stream, whatever the reads return. -/
theorem stdin_ordered {stream : List UInt8} {state : State}
    (reached : (system stream).Reachable state) : Ordered stream state := by
  have inv : Inv stream state := by
    refine System.Reachable.invariant (Inv stream) ?_ ?_ reached
    · intro state fresh
      refine ⟨⟨fresh.buffer, ?_, ?_⟩, ?_, ?_⟩
      · rw [fresh.offset]
        exact Nat.zero_le _
      · rw [fresh.length]
        exact Nat.zero_le _
      · rw [fresh.consumed, fresh.returned, State.unread, fresh.length, List.take_zero,
          List.drop_nil]
        rfl
      · rw [fresh.consumed, fresh.input]
        rfl
    · intro state call target inv moved
      exact inv.step moved
  exact inv.ordered

/-- A worker before its first read; the second read of the descriptor fails. -/
def startState (stream : List UInt8) : State where
  input := stream
  answers read := if read = 1 then none else some 3
  reads := 0
  buffer := List.replicate lunaStdioGetcBuffer 0
  offset := 0
  length := 0
  consumed := []
  returned := []

theorem stdin_ordered_after_error :
    ∃ state, (system [104, 105, 10, 33, 10]).Reachable state ∧
      state.returned = [104, 105, 10, 33] ∧ Ordered [104, 105, 10, 33, 10] state := by
  have fresh : Fresh [104, 105, 10, 33, 10] (startState [104, 105, 10, 33, 10]) :=
    ⟨rfl, List.length_replicate .., rfl, rfl, rfl, rfl⟩
  obtain ⟨state, reached, ends⟩ := System.exists_reach_of_exec (system [104, 105, 10, 33, 10])
    (fun _ _ => True) (startState [104, 105, 10, 33, 10]) [.getc, .read 8, .fread 1]
    (fun state => decide (state.returned = [104, 105, 10, 33])) fresh (by decide +kernel)
  exact ⟨state, reached, of_decide_eq_true ends, stdin_ordered reached⟩

end Luna.Stdin
