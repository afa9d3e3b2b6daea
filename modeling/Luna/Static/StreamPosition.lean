import Luna.Static.Streams

/-!
# Position of a stream with a byte pushed back

`luna_bb_ftell` and `luna_bb_fseek` hand the kernel's offset through.  The byte that
`luna_bb_ungetc` keeps beside it is not counted.
-/

namespace Luna.Streams

open Interleaving Stdin StdinSeek

inductive FileCall where
  | getc
  | ungetc (character : Int)
  | fread (size count : Nat)
  | fgets (size : Int)
  | fseek (offset : Int64) (whence : Int)
  | ftell
  deriving DecidableEq

/-- What a call returns, with the bytes it stores. -/
inductive Result where
  | byte (value : Option UInt8)
  | elements (stored : List UInt8) (returned : Nat)
  | line (stored : List UInt8)
  | done (success : Bool)
  | offset (value : Option Nat)
  deriving DecidableEq

namespace File

def call (kernel : Kernel) (file : File) : FileCall → File × Result
  | .getc => (file.lunaBbGetc.1, .byte file.lunaBbGetc.2)
  | .ungetc character => ((file.lunaBbUngetc character).1, .byte (file.lunaBbUngetc character).2)
  | .fread size count =>
      ((file.lunaBbFread size count).1,
        .elements (file.lunaBbFread size count).2.1 (file.lunaBbFread size count).2.2)
  | .fgets size => ((file.lunaBbFgets size).1, .line (file.lunaBbFgets size).2)
  | .fseek offset whence =>
      ((file.lunaBbFseek kernel offset whence).1,
        .done (file.lunaBbFseek kernel offset whence).2)
  | .ftell => ((file.lunaBbFtell kernel).1, .offset (file.lunaBbFtell kernel).2)

/-- The results of a sequence of calls. -/
def run (kernel : Kernel) (file : File) : List FileCall → List Result
  | [] => []
  | call :: calls => (file.call kernel call).2 :: (file.call kernel call).1.run kernel calls

/-- The offset of the byte that the next `luna_bb_getc` delivers; a byte pushed back is
unread. -/
def nextOffset (file : File) : Int := file.descriptor.position - file.ungot.toList.length

/-- A byte pushed back is the one before the kernel's offset. -/
def PushedBackLast (file : File) : Prop :=
  ∀ byte, file.ungot = some byte →
    0 < file.descriptor.position ∧
      file.descriptor.contents[file.descriptor.position - 1]? = some byte

end File

/-- The same calls return the same. -/
def Same (kernel : Kernel) (left right : File) : Prop :=
  ∀ calls, left.run kernel calls = right.run kernel calls

structure PositionCoherent (kernel : Kernel) (file : File) : Prop where
  tell : ∃ target, (file.lunaBbFtell kernel).2 = some target ∧ (target : Int) = file.nextOffset
  delivers : ∀ target byte, (file.lunaBbFtell kernel).2 = some target → file.ungot = none →
    file.lunaBbGetc.2 = some byte → file.descriptor.contents[target]? = some byte
  relative : file.PushedBackLast → Same kernel (file.lunaBbFseek kernel 0 seekCur).1 file
  absolute : ∀ target, (file.lunaBbFtell kernel).2 = some target →
    Same kernel
      ((file.lunaBbFtell kernel).1.lunaBbFseek kernel (Int64.ofNat target) seekSet).1 file

/-- A regular file: its size and every offset are within `s_maxbytes`, and its offset can be
asked for and set again. -/
structure Seekable (kernel : Kernel) (contents : List UInt8) (maxBytes : Nat) : Prop where
  size : contents.length ≤ maxBytes
  within : ∀ {position offset whence target},
    kernel.lseek contents position offset whence = some target → target ≤ maxBytes
  cur : ∀ {position}, position ≤ maxBytes →
    (kernel.lseek contents position 0 seekCur).isSome = true
  set : ∀ {position}, position ≤ maxBytes →
    (kernel.lseek contents position (Int64.ofNat position) seekSet).isSome = true

/-- After `luna_bb_fopen` for reading. -/
structure Opened (contents : List UInt8) (file : File) : Prop where
  contents : file.descriptor.contents = contents
  position : file.descriptor.position = 0
  valid : file.valid = true
  error : file.error = false
  eof : file.eof = false
  ungot : file.ungot = none

def system (kernel : Kernel) (contents : List UInt8) : System File FileCall where
  init := Opened contents
  next file call := some (file.call kernel call).1

theorem File.takeUngot_same (file : File) : file.takeUngot.1.descriptor = file.descriptor ∧
    file.takeUngot.1.valid = file.valid := by
  unfold File.takeUngot
  split <;> exact ⟨rfl, rfl⟩

section Descriptors

variable {kernel : Kernel} {holds : Descriptor → Prop}
  (reads : ∀ descriptor count, holds descriptor → holds (descriptor.lklSysRead count).1)
include reads

/-- What reads of the descriptor keep, `luna_bb_getc` keeps; it leaves `fd` alone. -/
theorem File.lunaBbGetc_keeps {file : File} (before : holds file.descriptor) :
    holds file.lunaBbGetc.1.descriptor ∧ file.lunaBbGetc.1.valid = file.valid := by
  have after := reads file.descriptor 1 before
  unfold File.lunaBbGetc
  split
  · split
    · exact ⟨before, rfl⟩
    · split
      all_goals
        rename_i result
        rw [result] at after
        exact ⟨after, rfl⟩
  · exact ⟨before, rfl⟩

theorem File.freadLoop_keeps (remaining : Nat) {file : File} (before : holds file.descriptor) :
    holds (file.freadLoop remaining).1.descriptor ∧
      (file.freadLoop remaining).1.valid = file.valid := by
  induction remaining using Nat.strongRecOn generalizing file with
  | ind remaining inductionHypothesis =>
      unfold File.freadLoop
      split
      · exact ⟨before, rfl⟩
      next positive =>
        dsimp only
        generalize isChunk : (if remaining < lunaStdioIoChunk then remaining
          else lunaStdioIoChunk) = chunk
        have progress : remaining - chunk < remaining := by
          have some : 0 < lunaStdioIoChunk := by decide
          rw [← isChunk]
          split <;> omega
        have after := reads file.descriptor chunk before
        split
        next failed result =>
          rw [result] at after
          exact ⟨after, rfl⟩
        next ended result =>
          rw [result] at after
          exact ⟨after, rfl⟩
        next read byte bytes result =>
          rw [result] at after
          split
          · exact ⟨after, rfl⟩
          · exact inductionHypothesis _ progress after

theorem File.fgetsLoop_keeps (room : Nat) {file : File} (before : holds file.descriptor) :
    holds (file.fgetsLoop room).1.descriptor ∧ (file.fgetsLoop room).1.valid = file.valid := by
  induction room generalizing file with
  | zero => exact ⟨before, rfl⟩
  | succ room inductionHypothesis =>
      have after := File.lunaBbGetc_keeps reads before
      unfold File.fgetsLoop
      split
      next ended result =>
        rw [result] at after
        exact after
      next read byte result =>
        rw [result] at after
        split
        · exact after
        · obtain ⟨rest, same⟩ := inductionHypothesis after.1
          exact ⟨rest, same.trans after.2⟩

theorem File.call_keeps
    (seeks : ∀ descriptor offset whence target, holds descriptor →
      kernel.lseek descriptor.contents descriptor.position offset whence = some target →
        holds { descriptor with position := target })
    {file : File} (before : holds file.descriptor) (call : FileCall) :
    holds (file.call kernel call).1.descriptor ∧
      (file.call kernel call).1.valid = file.valid := by
  cases call with
  | getc => exact File.lunaBbGetc_keeps reads before
  | ungetc character =>
      unfold File.call File.lunaBbUngetc
      dsimp only
      split <;> exact ⟨before, rfl⟩
  | fread size count =>
      unfold File.call File.lunaBbFread
      dsimp only
      split
      · exact ⟨before, rfl⟩
      split
      · exact ⟨before, rfl⟩
      split
      · obtain ⟨taken, same⟩ := file.takeUngot_same
        obtain ⟨after, same'⟩ := File.freadLoop_keeps reads
          (size * count - file.takeUngot.2.length) (taken ▸ before)
        exact ⟨after, same'.trans same⟩
      · exact ⟨before, rfl⟩
  | fgets size =>
      unfold File.call File.lunaBbFgets
      dsimp only
      split
      · exact ⟨before, rfl⟩
      · exact File.fgetsLoop_keeps reads _ before
  | fseek offset whence =>
      unfold File.call File.lunaBbFseek File.lunaBbLseek
      dsimp only
      cases result : kernel.lseek file.descriptor.contents file.descriptor.position offset whence with
      | none => split <;> exact ⟨before, rfl⟩
      | some target =>
          split
          · exact ⟨seeks _ _ _ _ before result, rfl⟩
          · exact ⟨before, rfl⟩
  | ftell =>
      unfold File.call File.lunaBbFtell File.lunaBbLseek
      dsimp only
      cases result : kernel.lseek file.descriptor.contents file.descriptor.position 0 seekCur with
      | none => split <;> exact ⟨before, rfl⟩
      | some target =>
          split
          · exact ⟨seeks _ _ _ _ before result, rfl⟩
          · exact ⟨before, rfl⟩

end Descriptors

/-- Two streams that differ in what is recorded only. -/
structure Alike (left right : File) : Prop where
  descriptor : left.descriptor = right.descriptor
  valid : left.valid = right.valid
  ungot : left.ungot = right.ungot

section Results

variable {left right : File}

theorem Alike.lunaBbGetc (alike : Alike left right) :
    Alike left.lunaBbGetc.1 right.lunaBbGetc.1 ∧ left.lunaBbGetc.2 = right.lunaBbGetc.2 := by
  obtain ⟨descriptor, valid, leftError, leftEof, ungot⟩ := left
  obtain ⟨_, _, rightError, rightEof, _⟩ := right
  obtain ⟨rfl, rfl, rfl⟩ := alike
  unfold File.lunaBbGetc
  dsimp only
  split
  · split
    · exact ⟨⟨rfl, rfl, rfl⟩, rfl⟩
    · split <;> exact ⟨⟨rfl, rfl, rfl⟩, rfl⟩
  · exact ⟨⟨rfl, rfl, rfl⟩, rfl⟩

theorem Alike.lunaBbUngetc (alike : Alike left right) (character : Int) :
    Alike (left.lunaBbUngetc character).1 (right.lunaBbUngetc character).1 ∧
      (left.lunaBbUngetc character).2 = (right.lunaBbUngetc character).2 := by
  obtain ⟨descriptor, valid, leftError, leftEof, ungot⟩ := left
  obtain ⟨_, _, rightError, rightEof, _⟩ := right
  obtain ⟨rfl, rfl, rfl⟩ := alike
  unfold File.lunaBbUngetc
  dsimp only
  split <;> exact ⟨⟨rfl, rfl, rfl⟩, rfl⟩

theorem Alike.freadLoop (remaining : Nat) {left right : File} (alike : Alike left right) :
    Alike (left.freadLoop remaining).1 (right.freadLoop remaining).1 ∧
      (left.freadLoop remaining).2 = (right.freadLoop remaining).2 := by
  induction remaining using Nat.strongRecOn generalizing left right with
  | ind remaining inductionHypothesis =>
      obtain ⟨descriptor, valid, leftError, leftEof, ungot⟩ := left
      obtain ⟨_, _, rightError, rightEof, _⟩ := right
      obtain ⟨rfl, rfl, rfl⟩ := alike
      unfold File.freadLoop
      split
      · exact ⟨⟨rfl, rfl, rfl⟩, rfl⟩
      next positive =>
        dsimp only
        generalize isChunk : (if remaining < lunaStdioIoChunk then remaining
          else lunaStdioIoChunk) = chunk
        have progress : remaining - chunk < remaining := by
          have some : 0 < lunaStdioIoChunk := by decide
          rw [← isChunk]
          split <;> omega
        split
        · exact ⟨⟨rfl, rfl, rfl⟩, rfl⟩
        · exact ⟨⟨rfl, rfl, rfl⟩, rfl⟩
        next read byte bytes result =>
          split
          · exact ⟨⟨rfl, rfl, rfl⟩, rfl⟩
          · have alike : Alike ⟨read, valid, leftError, leftEof, ungot⟩
                ⟨read, valid, rightError, rightEof, ungot⟩ := ⟨rfl, rfl, rfl⟩
            obtain ⟨after, same⟩ := inductionHypothesis _ progress alike
            exact ⟨after, congrArg (byte :: bytes ++ ·) same⟩

theorem Alike.takeUngot (alike : Alike left right) :
    Alike left.takeUngot.1 right.takeUngot.1 ∧ left.takeUngot.2 = right.takeUngot.2 := by
  obtain ⟨descriptor, valid, leftError, leftEof, ungot⟩ := left
  obtain ⟨_, _, rightError, rightEof, _⟩ := right
  obtain ⟨rfl, rfl, rfl⟩ := alike
  unfold File.takeUngot
  dsimp only
  split <;> exact ⟨⟨rfl, rfl, rfl⟩, rfl⟩

theorem Alike.lunaBbFread (alike : Alike left right) (size count : Nat) :
    Alike (left.lunaBbFread size count).1 (right.lunaBbFread size count).1 ∧
      (left.lunaBbFread size count).2 = (right.lunaBbFread size count).2 := by
  unfold File.lunaBbFread
  rw [alike.valid]
  split
  · exact ⟨alike, rfl⟩
  split
  · exact ⟨⟨alike.descriptor, rfl, alike.ungot⟩, rfl⟩
  split
  · obtain ⟨taken, first⟩ := alike.takeUngot
    obtain ⟨after, rest⟩ := taken.freadLoop (size * count - right.takeUngot.2.length)
    dsimp only
    rw [first, rest]
    exact ⟨after, rfl⟩
  · exact ⟨alike, rfl⟩

theorem Alike.fgetsLoop (room : Nat) {left right : File} (alike : Alike left right) :
    Alike (left.fgetsLoop room).1 (right.fgetsLoop room).1 ∧
      (left.fgetsLoop room).2 = (right.fgetsLoop room).2 := by
  induction room generalizing left right with
  | zero => exact ⟨alike, rfl⟩
  | succ room inductionHypothesis =>
      obtain ⟨after, same⟩ := alike.lunaBbGetc
      unfold File.fgetsLoop
      cases leftRead : left.lunaBbGetc with
      | mk leftAfter value =>
          cases rightRead : right.lunaBbGetc with
          | mk rightAfter value' =>
              rw [leftRead, rightRead] at after same
              cases same
              cases value with
              | none => exact ⟨after, rfl⟩
              | some byte =>
                  dsimp only
                  split
                  · exact ⟨after, rfl⟩
                  · obtain ⟨rest, same⟩ := inductionHypothesis after
                    exact ⟨rest, congrArg (byte :: ·) same⟩

theorem Alike.lunaBbLseek (alike : Alike left right) (kernel : Kernel) (offset : Int64)
    (whence : Int) : Alike (left.lunaBbLseek kernel offset whence).1
        (right.lunaBbLseek kernel offset whence).1 ∧
      (left.lunaBbLseek kernel offset whence).2 = (right.lunaBbLseek kernel offset whence).2 := by
  obtain ⟨descriptor, valid, leftError, leftEof, ungot⟩ := left
  obtain ⟨_, _, rightError, rightEof, _⟩ := right
  obtain ⟨rfl, rfl, rfl⟩ := alike
  unfold File.lunaBbLseek
  dsimp only
  split <;> exact ⟨⟨rfl, rfl, rfl⟩, rfl⟩

theorem Alike.lunaBbFseek (alike : Alike left right) (kernel : Kernel) (offset : Int64)
    (whence : Int) : Alike (left.lunaBbFseek kernel offset whence).1
        (right.lunaBbFseek kernel offset whence).1 ∧
      (left.lunaBbFseek kernel offset whence).2 = (right.lunaBbFseek kernel offset whence).2 := by
  obtain ⟨descriptor, valid, leftError, leftEof, ungot⟩ := left
  obtain ⟨_, _, rightError, rightEof, _⟩ := right
  obtain ⟨rfl, rfl, rfl⟩ := alike
  unfold File.lunaBbFseek File.lunaBbLseek
  dsimp only
  cases kernel.lseek descriptor.contents descriptor.position offset whence with
  | none => split <;> exact ⟨⟨rfl, rfl, rfl⟩, rfl⟩
  | some target => split <;> exact ⟨⟨rfl, rfl, rfl⟩, rfl⟩

theorem Alike.call (alike : Alike left right) (kernel : Kernel) (call : FileCall) :
    Alike (left.call kernel call).1 (right.call kernel call).1 ∧
      (left.call kernel call).2 = (right.call kernel call).2 := by
  cases call with
  | getc => exact alike.lunaBbGetc.imp_right (congrArg Result.byte)
  | ungetc character => exact (alike.lunaBbUngetc character).imp_right (congrArg Result.byte)
  | fread size count =>
      exact (alike.lunaBbFread size count).imp_right
        (congrArg fun pair : List UInt8 × Nat => Result.elements pair.1 pair.2)
  | fgets size =>
      unfold File.call File.lunaBbFgets
      dsimp only
      split
      · exact ⟨alike, rfl⟩
      · exact (alike.fgetsLoop _).imp_right (congrArg Result.line)
  | fseek offset whence =>
      exact (alike.lunaBbFseek kernel offset whence).imp_right (congrArg Result.done)
  | ftell =>
      unfold File.call File.lunaBbFtell
      rw [alike.valid]
      dsimp only
      split
      · exact (alike.lunaBbLseek kernel 0 seekCur).imp_right (congrArg Result.offset)
      · exact ⟨alike, rfl⟩

/-- What is recorded decides no result. -/
theorem Alike.same (alike : Alike left right) (kernel : Kernel) : Same kernel left right := by
  intro calls
  induction calls generalizing left right with
  | nil => rfl
  | cons call calls inductionHypothesis =>
      obtain ⟨after, result⟩ := alike.call kernel call
      exact congrArg₂ List.cons result (inductionHypothesis after)

end Results

section Position

variable {kernel : Kernel} {contents : List UInt8} {maxBytes : Nat} {file : File}

/-- Reads stop at the end of the file. -/
theorem Descriptor.lklSysRead_position (descriptor : Descriptor) (count : Nat) :
    (descriptor.lklSysRead count).1.contents = descriptor.contents ∧
      (descriptor.lklSysRead count).1.position ≤
        max descriptor.position descriptor.contents.length := by
  unfold Descriptor.lklSysRead
  split
  · exact ⟨rfl, Nat.le_max_left _ _⟩
  · refine ⟨rfl, ?_⟩
    unfold Descriptor.left
    dsimp only
    rw [List.length_take, List.length_drop]
    omega

/-- The first byte read is the one at the kernel's offset. -/
theorem Descriptor.lklSysRead_head {descriptor : Descriptor} {count : Nat} {byte : UInt8}
    {bytes : List UInt8} (read : (descriptor.lklSysRead count).2 = some (byte :: bytes)) :
    descriptor.contents[descriptor.position]? = some byte := by
  unfold Descriptor.lklSysRead at read
  split at read
  next failed => cases read
  next most answer =>
    have front := congrArg (·[0]?) (Option.some.inj read)
    rw [List.getElem?_take, Descriptor.left, List.getElem?_drop, Nat.add_zero,
      List.getElem?_cons_zero] at front
    exact (Option.ite_none_right_eq_some.mp front).2

/-- A stream on a file, its offset within `s_maxbytes`. -/
structure Within (contents : List UInt8) (maxBytes : Nat) (file : File) : Prop where
  contents : file.descriptor.contents = contents
  position : file.descriptor.position ≤ maxBytes
  valid : file.valid = true

theorem System.within (seekable : Seekable kernel contents maxBytes)
    (reached : (system kernel contents).Reachable file) : Within contents maxBytes file := by
  refine System.Reachable.invariant (Within contents maxBytes) ?_ ?_ reached
  · intro file opened
    refine ⟨opened.contents, ?_, opened.valid⟩
    rw [opened.position]
    exact Nat.zero_le _
  · intro file call target within moved
    cases moved
    let holds (descriptor : Descriptor) : Prop :=
      descriptor.contents = contents ∧ descriptor.position ≤ maxBytes
    have reads : ∀ descriptor count, holds descriptor →
        holds (descriptor.lklSysRead count).1 := by
      intro descriptor count before
      obtain ⟨same, position⟩ := descriptor.lklSysRead_position count
      have size := seekable.size
      rw [before.1] at position
      exact ⟨same.trans before.1, Nat.le_trans position (Nat.max_le.mpr ⟨before.2, size⟩)⟩
    have seeks : ∀ descriptor offset whence target, holds descriptor →
        kernel.lseek descriptor.contents descriptor.position offset whence = some target →
          holds { descriptor with position := target } := by
      intro descriptor offset whence target before accepted
      rw [before.1] at accepted
      exact ⟨before.1, seekable.within accepted⟩
    have kept := File.call_keeps reads seeks ⟨within.contents, within.position⟩ call
    exact ⟨kept.1.1, kept.1.2, kept.2.trans within.valid⟩

/-- `luna_bb_ftell` returns the kernel's offset and changes nothing. -/
theorem Within.lunaBbFtell (within : Within contents maxBytes file)
    (seekable : Seekable kernel contents maxBytes) :
    file.lunaBbFtell kernel = (file, some file.descriptor.position) ∧
      file.descriptor.position < 2 ^ 63 := by
  obtain ⟨target, accepted⟩ := Option.isSome_iff_exists.mp (seekable.cur within.position)
  have same : target = file.descriptor.position := by
    have sum := kernel.cur accepted
    have zero : (0 : Int64).toInt = 0 := rfl
    rw [zero] at sum
    omega
  have small := kernel.bounded accepted
  unfold File.lunaBbFtell File.lunaBbLseek
  rw [if_pos within.valid, within.contents, accepted, same]
  exact ⟨rfl, same ▸ small⟩

/-- A seek to where the kernel's offset is drops a byte pushed back and nothing else. -/
theorem lunaBbFseek_still {offset : Int64} {whence : Int} (valid : file.valid = true)
    (accepted : kernel.lseek file.descriptor.contents file.descriptor.position offset whence =
      some file.descriptor.position) (ungot : file.ungot = none) :
    Alike (file.lunaBbFseek kernel offset whence).1 file := by
  unfold File.lunaBbFseek File.lunaBbLseek
  rw [if_pos valid, accepted]
  exact ⟨rfl, rfl, ungot.symm⟩

theorem Within.coherent (within : Within contents maxBytes file)
    (seekable : Seekable kernel contents maxBytes) (ungot : file.ungot = none) :
    PositionCoherent kernel file := by
  obtain ⟨tell, small⟩ := within.lunaBbFtell seekable
  refine ⟨⟨file.descriptor.position, by rw [tell], ?_⟩, ?_, ?_, ?_⟩
  · rw [File.nextOffset, ungot]
    exact (Int.sub_zero _).symm
  · intro target byte told _ delivered
    rw [tell] at told
    cases told
    unfold File.lunaBbGetc at delivered
    rw [if_pos within.valid, ungot] at delivered
    dsimp only at delivered
    split at delivered
    next failed result => cases delivered
    next ended result => cases delivered
    next read first bytes result =>
      cases delivered
      have read : (file.descriptor.lklSysRead 1).2 = some (byte :: bytes) := by rw [result]
      exact Descriptor.lklSysRead_head read
  · intro _
    obtain ⟨target, accepted⟩ := Option.isSome_iff_exists.mp (seekable.cur within.position)
    have sum := kernel.cur accepted
    have zero : (0 : Int64).toInt = 0 := rfl
    have same : target = file.descriptor.position := by omega
    rw [same, ← within.contents] at accepted
    exact (lunaBbFseek_still within.valid accepted ungot).same kernel
  · intro target told
    rw [tell] at told ⊢
    cases told
    obtain ⟨target, accepted⟩ := Option.isSome_iff_exists.mp (seekable.set within.position)
    have sum := kernel.set accepted
    rw [Int64.toInt_ofNat_of_lt small] at sum
    have same : target = file.descriptor.position := by omega
    rw [same, ← within.contents] at accepted
    exact (lunaBbFseek_still within.valid accepted ungot).same kernel

/-- With a byte pushed back `luna_bb_ftell` is one too far. -/
theorem Within.not_coherent (within : Within contents maxBytes file)
    (seekable : Seekable kernel contents maxBytes) {byte : UInt8}
    (ungot : file.ungot = some byte) : ¬ PositionCoherent kernel file := by
  intro coherent
  obtain ⟨target, told, position⟩ := coherent.tell
  rw [(within.lunaBbFtell seekable).1] at told
  cases told
  rw [File.nextOffset, ungot] at position
  change (file.descriptor.position : Int) = file.descriptor.position - 1 at position
  omega

/-- Telling and seeking account for the stream's position exactly when no byte is pushed
back. -/
theorem position_coherent_iff (seekable : Seekable kernel contents maxBytes)
    (reached : (system kernel contents).Reachable file) :
    PositionCoherent kernel file ↔ file.ungot = none := by
  have within := System.within seekable reached
  constructor
  · intro coherent
    cases pushed : file.ungot with
    | none => rfl
    | some byte => exact absurd coherent (within.not_coherent seekable pushed)
  · exact within.coherent seekable

end Position

theorem plainLseek_isSome {contents : List UInt8} {position : Nat} {offset : Int64}
    {whence : Int} (target : Nat)
    (sum : (plainBase contents position whence : Int) + offset.toInt = target)
    (small : target < 2 ^ 63) : (plainLseek contents position offset whence).isSome = true := by
  have inside : 0 ≤ (plainBase contents position whence : Int) + offset.toInt ∧
      (plainBase contents position whence : Int) + offset.toInt < 2 ^ 63 := by omega
  rw [plainLseek, if_pos inside, Option.isSome_some]

theorem plainSeekable {contents : List UInt8} (size : contents.length < 2 ^ 63) :
    Seekable plainKernel contents (2 ^ 63 - 1) := by
  have lseek : plainKernel.lseek = plainLseek := rfl
  refine ⟨by omega, ?_, ?_, ?_⟩
  · intro position offset whence target accepted
    have small := plainKernel.bounded accepted
    omega
  · intro position small
    have zero : (0 : Int64).toInt = 0 := rfl
    rw [lseek]
    refine plainLseek_isSome position ?_ (by omega)
    rw [zero]
    exact Int.add_zero _
  · intro position small
    rw [lseek]
    refine plainLseek_isSome position ?_ (by omega)
    rw [Int64.toInt_ofNat_of_lt (by omega)]
    exact Int.zero_add _

/-- A file of two bytes, opened. -/
def twoBytes : File where
  descriptor :=
    { contents := [65, 66]
      position := 0
      answers := fun _ => some 1
      reads := 0
      results := [] }
  valid := true
  error := false
  eof := false
  ungot := none

theorem opened_twoBytes : Opened [65, 66] twoBytes := ⟨rfl, rfl, rfl, rfl, rfl, rfl⟩

theorem position_coherent_after_getc :
    ∃ file, (system plainKernel [65, 66]).Reachable file ∧ file.descriptor.position = 1 ∧
      PositionCoherent plainKernel file := by
  obtain ⟨file, reached, ends⟩ := System.exists_reach_of_exec (system plainKernel [65, 66])
    (fun _ _ => True) twoBytes [.getc, .ungetc 65, .getc]
    (fun file => decide (file.descriptor.position = 1 ∧ file.ungot = none))
    opened_twoBytes (by decide +kernel)
  obtain ⟨position, ungot⟩ := of_decide_eq_true ends
  exact ⟨file, reached, position,
    (position_coherent_iff (plainSeekable (by decide)) reached).mpr ungot⟩

/-- After `luna_bb_getc` and `luna_bb_ungetc` of the first byte the next byte is the first
again, but `luna_bb_ftell` returns 1. -/
theorem ftell_ignores_ungetc :
    ∃ file, (system plainKernel [65, 66]).Reachable file ∧
      file.lunaBbGetc.2 = some 65 ∧ (file.lunaBbFtell plainKernel).2 = some 1 ∧
      ¬ PositionCoherent plainKernel file := by
  obtain ⟨file, reached, ends⟩ := System.exists_reach_of_exec (system plainKernel [65, 66])
    (fun _ _ => True) twoBytes [.getc, .ungetc 65]
    (fun file => decide (file.ungot = some 65 ∧ file.lunaBbGetc.2 = some 65 ∧
      (file.lunaBbFtell plainKernel).2 = some 1))
    opened_twoBytes (by decide +kernel)
  obtain ⟨ungot, next, told⟩ := of_decide_eq_true ends
  have seekable : Seekable plainKernel [65, 66] (2 ^ 63 - 1) := plainSeekable (by decide)
  exact ⟨file, reached, next, told,
    (System.within seekable reached).not_coherent seekable ungot⟩

end Luna.Streams
