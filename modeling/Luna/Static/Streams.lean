import Luna.Static.StdinSeek

/-!
# Streams

`struct luna_bb_file` with `luna_bb_getc`, `luna_bb_ungetc`, `luna_bb_fread`,
`luna_bb_fgets`, `luna_bb_fseek` and `luna_bb_ftell`.  How much each `lkl_sys_read`
returns, and whether it fails, is part of the state.  Descriptors 0, 1 and 2 stay open,
so the LKL number of an opened file is at least 3 and `bb_fd` leaves it alone.
-/

namespace Luna.Streams

open Interleaving Stdin StdinSeek

/-- `SIZE_MAX`. -/
def sizeMax : Nat := 2 ^ 64 - 1

/-- An open descriptor.  For a pipe `contents` is all that is ever written to it.  The
n-th `lkl_sys_read` fails when its answer is none and returns at most that many bytes
otherwise.  `results` is history: what each of them has returned. -/
structure Descriptor where
  contents : List UInt8
  position : Nat
  answers : Nat → Option Nat
  reads : Nat
  results : List (Option Nat)

namespace Descriptor

def left (descriptor : Descriptor) : List UInt8 := descriptor.contents.drop descriptor.position

def lklSysRead (descriptor : Descriptor) (count : Nat) : Descriptor × Option (List UInt8) :=
  match descriptor.answers descriptor.reads with
  | none =>
      ({ descriptor with
          reads := descriptor.reads + 1
          results := descriptor.results ++ [none] }, none)
  | some most =>
      let bytes := descriptor.left.take (min most count)
      ({ descriptor with
          reads := descriptor.reads + 1
          results := descriptor.results ++ [some bytes.length]
          position := descriptor.position + bytes.length }, some bytes)

end Descriptor

/-- `struct luna_bb_file`; `valid` is `fd >= 0`. -/
structure File where
  descriptor : Descriptor
  valid : Bool
  error : Bool
  eof : Bool
  ungot : Option UInt8

namespace File

/-- `luna_bb_getc`; none is `EOF`. -/
def lunaBbGetc (file : File) : File × Option UInt8 :=
  if file.valid then
    match file.ungot with
    | some byte => ({ file with ungot := none, eof := false }, some byte)
    | none =>
        match file.descriptor.lklSysRead 1 with
        | (after, none) => ({ file with descriptor := after, error := true }, none)
        | (after, some []) => ({ file with descriptor := after, eof := true }, none)
        | (after, some (byte :: _)) => ({ file with descriptor := after }, some byte)
  else (file, none)

/-- `luna_bb_ungetc`; -1 is `EOF`. -/
def lunaBbUngetc (file : File) (character : Int) : File × Option UInt8 :=
  if character = -1 ∨ file.ungot.isSome then (file, none)
  else
    let byte := UInt8.ofNat (character % 256).toNat
    ({ file with ungot := some byte, eof := false }, some byte)

/-- The loop of `luna_bb_fread`. -/
def freadLoop (file : File) (remaining : Nat) : File × List UInt8 :=
  if remaining = 0 then (file, [])
  else
    let chunk := if remaining < lunaStdioIoChunk then remaining else lunaStdioIoChunk
    match file.descriptor.lklSysRead chunk with
    | (after, none) => ({ file with descriptor := after, error := true }, [])
    | (after, some []) => ({ file with descriptor := after, eof := true }, [])
    | (after, some (byte :: bytes)) =>
        if (byte :: bytes).length < chunk then ({ file with descriptor := after }, byte :: bytes)
        else
          match ({ file with descriptor := after } : File).freadLoop (remaining - chunk) with
          | (final, rest) => (final, byte :: bytes ++ rest)
termination_by remaining
decreasing_by
  have positive : 0 < lunaStdioIoChunk := by decide
  grind

/-- The byte pushed back is the first that `luna_bb_fread` stores. -/
def takeUngot (file : File) : File × List UInt8 :=
  match file.ungot with
  | some byte => ({ file with ungot := none, eof := false }, [byte])
  | none => (file, [])

/-- `luna_bb_fread`: the bytes stored and the number returned. -/
def lunaBbFread (file : File) (size count : Nat) : File × List UInt8 × Nat :=
  if size = 0 ∨ count = 0 then (file, [], 0)
  else if sizeMax / size < count then ({ file with error := true }, [], 0)
  else if file.valid then
    let (taken, first) := file.takeUngot
    let (after, rest) := taken.freadLoop (size * count - first.length)
    (after, first ++ rest, (first ++ rest).length / size)
  else (file, [], 0)

/-- The loop of `luna_bb_fgets` with room for so many bytes. -/
def fgetsLoop (file : File) : Nat → File × List UInt8
  | 0 => (file, [])
  | room + 1 =>
      match file.lunaBbGetc with
      | (after, none) => (after, [])
      | (after, some byte) =>
          if byte = 10 then (after, [byte])
          else
            match after.fgetsLoop room with
            | (final, bytes) => (final, byte :: bytes)

/-- `luna_bb_fgets`; no bytes stand for a null result. -/
def lunaBbFgets (file : File) (size : Int) : File × List UInt8 :=
  if size ≤ 0 then (file, []) else file.fgetsLoop (size.toNat - 1)

/-- `luna_bb_lseek` of the file's descriptor. -/
def lunaBbLseek (kernel : Kernel) (file : File) (offset : Int64) (whence : Int) :
    File × Option Nat :=
  match kernel.lseek file.descriptor.contents file.descriptor.position offset whence with
  | none => (file, none)
  | some target => ({ file with descriptor := { file.descriptor with position := target } },
      some target)

/-- `luna_bb_fseek`; false is the result -1. -/
def lunaBbFseek (kernel : Kernel) (file : File) (offset : Int64) (whence : Int) : File × Bool :=
  if file.valid then
    match file.lunaBbLseek kernel offset whence with
    | (after, none) => (after, false)
    | (after, some _) => ({ after with eof := false, ungot := none }, true)
  else (file, false)

/-- `luna_bb_ftell`; none is the result -1. -/
def lunaBbFtell (kernel : Kernel) (file : File) : File × Option Nat :=
  if file.valid then file.lunaBbLseek kernel 0 seekCur else (file, none)

end File

/-- `luna_bb_fread` of `stdin`, `stdout` and `stderr`, which have no flags; a descriptor
that is not read ahead has an empty buffer. -/
def standardFread (state : Stdin.State) (size count : Nat) : Stdin.State × List UInt8 × Nat :=
  if size = 0 ∨ count = 0 then (state, [], 0)
  else if sizeMax / size < count then (state, [], 0)
  else
    let (after, bytes) := state.freadLoop (size * count)
    (after, bytes, bytes.length / size)

end Luna.Streams
