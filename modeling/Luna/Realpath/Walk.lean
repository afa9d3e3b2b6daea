import Mathlib.Data.List.Basic
import Luna.Lib.PathResolution

/-!
# The resolution of path names

`luna_bb_realpath` and `bb_realpath_pop`.  A string is the list of its characters
without the terminator.  The pending string is kept from the cursor on, as what is
before the cursor is not read again; the terminators that are put there for a while cut
a component out of it.  What `getcwd`, `lstat`, `readlink` and the allocator answer is
a parameter, with the room their callers give them.
-/

namespace Luna.Realpath

abbrev Text := List Char

def pathMax : Nat := 4096

inductive Kind where
  | directory
  | file
  | link
  deriving DecidableEq, Repr

/-- A string that fits where `size` characters are asked for. -/
abbrev Fitting (size : Nat) := { text : Text // text.length ≤ size }

/-- The name of the current directory. -/
structure Directory where
  text : Text
  fits : text.length < pathMax
  absolute : text.head? = some '/'

/-- The calls of the kernel and the allocator; an error is its number. -/
structure Calls where
  getcwd : Except Int Directory
  lstat : Text → Except Int Kind
  readlink : Text → Except Int (Fitting (pathMax - 1))
  malloc : Nat → Bool

/-- How a call fails.  `kernel` is the error of a call it makes, `tooLong` carries the
string that is not built and `overrun` is a string stored where it does not fit. -/
inductive Failure where
  | noEntry
  | loop
  | tooLong (text : Text)
  | kernel (errno : Int)
  | noMemory
  | overrun
  deriving DecidableEq, Repr

/-- `strcpy` into an array of `PATH_MAX` characters. -/
def strcpy (text : Text) : Except Failure Text :=
  if text.length < pathMax then .ok text else .error .overrun

/-- `strrchr`. -/
def strrchr (character : Char) : Text → Option Nat
  | [] => none
  | head :: rest =>
      match strrchr character rest with
      | some index => some (index + 1)
      | none => if head = character then some 0 else none

def bbRealpathPop (path : Text) : Text :=
  match strrchr '/' path with
  | none => ['/']
  | some 0 => ['/']
  | some index => path.take index

/-- The loop's state: the string at the cursor, `output` and `links`. -/
structure Walk where
  cursor : Text
  output : Text
  links : Nat
  deriving DecidableEq, Repr

/-- A round of the loop leaves it or goes on. -/
inductive Round where
  | done (output : Text)
  | next (walk : Walk)
  deriving DecidableEq, Repr

/-- The output with a component appended. -/
def extend (output component : Text) : Text :=
  if 1 < output.length then output ++ '/' :: component else output ++ component

/-- The target of a link in front of what remains. -/
def replacement (target remainder : Text) : Text :=
  if remainder = [] then target else target ++ '/' :: remainder

variable (calls : Calls)

/-- The rest of a round, for a component that is a symbolic link. -/
def expandLink (walk : Walk) (output remainder : Text) : Except Failure Round := do
  if 40 < walk.links + 1 then .error .loop
  else
    match calls.readlink output with
    | .error errno => .error (.kernel errno)
    | .ok target =>
        let target ← strcpy target.val
        let popped := bbRealpathPop output
        if pathMax ≤ target.length + (if remainder ≠ [] then 1 else 0) + remainder.length then
          .error (.tooLong (replacement target remainder))
        else
          let pending ← strcpy (replacement target remainder)
          let output := if target.head? = some '/' then ['/'] else popped
          return .next ⟨pending, output, walk.links + 1⟩

/-- One round of the loop of `luna_bb_realpath`. -/
def round (walk : Walk) : Except Failure Round := do
  let cursor := walk.cursor.dropWhile (· = '/')
  if cursor = [] then return .done walk.output
  else
    let component := cursor.takeWhile (· ≠ '/')
    let after := cursor.dropWhile (· ≠ '/')
    if component = ['.'] then return .next { walk with cursor := after }
    else if component = ['.', '.'] then
      return .next { walk with cursor := after, output := bbRealpathPop walk.output }
    else if pathMax ≤
        walk.output.length + (if 1 < walk.output.length then 1 else 0) + component.length then
      .error (.tooLong (extend walk.output component))
    else
      let output ← strcpy (extend walk.output component)
      match calls.lstat output with
      | .error errno => .error (.kernel errno)
      | .ok .link => expandLink calls walk output after.tail
      | .ok _ => return .next { walk with cursor := after, output }

/-- The loop, for so many rounds. -/
def run : Nat → Walk → Option (Except Failure Text)
  | 0, _ => none
  | rounds + 1, walk =>
      match round calls walk with
      | .error failure => some (.error failure)
      | .ok (.done output) => some (.ok output)
      | .ok (.next walk) => run rounds walk

/-- The path behind the current directory. -/
def behindCwd (cwd path : Text) : Text :=
  if 1 < cwd.length then cwd ++ '/' :: path else cwd ++ path

/-- The string the loop starts with. -/
def pending : Text → Except Failure Text
  | [] => .error .noEntry
  | '/' :: path =>
      if pathMax ≤ ('/' :: path).length then .error (.tooLong ('/' :: path))
      else strcpy ('/' :: path)
  | path =>
      match calls.getcwd with
      | .error errno => .error (.kernel errno)
      | .ok cwd =>
          if pathMax ≤ cwd.text.length + 1 + path.length then
            .error (.tooLong (behindCwd cwd.text path))
          else strcpy (behindCwd cwd.text path)

/-- The end of `luna_bb_realpath`: the result is the caller's array or allocated. -/
def giveResult (resolved : Bool) (output : Text) : Except Failure Text :=
  if resolved || calls.malloc (output.length + 1) then .ok output else .error .noMemory

/-- `luna_bb_realpath`, for so many rounds of its loop.  The null path is refused as the
empty one is. -/
def lunaBbRealpath (path : Text) (resolved : Bool) (rounds : Nat) :
    Option (Except Failure Text) :=
  match pending calls path with
  | .error failure => some (.error failure)
  | .ok cursor => (run calls rounds ⟨cursor, ['/'], 0⟩).map (·.bind (giveResult calls resolved))

end Luna.Realpath
