import Mathlib.Algebra.Ring.Nat
import Mathlib.Data.Fin.Basic
import Mathlib.Data.List.FinRange
import Mathlib.Logic.Function.Basic
import Luna.Lib.DescriptorTable
import Luna.Lib.Interleaving

/-!
# Static workers

The launcher's calls `luna_bb_run_static`, `luna_bb_spawn_static`,
`luna_bb_run_pipeline` and `luna_bb_waitpid`.  What the kernel and the thread pool
answer is an argument of each call.  Workers run beside the launcher: before each
operation of the launcher the `schedule` lets some of them close standard
descriptors or exit.  Peaks and counters that are only reported and the signal a
worker raises when it is done are left out.
-/

namespace Luna.Static

open DescriptorTable

def lunaStaticArgcMax : Nat := 16
def lunaStaticArgBytes : Nat := 1024
def lunaStdioIoChunk : Int := 64 * 1024

/-- `LUNA_STATIC_WORKERS` slots. -/
abbrev Slot := Fin 4

/-- A virtual descriptor of a worker. -/
abbrev Stdio := Fin 3

abbrev stdin : Stdio := 0

abbrev stdout : Stdio := 1

inductive Side where
  | read
  | write
  deriving DecidableEq, Repr

/-- Who is to close a descriptor. -/
inductive Owner where
  | other
  | launcher (pipe : Nat) (side : Side)
  | worker (slot : Slot) (fd : Stdio)
  deriving DecidableEq, Repr

/-- An open descriptor: the end of a pipe it refers to, if any, and its owner. -/
structure File where
  pipe : Option (Nat × Side)
  owner : Owner
  deriving DecidableEq, Repr

/-- `struct task_static_worker`.  `exitStatus` is what the applet is going to exit
with, `joinable` whether the worker's thread was created and not yet joined.
`background` is history: `luna_bb_spawn_static` counted the worker. -/
structure Worker where
  inUse : Bool
  done : Bool
  reaped : Bool
  tid : Nat
  status : Nat
  exitStatus : Nat
  joinable : Bool
  background : Bool
  fdMap : Stdio → Option Nat
  argv : List String

/-- What a worker does beside the launcher. -/
inductive WorkerEvent where
  | close (slot : Slot) (fd : Stdio)
  | exit (slot : Slot)
  deriving DecidableEq, Repr

inductive SlotEvent where
  | allocate (slot : Slot)
  | release (slot : Slot)
  deriving DecidableEq, Repr

/-- `pipes` counts the pipes made.  `slotLog` and `joins` are history: the
allocations and releases, and the descriptors open at each join. -/
structure World where
  workers : Slot → Worker
  current : Nat
  files : Table File
  pipes : Nat
  schedule : Nat → List WorkerEvent
  clock : Nat
  slotLog : List SlotEvent
  joins : List (Table File)

namespace World

def put (world : World) (slot : Slot) (worker : Worker) : World :=
  { world with workers := Function.update world.workers slot worker }

@[simp] theorem put_workers_self (world : World) (slot : Slot) (worker : Worker) :
    (world.put slot worker).workers slot = worker :=
  Function.update_self ..

theorem put_workers_of_ne {world : World} {slot other : Slot} (different : other ≠ slot)
    (worker : Worker) : (world.put slot worker).workers other = world.workers other :=
  Function.update_of_ne different ..

/-- Close what a virtual descriptor maps to and forget it. -/
def closeStdio (world : World) (slot : Slot) (fd : Stdio) : World :=
  let worker := world.workers slot
  match worker.fdMap fd with
  | none => world
  | some number =>
      { world.put slot { worker with fdMap := Function.update worker.fdMap fd none } with
        files := world.files.close number }

/-- The loop over `fd_map` at a worker's exit and in `task_static_release`. -/
def closeMap (world : World) (slot : Slot) : World :=
  (List.finRange 3).foldl (fun world fd => world.closeStdio slot fd) world

/-- The end of `task_static_worker`. -/
def exitWorker (world : World) (slot : Slot) : World :=
  let closed := world.closeMap slot
  let worker := closed.workers slot
  closed.put slot { worker with done := true, status := worker.exitStatus % 256 }

/-- The thread of a worker exists and has not finished. -/
def Running (world : World) (slot : Slot) : Prop :=
  (world.workers slot).inUse ∧ (world.workers slot).tid ≠ 0 ∧ ¬ (world.workers slot).done

instance (world : World) (slot : Slot) : Decidable (world.Running slot) :=
  inferInstanceAs (Decidable (_ ∧ _ ∧ _))

def event (world : World) : WorkerEvent → World
  | .close slot fd => if world.Running slot then world.closeStdio slot fd else world
  | .exit slot => if world.Running slot then world.exitWorker slot else world

/-- What the workers do before the launcher's next operation. -/
def settle (world : World) : World :=
  { (world.schedule world.clock).foldl event world with clock := world.clock + 1 }

/-- A slot as `task_static_allocate` hands it out. -/
def allocated (worker : Worker) : Worker :=
  { worker with
    inUse := true
    done := false
    reaped := false
    tid := 0
    status := 255
    joinable := false
    background := false
    fdMap := fun _ => none }

/-- The slot `task_static_allocate` finds. -/
def freeSlot (world : World) : Option Slot :=
  (List.finRange 4).find? fun slot => !(world.workers slot).inUse

def taskStaticAllocate (world : World) : World × Option Slot :=
  let world := world.settle
  match world.freeSlot with
  | none => (world, none)
  | some slot =>
      ({ world.put slot (allocated (world.workers slot)) with
          current := (world.current + 1) % 2 ^ 32
          slotLog := world.slotLog ++ [.allocate slot] }, some slot)

def taskStaticRelease (world : World) (slot : Slot) : World :=
  let closed := world.settle.closeMap slot
  { closed.put slot { closed.workers slot with inUse := false } with
    current := (closed.current + 2 ^ 32 - 1) % 2 ^ 32
    slotLog := closed.slotLog ++ [.release slot] }

end World

def e2big : Int := 7
def einval : Int := 22
def enoent : Int := 2
def eagain : Int := 11
def echild : Int := 10

/-- The loop of `task_static_copy_argv`: the count, or the error. -/
def copyArgv : List String → Nat → Nat → Int
  | [], argc, _ => if argc = 0 then -einval else 0
  | argument :: rest, argc, used =>
      if lunaStaticArgcMax ≤ argc then -e2big
      else
        let length := argument.utf8ByteSize + 1
        if lunaStaticArgBytes < used + length then -e2big
        else copyArgv rest (argc + 1) (used + length)

/-- `task_static_copy_argv`. -/
def taskStaticCopyArgv (argv : List String) : Int := copyArgv argv 0 0

def staticCommands : List String :=
  ["basename", "cat", "cmp", "cp", "cut", "dd", "dirname", "echo",
   "false", "find", "grep", "head", "ln", "ls", "mkdir", "mv",
   "printenv", "printf", "readlink", "realpath", "rmdir", "sleep",
   "sort", "tee", "touch", "true", "truncate", "uname", "uniq", "unlink",
   "wc"]

def taskStaticCommandAllowed (name : String) : Bool := staticCommands.contains name

/-- What `lkl_sys_dup` and `thread_create` answer: a negative answer of `dup` is its
error, thread zero is a failure.  `exitStatus` is what the applet exits with. -/
structure StartAnswers where
  dup : Stdio → Int
  thread : Nat
  exitStatus : Nat

namespace World

/-- `lkl_sys_dup` into a virtual descriptor of a worker. -/
def dup (world : World) (slot : Slot) (fd : Stdio) (source : Nat) : World :=
  let worker := world.workers slot
  let file : File := ⟨(world.files.lookup source).bind File.pipe, .worker slot fd⟩
  { world.put slot
      { worker with fdMap := Function.update worker.fdMap fd (some world.files.next) } with
    files := world.files.insert file }

/-- The loop of `task_static_start` over the standard descriptors. -/
def dupStdio (world : World) (slot : Slot) (source : Stdio → Nat) (answers : StartAnswers) :
    List Stdio → World × Int
  | [] => (world, 0)
  | fd :: rest =>
      if answers.dup fd < 0 then (world.settle, answers.dup fd)
      else (world.settle.dup slot fd (source fd)).dupStdio slot source answers rest

/-- `(int)tid`. -/
def pidOf (tid : Nat) : Int := Int.bmod tid (2 ^ 32)

/-- `thread_create`; the worker stores its thread as well. -/
def threadCreate (world : World) (slot : Slot) (answers : StartAnswers) : World :=
  world.put slot { world.workers slot with
    tid := answers.thread
    exitStatus := answers.exitStatus
    joinable := true }

def taskStaticStart (world : World) (slot : Slot) (argv : List String) (source : Stdio → Nat)
    (answers : StartAnswers) : World × Int :=
  if taskStaticCopyArgv argv < 0 then (world.taskStaticRelease slot, taskStaticCopyArgv argv)
  else
    let world := world.put slot { world.workers slot with argv }
    if !taskStaticCommandAllowed (argv.headD "") then (world.taskStaticRelease slot, -enoent)
    else
      match world.dupStdio slot source answers (List.finRange 3) with
      | (world, result) =>
          if result < 0 then (world.taskStaticRelease slot, result)
          else if answers.thread = 0 then (world.settle.taskStaticRelease slot, -eagain)
          else (world.settle.threadCreate slot answers, pidOf answers.thread)

/-- `thread_join` of a thread not yet joined returns when the worker has exited. -/
def awaitWorker (world : World) (slot : Slot) : World :=
  if world.Running slot then world.exitWorker slot else world

def taskStaticJoin (world : World) (slot : Slot) : World × Int :=
  let world := world.settle
  if !(world.workers slot).inUse || (world.workers slot).reaped then (world, -echild)
  else
    let joining := { world with joins := world.joins ++ [world.files] }
    if !(world.workers slot).joinable then (joining, -echild)
    else
      let exited := joining.awaitWorker slot
      let worker := exited.workers slot
      let joined := exited.put slot { worker with reaped := true, joinable := false }
      (joined.taskStaticRelease slot, worker.status % 256)

/-- The descriptors 0, 1 and 2 of the launcher. -/
def launcherStdio (fd : Stdio) : Nat := fd

def lunaBbRunStatic (world : World) (argv : List String) (answers : StartAnswers) :
    World × Int :=
  match world.taskStaticAllocate with
  | (world, none) => (world, -eagain)
  | (world, some slot) =>
      match world.taskStaticStart slot argv launcherStdio answers with
      | (world, pid) =>
          if pid < 0 then (world, if pid = -enoent then -enoent else -eagain)
          else world.taskStaticJoin slot

def lunaBbSpawnStatic (world : World) (argv : List String) (answers : StartAnswers) :
    World × Int :=
  match world.taskStaticAllocate with
  | (world, none) => (world, -eagain)
  | (world, some slot) =>
      match world.taskStaticStart slot argv launcherStdio answers with
      | (world, pid) =>
          if 0 < pid then (world.put slot { world.workers slot with background := true }, pid)
          else (world, pid)

end World

/-- What `lkl_sys_pipe2` and the `fcntl` that sets the capacity answer. -/
structure PipeAnswer where
  result : Int
  capacity : Int
  deriving DecidableEq, Repr

structure PipelineCall where
  count : Int
  commands : Nat → Option (List String)
  pipe : Nat → PipeAnswer
  start : Nat → StartAnswers

namespace PipelineCall

variable (call : PipelineCall)

/-- The number of stages, when the count is in range. -/
def stages : Nat := call.count.toNat

def argv (stage : Nat) : List String := (call.commands stage).getD []

/-- The check of one command at the beginning of `luna_bb_run_pipeline`. -/
def CommandAllowed (stage : Nat) : Prop :=
  ∃ name ∈ (call.argv stage).head?, taskStaticCommandAllowed name = true

instance (stage : Nat) : Decidable (call.CommandAllowed stage) :=
  inferInstanceAs (Decidable (∃ name ∈ (call.argv stage).head?,
    taskStaticCommandAllowed name = true))

def InRange : Prop := 2 ≤ call.count ∧ call.count ≤ 4

instance : Decidable call.InRange := inferInstanceAs (Decidable (_ ∧ _))

def Allowed : Prop := ∀ stage < call.stages, call.CommandAllowed stage

instance : Decidable call.Allowed :=
  inferInstanceAs (Decidable (∀ stage < call.stages, call.CommandAllowed stage))

end PipelineCall

/-- The numbers `lkl_sys_pipe2` stores. -/
structure PipeEnds where
  read : Nat
  write : Nat
  deriving DecidableEq, Repr

namespace World

/-- `lkl_sys_pipe2`. -/
def pipe2 (world : World) : World × PipeEnds :=
  let first := world.files.insert
    ⟨some (world.pipes, .read), .launcher world.pipes .read⟩
  let second := first.insert ⟨some (world.pipes, .write), .launcher world.pipes .write⟩
  ({ world with files := second, pipes := world.pipes + 1 }, ⟨world.files.next, first.next⟩)

/-- The loop of `luna_bb_run_pipeline` that makes the pipes. -/
def makePipes (world : World) (call : PipelineCall) :
    List Nat → List PipeEnds → World × List PipeEnds × Bool
  | [], made => (world, made, true)
  | index :: rest, made =>
      if (call.pipe index).result < 0 then (world.settle, made, false)
      else
        match world.settle.pipe2 with
        | (world, ends) =>
            if (call.pipe index).capacity < lunaStdioIoChunk then
              (world.settle, made ++ [ends], false)
            else world.settle.makePipes call rest (made ++ [ends])

/-- The descriptors a stage is started with. -/
def stageSource (stages : Nat) (made : List PipeEnds) (stage : Nat) (fd : Stdio) : Nat :=
  if fd = 0 then
    if stage = 0 then 0 else (made[stage - 1]?.map PipeEnds.read).getD 0
  else if fd = 1 then
    if stage + 1 = stages then 1 else (made[stage]?.map PipeEnds.write).getD 0
  else 2

/-- The loop that starts the stages. -/
def startStages (world : World) (call : PipelineCall) (made : List PipeEnds) :
    List Nat → List Slot → World × List Slot × Bool
  | [], slots => (world, slots, true)
  | stage :: rest, slots =>
      match world.taskStaticAllocate with
      | (world, none) => (world, slots, false)
      | (world, some slot) =>
          match world.taskStaticStart slot (call.argv stage)
              (stageSource call.stages made stage) (call.start stage) with
          | (world, pid) =>
              if pid < 0 then (world, slots ++ [slot], false)
              else world.startStages call made rest (slots ++ [slot])

/-- One `lkl_sys_close` of the launcher. -/
def closeEnd (world : World) (number : Nat) : World :=
  { world.settle with files := world.settle.files.close number }

def closePipes (world : World) (made : List PipeEnds) : World :=
  made.foldl (fun world ends => (world.closeEnd ends.read).closeEnd ends.write) world

/-- The last loop: the status of the last stage. -/
def joinStages (world : World) : List Slot → Int → World × Int
  | [], status => (world, status)
  | slot :: rest, _ =>
      match world.taskStaticJoin slot with
      | (world, code) => world.joinStages rest code

/-- One round of the loop at `fail_workers`. -/
def failWorker (world : World) (slot : Slot) : World :=
  if (world.workers slot).tid ≠ 0 then (world.taskStaticJoin slot).1
  else world.taskStaticRelease slot

def failWorkers (world : World) (slots : List Slot) : World :=
  slots.foldl failWorker world

def lunaBbRunPipeline (world : World) (call : PipelineCall) : World × Int :=
  if ¬ call.InRange then (world, -einval)
  else if ¬ call.Allowed then (world, -enoent)
  else
    match world.makePipes call (List.range (call.stages - 1)) [] with
    | (world, made, false) => (world.closePipes made, -1)
    | (world, made, true) =>
        match world.startStages call made (List.range call.stages) [] with
        | (world, slots, false) => ((world.failWorkers slots).closePipes made, -1)
        | (world, slots, true) => (world.closePipes made).joinStages slots 0

/-- The worker one pass of `luna_bb_waitpid` looks for. -/
def Waited (world : World) (pid : Int) (slot : Slot) : Prop :=
  (world.workers slot).inUse ∧ ¬ (world.workers slot).reaped ∧
    ¬ (0 < pid ∧ (world.workers slot).tid ≠ (pid.toNat))

instance (world : World) (pid : Int) (slot : Slot) : Decidable (world.Waited pid slot) :=
  inferInstanceAs (Decidable (_ ∧ _ ∧ _))

/-- The answers of `luna_bb_waitpid`; a pass that answers `again` is repeated. -/
inductive WaitAnswer where
  | pid (result : Int) (status : Int)
  | nobody
  | running
  | again
  deriving DecidableEq, Repr

/-- One pass of the loop of `luna_bb_waitpid`. -/
def lunaBbWaitpid (world : World) (pid : Int) (nohang : Bool) : World × WaitAnswer :=
  let world := world.settle
  match (List.finRange 4).find? fun slot =>
      decide (world.Waited pid slot) && (world.workers slot).done with
  | some slot =>
      match world.taskStaticJoin slot with
      | (joined, code) =>
          if code < 0 then (joined, .nobody)
          else (joined, .pid (pidOf (world.workers slot).tid) (code * 256))
  | none =>
      if ∀ slot, ¬ world.Waited pid slot then (world, .nobody)
      else if nohang then (world, .running)
      else (world, .again)

end World

/-- A call of the shell; it also opens and closes descriptors of its own. -/
inductive Call where
  | runStatic (argv : List String) (answers : StartAnswers)
  | spawnStatic (argv : List String) (answers : StartAnswers)
  | runPipeline (call : PipelineCall)
  | waitpid (pid : Int) (nohang : Bool)
  | openOther
  | closeOther (number : Nat)

namespace World

/-- The shell closes a number of its own. -/
def closeOther (world : World) (number : Nat) : World :=
  match world.files.lookup number with
  | some ⟨_, .other⟩ => { world with files := world.files.close number }
  | _ => world

def perform (world : World) : Call → World
  | .runStatic argv answers => (world.lunaBbRunStatic argv answers).1
  | .spawnStatic argv answers => (world.lunaBbSpawnStatic argv answers).1
  | .runPipeline call => (world.lunaBbRunPipeline call).1
  | .waitpid pid nohang => (world.lunaBbWaitpid pid nohang).1
  | .openOther => { world.settle with files := world.settle.files.insert ⟨none, .other⟩ }
  | .closeOther number => world.settle.closeOther number

end World

/-- A worker of the zeroed array `task_static_workers`. -/
def Worker.zero : Worker where
  inUse := false
  done := false
  reaped := false
  tid := 0
  status := 0
  exitStatus := 0
  joinable := false
  background := false
  fdMap := fun _ => some 0
  argv := []

/-- Before the first call. -/
structure Booted (world : World) : Prop where
  workers : world.workers = fun _ => Worker.zero
  current : world.current = 0
  slotLog : world.slotLog = []
  others : ∀ number file, world.files.lookup number = some file → file.owner = .other
  pipes : ∀ number file pipe side, world.files.lookup number = some file →
    file.pipe = some (pipe, side) → pipe < world.pipes

/-- A step is one call of the shell. -/
def system : Interleaving.System World Call where
  init := Booted
  next world call := some (world.perform call)

end Luna.Static
