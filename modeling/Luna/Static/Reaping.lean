import Luna.Static.Accounting

/-!
# Reaping of the background workers

A shell that spawns, runs and waits, with its own history: the workers that were
started, the one that holds each slot, and what a wait or a run returned.  What
happens beside the shell's own operations only continues a worker.
-/

namespace Luna.Static

open Interleaving

namespace Worker

/-- The worker published what its applet exits with. -/
def Honest (worker : Worker) : Prop := worker.done → worker.status = worker.exitStatus % 256

/-- The same worker, perhaps further on; one without a thread does not finish. -/
structure Continues (before after : Worker) : Prop where
  inUse : after.inUse = before.inUse
  tid : after.tid = before.tid
  reaped : after.reaped = before.reaped
  joinable : after.joinable = before.joinable
  exitStatus : after.exitStatus = before.exitStatus
  honest : before.Honest → after.Honest
  idle : before.tid = 0 → after.done = before.done

theorem Continues.refl (worker : Worker) : worker.Continues worker :=
  ⟨rfl, rfl, rfl, rfl, rfl, id, fun _ => rfl⟩

theorem Continues.trans {first second third : Worker} (earlier : first.Continues second)
    (later : second.Continues third) : first.Continues third where
  inUse := later.inUse.trans earlier.inUse
  tid := later.tid.trans earlier.tid
  reaped := later.reaped.trans earlier.reaped
  joinable := later.joinable.trans earlier.joinable
  exitStatus := later.exitStatus.trans earlier.exitStatus
  honest := later.honest ∘ earlier.honest
  idle threadless := (later.idle (earlier.tid.trans threadless)).trans (earlier.idle threadless)

end Worker

namespace World

variable {world : World} {slot : Slot}

/-- Every worker continues. -/
def Continues (before after : World) : Prop :=
  ∀ slot, (before.workers slot).Continues (after.workers slot)

/-- Every worker but one continues. -/
def ContinuesBut (slot : Slot) (before after : World) : Prop :=
  ∀ other, other ≠ slot → (before.workers other).Continues (after.workers other)

theorem Continues.refl (world : World) : world.Continues world :=
  fun slot => .refl (world.workers slot)

theorem Continues.trans {first second third : World} (earlier : first.Continues second)
    (later : second.Continues third) : first.Continues third :=
  fun slot => (earlier slot).trans (later slot)

theorem Continues.but {before after : World} (continues : before.Continues after) (slot : Slot) :
    ContinuesBut slot before after :=
  fun other _ => continues other

theorem ContinuesBut.trans {first second third : World}
    (earlier : ContinuesBut slot first second) (later : ContinuesBut slot second third) :
    ContinuesBut slot first third :=
  fun other different => (earlier other different).trans (later other different)

theorem continuesBut_put (world : World) (slot : Slot) (worker : Worker) :
    ContinuesBut slot world (world.put slot worker) := by
  intro other different
  rw [put_workers_of_ne different]
  exact .refl _

theorem continues_put {worker : Worker} (continues : (world.workers slot).Continues worker) :
    world.Continues (world.put slot worker) := by
  intro other
  by_cases same : other = slot
  · subst same
    rw [put_workers_self]
    exact continues
  · exact continuesBut_put world slot worker other same

/-! What the workers do, and what the launcher does with their descriptors. -/

theorem continues_closeStdio (world : World) (slot : Slot) (fd : Stdio) :
    world.Continues (world.closeStdio slot fd) := by
  unfold closeStdio
  dsimp only
  split
  next unmapped => exact .refl world
  next number mapped =>
    have unmapping : (world.workers slot).Continues { world.workers slot with
        fdMap := Function.update (world.workers slot).fdMap fd none } :=
      ⟨rfl, rfl, rfl, rfl, rfl, id, fun _ => rfl⟩
    exact continues_put unmapping

theorem continues_foldl {Event : Type} {step : World → Event → World}
    (continues : ∀ (world : World) event, world.Continues (step world event)) (events : List Event)
    (world : World) : world.Continues (events.foldl step world) := by
  induction events generalizing world with
  | nil => exact .refl world
  | cons event rest inductionHypothesis =>
      exact (continues world event).trans (inductionHypothesis (step world event))

theorem continues_closeMap (world : World) (slot : Slot) :
    world.Continues (world.closeMap slot) :=
  continues_foldl (fun world fd => world.continues_closeStdio slot fd) _ world

/-- Only a worker that has a thread exits. -/
theorem continues_exitWorker (thread : (world.workers slot).tid ≠ 0) :
    world.Continues (world.exitWorker slot) := by
  have closed := world.continues_closeMap slot
  refine closed.trans (continues_put ⟨rfl, rfl, rfl, rfl, rfl, fun _ _ => rfl, fun idle => ?_⟩)
  rw [(closed slot).tid] at idle
  exact absurd idle thread

theorem continues_event (world : World) (event : WorkerEvent) :
    world.Continues (world.event event) := by
  cases event with
  | close slot fd =>
      unfold World.event
      dsimp only
      split
      · exact world.continues_closeStdio slot fd
      · exact .refl world
  | exit slot =>
      unfold World.event
      dsimp only
      split
      next running => exact continues_exitWorker running.2.1
      next idle => exact .refl world

theorem continues_settle (world : World) : world.Continues world.settle :=
  continues_foldl continues_event _ world

theorem continues_dup (world : World) (slot : Slot) (fd : Stdio) (source : Nat) :
    world.Continues (world.dup slot fd source) := by
  have mapping : (world.workers slot).Continues { world.workers slot with
      fdMap := Function.update (world.workers slot).fdMap fd (some world.files.next) } :=
    ⟨rfl, rfl, rfl, rfl, rfl, id, fun _ => rfl⟩
  exact continues_put mapping

theorem continues_dupStdio (slot : Slot) (source : Stdio → Nat) (answers : StartAnswers)
    (fds : List Stdio) (world : World) :
    world.Continues (world.dupStdio slot source answers fds).1 := by
  induction fds generalizing world with
  | nil => exact .refl world
  | cons fd rest inductionHypothesis =>
      unfold dupStdio
      split
      · exact world.continues_settle
      · exact (world.continues_settle.trans (world.settle.continues_dup slot fd _)).trans
          (inductionHypothesis _)

theorem continues_putArgv (world : World) (slot : Slot) (argv : List String) :
    world.Continues (world.put slot { world.workers slot with argv }) :=
  continues_put ⟨rfl, rfl, rfl, rfl, rfl, id, fun _ => rfl⟩

/-- A release leaves the other workers alone and takes the slot out of use. -/
theorem taskStaticRelease_workers (world : World) (slot : Slot) :
    ContinuesBut slot world (world.taskStaticRelease slot) ∧
      ((world.taskStaticRelease slot).workers slot).inUse = false := by
  have closed := world.continues_settle.trans (world.settle.continues_closeMap slot)
  have put := continuesBut_put (world.settle.closeMap slot) slot
    { (world.settle.closeMap slot).workers slot with inUse := false }
  have taken := (world.settle.closeMap slot).put_workers_self slot
    { (world.settle.closeMap slot).workers slot with inUse := false }
  unfold taskStaticRelease
  dsimp only
  refine ⟨fun other different => ?_, congrArg Worker.inUse taken⟩
  exact ((closed.but slot).trans put) other different

/-- What an allocation, a start and a join do to the slot they are about. -/
theorem taskStaticAllocate_workers (free : world.ledger.freeSlot = some slot) :
    ∃ held, world.taskStaticAllocate = (held, some slot) ∧ ContinuesBut slot world held ∧
      held.workers slot = allocated (world.settle.workers slot) := by
  unfold taskStaticAllocate
  dsimp only
  rw [freeSlot_settle, free]
  refine ⟨_, rfl, fun other different => ?_, ?_⟩
  · exact (world.continues_settle.but slot).trans (continuesBut_put world.settle slot _) other
      different
  · exact world.settle.put_workers_self slot (allocated (world.settle.workers slot))

theorem taskStaticStart_workers {argv : List String} {answers : StartAnswers}
    (source : Stdio → Nat) (starts : Starts argv answers)
    (threadless : (world.workers slot).tid = 0) (undone : (world.workers slot).done = false) :
    ∃ after, world.taskStaticStart slot argv source answers = (after, pidOf answers.thread) ∧
      ContinuesBut slot world after ∧ (after.workers slot).done = false ∧
      (after.workers slot).inUse = (world.workers slot).inUse ∧
      (after.workers slot).reaped = (world.workers slot).reaped ∧
      (after.workers slot).tid = answers.thread ∧
      (after.workers slot).exitStatus = answers.exitStatus ∧
      (after.workers slot).joinable = true := by
  unfold taskStaticStart
  rw [if_neg (Int.not_lt.mpr starts.fits)]
  have known : ¬ (!taskStaticCommandAllowed (argv.headD "")) = true := by
    rw [starts.known]
    exact Bool.false_ne_true
  have passed := (world.put slot { world.workers slot with argv }).dupStdio_passes slot source
    starts.dups
  dsimp only
  rw [if_neg known, if_neg passed, if_neg starts.thread]
  have mapped := (world.continues_putArgv slot argv).trans
    (continues_dupStdio slot source answers (List.finRange 3) _)
  have prepared := mapped.trans (continues_settle _)
  have own := prepared slot
  refine ⟨_, rfl, (prepared.but slot).trans (continuesBut_put _ slot _), ?_⟩
  unfold threadCreate
  rw [put_workers_self]
  exact ⟨(own.idle threadless).trans undone, own.inUse, own.reaped, rfl, rfl, rfl⟩

theorem taskStaticStart_released {argv : List String} {answers : StartAnswers}
    (world : World) (slot : Slot) (source : Stdio → Nat) (fails : ¬ Starts argv answers) :
    ∃ after code, world.taskStaticStart slot argv source answers = (after, code) ∧ code < 0 ∧
      ContinuesBut slot world after ∧ (after.workers slot).inUse = false := by
  have filed := world.continues_putArgv slot argv
  unfold taskStaticStart
  split
  next unfit => exact ⟨_, _, rfl, unfit, world.taskStaticRelease_workers slot⟩
  next fits =>
    dsimp only
    split
    next unknown =>
      obtain ⟨others, unused⟩ := taskStaticRelease_workers
        (world.put slot { world.workers slot with argv }) slot
      exact ⟨_, _, rfl, Int.neg_neg_of_pos (by decide), (filed.but slot).trans others, unused⟩
    next known =>
      have mapped := filed.trans (continues_dupStdio slot source answers (List.finRange 3) _)
      split
      next failed =>
        obtain ⟨others, unused⟩ := taskStaticRelease_workers _ slot
        exact ⟨_, _, rfl, failed, (mapped.but slot).trans others, unused⟩
      next passed =>
        split
        next threadless =>
          obtain ⟨others, unused⟩ := taskStaticRelease_workers _ slot
          exact ⟨_, _, rfl, Int.neg_neg_of_pos (by decide),
            ((mapped.trans (continues_settle _)).but slot).trans others, unused⟩
        next thread =>
          exact absurd ⟨Int.not_lt.mp fits, by simpa using known, dups_of_passed passed, thread⟩
            fails

/-- A thread that is joined has exited. -/
theorem awaitWorker_workers (inUse : (world.workers slot).inUse = true)
    (thread : (world.workers slot).tid ≠ 0) :
    world.Continues (world.awaitWorker slot) ∧
      ((world.awaitWorker slot).workers slot).done = true := by
  unfold awaitWorker
  split
  next running =>
    refine ⟨continues_exitWorker thread, ?_⟩
    unfold exitWorker
    dsimp only
    rw [put_workers_self]
  next exited =>
    refine ⟨.refl world, ?_⟩
    by_contra unfinished
    exact exited ⟨inUse, thread, unfinished⟩

/-- A join answers what the worker's applet exits with. -/
theorem taskStaticJoin_workers (inUse : (world.workers slot).inUse = true)
    (unreaped : (world.workers slot).reaped = false)
    (joinable : (world.workers slot).joinable = true) (thread : (world.workers slot).tid ≠ 0)
    (honest : (world.workers slot).Honest) :
    ∃ after, world.taskStaticJoin slot =
        (after, (((world.workers slot).exitStatus % 256 : Nat) : Int)) ∧
      ContinuesBut slot world after ∧ (after.workers slot).inUse = false := by
  have settled := world.continues_settle
  have own := settled slot
  have used := own.inUse.trans inUse
  have fresh := own.reaped.trans unreaped
  have unjoined := own.joinable.trans joinable
  have running : (world.settle.workers slot).tid ≠ 0 := by
    rw [own.tid]
    exact thread
  unfold taskStaticJoin
  dsimp only
  rw [used, fresh, unjoined, if_neg (by decide), if_neg (by decide)]
  have joining : world.settle.Continues
      { world.settle with joins := world.settle.joins ++ [world.settle.files] } :=
    .refl world.settle
  have usedJoining : ({ world.settle with
      joins := world.settle.joins ++ [world.settle.files] }.workers slot).inUse = true := used
  obtain ⟨awaited, exited⟩ := awaitWorker_workers usedJoining running
  have waited := settled.trans (joining.trans awaited)
  have code := (waited slot).honest honest exited
  rw [(waited slot).exitStatus] at code
  obtain ⟨others, unused⟩ := taskStaticRelease_workers
    ((World.awaitWorker { world.settle with
      joins := world.settle.joins ++ [world.settle.files] } slot).put slot
        { (World.awaitWorker { world.settle with
            joins := world.settle.joins ++ [world.settle.files] } slot).workers slot with
          reaped := true
          joinable := false }) slot
  refine ⟨_, Prod.ext rfl ?_, ((waited.but slot).trans (continuesBut_put _ slot _)).trans others,
    unused⟩
  dsimp only
  rw [code]
  omega

end World

/-! ## The shell -/

/-- A worker that was started. -/
structure Started where
  tid : Nat
  exitStatus : Nat
  deriving DecidableEq, Repr

/-- What a wait or a run returned: which worker, in the order of their starts, and the
code. -/
structure Returned where
  serial : Nat
  code : Int
  deriving DecidableEq, Repr

/-- `occupant` is the worker that was started in a slot last.  All but the world is
history. -/
structure Shell where
  world : World
  started : List Started
  occupant : Slot → Nat
  returned : List Returned

inductive ShellCall where
  | spawn (argv : List String) (answers : StartAnswers)
  | run (argv : List String) (answers : StartAnswers)
  | wait (pid : Int) (nohang : Bool)

namespace World

/-- The slot in which `luna_bb_spawn_static` or `luna_bb_run_static` starts a worker. -/
def startedIn (world : World) (argv : List String) (answers : StartAnswers) : Option Slot :=
  match world.taskStaticAllocate with
  | (_, none) => none
  | (held, some slot) =>
      if ((held.taskStaticStart slot argv launcherStdio answers).1.workers slot).inUse then
        some slot
      else none

/-- A wait for `pid` may return the worker in the slot. -/
def Ready (world : World) (pid : Int) (slot : Slot) : Prop :=
  world.Waited pid slot ∧ (world.workers slot).done = true

instance (world : World) (pid : Int) (slot : Slot) : Decidable (world.Ready pid slot) :=
  inferInstanceAs (Decidable (_ ∧ _))

/-- The first slot a wait may return. -/
def firstReady (world : World) (pid : Int) : Option Slot :=
  (List.finRange 4).find? fun slot => decide (world.Ready pid slot)

end World

namespace Shell

/-- Record the worker a spawn or a run starts. -/
def recordStart (shell : Shell) (argv : List String) (answers : StartAnswers) : Shell :=
  match shell.world.startedIn argv answers with
  | none => shell
  | some slot =>
      { shell with
        started := shell.started ++ [⟨answers.thread, answers.exitStatus⟩]
        occupant := Function.update shell.occupant slot shell.started.length }

/-- Record what a call returned of the worker that was started in the slot. -/
def recordReturn (shell : Shell) (code : Int) : Option Slot → Shell
  | none => shell
  | some slot =>
      { shell with returned := shell.returned ++ [⟨shell.occupant slot, code⟩] }

def perform (shell : Shell) : ShellCall → Shell
  | .spawn argv answers =>
      { shell.recordStart argv answers with
        world := (shell.world.lunaBbSpawnStatic argv answers).1 }
  | .run argv answers =>
      match shell.world.lunaBbRunStatic argv answers with
      | (world, code) =>
          let launched := { shell.recordStart argv answers with world }
          if 0 ≤ code then
            launched.recordReturn code (shell.world.startedIn argv answers)
          else launched
  | .wait pid nohang =>
      match shell.world.lunaBbWaitpid pid nohang with
      | (world, .pid _ status) =>
          { shell with world }.recordReturn (status / 256) (shell.world.settle.firstReady pid)
      | (world, _) => { shell with world }

/-- A started worker that no wait and no run returned. -/
def Unreturned (shell : Shell) (serial : Nat) : Prop :=
  serial < shell.started.length ∧ serial ∉ shell.returned.map Returned.serial

/-- The worker is the one a wait for `pid` is about. -/
def Matches (shell : Shell) (pid : Int) (serial : Nat) : Prop :=
  shell.Unreturned serial ∧
    ∀ worker ∈ shell.started[serial]?, 0 < pid → (worker.tid : Int) = pid

/-- The worker has exited by the time a wait looks. -/
def Finished (shell : Shell) (serial : Nat) : Prop :=
  ∃ slot, shell.occupant slot = serial ∧ (shell.world.settle.workers slot).inUse = true ∧
    (shell.world.settle.workers slot).done = true

/-- One pass of a wait answers as it should: there is no such process exactly when no
worker matches, nothing is reported only if nothing finished and the wait is not to
hang, and otherwise it takes a worker that finished and reports its thread and code. -/
def WaitRight (shell : Shell) (pid : Int) (nohang : Bool) : Prop :=
  match (shell.world.lunaBbWaitpid pid nohang).2 with
  | .nobody => ∀ serial, ¬ shell.Matches pid serial
  | .running => nohang = true ∧ (∃ serial, shell.Matches pid serial) ∧
      ∀ serial, shell.Matches pid serial → ¬ shell.Finished serial
  | .again => nohang = false ∧ (∃ serial, shell.Matches pid serial) ∧
      ∀ serial, shell.Matches pid serial → ¬ shell.Finished serial
  | .pid result status => ∃ serial worker, shell.started[serial]? = some worker ∧
      shell.Matches pid serial ∧ shell.Finished serial ∧
      ¬ (shell.perform (.wait pid nohang)).Unreturned serial ∧ result = worker.tid ∧
      status = worker.exitStatus % 256 * 256

/-- The first worker a wait finds finished has a thread number that a `pid_t` holds. -/
def FirstFits (shell : Shell) (pid : Int) : Prop :=
  ∀ slot, shell.world.settle.Ready pid slot →
    (∀ earlier < slot, ¬ shell.world.settle.Ready pid earlier) →
    (shell.world.settle.workers slot).tid < 2 ^ 31

end Shell

/-- The worker is the started one with this serial and was not joined. -/
structure Worker.Stands (worker : Worker) (started : List Started) (serial : Nat) : Prop where
  unreaped : worker.reaped = false
  joinable : worker.joinable = true
  thread : worker.tid ≠ 0
  honest : worker.Honest
  same : started[serial]? = some ⟨worker.tid, worker.exitStatus⟩

theorem Worker.Stands.continues {before after : Worker} {started : List Started} {serial : Nat}
    (stands : before.Stands started serial) (continues : before.Continues after) :
    after.Stands started serial where
  unreaped := continues.reaped.trans stands.unreaped
  joinable := continues.joinable.trans stands.joinable
  thread := continues.tid.symm ▸ stands.thread
  honest := continues.honest stands.honest
  same := by
    rw [continues.tid, continues.exitStatus]
    exact stands.same

theorem Worker.Stands.bound {worker : Worker} {started : List Started} {serial : Nat}
    (stands : worker.Stands started serial) : serial < started.length :=
  (List.getElem?_eq_some_iff.mp stands.same).1

theorem Worker.Stands.append {worker : Worker} {started : List Started} {serial : Nat}
    (stands : worker.Stands started serial) (later : List Started) :
    worker.Stands (started ++ later) serial :=
  { stands with same := (List.getElem?_append_left stands.bound).trans stands.same }

/-- The workers in use are the started ones that were not returned. -/
structure Shell.Tracked (shell : Shell) : Prop where
  stands : ∀ slot, (shell.world.workers slot).inUse = true →
    (shell.world.workers slot).Stands shell.started (shell.occupant slot)
  fresh : ∀ slot, (shell.world.workers slot).inUse = true →
    shell.occupant slot ∉ shell.returned.map Returned.serial
  apart : ∀ slot other, (shell.world.workers slot).inUse = true →
    (shell.world.workers other).inUse = true → shell.occupant slot = shell.occupant other →
      slot = other
  held : ∀ serial, shell.Unreturned serial →
    ∃ slot, (shell.world.workers slot).inUse = true ∧ shell.occupant slot = serial
  once : (shell.returned.map Returned.serial).Nodup
  own : ∀ record ∈ shell.returned, ∃ worker, shell.started[record.serial]? = some worker ∧
    record.code = (worker.exitStatus % 256 : Nat)

namespace Shell

variable {shell : Shell} {slot : Slot}

theorem Tracked.unreturned (tracked : shell.Tracked)
    (inUse : (shell.world.workers slot).inUse = true) :
    shell.Unreturned (shell.occupant slot) :=
  ⟨(tracked.stands slot inUse).bound, tracked.fresh slot inUse⟩

/-- The slots in use are the same and their workers continue. -/
theorem Tracked.alike {after : World} (tracked : shell.Tracked)
    (same : ∀ slot, (after.workers slot).inUse = (shell.world.workers slot).inUse)
    (continues : ∀ slot, (shell.world.workers slot).inUse = true →
      (shell.world.workers slot).Continues (after.workers slot)) :
    Tracked { shell with world := after } := by
  have before : ∀ slot, (after.workers slot).inUse = true →
      (shell.world.workers slot).inUse = true := fun slot inUse => (same slot).symm.trans inUse
  constructor
  case stands =>
    exact fun slot inUse =>
      (tracked.stands slot (before slot inUse)).continues (continues slot (before slot inUse))
  case fresh => exact fun slot inUse => tracked.fresh slot (before slot inUse)
  case apart =>
    exact fun first second inUse used => tracked.apart first second (before first inUse)
      (before second used)
  case held =>
    intro serial unreturned
    obtain ⟨slot, inUse, occupied⟩ := tracked.held serial unreturned
    exact ⟨slot, (same slot).trans inUse, occupied⟩
  case once => exact tracked.once
  case own => exact tracked.own

theorem Tracked.continues {after : World} (tracked : shell.Tracked)
    (continues : shell.world.Continues after) : Tracked { shell with world := after } :=
  tracked.alike (fun slot => (continues slot).inUse) (fun slot _ => continues slot)

/-- A slot that is free before and after takes no part. -/
theorem Tracked.refuse {after : World} (tracked : shell.Tracked)
    (others : World.ContinuesBut slot shell.world after)
    (free : (shell.world.workers slot).inUse = false)
    (unused : (after.workers slot).inUse = false) :
    Tracked { shell with world := after } := by
  refine tracked.alike (fun other => ?_) (fun other inUse => others other ?_)
  · by_cases same : other = slot
    · rw [same, free, unused]
    · exact (others other same).inUse
  · rintro rfl
    rw [free] at inUse
    cases inUse

/-- A worker is started in a free slot. -/
theorem Tracked.start {after : World} (tracked : shell.Tracked)
    (others : World.ContinuesBut slot shell.world after)
    (free : (shell.world.workers slot).inUse = false)
    (unreaped : (after.workers slot).reaped = false)
    (joinable : (after.workers slot).joinable = true) (thread : (after.workers slot).tid ≠ 0)
    (undone : (after.workers slot).done = false) (inUse : (after.workers slot).inUse = true) :
    Tracked { shell with
      world := after
      started := shell.started ++ [⟨(after.workers slot).tid, (after.workers slot).exitStatus⟩]
      occupant := Function.update shell.occupant slot shell.started.length } := by
  have bound : ∀ other, (shell.world.workers other).inUse = true →
      shell.occupant other < shell.started.length :=
    fun other used => (tracked.unreturned used).1
  constructor
  case stands =>
    intro other used
    dsimp only
    by_cases same : other = slot
    · subst same
      rw [Function.update_self]
      exact ⟨unreaped, joinable, thread, fun done => absurd done (by simp [undone]),
        List.getElem?_concat_length⟩
    · have further := others other same
      have before := tracked.stands other (further.inUse.symm.trans used)
      rw [Function.update_of_ne same]
      exact (before.append _).continues further
  case fresh =>
    intro other used
    dsimp only
    by_cases same : other = slot
    · subst same
      rw [Function.update_self]
      intro member
      obtain ⟨record, returned, serial⟩ := List.mem_map.mp member
      obtain ⟨worker, found, -⟩ := tracked.own record returned
      rw [serial, List.getElem?_eq_none (Nat.le_refl _)] at found
      cases found
    · rw [Function.update_of_ne same]
      exact tracked.fresh other ((others other same).inUse.symm.trans used)
  case apart =>
    intro first second used usedToo together
    dsimp only at together
    by_cases isFirst : first = slot
    · by_cases isSecond : second = slot
      · rw [isFirst, isSecond]
      · have below := bound second ((others second isSecond).inUse.symm.trans usedToo)
        rw [isFirst, Function.update_self, Function.update_of_ne isSecond] at together
        omega
    · have below := bound first ((others first isFirst).inUse.symm.trans used)
      by_cases isSecond : second = slot
      · rw [isSecond, Function.update_self, Function.update_of_ne isFirst] at together
        omega
      · rw [Function.update_of_ne isFirst, Function.update_of_ne isSecond] at together
        exact tracked.apart first second ((others first isFirst).inUse.symm.trans used)
          ((others second isSecond).inUse.symm.trans usedToo) together
  case held =>
    intro serial unreturned
    dsimp only
    by_cases newest : serial = shell.started.length
    · refine ⟨slot, inUse, ?_⟩
      rw [Function.update_self, newest]
    · have below := unreturned.1
      dsimp only at below
      rw [List.length_append, List.length_singleton] at below
      obtain ⟨other, used, occupied⟩ := tracked.held serial ⟨by omega, unreturned.2⟩
      have different : other ≠ slot := by
        rintro rfl
        rw [free] at used
        cases used
      refine ⟨other, (others other different).inUse.trans used, ?_⟩
      rw [Function.update_of_ne different, occupied]
  case once => exact tracked.once
  case own =>
    intro record returned
    obtain ⟨worker, found, code⟩ := tracked.own record returned
    refine ⟨worker, ?_, code⟩
    dsimp only
    rw [List.getElem?_append_left (List.getElem?_eq_some_iff.mp found).1]
    exact found

/-- The worker of a slot is returned and the slot released. -/
theorem Tracked.collect {after : World} (tracked : shell.Tracked)
    (others : World.ContinuesBut slot shell.world after)
    (inUse : (shell.world.workers slot).inUse = true)
    (unused : (after.workers slot).inUse = false) :
    Tracked { shell with
      world := after
      returned := shell.returned ++
        [⟨shell.occupant slot, ((shell.world.workers slot).exitStatus % 256 : Nat)⟩] } := by
  have elsewhere : ∀ other, (after.workers other).inUse = true → other ≠ slot := by
    rintro other used rfl
    rw [unused] at used
    cases used
  have before : ∀ other, (after.workers other).inUse = true →
      (shell.world.workers other).inUse = true := fun other used =>
    (others other (elsewhere other used)).inUse.symm.trans used
  constructor
  case stands =>
    exact fun other used =>
      (tracked.stands other (before other used)).continues (others other (elsewhere other used))
  case fresh =>
    intro other used
    dsimp only
    rw [List.map_append, List.mem_append, not_or]
    refine ⟨tracked.fresh other (before other used), fun member => ?_⟩
    exact elsewhere other used
      (tracked.apart other slot (before other used) inUse (List.mem_singleton.mp member))
  case apart =>
    exact fun first second used usedToo => tracked.apart first second (before first used)
      (before second usedToo)
  case held =>
    rintro serial ⟨bound, unreturned⟩
    dsimp only at unreturned
    rw [List.map_append, List.mem_append, not_or] at unreturned
    obtain ⟨other, used, occupied⟩ := tracked.held serial ⟨bound, unreturned.1⟩
    have different : other ≠ slot := by
      rintro rfl
      exact unreturned.2 (List.mem_singleton.mpr occupied.symm)
    exact ⟨other, (others other different).inUse.trans used, occupied⟩
  case once =>
    dsimp only
    rw [List.map_append, List.nodup_append]
    refine ⟨tracked.once, List.nodup_singleton _, ?_⟩
    rintro first returned second member rfl
    rw [List.mem_singleton.mp member] at returned
    exact tracked.fresh slot inUse returned
  case own =>
    intro record returned
    rcases List.mem_append.mp returned with earlier | last
    · exact tracked.own record earlier
    · rw [List.mem_singleton.mp last]
      exact ⟨_, (tracked.stands slot inUse).same, rfl⟩

/-! Allocation and start, as a spawn and a run do them. -/

theorem freeSlot_unused (free : shell.world.ledger.freeSlot = some slot) :
    (shell.world.workers slot).inUse = false :=
  Ledger.freeSlot_free free

theorem startedIn_full {argv : List String} {answers : StartAnswers}
    (full : shell.world.ledger.freeSlot = none) :
    shell.world.startedIn argv answers = none := by
  unfold World.startedIn
  rw [World.taskStaticAllocate_none full]

/-- A start that succeeds adds a worker. -/
theorem Tracked.launch {argv : List String} {answers : StartAnswers} (tracked : shell.Tracked)
    (free : shell.world.ledger.freeSlot = some slot) (starts : Starts argv answers) :
    ∃ held after, shell.world.taskStaticAllocate = (held, some slot) ∧
      held.taskStaticStart slot argv World.launcherStdio answers = (after, World.pidOf answers.thread) ∧
      shell.world.startedIn argv answers = some slot ∧ (after.workers slot).inUse = true ∧
      Tracked { shell.recordStart argv answers with world := after } := by
  obtain ⟨held, allocate, others, fresh⟩ := World.taskStaticAllocate_workers free
  have inUse : (held.workers slot).inUse = true := by rw [fresh]; rfl
  have threadless : (held.workers slot).tid = 0 := by rw [fresh]; rfl
  obtain ⟨after, start, further, undone, used, reaped, tid, exitStatus, joinable⟩ :=
    World.taskStaticStart_workers World.launcherStdio starts threadless (by rw [fresh]; rfl)
  have startedIn : shell.world.startedIn argv answers = some slot := by
    unfold World.startedIn
    rw [allocate]
    dsimp only
    rw [start]
    dsimp only
    rw [used, inUse, if_pos rfl]
  refine ⟨held, after, allocate, start, startedIn, used.trans inUse, ?_⟩
  have launched := tracked.start (others.trans further) (freeSlot_unused free)
    (by rw [reaped, fresh]; rfl) joinable (by rw [tid]; exact starts.thread) undone
    (used.trans inUse)
  rw [tid, exitStatus] at launched
  unfold recordStart
  rw [startedIn]
  exact launched

/-- A start that fails adds none. -/
theorem Tracked.fail {argv : List String} {answers : StartAnswers} (tracked : shell.Tracked)
    (free : shell.world.ledger.freeSlot = some slot) (fails : ¬ Starts argv answers) :
    ∃ held after code, shell.world.taskStaticAllocate = (held, some slot) ∧
      held.taskStaticStart slot argv World.launcherStdio answers = (after, code) ∧ code < 0 ∧
      shell.world.startedIn argv answers = none ∧ Tracked { shell with world := after } := by
  obtain ⟨held, allocate, others, -⟩ := World.taskStaticAllocate_workers free
  obtain ⟨after, code, start, negative, further, unused⟩ :=
    World.taskStaticStart_released held slot World.launcherStdio fails
  refine ⟨held, after, code, allocate, start, negative, ?_,
    tracked.refuse (others.trans further) (freeSlot_unused free) unused⟩
  unfold World.startedIn
  rw [allocate]
  dsimp only
  rw [start]
  dsimp only
  rw [unused, if_neg Bool.false_ne_true]

/-- The worker of a slot in use is joined. -/
theorem Tracked.join (tracked : shell.Tracked)
    (inUse : (shell.world.workers slot).inUse = true) :
    ∃ after, shell.world.taskStaticJoin slot =
        (after, (((shell.world.workers slot).exitStatus % 256 : Nat) : Int)) ∧
      Tracked { shell with
        world := after
        returned := shell.returned ++
          [⟨shell.occupant slot, ((shell.world.workers slot).exitStatus % 256 : Nat)⟩] } := by
  have stands := tracked.stands slot inUse
  obtain ⟨after, join, others, unused⟩ := World.taskStaticJoin_workers inUse stands.unreaped
    stands.joinable stands.thread stands.honest
  exact ⟨after, join, tracked.collect others inUse unused⟩

theorem Tracked.spawn {argv : List String} {answers : StartAnswers} (tracked : shell.Tracked) :
    (shell.perform (.spawn argv answers)).Tracked := by
  unfold perform
  dsimp only
  cases found : shell.world.ledger.freeSlot with
  | none =>
      unfold recordStart World.lunaBbSpawnStatic
      rw [startedIn_full found, World.taskStaticAllocate_none found]
      exact tracked.continues shell.world.continues_settle
  | some slot =>
      by_cases starts : Starts argv answers
      · obtain ⟨held, after, allocate, start, -, -, launched⟩ := tracked.launch found starts
        unfold World.lunaBbSpawnStatic
        rw [allocate]
        dsimp only
        rw [start]
        dsimp only
        split
        · exact launched.continues
            (World.continues_put ⟨rfl, rfl, rfl, rfl, rfl, id, fun _ => rfl⟩)
        · exact launched
      · obtain ⟨held, after, code, allocate, start, negative, startedIn, failed⟩ :=
          tracked.fail found starts
        unfold World.lunaBbSpawnStatic recordStart
        rw [allocate, startedIn]
        dsimp only
        rw [start]
        dsimp only
        rw [if_neg (Int.not_lt.mpr (Int.le_of_lt negative))]
        exact failed

theorem Tracked.run {argv : List String} {answers : StartAnswers} (tracked : shell.Tracked) :
    (shell.perform (.run argv answers)).Tracked := by
  unfold perform
  dsimp only
  cases found : shell.world.ledger.freeSlot with
  | none =>
      have run : shell.world.lunaBbRunStatic argv answers = (shell.world.settle, -eagain) := by
        unfold World.lunaBbRunStatic
        rw [World.taskStaticAllocate_none found]
      unfold recordStart
      rw [run, startedIn_full found]
      exact tracked.continues shell.world.continues_settle
  | some slot =>
      by_cases starts : Starts argv answers
      · obtain ⟨held, after, allocate, start, startedIn, inUse, launched⟩ :=
          tracked.launch found starts
        obtain ⟨joined, join, collected⟩ := launched.join inUse
        dsimp only at join collected
        by_cases negative : World.pidOf answers.thread < 0
        · have run : ∃ code < 0, shell.world.lunaBbRunStatic argv answers = (after, code) := by
            refine ⟨if World.pidOf answers.thread = -enoent then -enoent else -eagain, ?_, ?_⟩
            · split <;> decide
            · unfold World.lunaBbRunStatic
              rw [allocate]
              dsimp only
              rw [start]
              dsimp only
              rw [if_pos negative]
          obtain ⟨code, refused, run⟩ := run
          rw [run, if_neg (Int.not_le.mpr refused)]
          exact launched
        · have run : shell.world.lunaBbRunStatic argv answers =
              (joined, (((after.workers slot).exitStatus % 256 : Nat) : Int)) := by
            unfold World.lunaBbRunStatic
            rw [allocate]
            dsimp only
            rw [start]
            dsimp only
            rw [if_neg negative, join]
          rw [run, if_pos (Int.natCast_nonneg _), startedIn]
          exact collected
      · obtain ⟨held, after, code, allocate, start, negative, startedIn, failed⟩ :=
          tracked.fail found starts
        have run : ∃ code < 0, shell.world.lunaBbRunStatic argv answers = (after, code) := by
          refine ⟨if code = -enoent then -enoent else -eagain, ?_, ?_⟩
          · split <;> decide
          · unfold World.lunaBbRunStatic
            rw [allocate]
            dsimp only
            rw [start]
            dsimp only
            rw [if_pos negative]
        obtain ⟨code, refused, run⟩ := run
        unfold recordStart
        rw [run, if_neg (Int.not_le.mpr refused), startedIn]
        exact failed

/-! One pass of a wait. -/

theorem firstReady_eq (world : World) (pid : Int) :
    world.firstReady pid = (List.finRange 4).find? fun slot =>
      decide (world.Waited pid slot) && (world.workers slot).done := by
  unfold World.firstReady
  congr 1
  funext slot
  have both : ∀ inhabited : Decidable (world.Ready pid slot), @decide _ inhabited =
      (decide (world.Waited pid slot) && (world.workers slot).done) := by
    unfold World.Ready
    intro inhabited
    rw [Bool.decide_and, Bool.decide_coe]
  exact both _

theorem firstReady_some {world : World} {pid : Int} (first : world.firstReady pid = some slot) :
    world.Ready pid slot ∧ ∀ earlier < slot, ¬ world.Ready pid earlier := by
  obtain ⟨ready, index, bound, found, earlier⟩ := List.find?_eq_some_iff_getElem.mp first
  refine ⟨of_decide_eq_true ready, fun other below ready => ?_⟩
  rw [List.getElem_finRange] at found
  have less : other.val < index := by
    rw [← found] at below
    exact below
  have passed := earlier other.val less
  rw [List.getElem_finRange] at passed
  have same : Fin.cast (List.length_finRange) ⟨other.val, less.trans bound⟩ = other := rfl
  rw [same, decide_eq_true ready] at passed
  cases passed

theorem firstReady_none {world : World} {pid : Int} (first : world.firstReady pid = none)
    (slot : Slot) : ¬ world.Ready pid slot := by
  intro ready
  have passed := List.find?_eq_none.mp first slot (List.mem_finRange slot)
  exact passed (decide_eq_true ready)

theorem wait_none {pid : Int} (nohang : Bool)
    (first : shell.world.settle.firstReady pid = none) :
    shell.world.lunaBbWaitpid pid nohang = (shell.world.settle,
      if ∀ slot, ¬ shell.world.settle.Waited pid slot then .nobody
      else if nohang then .running else .again) := by
  rw [firstReady_eq] at first
  unfold World.lunaBbWaitpid
  dsimp only
  rw [first]
  dsimp only
  split
  · rfl
  · split <;> rfl

/-- A wait that finds a finished worker joins the first one. -/
theorem Tracked.wait_some {pid : Int} (tracked : shell.Tracked) (nohang : Bool)
    (first : shell.world.settle.firstReady pid = some slot) :
    ∃ joined, shell.world.lunaBbWaitpid pid nohang = (joined,
        .pid (World.pidOf (shell.world.settle.workers slot).tid)
          (((shell.world.settle.workers slot).exitStatus % 256 : Nat) * 256)) ∧
      Tracked { shell with
        world := joined
        returned := shell.returned ++ [⟨shell.occupant slot,
          ((shell.world.settle.workers slot).exitStatus % 256 : Nat)⟩] } := by
  have settled := tracked.continues shell.world.continues_settle
  obtain ⟨joined, join, collected⟩ := settled.join (firstReady_some first).1.1.1
  dsimp only at join collected
  rw [firstReady_eq] at first
  refine ⟨joined, ?_, collected⟩
  unfold World.lunaBbWaitpid
  dsimp only
  rw [first]
  dsimp only
  rw [join]
  dsimp only
  rw [if_neg (Int.not_lt.mpr (Int.natCast_nonneg _))]

theorem Tracked.wait {pid : Int} {nohang : Bool} (tracked : shell.Tracked) :
    (shell.perform (.wait pid nohang)).Tracked := by
  unfold perform
  dsimp only
  cases first : shell.world.settle.firstReady pid with
  | none =>
      rw [wait_none nohang first]
      have settled := tracked.continues shell.world.continues_settle
      split
      next world result status answered =>
        split at answered
        · cases answered
        · split at answered <;> cases answered
      next world answer _ answered =>
        cases answered
        exact settled
  | some slot =>
      obtain ⟨joined, waited, collected⟩ := tracked.wait_some nohang first
      rw [waited]
      unfold recordReturn
      dsimp only
      rw [Int.mul_ediv_cancel _ (by decide)]
      exact collected

end Shell

/-- A step is one call of the shell. -/
def shellSystem : System Shell ShellCall where
  init shell := Booted shell.world ∧ shell.started = [] ∧ shell.returned = []
  next shell call := some (shell.perform call)

theorem tracked_init {shell : Shell} (initial : shellSystem.init shell) : shell.Tracked := by
  obtain ⟨booted, nobody, nothing⟩ := initial
  have unused : ∀ slot, (shell.world.workers slot).inUse ≠ true := by
    intro slot
    rw [booted.workers]
    exact Bool.false_ne_true
  constructor
  case stands => exact fun slot inUse => absurd inUse (unused slot)
  case fresh => exact fun slot inUse => absurd inUse (unused slot)
  case apart => exact fun slot other inUse => absurd inUse (unused slot)
  case held =>
    rintro serial ⟨bound, -⟩
    rw [nobody] at bound
    exact absurd bound (Nat.not_lt_zero serial)
  case once =>
    rw [nothing]
    exact List.nodup_nil
  case own =>
    rw [nothing]
    exact nofun

theorem tracked_of_reachable {shell : Shell} (reached : shellSystem.Reachable shell) :
    shell.Tracked := by
  refine System.Reachable.invariant Shell.Tracked (fun shell => tracked_init) ?_ reached
  intro shell call target tracked performed
  cases performed
  cases call with
  | spawn argv answers => exact tracked.spawn
  | run argv answers => exact tracked.run
  | wait pid nohang => exact tracked.wait

namespace Shell

variable {shell : Shell} {slot : Slot} {pid : Int}

theorem Tracked.matches (tracked : shell.Tracked)
    (waited : shell.world.settle.Waited pid slot) :
    shell.Matches pid (shell.occupant slot) := by
  have settled := tracked.continues shell.world.continues_settle
  refine ⟨settled.unreturned waited.1, fun worker found positive => ?_⟩
  rw [(settled.stands slot waited.1).same] at found
  cases found
  by_contra different
  refine waited.2.2 ⟨positive, fun same => different ?_⟩
  dsimp only at same ⊢
  omega

theorem Tracked.waited (tracked : shell.Tracked) {serial : Nat}
    (matched : shell.Matches pid serial) :
    ∃ slot, shell.occupant slot = serial ∧ shell.world.settle.Waited pid slot := by
  have settled := tracked.continues shell.world.continues_settle
  obtain ⟨slot, inUse, occupied⟩ := settled.held serial matched.1
  refine ⟨slot, occupied, inUse, ?_, ?_⟩
  · rw [(settled.stands slot inUse).unreaped]
    exact Bool.false_ne_true
  · rintro ⟨positive, different⟩
    have tid := matched.2 _ (by rw [← occupied]; exact (settled.stands slot inUse).same) positive
    dsimp only at tid
    omega

theorem Tracked.finished (tracked : shell.Tracked)
    (waited : shell.world.settle.Waited pid slot)
    (finished : shell.Finished (shell.occupant slot)) : shell.world.settle.Ready pid slot := by
  have settled := tracked.continues shell.world.continues_settle
  obtain ⟨other, same, inUse, done⟩ := finished
  rw [settled.apart other slot inUse waited.1 same] at done
  exact ⟨waited, done⟩

/-- A `pid_t` holds exactly the thread numbers below two to the thirty-first. -/
theorem pidOf_eq (tid : Nat) : World.pidOf tid = tid ↔ tid < 2 ^ 31 := by
  unfold World.pidOf
  rw [Int.bmod_eq_iff (by decide)]
  omega

theorem firstFits_iff (first : shell.world.settle.firstReady pid = some slot) :
    shell.FirstFits pid ↔ (shell.world.settle.workers slot).tid < 2 ^ 31 := by
  obtain ⟨ready, earliest⟩ := firstReady_some first
  constructor
  · exact fun fits => fits slot ready earliest
  · intro fits other readyToo none
    rcases lt_trichotomy other slot with below | same | above
    · exact absurd readyToo (earliest other below)
    · exact same ▸ fits
    · exact absurd ready (none slot above)

/-- Nothing finished, so the pass answers by whether anything matches. -/
theorem Tracked.waitRight_none (tracked : shell.Tracked) (nohang : Bool)
    (first : shell.world.settle.firstReady pid = none) : shell.WaitRight pid nohang := by
  have unfinished : ∀ serial, shell.Matches pid serial → ¬ shell.Finished serial := by
    intro serial matched finished
    obtain ⟨slot, rfl, waited⟩ := tracked.waited matched
    exact firstReady_none first slot (tracked.finished waited finished)
  unfold WaitRight
  rw [wait_none nohang first]
  dsimp only
  by_cases nobody : ∀ slot, ¬ shell.world.settle.Waited pid slot
  · rw [if_pos nobody]
    intro serial matched
    obtain ⟨slot, -, waited⟩ := tracked.waited matched
    exact nobody slot waited
  · rw [if_neg nobody]
    obtain ⟨slot, waited⟩ := not_forall_not.mp nobody
    cases nohang with
    | false => exact ⟨rfl, ⟨_, tracked.matches waited⟩, unfinished⟩
    | true => exact ⟨rfl, ⟨_, tracked.matches waited⟩, unfinished⟩

/-- A finished worker is taken; its number is right when a `pid_t` holds it. -/
theorem Tracked.waitRight_some (tracked : shell.Tracked) (nohang : Bool)
    (first : shell.world.settle.firstReady pid = some slot) :
    shell.WaitRight pid nohang ↔ (shell.world.settle.workers slot).tid < 2 ^ 31 := by
  have settled := tracked.continues shell.world.continues_settle
  have ready := (firstReady_some first).1
  have stands := settled.stands slot ready.1.1
  obtain ⟨joined, waited, -⟩ := tracked.wait_some nohang first
  have after : (shell.perform (.wait pid nohang)).started = shell.started ∧
      (shell.perform (.wait pid nohang)).returned.map Returned.serial =
        shell.returned.map Returned.serial ++ [shell.occupant slot] := by
    unfold perform
    dsimp only
    rw [waited, first]
    exact ⟨rfl, List.map_append⟩
  rw [← pidOf_eq]
  unfold WaitRight
  rw [waited]
  dsimp only
  constructor
  · rintro ⟨serial, worker, found, matched, -, taken, result, -⟩
    have serial_eq : serial = shell.occupant slot := by
      by_contra different
      refine taken ⟨after.1 ▸ matched.1.1, ?_⟩
      rw [after.2, List.mem_append, not_or]
      exact ⟨matched.1.2, fun member => different (List.mem_singleton.mp member)⟩
    rw [serial_eq, stands.same] at found
    cases found
    exact result
  · intro fits
    refine ⟨shell.occupant slot, _, stands.same, tracked.matches ready.1,
      ⟨slot, rfl, ready.1.1, ready.2⟩, fun unreturned => ?_, fits, ?_⟩
    · rw [Unreturned, after.2] at unreturned
      exact unreturned.2 (List.mem_append_right _ (List.mem_singleton_self _))
    · rw [Int.natCast_emod]
      rfl

end Shell

/-- In every history of spawns, runs and waits: an allocation fails exactly when all the
slots are in use; a worker is returned at most once, with its own code; a wait answers
as it should exactly when the first worker it finds finished has a number that a `pid_t`
holds; and the slots are free once every started worker is returned. -/
theorem workers_reaped_once {shell : Shell} (reached : shellSystem.Reachable shell) :
    ((shell.world.taskStaticAllocate).2 = none ↔
      ∀ slot, (shell.world.workers slot).inUse = true) ∧
    (shell.returned.map Returned.serial).Nodup ∧
    (∀ record ∈ shell.returned, ∃ worker, shell.started[record.serial]? = some worker ∧
      record.code = (worker.exitStatus % 256 : Nat)) ∧
    (∀ pid nohang, shell.WaitRight pid nohang ↔ shell.FirstFits pid) ∧
    ((∀ serial < shell.started.length, serial ∈ shell.returned.map Returned.serial) →
      ∀ slot, (shell.world.workers slot).inUse = false) := by
  have tracked := tracked_of_reachable reached
  refine ⟨?_, tracked.once, tracked.own, fun pid nohang => ?_, fun all slot => ?_⟩
  · cases found : shell.world.ledger.freeSlot with
    | none =>
        rw [World.taskStaticAllocate_none found]
        refine iff_of_true rfl fun slot => ?_
        have used := List.find?_eq_none.mp found slot (List.mem_finRange slot)
        have busy : (shell.world.ledger.flags slot).inUse = true := by simpa using used
        exact busy
    | some slot =>
        obtain ⟨held, allocate, -⟩ := World.taskStaticAllocate_some found
        rw [allocate]
        refine iff_of_false (Option.some_ne_none slot) fun used => ?_
        have unused := Shell.freeSlot_unused found
        rw [used slot] at unused
        cases unused
  · cases first : shell.world.settle.firstReady pid with
    | none =>
        refine iff_of_true (tracked.waitRight_none nohang first) fun slot ready => ?_
        exact absurd ready (Shell.firstReady_none first slot)
    | some slot => exact (tracked.waitRight_some nohang first).trans (Shell.firstFits_iff first).symm
  · by_contra inUse
    have unreturned := tracked.unreturned (Bool.not_eq_false _ ▸ inUse)
    exact unreturned.2 (all _ unreturned.1)

/-- A shell whose workers' schedule is given. -/
def bootShell (schedule : Nat → List WorkerEvent) : Shell where
  world := { bootWorld with schedule }
  started := []
  occupant := fun _ => 0
  returned := []

theorem bootShell_reachable (schedule : Nat → List WorkerEvent) :
    shellSystem.Reachable (bootShell schedule) := by
  have booted := bootWorld_booted
  exact .init ⟨⟨booted.workers, booted.current, booted.slotLog, booted.others, booted.pipes⟩,
    rfl, rfl⟩

/-- Two background workers and a run beside them; the second worker exits first. -/
theorem workers_reaped_once_run :
    ∃ shell, shellSystem.Reachable shell ∧
      shell.started = [⟨7, 300⟩, ⟨8, 5⟩, ⟨9, 1⟩] ∧ shell.returned = [⟨2, 1⟩, ⟨1, 5⟩] ∧
      (shell.world.lunaBbWaitpid (-1) true).2 = .running ∧
      (∀ pid nohang, shell.WaitRight pid nohang ↔ shell.FirstFits pid) := by
  have booted := bootShell_reachable fun clock => if clock = 17 then [.exit 1] else []
  have first := booted.next (.spawn ["sleep"] ⟨fun _ => 3, 7, 300⟩) rfl
  have second := first.next (.spawn ["sort"] ⟨fun _ => 3, 8, 5⟩) rfl
  have ran := second.next (.run ["ls"] ⟨fun _ => 3, 9, 1⟩) rfl
  have waited := ran.next (.wait (-1) false) rfl
  exact ⟨_, waited, by decide +kernel, by decide +kernel, by decide +kernel,
    (workers_reaped_once waited).2.2.2.1⟩

/-- A worker with thread number two to the thirty-second exits, and the wait that takes
it returns zero. -/
theorem wait_truncates :
    ¬ ∀ shell, shellSystem.Reachable shell → ∀ pid nohang, shell.WaitRight pid nohang := by
  intro all
  have reached := (bootShell_reachable fun _ => [.exit 0]).next
    (.spawn ["sleep"] ⟨fun _ => 3, 2 ^ 32, 3⟩) rfl
  have first : ((bootShell fun _ => [.exit 0]).perform
      (.spawn ["sleep"] ⟨fun _ => 3, 2 ^ 32, 3⟩)).world.settle.firstReady (-1) = some 0 := by
    decide +kernel
  have thread : (((bootShell fun _ => [.exit 0]).perform
      (.spawn ["sleep"] ⟨fun _ => 3, 2 ^ 32, 3⟩)).world.settle.workers 0).tid = 2 ^ 32 := by
    decide +kernel
  have right := ((tracked_of_reachable reached).waitRight_some false first).mp
    (all _ reached (-1) false)
  rw [thread] at right
  exact absurd right (by decide)

end Luna.Static
