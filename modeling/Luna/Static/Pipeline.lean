import Luna.Static.Descriptors

/-!
# Pipelines

A pipeline's launcher closes its pipe ends before it joins the stages, unless a stage
fails after a worker was started: the loop at `fail_workers` joins the started
workers while every pipe end is still open in the launcher, and only then closes
them.  `Stalls` is that case.  Every descriptor a call makes is closed exactly once
in all cases.
-/

namespace Luna.Static

open DescriptorTable

/-- The shell's descriptors 0, 1 and 2 are open. -/
def World.StdioOpen (world : World) : Prop :=
  ∀ fd : Stdio, ∃ file, world.files.lookup fd = some file ∧ file.owner = .other

/-- A reference to a pipe is the output of the stage before it or the input of the
stage after it. -/
def StageRef (base : Nat) (slots : List Slot) (pipe : Nat) (side : Side) (owner : Owner) : Prop :=
  (side = .write ∧ ∃ slot, slots[pipe - base]? = some slot ∧ owner = .worker slot stdout) ∨
    (side = .read ∧ ∃ slot, slots[pipe - base + 1]? = some slot ∧ owner = .worker slot stdin)

/-- Every pipe end the launcher made is closed in the launcher. -/
def PipesClosed (files : Table File) : Prop :=
  ∀ number file pipe side, files.lookup number = some file → file.owner ≠ .launcher pipe side

/-- The only open references to the call's pipes are those of its stages. -/
def OnlyStages (base : Nat) (slots : List Slot) (files : Table File) : Prop :=
  ∀ number file pipe side, files.lookup number = some file → file.pipe = some (pipe, side) →
    base ≤ pipe → StageRef base slots pipe side file.owner

def SlotEvent.allocated : SlotEvent → Option Slot
  | .allocate slot => some slot
  | .release _ => none

/-- The slots allocated since an earlier state, in order. -/
def World.slotsSince (world before : World) : List Slot :=
  (world.slotLog.drop before.slotLog.length).filterMap SlotEvent.allocated

/-- Whenever the call joins a worker its pipe ends are closed and only the stages
refer to its pipes; on return each descriptor it made was closed exactly once. -/
def ClosesBeforeWaiting (before : World) (call : PipelineCall) : Prop :=
  let after := (before.lunaBbRunPipeline call).1
  (∀ snapshot ∈ after.joins.drop before.joins.length,
      PipesClosed snapshot ∧ OnlyStages before.pipes (after.slotsSince before) snapshot) ∧
    ∀ serial, before.files.nextSerial ≤ serial → serial < after.files.nextSerial →
      after.files.closed.count serial = 1

/-- A stage gets a slot and its thread. -/
def PipelineCall.Creates (call : PipelineCall) (free stage : Nat) : Prop :=
  stage < free ∧ Starts (call.argv stage) (call.start stage)

/-- The launch goes on after a stage. -/
def PipelineCall.Passes (call : PipelineCall) (free stage : Nat) : Prop :=
  call.Creates free stage ∧ 0 ≤ World.pidOf (call.start stage).thread

/-- The call gets as far as starting its first stage. -/
def PipelineCall.Launches (world : World) (call : PipelineCall) : Prop :=
  call.InRange ∧ call.Allowed ∧ call.PipesMade ∧ call.Creates (4 - world.ledger.used.card) 0

/-- A stage fails when a worker has been started. -/
def Stalls (world : World) (call : PipelineCall) : Prop :=
  call.InRange ∧ call.Allowed ∧ call.PipesMade ∧ ∃ stage < call.stages,
    (∀ earlier < stage, call.Passes (4 - world.ledger.used.card) earlier) ∧
      ¬ call.Passes (4 - world.ledger.used.card) stage ∧
        (0 < stage ∨ call.Creates (4 - world.ledger.used.card) stage)

/-- The descriptors in the middle of a call that began in `before`: those it made
belong to the launcher or to the slots in `owners`. -/
structure InCall (before world : World) (numbers : List Nat) (owners : List Slot) : Prop where
  held : Held world numbers
  recent : ∀ number entry, world.files.find number = some entry →
    before.files.nextSerial ≤ entry.1 → (∃ pipe side, entry.2.owner = .launcher pipe side) ∨
      ∃ slot ∈ owners, ∃ fd, entry.2.owner = .worker slot fd
  pipes : ∀ number file pipe side, world.files.lookup number = some file →
    file.pipe = some (pipe, side) → pipe < world.pipes
  refs : before.StdioOpen → ∀ number file pipe side, world.files.lookup number = some file →
    file.pipe = some (pipe, side) → before.pipes ≤ pipe →
      file.owner = .launcher pipe side ∨ StageRef before.pipes owners pipe side file.owner

/-- Descriptors that are not a worker's stay open, and nobody is joined. -/
structure Undisturbed (world after : World) : Prop where
  keeps : ∀ number file, world.files.lookup number = some file →
    (∀ slot fd, file.owner ≠ .worker slot fd) → after.files.lookup number = some file
  joins : after.joins = world.joins

theorem Undisturbed.refl (world : World) : Undisturbed world world :=
  ⟨fun _ _ found _ => found, rfl⟩

theorem Undisturbed.trans {first second third : World} (left : Undisturbed first second)
    (right : Undisturbed second third) : Undisturbed first third where
  keeps number file found foreign :=
    right.keeps number file (left.keeps number file found foreign) foreign
  joins := right.joins.trans left.joins

theorem Quiet.undisturbed {world after : World} (quiet : Quiet world after) :
    Undisturbed world after where
  keeps number file found foreign := by
    obtain ⟨serial, found⟩ := lookup_eq_some.mp found
    exact lookup_eq_some.mpr ⟨serial, quiet.kept number _ found foreign⟩
  joins := quiet.joins

theorem Quiet.lookup_subset {world after : World} (quiet : Quiet world after) {number : Nat}
    {file : File} (found : after.files.lookup number = some file) :
    world.files.lookup number = some file := by
  obtain ⟨serial, found⟩ := lookup_eq_some.mp found
  exact lookup_eq_some.mpr ⟨serial, quiet.subset number _ found⟩

theorem Undisturbed.stdioOpen {world after : World} (undisturbed : Undisturbed world after)
    (stdio : world.StdioOpen) : after.StdioOpen := by
  intro fd
  obtain ⟨file, found, owner⟩ := stdio fd
  refine ⟨file, undisturbed.keeps _ _ found fun slot fd isWorker => ?_, owner⟩
  cases owner.symm.trans isWorker

section Calls

variable {before world after : World} {numbers : List Nat} {owners : List Slot} {slot : Slot}

theorem InCall.quiet (inCall : InCall before world numbers owners) (held : Held after numbers)
    (quiet : Quiet world after) : InCall before after numbers owners where
  held := held
  recent number entry found := inCall.recent number entry (quiet.subset number entry found)
  pipes number file pipe side found := by
    rw [quiet.pipes]
    exact inCall.pipes number file pipe side (quiet.lookup_subset found)
  refs stdio number file pipe side found :=
    inCall.refs stdio number file pipe side (quiet.lookup_subset found)

theorem InCall.settle (inCall : InCall before world numbers owners) :
    InCall before world.settle numbers owners :=
  inCall.quiet inCall.held.settle.1 inCall.held.settle.2

theorem StageRef.append {base pipe : Nat} {side : Side} {owner : Owner} (more : List Slot)
    (ref : StageRef base owners pipe side owner) :
    StageRef base (owners ++ more) pipe side owner := by
  refine ref.imp ?_ ?_
  all_goals
    rintro ⟨isSide, found, isFound, isOwner⟩
    have inside := (List.getElem?_eq_some_iff.mp isFound).1
    exact ⟨isSide, found, (List.getElem?_append_left inside).trans isFound, isOwner⟩

theorem InCall.widen (inCall : InCall before world numbers owners) (slot : Slot) :
    InCall before world numbers (owners ++ [slot]) where
  held := inCall.held
  recent number entry found recent := by
    refine (inCall.recent number entry found recent).imp_right ?_
    rintro ⟨owner, member, isOwner⟩
    exact ⟨owner, List.mem_append_left _ member, isOwner⟩
  pipes := inCall.pipes
  refs stdio number file pipe side found isPipe recent :=
    (inCall.refs stdio number file pipe side found isPipe recent).imp_right (.append [slot])

/-- A slot out of use owns nothing. -/
theorem InCall.narrow (inCall : InCall before world numbers (owners ++ [slot]))
    (unused : (world.workers slot).inUse = false) : InCall before world numbers owners := by
  have notOwner : ∀ number file fd, world.files.lookup number = some file →
      file.owner ≠ .worker slot fd := by
    intro number file fd found owner
    have used := (inCall.held.owned number file slot fd found owner).1
    exact Bool.false_ne_true (unused.symm.trans used)
  refine ⟨inCall.held, fun number entry found recent => ?_, inCall.pipes,
    fun stdio number file pipe side found isPipe recent => ?_⟩
  · refine (inCall.recent number entry found recent).imp_right ?_
    rintro ⟨owner, member, fd, isOwner⟩
    rcases List.mem_append.mp member with old | last
    · exact ⟨owner, old, fd, isOwner⟩
    · rw [List.mem_singleton.mp last] at isOwner
      exact absurd isOwner (notOwner number _ fd (lookup_eq_some.mpr ⟨_, found⟩))
  · have narrowed : ∀ (index : Nat) (owner : Slot) (fd : Stdio),
        (owners ++ [slot])[index]? = some owner → file.owner = .worker owner fd →
          owners[index]? = some owner := by
      intro index owner fd isFound isOwner
      rw [List.getElem?_append] at isFound
      split at isFound
      · exact isFound
      next beyond =>
        have last : owner = slot :=
          List.mem_singleton.mp (List.mem_of_getElem? isFound)
        rw [last] at isOwner
        exact absurd isOwner (notOwner number file fd found)
    refine (inCall.refs stdio number file pipe side found isPipe recent).imp_right fun ref => ?_
    refine ref.imp ?_ ?_
    all_goals
      rintro ⟨isSide, owner, isFound, isOwner⟩
      exact ⟨isSide, owner, narrowed _ owner _ isFound isOwner, isOwner⟩

/-- What a stage is started with: open descriptors of the shell or the launcher that
may become references of the stage. -/
def Sourced (before world : World) (owners : List Slot) (slot : Slot) (source : Stdio → Nat) :
    Prop :=
  ∀ fd, ∃ file, world.files.lookup (source fd) = some file ∧
    (∀ slot fd, file.owner ≠ .worker slot fd) ∧
      ∀ pipe side, file.pipe = some (pipe, side) → before.pipes ≤ pipe →
        StageRef before.pipes owners pipe side (.worker slot fd)

theorem Sourced.undisturbed {source : Stdio → Nat}
    (sourced : Sourced before world owners slot source) (undisturbed : Undisturbed world after) :
    Sourced before after owners slot source := by
  intro fd
  obtain ⟨file, found, foreign, refs⟩ := sourced fd
  exact ⟨file, undisturbed.keeps _ _ found foreign, foreign, refs⟩

theorem World.dup_undisturbed (world : World) (slot : Slot) (fd : Stdio) (source : Nat) :
    Undisturbed world (world.dup slot fd source) := by
  refine ⟨fun number file found _ => ?_, rfl⟩
  unfold World.dup
  dsimp only
  rw [Table.lookup_insert, if_neg, found]
  rintro rfl
  rw [Table.lookup, Table.find_next] at found
  cases found

theorem InCall.dup {source : Stdio → Nat} {fd : Stdio}
    (inCall : InCall before world numbers owners) (member : slot ∈ owners)
    (sourced : before.StdioOpen → Sourced before world owners slot source)
    (used : (world.workers slot).inUse = true)
    (unmapped : (world.workers slot).fdMap fd = none) :
    InCall before (world.dup slot fd (source fd)) numbers owners := by
  refine ⟨inCall.held.dup (source fd) used unmapped, fun number entry found recent => ?_,
    fun number file pipe side found isPipe => ?_,
    fun stdio number file pipe side found isPipe recent => ?_⟩
  · unfold World.dup at found
    dsimp only at found
    rw [Table.find_insert] at found
    split at found
    · cases found
      exact .inr ⟨slot, member, fd, rfl⟩
    · exact inCall.recent number entry found recent
  · unfold World.dup at found ⊢
    dsimp only at found ⊢
    rw [Table.lookup_insert] at found
    split at found
    · cases found
      obtain ⟨origin, isOrigin, isPipe⟩ := Option.bind_eq_some_iff.mp isPipe
      exact inCall.pipes _ origin pipe side isOrigin isPipe
    · exact inCall.pipes number file pipe side found isPipe
  · unfold World.dup at found
    dsimp only at found
    rw [Table.lookup_insert] at found
    split at found
    · cases found
      obtain ⟨origin, isOrigin, isPipe⟩ := Option.bind_eq_some_iff.mp isPipe
      obtain ⟨file, isFile, -, refs⟩ := sourced stdio fd
      have same := Option.some.inj (isFile.symm.trans isOrigin)
      exact .inr (refs pipe side (same ▸ isPipe) recent)
    · exact inCall.refs stdio number file pipe side found isPipe recent

/-- A slot in the middle of a start. -/
structure Starting (before world : World) (numbers : List Nat) (owners : List Slot) (slot : Slot)
    (source : Stdio → Nat) : Prop where
  inCall : InCall before world numbers owners
  member : slot ∈ owners
  sourced : before.StdioOpen → Sourced before world owners slot source
  used : (world.workers slot).inUse = true

theorem Starting.settle {source : Stdio → Nat}
    (starting : Starting before world numbers owners slot source) :
    Starting before world.settle numbers owners slot source where
  inCall := starting.inCall.settle
  member := starting.member
  sourced stdio := (starting.sourced stdio).undisturbed starting.inCall.held.settle.2.undisturbed
  used := by
    rw [World.settle_inUse]
    exact starting.used

theorem Starting.dup {source : Stdio → Nat} {fd : Stdio}
    (starting : Starting before world numbers owners slot source)
    (unmapped : (world.workers slot).fdMap fd = none) :
    Starting before (world.dup slot fd (source fd)) numbers owners slot source where
  inCall := starting.inCall.dup starting.member starting.sourced starting.used unmapped
  member := starting.member
  sourced stdio := (starting.sourced stdio).undisturbed (world.dup_undisturbed slot fd _)
  used := by
    unfold World.dup
    dsimp only
    rw [World.put_workers_self]
    exact starting.used

theorem Starting.dupStdio {source : Stdio → Nat} (answers : StartAnswers) (fds : List Stdio)
    {world : World} (starting : Starting before world numbers owners slot source)
    (nodup : fds.Nodup) (unmapped : ∀ fd ∈ fds, (world.workers slot).fdMap fd = none) :
    Starting before (world.dupStdio slot source answers fds).1 numbers owners slot source ∧
      Undisturbed world (world.dupStdio slot source answers fds).1 := by
  induction fds generalizing world with
  | nil => exact ⟨starting, .refl world⟩
  | cons fd rest inductionHypothesis =>
      have quiet := starting.inCall.held.settle.2.undisturbed
      unfold World.dupStdio
      split
      next failed => exact ⟨starting.settle, quiet⟩
      next passed =>
        obtain ⟨notLater, nodupRest⟩ := List.nodup_cons.mp nodup
        have free := World.settle_unmapped (unmapped fd List.mem_cons_self)
        obtain ⟨started, undisturbed⟩ := inductionHypothesis (starting.settle.dup free) nodupRest
          fun other later => World.dup_unmapped _
            (World.settle_unmapped (unmapped other (List.mem_cons_of_mem _ later)))
            (by rintro rfl; exact notLater later)
        exact ⟨started, (quiet.trans (World.dup_undisturbed _ slot fd _)).trans undisturbed⟩

theorem InCall.release (inCall : InCall before world numbers owners)
    (closable : world.Closable slot) :
    InCall before (world.taskStaticRelease slot) numbers owners ∧
      Undisturbed world (world.taskStaticRelease slot) := by
  obtain ⟨held, quiet, -⟩ := inCall.held.release closable
  exact ⟨inCall.quiet held quiet, quiet.undisturbed⟩

theorem InCall.put {worker : Worker} (inCall : InCall before world numbers owners)
    (inUse : worker.inUse = (world.workers slot).inUse)
    (fdMap : worker.fdMap = (world.workers slot).fdMap) :
    InCall before (world.put slot worker) numbers owners :=
  inCall.quiet (inCall.held.put inUse fdMap) (.put world slot worker)

theorem Starting.putArgv {source : Stdio → Nat} (argv : List String)
    (starting : Starting before world numbers owners slot source) :
    Starting before (world.put slot { world.workers slot with argv }) numbers owners slot
      source where
  inCall := starting.inCall.put rfl rfl
  member := starting.member
  sourced := starting.sourced
  used := by
    rw [World.put_workers_self]
    exact starting.used

/-- A start leaves the descriptors in order; one that fails leaves nothing mapped. -/
theorem Starting.start {source : Stdio → Nat} (argv : List String) (answers : StartAnswers)
    (starting : Starting before world numbers owners slot source)
    (unmapped : ∀ fd, (world.workers slot).fdMap fd = none) :
    InCall before (world.taskStaticStart slot argv source answers).1 numbers owners ∧
      Undisturbed world (world.taskStaticStart slot argv source answers).1 ∧
        (¬ Starts argv answers → ∀ fd,
          ((world.taskStaticStart slot argv source answers).1.workers slot).fdMap fd = none) := by
  -- Each failure releases a slot that is still in use.
  have refuse : ∀ middle : World, Starting before middle numbers owners slot source →
      Undisturbed world middle → InCall before (middle.taskStaticRelease slot) numbers owners ∧
        Undisturbed world (middle.taskStaticRelease slot) ∧
          (¬ Starts argv answers →
            ∀ fd, ((middle.taskStaticRelease slot).workers slot).fdMap fd = none) := by
    intro middle standing undisturbed
    obtain ⟨inCall, released⟩ := standing.inCall.release (.inl standing.used)
    exact ⟨inCall, undisturbed.trans released,
      fun _ => (standing.inCall.held.release (.inl standing.used)).2.2⟩
  have copied := starting.putArgv argv
  have copies := (Quiet.put world slot { world.workers slot with argv }).undisturbed
  obtain ⟨dupped, dups⟩ := copied.dupStdio answers (List.finRange 3) (List.nodup_finRange 3)
    fun fd _ => by rw [World.put_workers_self]; exact unmapped fd
  unfold World.taskStaticStart
  split
  next unfit => exact refuse world starting (.refl world)
  next fits =>
    dsimp only
    split
    next unknown => exact refuse _ copied copies
    next known =>
      split
      next failed => exact refuse _ dupped (copies.trans dups)
      next passed =>
        have settles := dupped.inCall.held.settle.2.undisturbed
        split
        next threadless =>
          exact refuse _ dupped.settle ((copies.trans dups).trans settles)
        next thread =>
          refine ⟨dupped.settle.inCall.put rfl rfl, ?_, fun fails => absurd ?_ fails⟩
          · exact ((copies.trans dups).trans settles).trans (Quiet.put _ slot _).undisturbed
          · refine ⟨Int.not_lt.mp fits, by simpa using known, fun fd => ?_, thread⟩
            rw [World.dupStdio_result] at passed
            by_contra negative
            exact passed ⟨fd, List.mem_finRange fd, Int.not_le.mp negative⟩

/-- The ends of the pipes the call made, open in the launcher. -/
def Made (before world : World) (made : List PipeEnds) : Prop :=
  ∀ index ends, made[index]? = some ends →
    world.files.lookup ends.read = some ⟨some (before.pipes + index, .read),
        .launcher (before.pipes + index) .read⟩ ∧
      world.files.lookup ends.write = some ⟨some (before.pipes + index, .write),
        .launcher (before.pipes + index) .write⟩

theorem Made.undisturbed {made : List PipeEnds} (isMade : Made before world made)
    (undisturbed : Undisturbed world after) : Made before after made := by
  intro index ends isEnds
  obtain ⟨read, write⟩ := isMade index ends isEnds
  exact ⟨undisturbed.keeps _ _ read nofun, undisturbed.keeps _ _ write nofun⟩

/-- The numbers the launcher has to close. -/
def numbersOf (made : List PipeEnds) : List Nat :=
  made.flatMap fun ends => [ends.read, ends.write]

theorem InCall.insertEnd {pipe : Nat} {side : Side} (inCall : InCall before world numbers owners)
    (fresh : pipe < after.pipes) (grows : world.pipes ≤ after.pipes)
    (files : after.files = world.files.insert ⟨some (pipe, side), .launcher pipe side⟩)
    (workers : after.workers = world.workers) :
    InCall before after (numbers ++ [world.files.next]) owners := by
  have free : world.files.lookup world.files.next = none := by
    rw [Table.lookup, Table.find_next]
    rfl
  refine ⟨⟨fun slot used fd number maps => ?_, fun number file slot fd found owner => ?_,
    fun number => ?_, ?_⟩, fun number entry found recent => ?_,
    fun number file pipe' side' found isPipe => ?_,
    fun stdio number file pipe' side' found isPipe recent => ?_⟩
  · rw [workers] at used maps
    obtain ⟨file, found, owner⟩ := inCall.held.mapped slot used fd number maps
    refine ⟨file, ?_, owner⟩
    rw [files, Table.lookup_insert, if_neg, found]
    rintro rfl
    exact absurd (found.symm.trans free) (by simp)
  · rw [workers]
    rw [files, Table.lookup_insert] at found
    split at found
    · cases found
      cases owner
    · exact inCall.held.owned number file slot fd found owner
  · rw [List.mem_append, List.mem_singleton, inCall.held.ends, files, Table.lookup_insert]
    split
    next isNext => exact ⟨fun _ => ⟨_, pipe, side, rfl, rfl⟩, fun _ => .inr isNext⟩
    next notNext => exact or_iff_left notNext
  · refine List.nodup_append.mpr ⟨inCall.held.nodup, List.nodup_singleton _, ?_⟩
    rintro number member last isLast rfl
    obtain ⟨file, _, _, found, _⟩ := (inCall.held.ends number).mp member
    rw [List.mem_singleton.mp isLast] at found
    exact absurd (found.symm.trans free) (by simp)
  · rw [files, Table.find_insert] at found
    split at found
    · cases found
      exact .inl ⟨pipe, side, rfl⟩
    · exact inCall.recent number entry found recent
  · rw [files, Table.lookup_insert] at found
    split at found
    · cases found
      cases isPipe
      exact fresh
    · exact (inCall.pipes number file pipe' side' found isPipe).trans_le grows
  · rw [files, Table.lookup_insert] at found
    split at found
    · cases found
      cases isPipe
      exact .inl rfl
    · exact inCall.refs stdio number file pipe' side' found isPipe recent

theorem lookup_insert_old {table : Table File} {number : Nat} {file : File} (new : File)
    (found : table.lookup number = some file) : (table.insert new).lookup number = some file := by
  rw [Table.lookup_insert, if_neg, found]
  rintro rfl
  rw [Table.lookup, Table.find_next] at found
  cases found

theorem lookup_insert_next (table : Table File) (new : File) :
    (table.insert new).lookup table.next = some new := by
  rw [Table.lookup_insert, if_pos rfl]

theorem World.pipe2_undisturbed (world : World) : Undisturbed world world.pipe2.1 :=
  ⟨fun _ _ found _ => lookup_insert_old _ (lookup_insert_old _ found), rfl⟩

theorem InCall.pipe2 (inCall : InCall before world numbers owners) :
    InCall before world.pipe2.1 (numbers ++ [world.pipe2.2.read, world.pipe2.2.write]) owners := by
  let middle : World := { world with
    files := world.files.insert ⟨some (world.pipes, .read), .launcher world.pipes .read⟩
    pipes := world.pipes + 1 }
  have first : InCall before middle (numbers ++ [world.files.next]) owners :=
    inCall.insertEnd (Nat.lt_succ_self _) (Nat.le_succ _) rfl rfl
  have second : InCall before world.pipe2.1 (numbers ++ [world.files.next] ++ [middle.files.next])
      owners :=
    first.insertEnd (Nat.lt_succ_self world.pipes) (Nat.le_refl _) rfl rfl
  rw [List.append_assoc] at second
  exact second

theorem Made.pipe2 {made : List PipeEnds} (isMade : Made before world made)
    (count : world.pipes = before.pipes + made.length) :
    Made before world.pipe2.1 (made ++ [world.pipe2.2]) := by
  intro index ends isEnds
  rcases Nat.lt_trichotomy index made.length with old | isLast | beyond
  · rw [List.getElem?_append_left old] at isEnds
    obtain ⟨read, write⟩ := isMade index ends isEnds
    exact ⟨world.pipe2_undisturbed.keeps _ _ read nofun,
      world.pipe2_undisturbed.keeps _ _ write nofun⟩
  · rw [isLast, List.getElem?_concat_length] at isEnds
    cases isEnds
    rw [isLast, ← count]
    exact ⟨lookup_insert_old _ (lookup_insert_next _ _), lookup_insert_next _ _⟩
  · rw [List.getElem?_eq_none (by simp; omega)] at isEnds
    cases isEnds

/-- The pipes of the call so far. -/
structure Piping (before world : World) (made : List PipeEnds) : Prop where
  inCall : InCall before world (numbersOf made) []
  isMade : Made before world made
  count : world.pipes = before.pipes + made.length
  undisturbed : Undisturbed before world

theorem Piping.settle {made : List PipeEnds} (piping : Piping before world made) :
    Piping before world.settle made where
  inCall := piping.inCall.settle
  isMade := piping.isMade.undisturbed piping.inCall.held.settle.2.undisturbed
  count := piping.inCall.held.settle.2.pipes.trans piping.count
  undisturbed := piping.undisturbed.trans piping.inCall.held.settle.2.undisturbed

theorem Piping.pipe2 {made : List PipeEnds} (piping : Piping before world made) :
    Piping before world.pipe2.1 (made ++ [world.pipe2.2]) where
  inCall := by
    have piped := piping.inCall.pipe2
    have numbers : numbersOf (made ++ [world.pipe2.2]) =
        numbersOf made ++ [world.pipe2.2.read, world.pipe2.2.write] := by
      simp [numbersOf]
    rw [numbers]
    exact piped
  isMade := piping.isMade.pipe2 piping.count
  count := by
    have counted : world.pipe2.1.pipes = world.pipes + 1 := rfl
    rw [counted, piping.count, List.length_append]
    rfl
  undisturbed := piping.undisturbed.trans world.pipe2_undisturbed

theorem Piping.makePipes (call : PipelineCall) (indices : List Nat) {world : World}
    {made : List PipeEnds} (piping : Piping before world made) :
    Piping before (world.makePipes call indices made).1
        (world.makePipes call indices made).2.1 ∧
      ((world.makePipes call indices made).2.2 = true →
        (world.makePipes call indices made).2.1.length = made.length + indices.length) := by
  induction indices generalizing world made with
  | nil => exact ⟨piping, fun _ => rfl⟩
  | cons index rest inductionHypothesis =>
      unfold World.makePipes
      split
      next failed => exact ⟨piping.settle, by simp⟩
      next passed =>
        dsimp only
        split
        next small => exact ⟨piping.settle.pipe2.settle, by simp⟩
        next enough =>
          obtain ⟨made', length⟩ := inductionHypothesis piping.settle.pipe2.settle
          refine ⟨made', fun succeeded => ?_⟩
          rw [length succeeded, List.length_append, List.length_singleton, List.length_cons]
          omega

theorem InCall.closeEnd {number : Nat} (inCall : InCall before world (number :: numbers) owners) :
    InCall before (world.closeEnd number) numbers owners := by
  have settled := inCall.settle
  obtain ⟨notLater, nodup⟩ := List.nodup_cons.mp settled.held.nodup
  obtain ⟨file, pipe, side, isFile, isOwner⟩ := (settled.held.ends number).mp List.mem_cons_self
  unfold World.closeEnd
  refine ⟨⟨fun slot used fd other maps => ?_, fun other found' slot fd found owner => ?_,
    fun other => ?_, nodup⟩, fun other entry found recent => ?_,
    fun other found' pipe' side' found isPipe => ?_,
    fun stdio other found' pipe' side' found isPipe recent => ?_⟩
  · obtain ⟨mapped, found, owner⟩ := settled.held.mapped slot used fd other maps
    refine ⟨mapped, ?_, owner⟩
    dsimp only
    rw [Table.lookup_close, if_neg, found]
    rintro rfl
    rw [← Option.some.inj (isFile.symm.trans found), isOwner] at owner
    cases owner
  · dsimp only at found
    rw [Table.lookup_close] at found
    split at found
    · cases found
    · exact settled.held.owned other found' slot fd found owner
  · dsimp only
    rw [Table.lookup_close]
    split
    next same =>
      rw [same]
      refine ⟨fun member => absurd member notLater, ?_⟩
      rintro ⟨_, _, _, found, _⟩
      cases found
    next different =>
      rw [← settled.held.ends other, List.mem_cons]
      exact (or_iff_right different).symm
  · dsimp only at found
    rw [Table.find_close] at found
    split at found
    · cases found
    · exact settled.recent other entry found recent
  · dsimp only at found ⊢
    rw [Table.lookup_close] at found
    split at found
    · cases found
    · exact settled.pipes other found' pipe' side' found isPipe
  · dsimp only at found
    rw [Table.lookup_close] at found
    split at found
    · cases found
    · exact settled.refs stdio other found' pipe' side' found isPipe recent

theorem InCall.closePipes (made : List PipeEnds) {world : World}
    (inCall : InCall before world (numbersOf made) owners) :
    InCall before (world.closePipes made) [] owners ∧
      (world.closePipes made).joins = world.joins := by
  induction made generalizing world with
  | nil => exact ⟨inCall, rfl⟩
  | cons ends rest inductionHypothesis =>
      have numbers : numbersOf (ends :: rest) = ends.read :: ends.write :: numbersOf rest := rfl
      rw [numbers] at inCall
      have closedRead := inCall.closeEnd
      obtain ⟨closed, joins⟩ := inductionHypothesis closedRead.closeEnd
      refine ⟨closed, joins.trans ?_⟩
      have first := inCall.held.settle.2.joins
      have second := closedRead.held.settle.2.joins
      exact second.trans first

/-- The stages started so far. -/
structure Launching (before world : World) (made : List PipeEnds) (launched : List Slot) :
    Prop where
  inCall : InCall before world (numbersOf made) launched
  isMade : Made before world made
  standing : world.ledger.Standing launched
  undisturbed : Undisturbed before world

/-- A launch that stopped: `tail` holds the slot of a failed start, which is free
again. -/
structure Stopped (before world : World) (made : List PipeEnds) (launched tail : List Slot) :
    Prop where
  launching : Launching before world made launched
  nodup : tail.Nodup
  refused : ∀ slot ∈ tail, slot ∉ launched ∧ (world.workers slot).tid = 0 ∧
    (world.workers slot).inUse = false ∧ ∀ fd, (world.workers slot).fdMap fd = none

/-- The shell's descriptors do not refer to a pipe of this call. -/
theorem InCall.shell (inCall : InCall before world numbers owners) (stdio : before.StdioOpen)
    (undisturbed : Undisturbed before world) (fd : Stdio) (owners' : List Slot) (owner : Owner) :
    ∃ file, world.files.lookup fd = some file ∧ (∀ slot fd, file.owner ≠ .worker slot fd) ∧
      ∀ pipe side, file.pipe = some (pipe, side) → before.pipes ≤ pipe →
        StageRef before.pipes owners' pipe side owner := by
  obtain ⟨file, found, isOther⟩ := undisturbed.stdioOpen stdio fd
  refine ⟨file, found, fun slot fd isWorker => ?_, fun pipe side isPipe recent => ?_⟩
  · cases isOther.symm.trans isWorker
  · rcases inCall.refs stdio _ file pipe side found isPipe recent with
      isLauncher | ⟨-, other, -, isWorker⟩ | ⟨-, other, -, isWorker⟩
    · cases isOther.symm.trans isLauncher
    · cases isOther.symm.trans isWorker
    · cases isOther.symm.trans isWorker

/-- A stage's standard descriptors are the shell's, or the ends of the pipes beside
it. -/
theorem Launching.sourced {made : List PipeEnds} {launched : List Slot} {stages : Nat}
    (launching : Launching before world made launched) (length : made.length = stages - 1)
    (stage : launched.length < stages) (slot : Slot) (stdio : before.StdioOpen) :
    Sourced before world (launched ++ [slot]) slot
      (World.stageSource stages made launched.length) := by
  have own : (launched ++ [slot])[launched.length]? = some slot := List.getElem?_concat_length
  have shells (fd fd' : Stdio) := launching.inCall.shell stdio launching.undisturbed fd
    (launched ++ [slot]) (.worker slot fd')
  intro fd
  match fd with
  | 0 =>
      by_cases first : launched.length = 0
      · have source : World.stageSource stages made launched.length 0 = 0 := by
          rw [World.stageSource, if_pos rfl, if_pos first]
        rw [source]
        exact shells 0 0
      · obtain ⟨ends, isEnds⟩ : ∃ ends, made[launched.length - 1]? = some ends :=
          ⟨_, List.getElem?_eq_getElem (by omega)⟩
        have source : World.stageSource stages made launched.length 0 = ends.read := by
          rw [World.stageSource, if_pos rfl, if_neg first, isEnds]
          rfl
        obtain ⟨read, -⟩ := launching.isMade _ ends isEnds
        rw [source]
        refine ⟨_, read, nofun, fun pipe side isPipe _ => ?_⟩
        cases isPipe
        refine .inr ⟨rfl, slot, ?_, rfl⟩
        have index : before.pipes + (launched.length - 1) - before.pipes + 1 =
            launched.length := by omega
        rw [index]
        exact own
  | 1 =>
      by_cases last : launched.length + 1 = stages
      · have source : World.stageSource stages made launched.length 1 = 1 := by
          rw [World.stageSource, if_neg (by decide), if_pos rfl, if_pos last]
        rw [source]
        exact shells 1 1
      · obtain ⟨ends, isEnds⟩ : ∃ ends, made[launched.length]? = some ends :=
          ⟨_, List.getElem?_eq_getElem (by omega)⟩
        have source : World.stageSource stages made launched.length 1 = ends.write := by
          rw [World.stageSource, if_neg (by decide), if_pos rfl, if_neg last, isEnds]
          rfl
        obtain ⟨-, write⟩ := launching.isMade _ ends isEnds
        rw [source]
        refine ⟨_, write, nofun, fun pipe side isPipe _ => ?_⟩
        cases isPipe
        refine .inl ⟨rfl, slot, ?_, rfl⟩
        rw [Nat.add_sub_cancel_left]
        exact own
  | 2 => exact shells 2 2

/-- How the loop that starts the stages ends. -/
inductive LaunchEnd (before : World) (call : PipelineCall) (made : List PipeEnds)
    (first count : Nat) : World × List Slot × Bool → Prop
  | started {world : World} {launched : List Slot} :
      Launching before world made launched → launched.length = first + count →
      world.slotLog = before.slotLog ++ launched.map .allocate →
      (∀ stage, first ≤ stage → stage < first + count →
        call.Passes (4 - before.ledger.used.card) stage) →
      LaunchEnd before call made first count (world, launched, true)
  | stopped {world : World} {launched tail : List Slot} (stage : Nat) :
      Stopped before world made launched tail → first ≤ stage → stage < first + count →
      (∀ earlier, first ≤ earlier → earlier < stage →
        call.Passes (4 - before.ledger.used.card) earlier) →
      ¬ call.Passes (4 - before.ledger.used.card) stage →
      (launched ≠ [] ↔ 0 < stage ∨ call.Creates (4 - before.ledger.used.card) stage) →
      LaunchEnd before call made first count (world, launched ++ tail, false)

/-- The rest of the loop, after a stage that passed. -/
theorem LaunchEnd.step {call : PipelineCall} {made : List PipeEnds} {first count : Nat}
    {result : World × List Slot × Bool}
    (passes : call.Passes (4 - before.ledger.used.card) first)
    (ended : LaunchEnd before call made (first + 1) count result) :
    LaunchEnd before call made first (count + 1) result := by
  have shift : first + 1 + count = first + (count + 1) := by omega
  cases ended with
  | started launching length log all =>
      refine .started launching (length.trans shift) log fun stage low high => ?_
      rcases Nat.eq_or_lt_of_le low with isFirst | later
      · exact isFirst ▸ passes
      · exact all stage later (high.trans_eq shift.symm)
  | stopped stage stopped low high all fails creates =>
      refine .stopped stage stopped (Nat.le_of_succ_le low) (high.trans_eq shift)
        (fun earlier low high => ?_) fails creates
      rcases Nat.eq_or_lt_of_le low with isFirst | later
      · exact isFirst ▸ passes
      · exact all earlier later high

theorem World.slotLog_eq {world other : World} (same : world.ledger = other.ledger) :
    world.slotLog = other.slotLog :=
  congrArg Ledger.log same

theorem launchEnd_startStages (call : PipelineCall) (made : List PipeEnds) (count : Nat)
    {world : World} {launched : List Slot} (launching : Launching before world made launched)
    (length : made.length = call.stages - 1) (stages : launched.length + count = call.stages)
    (room : world.ledger.used.card = before.ledger.used.card + launched.length)
    (log : world.slotLog = before.slotLog ++ launched.map .allocate) :
    LaunchEnd before call made launched.length count
      (world.startStages call made (List.range' launched.length count) launched) := by
  induction count generalizing world launched with
  | zero => exact .started launching rfl log fun stage low high => absurd high (by omega)
  | succ count inductionHypothesis =>
      rw [List.range'_succ]
      unfold World.startStages
      cases found : world.ledger.freeSlot with
      | none =>
          -- No slot is left for this stage.
          have full := Ledger.freeSlot_full found
          have fails : ¬ call.Creates (4 - before.ledger.used.card) launched.length :=
            fun creates => absurd creates.1 (by omega)
          rw [World.taskStaticAllocate_none found]
          dsimp only
          have quiet := launching.inCall.held.settle.2.undisturbed
          have settled : Launching before world.settle made launched := by
            refine ⟨launching.inCall.settle, launching.isMade.undisturbed quiet, ?_,
              launching.undisturbed.trans quiet⟩
            rw [World.ledger_settle]
            exact launching.standing
          have ended : LaunchEnd before call made launched.length (count + 1)
              (world.settle, launched ++ [], false) :=
            .stopped launched.length ⟨settled, List.nodup_nil, by simp⟩ (Nat.le_refl _) (by omega)
              (fun earlier low high => absurd high (by omega)) (fun passes => fails passes.1)
              (by rw [or_iff_left fails, List.length_pos_iff_ne_nil])
          rw [List.append_nil] at ended
          exact ended
      | some slot =>
          have free := Ledger.freeSlot_free found
          have hasRoom := Ledger.card_used_lt found
          obtain ⟨holding, allocated, holdingLedger⟩ := World.taskStaticAllocate_some found
          obtain ⟨held, quiet, used, unmapped⟩ := launching.inCall.held.allocate allocated
          have starting : Starting before holding (numbersOf made) (launched ++ [slot]) slot
              (World.stageSource call.stages made launched.length) :=
            ⟨(launching.inCall.quiet held quiet).widen slot,
              List.mem_append_right _ (List.mem_singleton_self slot),
              fun stdio => (launching.sourced length (by omega) slot stdio).undisturbed
                quiet.undisturbed, used⟩
          obtain ⟨inCall, starts, empties⟩ := starting.start (call.argv launched.length)
            (call.start launched.length) unmapped
          have undisturbed := quiet.undisturbed.trans starts
          rw [allocated]
          dsimp only
          by_cases stageStarts : Starts (call.argv launched.length) (call.start launched.length)
          · obtain ⟨started, start, startedLedger⟩ :=
              World.taskStaticStart_starts holding slot _ stageStarts
            rw [start] at inCall undisturbed
            rw [start]
            dsimp only
            rw [holdingLedger] at startedLedger
            have next : Launching before started made (launched ++ [slot]) := by
              refine ⟨inCall, launching.isMade.undisturbed undisturbed, ?_,
                launching.undisturbed.trans undisturbed⟩
              rw [startedLedger]
              exact launching.standing.launch free stageStarts.thread
            have creates : call.Creates (4 - before.ledger.used.card) launched.length :=
              ⟨by omega, stageStarts⟩
            split
            next negative =>
              have ended : LaunchEnd before call made launched.length (count + 1)
                  (started, (launched ++ [slot]) ++ [], false) :=
                .stopped launched.length ⟨next, List.nodup_nil, by simp⟩ (Nat.le_refl _) (by omega)
                  (fun earlier low high => absurd high (by omega))
                  (fun passes => absurd passes.2 (Int.not_le.mpr negative))
                  (by simp [creates])
              rw [List.append_nil] at ended
              exact ended
            next positive =>
              have longer : (launched ++ [slot]).length = launched.length + 1 := by simp
              have rest := inductionHypothesis next (by rw [longer]; omega)
                (by rw [startedLedger, Ledger.card_used_launch free, room, longer]; omega)
                (by
                  have logged : started.slotLog = world.slotLog ++ [.allocate slot] :=
                    congrArg Ledger.log startedLedger
                  rw [logged, log, List.map_append, List.append_assoc]
                  rfl)
              rw [longer] at rest
              exact rest.step ⟨creates, Int.not_lt.mp positive⟩
          · obtain ⟨refused, code, start, negative, refusedLedger⟩ :=
              World.taskStaticStart_fails holding slot _ stageStarts
            rw [start] at inCall undisturbed empties
            rw [start]
            dsimp only
            rw [if_pos negative]
            rw [holdingLedger] at refusedLedger
            have flags : (refused.workers slot).flags = ⟨false, false, false, false, 0⟩ := by
              have same := congrArg (fun ledger : Ledger => ledger.flags slot) refusedLedger
              rw [Ledger.release_flags_self, Ledger.allocate_flags_self] at same
              exact same
            have unused : (refused.workers slot).inUse = false := congrArg Flags.inUse flags
            have next : Launching before refused made launched := by
              refine ⟨inCall.narrow unused, launching.isMade.undisturbed undisturbed, ?_,
                launching.undisturbed.trans undisturbed⟩
              rw [refusedLedger]
              exact launching.standing.refuse free
            have fails : ¬ call.Creates (4 - before.ledger.used.card) launched.length :=
              fun creates => stageStarts creates.2
            refine .stopped launched.length ⟨next, List.nodup_singleton _, fun other member => ?_⟩
              (Nat.le_refl _) (by omega) (fun earlier low high => absurd high (by omega))
              (fun passes => fails passes.1)
              (by rw [or_iff_left fails, List.length_pos_iff_ne_nil])
            rw [List.mem_singleton.mp member]
            exact ⟨launching.standing.notMem free, congrArg Flags.tid flags, unused,
              empties stageStarts⟩

theorem World.taskStaticRelease_unmapped {fd : Stdio}
    (unmapped : (world.workers slot).fdMap fd = none) (releasing : Slot) :
    ((world.taskStaticRelease releasing).workers slot).fdMap fd = none := by
  have kept : ((world.taskStaticRelease releasing).workers slot).fdMap =
      ((world.settle.closeMap releasing).workers slot).fdMap := by
    unfold World.taskStaticRelease
    dsimp only
    exact World.put_field Worker.fdMap (by rfl) slot
  rw [kept]
  exact World.closeMap_unmapped (World.settle_unmapped unmapped) releasing

theorem World.awaitWorker_unmapped {fd : Stdio}
    (unmapped : (world.workers slot).fdMap fd = none) (awaited : Slot) :
    ((world.awaitWorker awaited).workers slot).fdMap fd = none := by
  unfold World.awaitWorker
  split
  next running =>
    have kept : ((world.exitWorker awaited).workers slot).fdMap =
        ((world.closeMap awaited).workers slot).fdMap :=
      World.put_field Worker.fdMap (by rfl) slot
    rw [kept]
    exact World.closeMap_unmapped unmapped awaited
  next exited => exact unmapped

/-- What a join does to the descriptors; its snapshot is taken before it waits. -/
theorem InCall.join (inCall : InCall before world numbers owners)
    {launched : List Slot}
    (standing : world.ledger.Standing launched)
    (used : (world.workers slot).inUse = true) :
    InCall before (world.taskStaticJoin slot).1 numbers owners ∧
      (world.taskStaticJoin slot).1.joins = world.joins ++ [world.settle.files] ∧
        ∀ other fd, (world.workers other).fdMap fd = none →
          ((world.taskStaticJoin slot).1.workers other).fdMap fd = none := by
  obtain ⟨unreaped, joinable⟩ := standing.waiting slot used
  rw [← world.ledger_settle] at unreaped joinable
  have isUsed : (world.settle.workers slot).inUse = true := (world.settle_inUse slot).trans used
  have isUnreaped : (world.settle.workers slot).reaped = false := unreaped
  have isJoinable : (world.settle.workers slot).joinable = true := joinable
  let joining : World := { world.settle with joins := world.settle.joins ++ [world.settle.files] }
  have joiningCall : InCall before joining numbers owners := by
    have settled := inCall.settle
    exact ⟨settled.held.frame rfl (fun _ => rfl) fun _ => rfl, settled.recent, settled.pipes,
      settled.refs⟩
  obtain ⟨heldAwaited, quietAwaited⟩ := joiningCall.held.awaitWorker slot
  have awaited := joiningCall.quiet heldAwaited quietAwaited
  let marked : World := (joining.awaitWorker slot).put slot
    { (joining.awaitWorker slot).workers slot with
      reaped := true
      joinable := false }
  have markedCall : InCall before marked numbers owners := awaited.put rfl rfl
  have markedUsed : (marked.workers slot).inUse = true := by
    have kept := congrArg (fun ledger : Ledger => (ledger.flags slot).inUse)
      (joining.ledger_awaitWorker slot)
    have same : (marked.workers slot).inUse = ((joining.awaitWorker slot).workers slot).inUse :=
      World.put_field Worker.inUse (by rfl) slot
    exact (same.trans kept).trans isUsed
  obtain ⟨released, undisturbed⟩ := markedCall.release (.inl markedUsed)
  have result : (world.taskStaticJoin slot).1 = marked.taskStaticRelease slot := by
    unfold World.taskStaticJoin
    dsimp only
    rw [isUsed, isUnreaped, isJoinable, if_neg (by decide), if_neg (by decide)]
  rw [result]
  refine ⟨released, ?_, fun other fd unmapped => ?_⟩
  · rw [undisturbed.joins]
    have same : marked.joins = joining.joins := quietAwaited.joins
    have settled := inCall.held.settle.2.joins
    rw [same]
    exact congrArg (· ++ [world.settle.files]) settled
  · refine World.taskStaticRelease_unmapped ?_ slot
    have same : (marked.workers other).fdMap = ((joining.awaitWorker slot).workers other).fdMap :=
      World.put_field Worker.fdMap (by rfl) other
    have joiningUnmapped : (joining.workers other).fdMap fd = none :=
      World.settle_unmapped unmapped
    rw [same]
    exact World.awaitWorker_unmapped joiningUnmapped slot

def World.joinAll (world : World) (slots : List Slot) : World :=
  slots.foldl (fun world slot => (world.taskStaticJoin slot).1) world

theorem World.joinStages_joinAll (slots : List Slot) (status : Int) (world : World) :
    (world.joinStages slots status).1 = world.joinAll slots := by
  induction slots generalizing world status with
  | nil => rfl
  | cons slot rest inductionHypothesis => exact inductionHypothesis _ _

/-- After the launched workers were joined. -/
structure Joined (before world after : World) (numbers : List Nat) (owners slots : List Slot) :
    Prop where
  inCall : InCall before after numbers owners
  standing : after.ledger.Standing []
  unused : ∀ slot, slot ∈ slots ∨ (world.workers slot).inUse = false →
    (after.workers slot).inUse = false
  unmapped : ∀ slot fd, (world.workers slot).fdMap fd = none →
    (after.workers slot).fdMap fd = none
  tid : ∀ slot ∉ slots, (after.workers slot).tid = (world.workers slot).tid
  joins : ∃ snapshots, after.joins = world.joins ++ snapshots ∧ snapshots.length = slots.length ∧
    ∀ snapshot ∈ snapshots, ∃ joining, InCall before joining numbers owners ∧
      joining.files = snapshot
  log : ∃ released : List Slot, after.slotLog = world.slotLog ++ released.map .release

theorem InCall.joinAll (slots : List Slot) {world : World}
    (inCall : InCall before world numbers owners) (standing : world.ledger.Standing slots) :
    Joined before world (world.joinAll slots) numbers owners slots := by
  induction slots generalizing world with
  | nil =>
      exact ⟨inCall, standing, fun slot unused => unused.resolve_left List.not_mem_nil,
        fun _ _ => id, fun _ _ => rfl, ⟨[], (List.append_nil _).symm, rfl, nofun⟩,
        [], (List.append_nil _).symm⟩
  | cons slot rest inductionHypothesis =>
      have used := (standing.running slot List.mem_cons_self).1
      obtain ⟨unreaped, joinable⟩ := standing.waiting slot used
      have ledger := (World.taskStaticJoin_joins used unreaped joinable).1
      obtain ⟨joinedCall, joins, unmapped⟩ := inCall.join standing used
      have flags (other : Slot) : ((world.taskStaticJoin slot).1.workers other).flags =
          (world.ledger.join slot).flags other :=
        congrArg (fun ledger : Ledger => ledger.flags other) ledger
      have others (other : Slot) (different : other ≠ slot) :
          ((world.taskStaticJoin slot).1.workers other).flags = (world.workers other).flags :=
        (flags other).trans (Ledger.join_flags_of_ne different)
      have standingRest : (world.taskStaticJoin slot).1.ledger.Standing rest := by
        rw [ledger]
        have joined := standing.join slot
        rw [List.erase_cons_head] at joined
        exact joined
      have joined := inductionHypothesis joinedCall standingRest
      refine ⟨joined.inCall, joined.standing, fun other unused => joined.unused other ?_,
        fun other fd free => joined.unmapped other fd (unmapped other fd free),
        fun other outside => ?_, ?_, ?_⟩
      · by_cases isSlot : other = slot
        · rw [isSlot]
          exact .inr ((congrArg Flags.inUse (flags slot)).trans Ledger.join_flags_self)
        · have kept : ((world.taskStaticJoin slot).1.workers other).inUse =
              (world.workers other).inUse := congrArg Flags.inUse (others other isSlot)
          rw [kept]
          exact unused.imp_left fun member => (List.mem_cons.mp member).resolve_left isSlot
      · have isOther : other ≠ slot := fun same => outside (same ▸ List.mem_cons_self)
        have outsideRest : other ∉ rest := fun member => outside (List.mem_cons_of_mem _ member)
        exact (joined.tid other outsideRest).trans (congrArg Flags.tid (others other isOther))
      · obtain ⟨snapshots, isJoins, length, all⟩ := joined.joins
        refine ⟨world.settle.files :: snapshots, ?_, congrArg (· + 1) length, ?_⟩
        · have more : (world.joinAll (slot :: rest)).joins =
              (world.taskStaticJoin slot).1.joins ++ snapshots := isJoins
          rw [more, joins, List.append_assoc]
          rfl
        · intro snapshot member
          rcases List.mem_cons.mp member with isFirst | later
          · exact ⟨world.settle, inCall.settle, isFirst.symm⟩
          · exact all snapshot later
      · obtain ⟨released, isLog⟩ := joined.log
        have first : (world.taskStaticJoin slot).1.slotLog = world.slotLog ++ [.release slot] :=
          congrArg Ledger.log ledger
        have more : (world.joinAll (slot :: rest)).slotLog =
            (world.taskStaticJoin slot).1.slotLog ++ released.map .release := isLog
        refine ⟨slot :: released, ?_⟩
        rw [more, first, List.append_assoc]
        rfl

theorem World.failWorkers_joinAll (slots : List Slot) {world : World}
    (standing : world.ledger.Standing slots) : world.failWorkers slots = world.joinAll slots := by
  induction slots generalizing world with
  | nil => rfl
  | cons slot rest inductionHypothesis =>
      obtain ⟨used, thread⟩ := standing.running slot List.mem_cons_self
      obtain ⟨unreaped, joinable⟩ := standing.waiting slot used
      have threaded : (world.workers slot).tid ≠ 0 := thread
      have first : world.failWorker slot = (world.taskStaticJoin slot).1 := by
        unfold World.failWorker
        rw [if_pos threaded]
      have standingRest : (world.taskStaticJoin slot).1.ledger.Standing rest := by
        rw [(World.taskStaticJoin_joins used unreaped joinable).1]
        have joined := standing.join slot
        rw [List.erase_cons_head] at joined
        exact joined
      have rested := inductionHypothesis standingRest
      have unfolded : world.failWorkers (slot :: rest) =
          (world.failWorker slot).failWorkers rest := rfl
      rw [unfolded, first, rested]
      rfl

/-- When nothing is left to the launcher and the owners, all the call made is closed. -/
theorem InCall.closed (inCall : InCall before world [] owners)
    (unused : ∀ slot ∈ owners, (world.workers slot).inUse = false) (serial : Nat)
    (recent : before.files.nextSerial ≤ serial) (made : serial < world.files.nextSerial) :
    world.files.closed.count serial = 1 := by
  refine Table.count_closed made fun number entry found isSerial => ?_
  have isOpen : world.files.lookup number = some entry.2 := lookup_eq_some.mpr ⟨entry.1, found⟩
  rcases inCall.recent number entry found (isSerial ▸ recent) with
    ⟨pipe, side, owner⟩ | ⟨slot, member, fd, owner⟩
  · exact List.not_mem_nil ((inCall.held.ends number).mpr ⟨entry.2, pipe, side, isOpen, owner⟩)
  · have used := (inCall.held.owned number entry.2 slot fd isOpen owner).1
    exact Bool.false_ne_true ((unused slot member).symm.trans used)

/-- With no end left to the launcher the only references are the stages'. -/
theorem InCall.snapshot (inCall : InCall before world [] owners) (stdio : before.StdioOpen) :
    PipesClosed world.files ∧ OnlyStages before.pipes owners world.files := by
  have closed : PipesClosed world.files := by
    intro number file pipe side found owner
    exact List.not_mem_nil ((inCall.held.ends number).mpr ⟨file, pipe, side, found, owner⟩)
  refine ⟨closed, fun number file pipe side found isPipe recent => ?_⟩
  refine (inCall.refs stdio number file pipe side found isPipe recent).resolve_left ?_
  exact closed number file pipe side found

/-- The launcher's ends are open in a snapshot taken before it closed them. -/
theorem InCall.not_pipesClosed {number : Nat} (inCall : InCall before world numbers owners)
    (member : number ∈ numbers) : ¬ PipesClosed world.files := by
  intro closed
  obtain ⟨file, pipe, side, found, owner⟩ := (inCall.held.ends number).mp member
  exact closed number file pipe side found owner

/-- The loop at `fail_workers` over the slot of a failed start: a second release. -/
theorem InCall.failTail (tail : List Slot) {world : World}
    (inCall : InCall before world numbers owners) (standing : world.ledger.Standing [])
    (nodup : tail.Nodup)
    (refused : ∀ slot ∈ tail, (world.workers slot).tid = 0 ∧
      ∀ fd, (world.workers slot).fdMap fd = none) :
    InCall before (world.failWorkers tail) numbers owners ∧
      (world.failWorkers tail).ledger.Standing [] ∧
        (world.failWorkers tail).joins = world.joins ∧
          ∀ slot, (world.workers slot).inUse = false →
            ((world.failWorkers tail).workers slot).inUse = false := by
  induction tail generalizing world with
  | nil => exact ⟨inCall, standing, rfl, fun _ => id⟩
  | cons slot rest inductionHypothesis =>
      obtain ⟨threadless, empty⟩ := refused slot List.mem_cons_self
      obtain ⟨notLater, nodupRest⟩ := List.nodup_cons.mp nodup
      have first : world.failWorker slot = world.taskStaticRelease slot := by
        unfold World.failWorker
        rw [if_neg (not_not.mpr threadless)]
      obtain ⟨releasedCall, undisturbed⟩ := inCall.release (.inr empty)
      have ledger := world.ledger_taskStaticRelease slot
      have flags (other : Slot) (different : other ≠ slot) :
          ((world.taskStaticRelease slot).workers other).flags = (world.workers other).flags :=
        (congrArg (fun ledger : Ledger => ledger.flags other) ledger).trans
          (Ledger.release_flags_of_ne different)
      have releasedStanding : (world.taskStaticRelease slot).ledger.Standing [] := by
        rw [ledger]
        exact standing.release List.not_mem_nil
      obtain ⟨call, standing', joins, unused⟩ := inductionHypothesis releasedCall releasedStanding
        nodupRest fun other member => by
          have isOther : other ≠ slot := by
            rintro rfl
            exact notLater member
          obtain ⟨threadless', empty'⟩ := refused other (List.mem_cons_of_mem _ member)
          exact ⟨(congrArg Flags.tid (flags other isOther)).trans threadless',
            fun fd => World.taskStaticRelease_unmapped (empty' fd) slot⟩
      have unfolded : world.failWorkers (slot :: rest) =
          (world.taskStaticRelease slot).failWorkers rest := by
        rw [← first]
        rfl
      rw [unfolded]
      refine ⟨call, standing', joins.trans undisturbed.joins, fun other free => unused other ?_⟩
      by_cases isSlot : other = slot
      · rw [isSlot]
        have own := congrArg (fun ledger : Ledger => (ledger.flags slot).inUse) ledger
        rw [Ledger.release_flags_self] at own
        exact own
      · exact (congrArg Flags.inUse (flags other isSlot)).trans free

/-- The failure path after the stages stopped. -/
theorem Stopped.failWorkers {made : List PipeEnds} {launched tail : List Slot}
    (stopped : Stopped before world made launched tail) :
    InCall before (world.failWorkers (launched ++ tail)) (numbersOf made) launched ∧
      (world.failWorkers (launched ++ tail)).ledger.Standing [] ∧
        (∀ slot ∈ launched, ((world.failWorkers (launched ++ tail)).workers slot).inUse = false) ∧
          ∃ snapshots, (world.failWorkers (launched ++ tail)).joins = world.joins ++ snapshots ∧
            snapshots.length = launched.length ∧ ∀ snapshot ∈ snapshots, ∃ joining,
              InCall before joining (numbersOf made) launched ∧ joining.files = snapshot := by
  have split : world.failWorkers (launched ++ tail) =
      (world.failWorkers launched).failWorkers tail := List.foldl_append ..
  have launching := stopped.launching
  have joined := launching.inCall.joinAll launched launching.standing
  rw [← World.failWorkers_joinAll launched launching.standing] at joined
  obtain ⟨inCall, standing, joins, unused⟩ := joined.inCall.failTail tail joined.standing
    stopped.nodup fun slot member => by
      obtain ⟨outside, threadless, -, empty⟩ := stopped.refused slot member
      exact ⟨(joined.tid slot outside).trans threadless,
        fun fd => joined.unmapped slot fd (empty fd)⟩
  rw [split]
  refine ⟨inCall, standing, fun slot member => unused slot (joined.unused slot (.inl member)), ?_⟩
  obtain ⟨snapshots, isJoins, length, all⟩ := joined.joins
  exact ⟨snapshots, joins.trans isJoins, length, all⟩

end Calls

/-- Between two calls. -/
structure Resting (world : World) : Prop where
  held : Held world []
  standing : world.ledger.Standing []
  pipes : ∀ number file pipe side, world.files.lookup number = some file →
    file.pipe = some (pipe, side) → pipe < world.pipes

section Pipelines

variable {before world : World} {call : PipelineCall}

theorem Resting.inCall (resting : Resting before) : InCall before before [] [] where
  held := resting.held
  recent number entry found recent :=
    absurd (before.files.fresh number entry found) (Nat.not_lt.mpr recent)
  pipes := resting.pipes
  refs _ number file pipe side found isPipe recent :=
    absurd (resting.pipes number file pipe side found isPipe) (Nat.not_lt.mpr recent)

theorem InCall.resting {owners : List Slot} (inCall : InCall before world [] owners)
    (standing : world.ledger.Standing []) : Resting world :=
  ⟨inCall.held, standing, inCall.pipes⟩

/-- A call that joins nobody and leaves nothing open. -/
theorem closesBeforeWaiting_of_joins {owners : List Slot}
    (inCall : InCall before (before.lunaBbRunPipeline call).1 [] owners)
    (unused : ∀ slot ∈ owners, ((before.lunaBbRunPipeline call).1.workers slot).inUse = false)
    (joins : (before.lunaBbRunPipeline call).1.joins = before.joins) :
    ClosesBeforeWaiting before call := by
  refine ⟨fun snapshot member => ?_, inCall.closed unused⟩
  rw [joins, List.drop_length] at member
  cases member

/-- The result of a call whose pipes are made, by how its launch ends. -/
theorem lunaBbRunPipeline_of_made (before : World) (inRange : call.InRange) (allowed : call.Allowed)
    (made : call.PipesMade) :
    (before.lunaBbRunPipeline call).1 =
      let piping := before.makePipes call (List.range (call.stages - 1)) []
      let launched := piping.1.startStages call piping.2.1 (List.range call.stages) []
      if launched.2.2 then (launched.1.closePipes piping.2.1).joinAll launched.2.1
      else (launched.1.failWorkers launched.2.1).closePipes piping.2.1 := by
  have isMade := (before.pipesMade_iff call).mpr made
  unfold World.lunaBbRunPipeline
  rw [if_neg (not_not.mpr inRange), if_neg (not_not.mpr allowed)]
  generalize before.makePipes call (List.range (call.stages - 1)) [] = piping at isMade ⊢
  obtain ⟨world, ends, succeeded⟩ := piping
  dsimp only at isMade ⊢
  rw [isMade]
  dsimp only
  generalize world.startStages call ends (List.range call.stages) [] = launched
  obtain ⟨world, slots, succeeded⟩ := launched
  cases succeeded with
  | true => exact World.joinStages_joinAll slots 0 _
  | false => rfl

/-- The state in which the stages are started. -/
theorem Resting.launching (resting : Resting before) (made : call.PipesMade) :
    Launching before (before.makePipes call (List.range (call.stages - 1)) []).1
        (before.makePipes call (List.range (call.stages - 1)) []).2.1 [] ∧
      (before.makePipes call (List.range (call.stages - 1)) []).2.1.length = call.stages - 1 := by
  have start : Piping before before [] :=
    ⟨resting.inCall, nofun, rfl, .refl before⟩
  obtain ⟨piping, length⟩ := start.makePipes call (List.range (call.stages - 1))
  refine ⟨⟨piping.inCall, piping.isMade, ?_, piping.undisturbed⟩, ?_⟩
  · rw [World.ledger_makePipes]
    exact resting.standing
  · rw [length ((before.pipesMade_iff call).mpr made), List.length_range]
    exact Nat.zero_add _

theorem Resting.launchEnd (resting : Resting before) (made : call.PipesMade) :
    LaunchEnd before call (before.makePipes call (List.range (call.stages - 1)) []).2.1 0
      call.stages ((before.makePipes call (List.range (call.stages - 1)) []).1.startStages call
        (before.makePipes call (List.range (call.stages - 1)) []).2.1
        (List.range call.stages) []) := by
  obtain ⟨launching, length⟩ := resting.launching made
  have ledger := before.ledger_makePipes call (List.range (call.stages - 1)) []
  have range : List.range call.stages = List.range' 0 call.stages := List.range_eq_range'
  rw [range]
  refine launchEnd_startStages call _ call.stages launching length (Nat.zero_add _) ?_ ?_
  · rw [ledger]
    rfl
  · rw [World.slotLog_eq ledger]
    exact (List.append_nil _).symm

theorem numbersOf_ne_nil {made : List PipeEnds} (some : made ≠ []) :
    ∃ number, number ∈ numbersOf made := by
  obtain ⟨ends, rest, rfl⟩ := List.exists_cons_of_ne_nil some
  exact ⟨ends.read, List.mem_cons_self⟩

/-- Every stage starts: the pipes are closed and then the stages joined. -/
theorem closesBeforeWaiting_of_started {made : List PipeEnds} {launched : List Slot}
    (launching : Launching before world made launched)
    (log : world.slotLog = before.slotLog ++ launched.map .allocate)
    (result : (before.lunaBbRunPipeline call).1 = (world.closePipes made).joinAll launched) :
    Resting (before.lunaBbRunPipeline call).1 ∧
      (before.StdioOpen → ClosesBeforeWaiting before call) := by
  obtain ⟨closed, joins⟩ := launching.inCall.closePipes made
  have ledger := world.ledger_closePipes made
  have standing : (world.closePipes made).ledger.Standing launched := by
    rw [ledger]
    exact launching.standing
  have joined := closed.joinAll launched standing
  rw [← result] at joined
  refine ⟨joined.inCall.resting joined.standing, fun stdio => ⟨fun snapshot member => ?_,
    joined.inCall.closed fun slot member => joined.unused slot (.inl member)⟩⟩
  obtain ⟨snapshots, isJoins, -, all⟩ := joined.joins
  obtain ⟨released, isLog⟩ := joined.log
  rw [isJoins, joins, launching.undisturbed.joins, List.drop_left] at member
  have slots : (before.lunaBbRunPipeline call).1.slotsSince before = launched := by
    unfold World.slotsSince
    rw [isLog, World.slotLog_eq ledger, log, List.append_assoc, List.drop_left,
      List.filterMap_append, List.filterMap_map, List.filterMap_map]
    have allocates : SlotEvent.allocated ∘ SlotEvent.allocate = some := rfl
    have releases : SlotEvent.allocated ∘ SlotEvent.release = fun _ => none := rfl
    rw [allocates, releases, List.filterMap_some, List.filterMap_none, List.append_nil]
  rw [slots]
  obtain ⟨joining, inCall, rfl⟩ := all snapshot member
  exact inCall.snapshot stdio

/-- A stage fails: what was started is joined and then the pipes are closed. -/
theorem closesBeforeWaiting_of_stopped {made : List PipeEnds} {launched tail : List Slot}
    (stopped : Stopped before world made launched tail) (some : made ≠ [])
    (result : (before.lunaBbRunPipeline call).1 =
      (world.failWorkers (launched ++ tail)).closePipes made) :
    Resting (before.lunaBbRunPipeline call).1 ∧
      (ClosesBeforeWaiting before call ↔ launched = []) := by
  obtain ⟨failed, standing, unused, snapshots, isJoins, length, all⟩ := stopped.failWorkers
  obtain ⟨closed, joins⟩ := failed.closePipes made
  have ledger := (world.failWorkers (launched ++ tail)).ledger_closePipes made
  rw [isJoins, stopped.launching.undisturbed.joins] at joins
  rw [← ledger] at standing
  have unusedNow : ∀ slot ∈ launched,
      (((world.failWorkers (launched ++ tail)).closePipes made).workers slot).inUse = false := by
    intro slot member
    exact (congrArg (fun ledger : Ledger => (ledger.flags slot).inUse) ledger).trans
      (unused slot member)
  rw [← result] at closed joins standing unusedNow
  refine ⟨closed.resting standing, fun closes => ?_, fun none => ?_⟩
  · by_contra started
    obtain ⟨snapshot, member⟩ := List.exists_mem_of_length_pos
      (length ▸ List.length_pos_iff.mpr started)
    obtain ⟨joining, inCall, rfl⟩ := all snapshot member
    obtain ⟨number, isNumber⟩ := numbersOf_ne_nil some
    refine inCall.not_pipesClosed isNumber (closes.1 joining.files ?_).1
    rw [joins, List.drop_left]
    exact member
  · rw [none] at length
    rw [List.eq_nil_of_length_eq_zero length, List.append_nil] at joins
    exact closesBeforeWaiting_of_joins closed unusedNow joins

/-- What a call of `luna_bb_run_pipeline` does to the descriptors. -/
theorem Resting.pipeline (resting : Resting before) (call : PipelineCall) :
    Resting (before.lunaBbRunPipeline call).1 ∧
      ((call.Launches before → before.StdioOpen) → ¬ Stalls before call →
          ClosesBeforeWaiting before call) ∧
        (Stalls before call → ¬ ClosesBeforeWaiting before call) := by
  -- A call that fails before its stages are started joins nobody.
  have early : ∀ {world : World}, (before.lunaBbRunPipeline call).1 = world →
      InCall before world [] [] → world.ledger = before.ledger → world.joins = before.joins →
      ¬ Stalls before call → Resting (before.lunaBbRunPipeline call).1 ∧
        ((call.Launches before → before.StdioOpen) → ¬ Stalls before call →
            ClosesBeforeWaiting before call) ∧
          (Stalls before call → ¬ ClosesBeforeWaiting before call) := by
    rintro world rfl inCall ledger joins notStalls
    refine ⟨inCall.resting ?_, fun _ _ => closesBeforeWaiting_of_joins inCall nofun joins,
      fun stalls => absurd stalls notStalls⟩
    rw [ledger]
    exact resting.standing
  by_cases inRange : call.InRange
  swap
  · refine early ?_ resting.inCall rfl rfl fun stalls => inRange stalls.1
    unfold World.lunaBbRunPipeline
    rw [if_pos inRange]
  by_cases allowed : call.Allowed
  swap
  · refine early ?_ resting.inCall rfl rfl fun stalls => allowed stalls.2.1
    unfold World.lunaBbRunPipeline
    rw [if_neg (not_not.mpr inRange), if_pos allowed]
  by_cases made : call.PipesMade
  swap
  · have start : Piping before before [] := ⟨resting.inCall, nofun, rfl, .refl before⟩
    obtain ⟨piping, -⟩ := start.makePipes call (List.range (call.stages - 1))
    obtain ⟨closed, joins⟩ := piping.inCall.closePipes _
    refine early ?_ closed ?_ (joins.trans piping.undisturbed.joins) fun stalls =>
      made stalls.2.2.1
    · have failed : (before.makePipes call (List.range (call.stages - 1)) []).2.2 = false :=
        Bool.eq_false_iff.mpr fun succeeded => made ((before.pipesMade_iff call).mp succeeded)
      unfold World.lunaBbRunPipeline
      rw [if_neg (not_not.mpr inRange), if_neg (not_not.mpr allowed)]
      generalize before.makePipes call (List.range (call.stages - 1)) [] = piping at failed ⊢
      obtain ⟨world, ends, succeeded⟩ := piping
      dsimp only at failed ⊢
      rw [failed]
    · rw [World.ledger_closePipes, World.ledger_makePipes]
  have result := lunaBbRunPipeline_of_made before inRange allowed made
  have ended := resting.launchEnd made
  obtain ⟨-, length⟩ := resting.launching made
  have two : 2 ≤ call.stages := by
    have low := inRange.1
    unfold PipelineCall.stages
    omega
  generalize before.makePipes call (List.range (call.stages - 1)) [] = piping at result ended length
  dsimp only at result
  generalize piping.1.startStages call piping.2.1 (List.range call.stages) [] = launch
    at result ended
  cases ended with
  | started launching _ log all =>
      rw [if_pos rfl] at result
      obtain ⟨rests, closes⟩ := closesBeforeWaiting_of_started launching log result
      have first := all 0 (Nat.le_refl _) (by omega)
      refine ⟨rests, fun stdio _ => closes (stdio ⟨inRange, allowed, made, first.1⟩), ?_⟩
      rintro ⟨-, -, -, stage, bound, -, fails, -⟩
      exact absurd (all stage (Nat.zero_le _) (by omega)) fails
  | stopped stage stopped _ high all fails creates =>
      rw [if_neg Bool.false_ne_true] at result
      have some : piping.2.1 ≠ [] := by
        rintro none
        rw [none] at length
        exact absurd length (by dsimp only [List.length_nil]; omega)
      obtain ⟨rests, closes⟩ := closesBeforeWaiting_of_stopped stopped some result
      rw [Nat.zero_add] at high
      have earlier : ∀ earlier < stage, call.Passes (4 - before.ledger.used.card) earlier :=
        fun earlier => all earlier (Nat.zero_le _)
      refine ⟨rests, fun _ notStalls => closes.mpr ?_, fun stalls closed => ?_⟩
      · by_contra started
        exact notStalls ⟨inRange, allowed, made, stage, high, earlier, fails, creates.mp started⟩
      · obtain ⟨-, -, -, other, -, before', fails', starts⟩ := stalls
        have same : other = stage := by
          rcases Nat.lt_trichotomy other stage with less | equal | more
          · exact absurd (earlier other less) fails'
          · exact equal
          · exact absurd (before' stage more) fails
        exact creates.mpr (same ▸ starts) (closes.mp closed)

/-! The other calls keep the descriptors in order. -/

/-- A single command's start. -/
theorem Resting.start {slot : Slot} {holding : World} (resting : Resting before)
    (allocated : before.taskStaticAllocate = (holding, some slot)) (argv : List String)
    (answers : StartAnswers) :
    InCall before (holding.taskStaticStart slot argv World.launcherStdio answers).1 [] [slot] := by
  obtain ⟨held, quiet, used, unmapped⟩ := resting.held.allocate allocated
  have inCall := resting.inCall.quiet held quiet
  have starting : Starting before holding [] [slot] slot World.launcherStdio :=
    ⟨inCall.widen slot, List.mem_singleton_self slot,
      fun stdio fd => inCall.shell stdio quiet.undisturbed fd [slot] (.worker slot fd), used⟩
  exact (starting.start argv answers unmapped).1

theorem Resting.settle (resting : Resting world) : Resting world.settle := by
  refine resting.inCall.settle.resting ?_
  rw [World.ledger_settle]
  exact resting.standing

theorem Resting.join {slot : Slot} {launched : List Slot} (inCall : InCall before world [] launched)
    (standing : world.ledger.Standing launched) (single : launched.erase slot = [])
    (used : (world.workers slot).inUse = true) : Resting (world.taskStaticJoin slot).1 := by
  obtain ⟨unreaped, joinable⟩ := standing.waiting slot used
  refine (inCall.join standing used).1.resting ?_
  rw [(World.taskStaticJoin_joins used unreaped joinable).1, ← single]
  exact standing.join slot

theorem Resting.runStatic (resting : Resting world) (argv : List String)
    (answers : StartAnswers) : Resting (world.lunaBbRunStatic argv answers).1 := by
  unfold World.lunaBbRunStatic
  cases found : world.ledger.freeSlot with
  | none =>
      rw [World.taskStaticAllocate_none found]
      exact resting.settle
  | some slot =>
      have free := Ledger.freeSlot_free found
      obtain ⟨holding, allocated, holdingLedger⟩ := World.taskStaticAllocate_some found
      have inCall := resting.start allocated argv answers
      rw [allocated]
      dsimp only
      by_cases starts : Starts argv answers
      · obtain ⟨started, start, startedLedger⟩ :=
          World.taskStaticStart_starts holding slot World.launcherStdio starts
        rw [start] at inCall
        rw [start]
        have standing := resting.standing.launch free starts.thread
        rw [← holdingLedger, ← startedLedger] at standing
        dsimp only
        split
        · exact inCall.resting ⟨standing.waiting, nofun, List.nodup_nil⟩
        · exact Resting.join inCall standing (List.erase_cons_head ..)
            (standing.running slot (List.mem_singleton_self slot)).1
      · obtain ⟨refused, code, start, negative, refusedLedger⟩ :=
          World.taskStaticStart_fails holding slot World.launcherStdio starts
        rw [start] at inCall
        rw [start]
        dsimp only
        rw [if_pos negative]
        refine inCall.resting ?_
        rw [refusedLedger, holdingLedger]
        exact resting.standing.refuse free

theorem Resting.spawnStatic (resting : Resting world) (argv : List String)
    (answers : StartAnswers) : Resting (world.lunaBbSpawnStatic argv answers).1 := by
  unfold World.lunaBbSpawnStatic
  cases found : world.ledger.freeSlot with
  | none =>
      rw [World.taskStaticAllocate_none found]
      exact resting.settle
  | some slot =>
      have free := Ledger.freeSlot_free found
      obtain ⟨holding, allocated, holdingLedger⟩ := World.taskStaticAllocate_some found
      have inCall := resting.start allocated argv answers
      rw [allocated]
      dsimp only
      by_cases starts : Starts argv answers
      · obtain ⟨started, start, startedLedger⟩ :=
          World.taskStaticStart_starts holding slot World.launcherStdio starts
        rw [start] at inCall
        rw [start]
        have standing := resting.standing.launch free starts.thread
        rw [← holdingLedger, ← startedLedger] at standing
        dsimp only
        split
        · have kept : InCall world (started.put slot
              { started.workers slot with background := true }) [] [slot] := inCall.put rfl rfl
          refine kept.resting ?_
          rw [World.ledger_put]
          exact standing.leave
        · exact inCall.resting ⟨standing.waiting, nofun, List.nodup_nil⟩
      · obtain ⟨refused, code, start, negative, refusedLedger⟩ :=
          World.taskStaticStart_fails holding slot World.launcherStdio starts
        rw [start] at inCall
        rw [start]
        dsimp only
        rw [if_neg (Int.not_lt.mpr (Int.le_of_lt negative))]
        refine inCall.resting ?_
        rw [refusedLedger, holdingLedger]
        exact resting.standing.refuse free

theorem Resting.waitpid (resting : Resting world) (pid : Int) (nohang : Bool) :
    Resting (world.lunaBbWaitpid pid nohang).1 := by
  have settled := resting.settle
  unfold World.lunaBbWaitpid
  dsimp only
  split
  next slot found =>
    have selected := List.find?_some found
    have waited := (Bool.and_eq_true_iff.mp selected).1
    have joined := Resting.join settled.inCall settled.standing rfl (of_decide_eq_true waited).1
    split <;> exact joined
  next nobody =>
    split
    · exact settled
    · split <;> exact settled

/-- The shell opens or closes a descriptor of its own. -/
theorem Resting.others {after : World} (resting : Resting world)
    (workers : after.workers = world.workers) (ledger : after.ledger = world.ledger)
    (pipes : after.pipes = world.pipes)
    (same : ∀ number, after.files.lookup number = world.files.lookup number ∨
      (∀ file, after.files.lookup number = some file → file = ⟨none, .other⟩) ∧
        ∀ file, world.files.lookup number = some file → file.owner = .other) :
    Resting after := by
  have notOther : ∀ number file, file.owner ≠ .other →
      (after.files.lookup number = some file ↔ world.files.lookup number = some file) := by
    intro number file foreign
    rcases same number with equal | ⟨new, old⟩
    · rw [equal]
    · constructor
      · intro found
        exact absurd (by rw [new file found]) foreign
      · intro found
        exact absurd (old file found) foreign
  refine ⟨⟨fun slot used fd number maps => ?_, fun number file slot fd found owner => ?_,
    fun number => ?_, List.nodup_nil⟩, ?_, fun number file pipe side found isPipe => ?_⟩
  · rw [workers] at used maps
    obtain ⟨file, found, owner⟩ := resting.held.mapped slot used fd number maps
    exact ⟨file, (notOther number file (by rw [owner]; nofun)).mpr found, owner⟩
  · rw [workers]
    exact resting.held.owned number file slot fd
      ((notOther number file (by rw [owner]; nofun)).mp found) owner
  · rw [resting.held.ends]
    constructor
    · rintro ⟨file, pipe, side, found, owner⟩
      exact ⟨file, pipe, side, (notOther number file (by rw [owner]; nofun)).mpr found, owner⟩
    · rintro ⟨file, pipe, side, found, owner⟩
      exact ⟨file, pipe, side, (notOther number file (by rw [owner]; nofun)).mp found, owner⟩
  · rw [ledger]
    exact resting.standing
  · rw [pipes]
    rcases same number with equal | ⟨new, -⟩
    · rw [equal] at found
      exact resting.pipes number file pipe side found isPipe
    · rw [new file found] at isPipe
      cases isPipe

theorem Resting.perform (resting : Resting world) (call : Call) :
    Resting (world.perform call) := by
  cases call with
  | runStatic argv answers => exact resting.runStatic argv answers
  | spawnStatic argv answers => exact resting.spawnStatic argv answers
  | runPipeline call => exact (resting.pipeline call).1
  | waitpid pid nohang => exact resting.waitpid pid nohang
  | openOther =>
      refine resting.settle.others rfl rfl rfl fun number => ?_
      have opened : (world.perform .openOther).files.lookup number =
          if number = world.settle.files.next then some ⟨none, .other⟩
          else world.settle.files.lookup number := Table.lookup_insert _ _
      rw [opened]
      split
      next isNext =>
        refine .inr ⟨fun file found => (Option.some.inj found).symm, fun file found => ?_⟩
        rw [isNext, Table.lookup, Table.find_next] at found
        cases found
      next notNext => exact .inl rfl
  | closeOther number =>
      unfold World.perform World.closeOther
      dsimp only
      split
      next pipe found =>
        refine resting.settle.others rfl rfl rfl fun other => ?_
        dsimp only
        rw [Table.lookup_close]
        split
        next same =>
          refine .inr ⟨by simp, fun file isFile => ?_⟩
          rw [same, found] at isFile
          rw [← Option.some.inj isFile]
        next different => exact .inl rfl
      next foreign => exact resting.settle

theorem Booted.resting (booted : Booted world) : Resting world := by
  have unused : ∀ slot, (world.workers slot).inUse = false := by
    intro slot
    rw [booted.workers]
    rfl
  refine ⟨⟨fun slot used => ?_, fun number file slot fd found owner => ?_, fun number => ?_,
    List.nodup_nil⟩, booted.accounted.standing, booted.pipes⟩
  · exact absurd ((unused slot).symm.trans used) Bool.false_ne_true
  · exact nomatch (booted.others number file found).symm.trans owner
  · refine ⟨fun member => absurd member List.not_mem_nil, ?_⟩
    rintro ⟨file, pipe, side, found, owner⟩
    exact nomatch (booted.others number file found).symm.trans owner

end Pipelines

/-- A pipeline never waits while it holds a pipe open exactly when no stage fails after a
worker was started.  Only a call that starts a stage needs the shell's descriptors. -/
theorem pipeline_closes_before_waiting {world : World} (reached : system.Reachable world)
    (call : PipelineCall) :
    ((call.Launches world → world.StdioOpen) → ¬ Stalls world call →
        ClosesBeforeWaiting world call) ∧
      (Stalls world call → ¬ ClosesBeforeWaiting world call) := by
  have resting : Resting world := by
    refine Interleaving.System.Reachable.invariant Resting ?_ ?_ reached
    · intro world booted
      exact booted.resting
    · intro world call target resting performed
      cases performed
      exact resting.perform call
  exact (resting.pipeline call).2

theorem bootWorld_stdioOpen : bootWorld.StdioOpen
  | 0 | 1 | 2 => ⟨⟨none, .other⟩, rfl, rfl⟩

/-- A stage of these pipelines is started from the boot world. -/
theorem pipelineOf_passes {first second : List String} {stage : Nat} (bound : stage < 2)
    (fits : 0 ≤ taskStaticCopyArgv ((pipelineOf first second).argv stage))
    (known : taskStaticCommandAllowed (((pipelineOf first second).argv stage).headD "") = true) :
    (pipelineOf first second).Passes (4 - bootWorld.ledger.used.card) stage := by
  have free : 4 - bootWorld.ledger.used.card = 4 := by decide
  rw [free]
  have thread : ∀ stage < 2, 0 ≤ World.pidOf (stage + 2) := by decide
  exact ⟨⟨by omega, ⟨fits, known, fun _ => Int.le_refl 0, Nat.succ_ne_zero _⟩⟩,
    thread stage bound⟩

theorem pipeline_closes_before_waiting_ls_wc :
    ClosesBeforeWaiting bootWorld (pipelineOf ["ls"] ["wc"]) ∧
      (bootWorld.lunaBbRunPipeline (pipelineOf ["ls"] ["wc"])).1.joins.length = 2 := by
  refine ⟨(pipeline_closes_before_waiting (.init bootWorld_booted) _).1
    (fun _ => bootWorld_stdioOpen) ?_, by decide +kernel⟩
  rintro ⟨-, -, -, stage, bound, -, fails, -⟩
  have two : stage < 2 := bound
  refine fails (pipelineOf_passes two ?_ ?_)
  all_goals
    match stage, two with
    | 0, _ => decide +kernel
    | 1, _ => decide +kernel

/-- The second stage has seventeen arguments, so the first one is joined while the pipe
is open in the launcher. -/
theorem pipeline_waits_with_pipe_open :
    ¬ ∀ world, system.Reachable world → ∀ call : PipelineCall, call.InRange →
      ClosesBeforeWaiting world call := by
  intro all
  have closes := all bootWorld (.init bootWorld_booted)
    (pipelineOf ["ls"] ("echo" :: List.replicate 16 "x")) ⟨by decide, by decide⟩
  refine (bootWorld_booted.resting.pipeline _).2.2 ⟨⟨by decide, by decide⟩, ?_, ?_, 1, ?_, ?_, ?_,
    .inl Nat.one_pos⟩ closes
  · intro stage bound
    have two : stage < 2 := bound
    match stage, two with
    | 0, _ => decide +kernel
    | 1, _ => decide +kernel
  · have enough : lunaStdioIoChunk ≤ 262144 := by decide
    exact fun index _ => ⟨Int.le_refl 0, enough⟩
  · decide
  · intro earlier first
    have zero : earlier = 0 := Nat.lt_one_iff.mp first
    subst zero
    exact pipelineOf_passes (by decide) (by decide +kernel) (by decide +kernel)
  · intro passes
    exact absurd passes.1.2.fits (by decide +kernel)

end Luna.Static
