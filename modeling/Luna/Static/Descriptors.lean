import Luna.Static.Accounting

/-!
# Descriptors of the launcher and its workers

Every open descriptor has one owner: the virtual descriptor of a worker that maps to
it, the launcher that made the pipe, or the shell.  `Held` states this bijection for
the numbers the launcher still has to close; worker events, starts, releases and
joins keep it.
-/

namespace Luna.Static

open DescriptorTable

/-- The owner's view of the open descriptors agrees with the maps; `numbers` are the
pipe ends the launcher has to close. -/
structure Held (world : World) (numbers : List Nat) : Prop where
  mapped : ∀ slot, (world.workers slot).inUse = true → ∀ fd number,
    (world.workers slot).fdMap fd = some number →
      ∃ file, world.files.lookup number = some file ∧ file.owner = .worker slot fd
  owned : ∀ number file slot fd, world.files.lookup number = some file →
    file.owner = .worker slot fd →
      (world.workers slot).inUse = true ∧ (world.workers slot).fdMap fd = some number
  ends : ∀ number, number ∈ numbers ↔
    ∃ file pipe side, world.files.lookup number = some file ∧ file.owner = .launcher pipe side
  nodup : numbers.Nodup

/-- What workers and releases do to the descriptors: some of the workers' own are
closed. -/
structure Quiet (before after : World) : Prop where
  subset : ∀ number entry, after.files.find number = some entry →
    before.files.find number = some entry
  kept : ∀ number entry, before.files.find number = some entry →
    (∀ slot fd, entry.2.owner ≠ .worker slot fd) → after.files.find number = some entry
  nextSerial : after.files.nextSerial = before.files.nextSerial
  pipes : after.pipes = before.pipes
  joins : after.joins = before.joins

/-- The map of the slot may be closed: it is the worker's own or empty. -/
def World.Closable (world : World) (slot : Slot) : Prop :=
  (world.workers slot).inUse = true ∨ ∀ fd, (world.workers slot).fdMap fd = none

theorem Quiet.refl (world : World) : Quiet world world :=
  ⟨fun _ _ => id, fun _ _ found _ => found, rfl, rfl, rfl⟩

theorem Quiet.trans {first second third : World} (left : Quiet first second)
    (right : Quiet second third) : Quiet first third where
  subset number entry found := left.subset number entry (right.subset number entry found)
  kept number entry found foreign :=
    right.kept number entry (left.kept number entry found foreign) foreign
  nextSerial := right.nextSerial.trans left.nextSerial
  pipes := right.pipes.trans left.pipes
  joins := right.joins.trans left.joins

theorem lookup_eq_some {table : Table File} {number : Nat} {file : File} :
    table.lookup number = some file ↔ ∃ serial, table.find number = some (serial, file) := by
  rw [Table.lookup, Option.map_eq_some_iff]
  constructor
  · rintro ⟨⟨serial, found⟩, isFound, rfl⟩
    exact ⟨serial, isFound⟩
  · rintro ⟨serial, isFound⟩
    exact ⟨(serial, file), isFound, rfl⟩

section Steps

variable {world : World} {numbers : List Nat} {slot : Slot}

/-- A change of a worker's record that keeps its map and its use. -/
theorem Held.frame {after : World} (held : Held world numbers)
    (files : after.files = world.files)
    (inUse : ∀ slot, (after.workers slot).inUse = (world.workers slot).inUse)
    (fdMap : ∀ slot, (after.workers slot).fdMap = (world.workers slot).fdMap) :
    Held after numbers where
  mapped slot used fd number maps := by
    rw [inUse] at used
    rw [fdMap] at maps
    rw [files]
    exact held.mapped slot used fd number maps
  owned number file slot fd found owner := by
    rw [files] at found
    rw [inUse, fdMap]
    exact held.owned number file slot fd found owner
  ends number := by
    rw [files]
    exact held.ends number
  nodup := held.nodup

theorem World.put_field {Field : Type} (field : Worker → Field) {worker : Worker}
    (same : field worker = field (world.workers slot)) (other : Slot) :
    field ((world.put slot worker).workers other) = field (world.workers other) := by
  by_cases isSlot : other = slot
  · rw [isSlot, World.put_workers_self, same]
  · rw [World.put_workers_of_ne isSlot]

/-- A worker's close of a virtual descriptor hits the worker's own descriptor. -/
theorem Held.closeStdio (held : Held world numbers) (fd : Stdio) (closable : world.Closable slot) :
    Held (world.closeStdio slot fd) numbers ∧ Quiet world (world.closeStdio slot fd) := by
  unfold World.closeStdio
  dsimp only
  split
  next unmapped => exact ⟨held, .refl world⟩
  next number maps =>
    have used : (world.workers slot).inUse = true := by
      refine closable.resolve_right fun empty => ?_
      exact nomatch maps.symm.trans (empty fd)
    obtain ⟨file, found, owner⟩ := held.mapped slot used fd number maps
    refine ⟨⟨fun other otherUsed fd' number' maps' => ?_,
      fun number' file' other fd' found' owner' => ?_, fun number' => ?_, held.nodup⟩, ?_⟩
    · have before : (world.workers other).inUse = true ∧
          (world.workers other).fdMap fd' = some number' ∧ ¬ (other = slot ∧ fd' = fd) := by
        by_cases isSlot : other = slot
        · subst isSlot
          dsimp only at maps'
          rw [World.put_workers_self] at maps'
          dsimp only at maps'
          by_cases isFd : fd' = fd
          · rw [isFd, Function.update_self] at maps'
            cases maps'
          · rw [Function.update_of_ne isFd] at maps'
            exact ⟨used, maps', fun both => isFd both.2⟩
        · dsimp only at otherUsed maps'
          rw [World.put_workers_of_ne isSlot] at otherUsed maps'
          exact ⟨otherUsed, maps', fun both => isSlot both.1⟩
      obtain ⟨file', found', owner'⟩ := held.mapped other before.1 fd' number' before.2.1
      refine ⟨file', ?_, owner'⟩
      dsimp only
      rw [Table.lookup_close, if_neg, found']
      rintro rfl
      have same := Option.some.inj (found.symm.trans found')
      rw [same, owner'] at owner
      cases owner
      exact before.2.2 ⟨rfl, rfl⟩
    · dsimp only at found' ⊢
      rw [Table.lookup_close] at found'
      split at found'
      · cases found'
      next different =>
        obtain ⟨otherUsed, maps'⟩ := held.owned number' file' other fd' found' owner'
        by_cases isSlot : other = slot
        · subst isSlot
          rw [World.put_workers_self]
          refine ⟨used, ?_⟩
          dsimp only
          rw [Function.update_of_ne, maps']
          rintro rfl
          exact different (Option.some.inj (maps'.symm.trans maps))
        · rw [World.put_workers_of_ne isSlot]
          exact ⟨otherUsed, maps'⟩
    · dsimp only
      rw [held.ends, Table.lookup_close]
      split
      next same =>
        refine ⟨?_, by rintro ⟨_, _, _, found', _⟩; cases found'⟩
        rintro ⟨file', pipe, side, found', owner'⟩
        rw [same] at found'
        rw [← Option.some.inj (found.symm.trans found'), owner] at owner'
        cases owner'
      next different => exact Iff.rfl
    · refine ⟨fun number' entry found' => ?_, fun number' entry found' foreign => ?_,
        Table.close_nextSerial _, rfl, rfl⟩
      · dsimp only at found'
        rw [Table.find_close] at found'
        split at found'
        · cases found'
        · exact found'
      · dsimp only
        rw [Table.find_close, if_neg, found']
        rintro rfl
        obtain ⟨serial, found⟩ := lookup_eq_some.mp found
        rw [← Option.some.inj (found.symm.trans found')] at foreign
        exact foreign slot fd owner

theorem World.closeStdio_fdMap (world : World) (slot : Slot) (fd : Stdio) :
    ((world.closeStdio slot fd).workers slot).fdMap =
      Function.update (world.workers slot).fdMap fd none := by
  unfold World.closeStdio
  dsimp only
  split
  next unmapped => rw [← unmapped, Function.update_eq_self]
  next number maps => rw [World.put_workers_self]

theorem World.closeStdio_inUse (world : World) (slot other : Slot) (fd : Stdio) :
    ((world.closeStdio slot fd).workers other).inUse = (world.workers other).inUse :=
  congrArg (fun ledger : Ledger => (ledger.flags other).inUse) (world.ledger_closeStdio slot fd)

theorem World.Closable.closeStdio (closable : world.Closable slot) (fd : Stdio) :
    (world.closeStdio slot fd).Closable slot := by
  refine closable.imp (fun used => ?_) fun empty other => ?_
  · rw [World.closeStdio_inUse]
    exact used
  · rw [World.closeStdio_fdMap]
    by_cases isFd : other = fd
    · rw [isFd, Function.update_self]
    · rw [Function.update_of_ne isFd, empty]

theorem Held.closeStdios (fds : List Stdio) {world : World} (held : Held world numbers)
    (closable : world.Closable slot) :
    Held (fds.foldl (fun world fd => world.closeStdio slot fd) world) numbers ∧
      Quiet world (fds.foldl (fun world fd => world.closeStdio slot fd) world) := by
  induction fds generalizing world with
  | nil => exact ⟨held, .refl world⟩
  | cons fd rest inductionHypothesis =>
      obtain ⟨closed, quiet⟩ := held.closeStdio fd closable
      obtain ⟨closedAll, quietAll⟩ := inductionHypothesis closed (closable.closeStdio fd)
      exact ⟨closedAll, quiet.trans quietAll⟩

theorem Held.closeMap (held : Held world numbers) (closable : world.Closable slot) :
    Held (world.closeMap slot) numbers ∧ Quiet world (world.closeMap slot) :=
  held.closeStdios _ closable

theorem World.closeStdios_fdMap (fds : List Stdio) (world : World) (slot : Slot) (fd : Stdio)
    (done : fd ∈ fds ∨ (world.workers slot).fdMap fd = none) :
    ((fds.foldl (fun world fd => world.closeStdio slot fd) world).workers slot).fdMap fd =
      none := by
  induction fds generalizing world with
  | nil => exact done.resolve_left List.not_mem_nil
  | cons first rest inductionHypothesis =>
      refine inductionHypothesis _ ?_
      rw [World.closeStdio_fdMap]
      by_cases isFirst : fd = first
      · rw [isFirst, Function.update_self]
        exact .inr rfl
      · rw [Function.update_of_ne isFirst]
        exact done.imp_left fun member => (List.mem_cons.mp member).resolve_left isFirst

theorem World.closeMap_fdMap (world : World) (slot : Slot) (fd : Stdio) :
    ((world.closeMap slot).workers slot).fdMap fd = none :=
  World.closeStdios_fdMap _ world slot fd (.inl (List.mem_finRange fd))

/-- A change of one worker's record that keeps its map and its use. -/
theorem Held.put {worker : Worker} (held : Held world numbers)
    (inUse : worker.inUse = (world.workers slot).inUse)
    (fdMap : worker.fdMap = (world.workers slot).fdMap) : Held (world.put slot worker) numbers :=
  held.frame rfl (World.put_field Worker.inUse inUse) (World.put_field Worker.fdMap fdMap)

theorem Quiet.put (world : World) (slot : Slot) (worker : Worker) :
    Quiet world (world.put slot worker) :=
  ⟨fun _ _ => id, fun _ _ found _ => found, rfl, rfl, rfl⟩

theorem Held.exitWorker (held : Held world numbers) (closable : world.Closable slot) :
    Held (world.exitWorker slot) numbers ∧ Quiet world (world.exitWorker slot) := by
  obtain ⟨closed, quiet⟩ := held.closeMap closable
  exact ⟨closed.put rfl rfl, quiet.trans (.put _ _ _)⟩

theorem Held.event (held : Held world numbers) (event : WorkerEvent) :
    Held (world.event event) numbers ∧ Quiet world (world.event event) := by
  cases event with
  | close slot fd =>
      unfold World.event
      dsimp only
      split
      next running => exact held.closeStdio fd (.inl running.1)
      next stopped => exact ⟨held, .refl world⟩
  | exit slot =>
      unfold World.event
      dsimp only
      split
      next running => exact held.exitWorker (.inl running.1)
      next stopped => exact ⟨held, .refl world⟩

theorem Held.events (events : List WorkerEvent) {world : World} (held : Held world numbers) :
    Held (events.foldl World.event world) numbers ∧
      Quiet world (events.foldl World.event world) := by
  induction events generalizing world with
  | nil => exact ⟨held, .refl world⟩
  | cons event rest inductionHypothesis =>
      obtain ⟨moved, quiet⟩ := held.event event
      obtain ⟨movedAll, quietAll⟩ := inductionHypothesis moved
      exact ⟨movedAll, quiet.trans quietAll⟩

theorem Held.settle (held : Held world numbers) :
    Held world.settle numbers ∧ Quiet world world.settle := by
  obtain ⟨moved, quiet⟩ := held.events (world.schedule world.clock)
  exact ⟨moved.frame rfl (fun _ => rfl) fun _ => rfl,
    ⟨quiet.subset, quiet.kept, quiet.nextSerial, quiet.pipes, quiet.joins⟩⟩

theorem Held.awaitWorker (held : Held world numbers) (slot : Slot) :
    Held (world.awaitWorker slot) numbers ∧ Quiet world (world.awaitWorker slot) := by
  unfold World.awaitWorker
  split
  next running => exact held.exitWorker (.inl running.1)
  next exited => exact ⟨held, .refl world⟩

/-! An unmapped virtual descriptor stays unmapped whatever the workers do. -/

theorem World.closeStdio_unmapped {fd : Stdio} (unmapped : (world.workers slot).fdMap fd = none)
    (closing : Slot) (closed : Stdio) :
    ((world.closeStdio closing closed).workers slot).fdMap fd = none := by
  by_cases isSlot : slot = closing
  · subst isSlot
    rw [World.closeStdio_fdMap]
    by_cases isFd : fd = closed
    · rw [isFd, Function.update_self]
    · rw [Function.update_of_ne isFd, unmapped]
  · unfold World.closeStdio
    dsimp only
    split
    · exact unmapped
    · rw [World.put_workers_of_ne isSlot, unmapped]

theorem World.closeMap_unmapped {fd : Stdio} (unmapped : (world.workers slot).fdMap fd = none)
    (closing : Slot) : ((world.closeMap closing).workers slot).fdMap fd = none := by
  unfold World.closeMap
  generalize List.finRange 3 = fds
  induction fds generalizing world with
  | nil => exact unmapped
  | cons first rest inductionHypothesis =>
      exact inductionHypothesis (World.closeStdio_unmapped unmapped closing first)

theorem World.event_unmapped {fd : Stdio} (unmapped : (world.workers slot).fdMap fd = none)
    (event : WorkerEvent) : ((world.event event).workers slot).fdMap fd = none := by
  cases event with
  | close closing closed =>
      unfold World.event
      dsimp only
      split
      · exact World.closeStdio_unmapped unmapped closing closed
      · exact unmapped
  | exit closing =>
      unfold World.event
      dsimp only
      split
      · have kept : ((world.exitWorker closing).workers slot).fdMap =
            ((world.closeMap closing).workers slot).fdMap :=
          World.put_field Worker.fdMap (by rfl) slot
        rw [kept]
        exact World.closeMap_unmapped unmapped closing
      · exact unmapped

theorem World.settle_unmapped {fd : Stdio} (unmapped : (world.workers slot).fdMap fd = none) :
    (world.settle.workers slot).fdMap fd = none := by
  unfold World.settle
  dsimp only
  generalize world.schedule world.clock = events
  induction events generalizing world with
  | nil => exact unmapped
  | cons event rest inductionHypothesis =>
      exact inductionHypothesis (World.event_unmapped unmapped event)

theorem World.settle_inUse (world : World) (slot : Slot) :
    (world.settle.workers slot).inUse = (world.workers slot).inUse :=
  congrArg (fun ledger : Ledger => (ledger.flags slot).inUse) world.ledger_settle

theorem World.Closable.settle (closable : world.Closable slot) : world.settle.Closable slot := by
  refine closable.imp (fun used => ?_) fun empty fd => World.settle_unmapped (empty fd)
  rw [World.settle_inUse]
  exact used

/-- After a release nothing is mapped, so nothing is owned. -/
theorem Held.release (held : Held world numbers) (closable : world.Closable slot) :
    Held (world.taskStaticRelease slot) numbers ∧ Quiet world (world.taskStaticRelease slot) ∧
      ∀ fd, ((world.taskStaticRelease slot).workers slot).fdMap fd = none := by
  obtain ⟨settled, quiet⟩ := held.settle
  obtain ⟨closed, quietMap⟩ := settled.closeMap closable.settle
  have empty := world.settle.closeMap_fdMap slot
  unfold World.taskStaticRelease
  refine ⟨⟨fun other used fd number maps => ?_, fun number file other fd found owner => ?_,
    closed.ends, closed.nodup⟩, ?_, fun fd => ?_⟩
  · dsimp only at used maps ⊢
    by_cases isSlot : other = slot
    · rw [isSlot, World.put_workers_self] at used
      cases used
    · rw [World.put_workers_of_ne isSlot] at used maps
      exact closed.mapped other used fd number maps
  · dsimp only at found ⊢
    obtain ⟨used, maps⟩ := closed.owned number file other fd found owner
    have isOther : other ≠ slot := by
      rintro rfl
      exact nomatch maps.symm.trans (empty fd)
    rw [World.put_workers_of_ne isOther]
    exact ⟨used, maps⟩
  · have both := quiet.trans quietMap
    exact ⟨both.subset, both.kept, both.nextSerial, both.pipes, both.joins⟩
  · dsimp only
    rw [World.put_workers_self]
    exact empty fd

theorem Held.allocate {after : World} (held : Held world numbers)
    (allocated : world.taskStaticAllocate = (after, some slot)) :
    Held after numbers ∧ Quiet world after ∧ (after.workers slot).inUse = true ∧
      ∀ fd, (after.workers slot).fdMap fd = none := by
  obtain ⟨settled, quiet⟩ := held.settle
  unfold World.taskStaticAllocate at allocated
  dsimp only at allocated
  split at allocated
  · cases allocated
  next found isFound =>
    cases allocated
    have freeSlot : world.settle.ledger.freeSlot = some slot := isFound
    have free : (world.settle.workers slot).inUse = false := Ledger.freeSlot_free freeSlot
    refine ⟨⟨fun other used fd number maps => ?_, fun number file other fd found owner => ?_,
      settled.ends, settled.nodup⟩, ?_, ?_, fun fd => ?_⟩
    · dsimp only at used maps ⊢
      by_cases isSlot : other = slot
      · rw [isSlot, World.put_workers_self] at maps
        cases maps
      · rw [World.put_workers_of_ne isSlot] at used maps
        exact settled.mapped other used fd number maps
    · dsimp only at found ⊢
      obtain ⟨used, maps⟩ := settled.owned number file other fd found owner
      have isOther : other ≠ slot := by
        rintro rfl
        exact Bool.false_ne_true (free.symm.trans used)
      rw [World.put_workers_of_ne isOther]
      exact ⟨used, maps⟩
    · exact ⟨quiet.subset, quiet.kept, quiet.nextSerial, quiet.pipes, quiet.joins⟩
    · dsimp only
      rw [World.put_workers_self]
      rfl
    · dsimp only
      rw [World.put_workers_self]
      rfl

/-- A new descriptor of a worker. -/
theorem Held.dup (held : Held world numbers) {fd : Stdio} (source : Nat)
    (used : (world.workers slot).inUse = true)
    (unmapped : (world.workers slot).fdMap fd = none) :
    Held (world.dup slot fd source) numbers := by
  have free : world.files.lookup world.files.next = none := by
    rw [Table.lookup, Table.find_next]
    rfl
  unfold World.dup
  refine ⟨fun other otherUsed fd' number maps => ?_, fun number file other fd' found owner => ?_,
    fun number => ?_, held.nodup⟩
  · dsimp only at otherUsed maps ⊢
    rw [Table.lookup_insert]
    by_cases own : other = slot ∧ fd' = fd
    · obtain ⟨rfl, rfl⟩ := own
      rw [World.put_workers_self] at maps
      dsimp only at maps
      rw [Function.update_self] at maps
      rw [if_pos (Option.some.inj maps).symm]
      exact ⟨_, rfl, rfl⟩
    · have before : (world.workers other).inUse = true ∧
          (world.workers other).fdMap fd' = some number := by
        by_cases isSlot : other = slot
        · subst isSlot
          rw [World.put_workers_self] at maps
          dsimp only at maps
          rw [Function.update_of_ne fun isFd => own ⟨rfl, isFd⟩] at maps
          exact ⟨used, maps⟩
        · rw [World.put_workers_of_ne isSlot] at otherUsed maps
          exact ⟨otherUsed, maps⟩
      obtain ⟨file, found, owner⟩ := held.mapped other before.1 fd' number before.2
      refine ⟨file, ?_, owner⟩
      rw [if_neg, found]
      rintro rfl
      exact nomatch found.symm.trans free
  · dsimp only at found ⊢
    rw [Table.lookup_insert] at found
    split at found
    next isNext =>
      cases found
      cases owner
      rw [World.put_workers_self]
      dsimp only
      rw [Function.update_self, isNext]
      exact ⟨used, rfl⟩
    next notNext =>
      obtain ⟨otherUsed, maps⟩ := held.owned number file other fd' found owner
      by_cases isSlot : other = slot
      · subst isSlot
        rw [World.put_workers_self]
        dsimp only
        refine ⟨used, ?_⟩
        rw [Function.update_of_ne, maps]
        rintro rfl
        exact nomatch maps.symm.trans unmapped
      · rw [World.put_workers_of_ne isSlot]
        exact ⟨otherUsed, maps⟩
  · dsimp only
    rw [held.ends, Table.lookup_insert]
    split
    next isNext =>
      rw [isNext, free]
      constructor
      · rintro ⟨_, _, _, found, _⟩
        cases found
      · rintro ⟨file, pipe, side, found, owner⟩
        cases found
        cases owner
    next notNext => exact Iff.rfl

theorem World.dup_unmapped {fd other : Stdio} (source : Nat)
    (unmapped : (world.workers slot).fdMap other = none) (different : other ≠ fd) :
    ((world.dup slot fd source).workers slot).fdMap other = none := by
  unfold World.dup
  dsimp only
  rw [World.put_workers_self]
  dsimp only
  rw [Function.update_of_ne different, unmapped]

end Steps

end Luna.Static
