import Mathlib.Algebra.Ring.Nat
import Mathlib.Data.Finset.Card
import Mathlib.Data.Fintype.Card
import Luna.Static.Workers

/-!
# Accounting of the worker slots

The slots as the launcher's bookkeeping sees them: `Ledger` forgets descriptors,
exits and arguments, and what workers do beside the launcher does not change it.
`task_static_start` releases its slot when it fails.  The loop at `fail_workers`
releases it once more, so the accounts are exact only when no stage of a pipeline
that got a slot fails to start.
-/

namespace Luna.Static

open DescriptorTable Interleaving

/-- What the bookkeeping keeps of a worker. -/
structure Flags where
  inUse : Bool
  reaped : Bool
  joinable : Bool
  background : Bool
  tid : Nat
  deriving DecidableEq, Repr

def Worker.flags (worker : Worker) : Flags where
  inUse := worker.inUse
  reaped := worker.reaped
  joinable := worker.joinable
  background := worker.background
  tid := worker.tid

structure Ledger where
  flags : Slot → Flags
  current : Nat
  log : List SlotEvent

def World.ledger (world : World) : Ledger where
  flags slot := (world.workers slot).flags
  current := world.current
  log := world.slotLog

namespace Ledger

def set (ledger : Ledger) (slot : Slot) (flags : Flags) : Ledger :=
  { ledger with flags := Function.update ledger.flags slot flags }

def allocate (ledger : Ledger) (slot : Slot) : Ledger :=
  { ledger.set slot ⟨true, false, false, false, 0⟩ with
    current := (ledger.current + 1) % 2 ^ 32
    log := ledger.log ++ [.allocate slot] }

def release (ledger : Ledger) (slot : Slot) : Ledger :=
  { ledger.set slot { ledger.flags slot with inUse := false } with
    current := (ledger.current + 2 ^ 32 - 1) % 2 ^ 32
    log := ledger.log ++ [.release slot] }

/-- The slot has a thread. -/
def create (ledger : Ledger) (slot : Slot) (tid : Nat) : Ledger :=
  ledger.set slot { ledger.flags slot with
    tid
    joinable := true }

/-- The slot's thread is joined and the slot released. -/
def join (ledger : Ledger) (slot : Slot) : Ledger :=
  (ledger.set slot { ledger.flags slot with
    reaped := true
    joinable := false }).release slot

def freeSlot (ledger : Ledger) : Option Slot :=
  (List.finRange 4).find? fun slot => !(ledger.flags slot).inUse

end Ledger

theorem Ledger.set_same {ledger : Ledger} {slot : Slot} {flags : Flags}
    (same : flags = ledger.flags slot) : ledger.set slot flags = ledger := by
  unfold Ledger.set
  rw [same, Function.update_eq_self]

namespace World

variable {world : World} {slot : Slot}

theorem ledger_put (world : World) (slot : Slot) (worker : Worker) :
    (world.put slot worker).ledger = world.ledger.set slot worker.flags := by
  unfold World.ledger World.put Ledger.set
  congr 1
  funext other
  dsimp only
  by_cases same : other = slot
  · subst same
    rw [Function.update_self, Function.update_self]
  · rw [Function.update_of_ne same, Function.update_of_ne same]

theorem ledger_put_same (world : World) (slot : Slot) (worker : Worker)
    (same : worker.flags = (world.workers slot).flags) :
    (world.put slot worker).ledger = world.ledger := by
  rw [ledger_put]
  exact Ledger.set_same same

theorem ledger_putArgv (world : World) (slot : Slot) (argv : List String) :
    (world.put slot { world.workers slot with argv }).ledger = world.ledger :=
  world.ledger_put_same slot _ rfl

/-! What workers do beside the launcher is not in the ledger. -/

theorem ledger_closeStdio (world : World) (slot : Slot) (fd : Stdio) :
    (world.closeStdio slot fd).ledger = world.ledger := by
  unfold closeStdio
  dsimp only
  split
  next unmapped => rfl
  next number mapped =>
    exact world.ledger_put_same slot
      { world.workers slot with fdMap := Function.update (world.workers slot).fdMap fd none } rfl

theorem ledger_foldl {Event : Type} {step : World → Event → World}
    (kept : ∀ world event, (step world event).ledger = world.ledger) (events : List Event)
    (world : World) : (events.foldl step world).ledger = world.ledger := by
  induction events generalizing world with
  | nil => rfl
  | cons event rest inductionHypothesis =>
      rw [List.foldl_cons, inductionHypothesis, kept]

theorem ledger_closeMap (world : World) (slot : Slot) :
    (world.closeMap slot).ledger = world.ledger :=
  ledger_foldl (fun world fd => world.ledger_closeStdio slot fd) _ world

theorem ledger_exitWorker (world : World) (slot : Slot) :
    (world.exitWorker slot).ledger = world.ledger := by
  rw [← world.ledger_closeMap slot]
  exact (world.closeMap slot).ledger_put_same slot _ rfl

theorem ledger_event (world : World) (event : WorkerEvent) :
    (world.event event).ledger = world.ledger := by
  cases event with
  | close slot fd =>
      unfold World.event
      dsimp only
      split
      · exact world.ledger_closeStdio slot fd
      · rfl
  | exit slot =>
      unfold World.event
      dsimp only
      split
      · exact world.ledger_exitWorker slot
      · rfl

@[simp] theorem ledger_settle (world : World) : world.settle.ledger = world.ledger :=
  ledger_foldl ledger_event _ world

theorem ledger_awaitWorker (world : World) (slot : Slot) :
    (world.awaitWorker slot).ledger = world.ledger := by
  unfold awaitWorker
  split
  · exact world.ledger_exitWorker slot
  · rfl

theorem freeSlot_settle (world : World) : world.settle.freeSlot = world.ledger.freeSlot := by
  have same : world.settle.ledger.freeSlot = world.ledger.freeSlot := by rw [ledger_settle]
  exact same

/-! The launcher's operations on the ledger. -/

theorem taskStaticAllocate_none (full : world.ledger.freeSlot = none) :
    world.taskStaticAllocate = (world.settle, none) := by
  unfold taskStaticAllocate
  dsimp only
  rw [freeSlot_settle, full]

theorem taskStaticAllocate_some (free : world.ledger.freeSlot = some slot) :
    ∃ after, world.taskStaticAllocate = (after, some slot) ∧
      after.ledger = world.ledger.allocate slot := by
  unfold taskStaticAllocate
  dsimp only
  rw [freeSlot_settle, free]
  refine ⟨_, rfl, ?_⟩
  have put := world.settle.ledger_put slot (allocated (world.settle.workers slot))
  rw [ledger_settle] at put
  have current := congrArg Ledger.current world.ledger_settle
  have log := congrArg Ledger.log world.ledger_settle
  unfold Ledger.allocate
  rw [← current, ← log]
  exact congrArg (fun ledger : Ledger => { ledger with
    current := (world.settle.ledger.current + 1) % 2 ^ 32
    log := world.settle.ledger.log ++ [SlotEvent.allocate slot] }) put

theorem ledger_taskStaticRelease (world : World) (slot : Slot) :
    (world.taskStaticRelease slot).ledger = world.ledger.release slot := by
  have settled : (world.settle.closeMap slot).ledger = world.ledger := by
    rw [ledger_closeMap, ledger_settle]
  rw [← settled]
  unfold taskStaticRelease Ledger.release
  dsimp only
  have put := (world.settle.closeMap slot).ledger_put slot
    { (world.settle.closeMap slot).workers slot with inUse := false }
  exact congrArg (fun ledger : Ledger => { ledger with
    current := ((world.settle.closeMap slot).current + 2 ^ 32 - 1) % 2 ^ 32
    log := (world.settle.closeMap slot).slotLog ++ [SlotEvent.release slot] }) put

theorem ledger_dup (world : World) (slot : Slot) (fd : Stdio) (source : Nat) :
    (world.dup slot fd source).ledger = world.ledger :=
  world.ledger_put_same slot { world.workers slot with
    fdMap := Function.update (world.workers slot).fdMap fd (some world.files.next) } rfl

theorem ledger_dupStdio (source : Stdio → Nat) (answers : StartAnswers) (fds : List Stdio)
    (world : World) : (world.dupStdio slot source answers fds).1.ledger = world.ledger := by
  induction fds generalizing world with
  | nil => rfl
  | cons fd rest inductionHypothesis =>
      unfold dupStdio
      split
      · exact world.ledger_settle
      · rw [inductionHypothesis, ledger_dup, ledger_settle]

theorem ledger_threadCreate (world : World) (slot : Slot) (answers : StartAnswers) :
    (world.threadCreate slot answers).ledger = world.ledger.create slot answers.thread :=
  world.ledger_put slot _

end World

/-- The stage's arguments fit, its command is known, its descriptors are duplicated
and its thread is created. -/
structure Starts (argv : List String) (answers : StartAnswers) : Prop where
  fits : 0 ≤ taskStaticCopyArgv argv
  known : taskStaticCommandAllowed (argv.headD "") = true
  dups : ∀ fd, 0 ≤ answers.dup fd
  thread : answers.thread ≠ 0

namespace World

variable {world : World} {slot : Slot}

theorem dupStdio_result {answers : StartAnswers} (source : Stdio → Nat) (fds : List Stdio)
    (world : World) : (world.dupStdio slot source answers fds).2 < 0 ↔
      ∃ fd ∈ fds, answers.dup fd < 0 := by
  induction fds generalizing world with
  | nil => simp [dupStdio]
  | cons fd rest inductionHypothesis =>
      unfold dupStdio
      split
      next failed => simp [failed]
      next passed => rw [inductionHypothesis]; simp [passed]

theorem dupStdio_passes {answers : StartAnswers} (world : World) (slot : Slot)
    (source : Stdio → Nat) (dups : ∀ fd, 0 ≤ answers.dup fd) :
    ¬ (world.dupStdio slot source answers (List.finRange 3)).2 < 0 := by
  rw [dupStdio_result]
  rintro ⟨fd, -, failed⟩
  exact absurd (dups fd) (Int.not_le.mpr failed)

theorem dups_of_passed {answers : StartAnswers} {source : Stdio → Nat}
    (passed : ¬ (world.dupStdio slot source answers (List.finRange 3)).2 < 0) (fd : Stdio) :
    0 ≤ answers.dup fd := by
  rw [dupStdio_result] at passed
  by_contra negative
  exact passed ⟨fd, List.mem_finRange fd, Int.not_le.mp negative⟩

/-- A start either creates the worker's thread or releases the slot. -/
theorem taskStaticStart_starts {argv : List String} {answers : StartAnswers} (world : World)
    (slot : Slot) (source : Stdio → Nat) (starts : Starts argv answers) :
    ∃ after, world.taskStaticStart slot argv source answers = (after, pidOf answers.thread) ∧
      after.ledger = world.ledger.create slot answers.thread := by
  unfold taskStaticStart
  rw [if_neg (Int.not_lt.mpr starts.fits)]
  have known : ¬ (!taskStaticCommandAllowed (argv.headD "")) = true := by
    rw [starts.known]
    exact Bool.false_ne_true
  have passed := (world.put slot { world.workers slot with argv }).dupStdio_passes slot source
    starts.dups
  dsimp only
  rw [if_neg known, if_neg passed, if_neg starts.thread]
  refine ⟨_, rfl, ?_⟩
  rw [ledger_threadCreate, ledger_settle, ledger_dupStdio, ledger_putArgv]

theorem taskStaticStart_fails {argv : List String} {answers : StartAnswers} (world : World)
    (slot : Slot) (source : Stdio → Nat) (fails : ¬ Starts argv answers) :
    ∃ after code, world.taskStaticStart slot argv source answers = (after, code) ∧ code < 0 ∧
      after.ledger = world.ledger.release slot := by
  unfold taskStaticStart
  split
  next unfit => exact ⟨_, _, rfl, unfit, world.ledger_taskStaticRelease slot⟩
  next fits =>
    dsimp only
    split
    next unknown =>
      refine ⟨_, _, rfl, Int.neg_neg_of_pos (by decide), ?_⟩
      rw [ledger_taskStaticRelease, ledger_putArgv]
    next known =>
      split
      next failed =>
        refine ⟨_, _, rfl, failed, ?_⟩
        rw [ledger_taskStaticRelease, ledger_dupStdio, ledger_putArgv]
      next passed =>
        split
        next threadless =>
          refine ⟨_, _, rfl, Int.neg_neg_of_pos (by decide), ?_⟩
          rw [ledger_taskStaticRelease, ledger_settle, ledger_dupStdio, ledger_putArgv]
        next thread =>
          exact absurd ⟨Int.not_lt.mp fits, by simpa using known, dups_of_passed passed, thread⟩
            fails

/-- A join of a worker with an unjoined thread releases its slot. -/
theorem taskStaticJoin_joins (inUse : (world.ledger.flags slot).inUse = true)
    (unreaped : (world.ledger.flags slot).reaped = false)
    (joinable : (world.ledger.flags slot).joinable = true) :
    (world.taskStaticJoin slot).1.ledger = world.ledger.join slot ∧
      0 ≤ (world.taskStaticJoin slot).2 := by
  rw [← world.ledger_settle] at inUse unreaped joinable
  have used : (world.settle.workers slot).inUse = true := inUse
  have fresh : (world.settle.workers slot).reaped = false := unreaped
  have thread : (world.settle.workers slot).joinable = true := joinable
  unfold taskStaticJoin
  dsimp only
  rw [used, fresh, thread, if_neg (by decide), if_neg (by decide)]
  refine ⟨?_, Int.natCast_nonneg _⟩
  rw [ledger_taskStaticRelease, ledger_put]
  have awaited := ledger_awaitWorker
    { world.settle with joins := world.settle.joins ++ [world.settle.files] } slot
  have kept : ({ world.settle with
      joins := world.settle.joins ++ [world.settle.files] } : World).ledger = world.ledger :=
    world.ledger_settle
  unfold Ledger.join
  rw [← kept, ← awaited]
  rfl

end World

/-- What an event does to a slot; a slot is allocated when it is free and released
when it is held. -/
def occupy (slot : Slot) (held : Bool) : SlotEvent → Option Bool
  | .allocate other => if other = slot then if held then none else some true else some held
  | .release other => if other = slot then if held then some false else none else some held

namespace Ledger

variable {ledger : Ledger} {slot : Slot}

def used (ledger : Ledger) : Finset Slot :=
  Finset.univ.filter fun slot => (ledger.flags slot).inUse = true

/-- Each release follows the allocation it belongs to, and the counter is the number
of slots in use. -/
structure Balanced (ledger : Ledger) : Prop where
  matched : ∀ slot, ledger.log.foldlM (occupy slot) false = some (ledger.flags slot).inUse
  counted : ledger.current = ledger.used.card

theorem mem_used : slot ∈ ledger.used ↔ (ledger.flags slot).inUse = true := by
  simp [used]

theorem card_used_le (ledger : Ledger) : ledger.used.card ≤ 4 :=
  (Finset.card_le_univ _).trans (Fintype.card_fin 4).le

@[simp] theorem set_flags_self (flags : Flags) : (ledger.set slot flags).flags slot = flags :=
  Function.update_self ..

theorem set_flags_of_ne {other : Slot} (different : other ≠ slot) (flags : Flags) :
    (ledger.set slot flags).flags other = ledger.flags other :=
  Function.update_of_ne different ..

@[simp] theorem allocate_flags_self :
    (ledger.allocate slot).flags slot = ⟨true, false, false, false, 0⟩ :=
  set_flags_self _

theorem allocate_flags_of_ne {other : Slot} (different : other ≠ slot) :
    (ledger.allocate slot).flags other = ledger.flags other :=
  set_flags_of_ne different _

@[simp] theorem release_flags_self :
    (ledger.release slot).flags slot = { ledger.flags slot with inUse := false } := by
  unfold release
  dsimp only
  rw [set_flags_self]

theorem release_flags_of_ne {other : Slot} (different : other ≠ slot) :
    (ledger.release slot).flags other = ledger.flags other := by
  unfold release
  dsimp only
  rw [set_flags_of_ne different]

theorem used_set_same {flags : Flags} (same : flags.inUse = (ledger.flags slot).inUse) :
    (ledger.set slot flags).used = ledger.used := by
  ext other
  rw [mem_used, mem_used]
  by_cases isSlot : other = slot
  · subst isSlot
    rw [set_flags_self, same]
  · rw [set_flags_of_ne isSlot]

theorem Balanced.set_same {flags : Flags} (balanced : ledger.Balanced)
    (same : flags.inUse = (ledger.flags slot).inUse) : (ledger.set slot flags).Balanced := by
  refine ⟨fun other => ?_, ?_⟩
  · rw [show (ledger.set slot flags).log = ledger.log from rfl, balanced.matched]
    by_cases isSlot : other = slot
    · subst isSlot
      rw [set_flags_self, same]
    · rw [set_flags_of_ne isSlot]
  · rw [used_set_same same]
    exact balanced.counted

theorem used_allocate : (ledger.allocate slot).used = insert slot ledger.used := by
  ext other
  rw [Finset.mem_insert, mem_used, mem_used]
  by_cases isSlot : other = slot
  · simp [isSlot]
  · simp [isSlot, allocate_flags_of_ne isSlot]

theorem Balanced.allocate (balanced : ledger.Balanced)
    (free : (ledger.flags slot).inUse = false) : (ledger.allocate slot).Balanced := by
  refine ⟨fun other => ?_, ?_⟩
  · rw [show (ledger.allocate slot).log = ledger.log ++ [.allocate slot] from rfl,
      List.foldlM_append, balanced.matched]
    by_cases isSlot : other = slot
    · subst isSlot
      simp [occupy, free]
    · simp [occupy, Ne.symm isSlot, allocate_flags_of_ne isSlot]
  · have absent : slot ∉ ledger.used := by rw [mem_used, free]; exact Bool.false_ne_true
    have bound := (ledger.allocate slot).card_used_le
    rw [used_allocate, Finset.card_insert_of_notMem absent] at bound ⊢
    rw [show (ledger.allocate slot).current = (ledger.current + 1) % 2 ^ 32 from rfl,
      balanced.counted]
    exact Nat.mod_eq_of_lt (by omega)

theorem Balanced.release (balanced : ledger.Balanced)
    (held : (ledger.flags slot).inUse = true) : (ledger.release slot).Balanced := by
  refine ⟨fun other => ?_, ?_⟩
  · rw [show (ledger.release slot).log = ledger.log ++ [.release slot] from rfl,
      List.foldlM_append, balanced.matched]
    by_cases isSlot : other = slot
    · subst isSlot
      simp [occupy, held]
    · simp [occupy, Ne.symm isSlot, release_flags_of_ne isSlot]
  · have erased : (ledger.release slot).used = ledger.used.erase slot := by
      ext other
      rw [Finset.mem_erase, mem_used, mem_used]
      by_cases isSlot : other = slot
      · simp [isSlot]
      · simp [isSlot, release_flags_of_ne isSlot]
    have present : slot ∈ ledger.used := mem_used.mpr held
    have positive := Finset.card_pos.mpr ⟨slot, present⟩
    have bound := ledger.card_used_le
    rw [erased, Finset.card_erase_of_mem present]
    rw [show (ledger.release slot).current = (ledger.current + 2 ^ 32 - 1) % 2 ^ 32 from rfl,
      balanced.counted]
    omega

/-- The slots in the middle of a call: every slot in use has a thread to be joined,
and the launched workers are among them. -/
structure Standing (ledger : Ledger) (launched : List Slot) : Prop where
  waiting : ∀ slot, (ledger.flags slot).inUse = true →
    (ledger.flags slot).reaped = false ∧ (ledger.flags slot).joinable = true
  running : ∀ slot ∈ launched, (ledger.flags slot).inUse = true ∧ (ledger.flags slot).tid ≠ 0
  nodup : launched.Nodup

/-- The accounts in the middle of a call: a slot in use belongs to a background worker
or to a worker the call launched. -/
structure Accounted (ledger : Ledger) (launched : List Slot) : Prop where
  balanced : ledger.Balanced
  standing : ledger.Standing launched
  belongs : ∀ slot, (ledger.flags slot).inUse = true →
    (ledger.flags slot).background = true ∨ slot ∈ launched

variable {launched : List Slot}

theorem freeSlot_free (found : ledger.freeSlot = some slot) :
    (ledger.flags slot).inUse = false := by
  simpa using List.find?_some found

theorem freeSlot_full (full : ledger.freeSlot = none) : ledger.used.card = 4 := by
  have all : ledger.used = Finset.univ := by
    ext slot
    have used := List.find?_eq_none.mp full slot (List.mem_finRange slot)
    simpa [mem_used] using used
  rw [all]
  rfl

theorem card_used_lt (found : ledger.freeSlot = some slot) : ledger.used.card < 4 := by
  have absent : slot ∉ ledger.used := by
    rw [mem_used, freeSlot_free found]
    exact Bool.false_ne_true
  have strict : ledger.used ⊂ Finset.univ :=
    Finset.ssubset_univ_iff.mpr fun all => absent (all ▸ Finset.mem_univ slot)
  exact Finset.card_lt_card strict

theorem card_used_launch {tid : Nat} (free : (ledger.flags slot).inUse = false) :
    ((ledger.allocate slot).create slot tid).used.card = ledger.used.card + 1 := by
  have absent : slot ∉ ledger.used := by
    rw [mem_used, free]
    exact Bool.false_ne_true
  have created : ((ledger.allocate slot).create slot tid).used = (ledger.allocate slot).used :=
    used_set_same rfl
  rw [created, used_allocate, Finset.card_insert_of_notMem absent]

/-! The steps of a call, first on the flags and then on the accounts. -/

theorem launch_flags_self {tid : Nat} : ((ledger.allocate slot).create slot tid).flags slot =
    ⟨true, false, true, false, tid⟩ := by
  rw [create, set_flags_self, allocate_flags_self]

theorem launch_flags_of_ne {tid : Nat} {other : Slot} (different : other ≠ slot) :
    ((ledger.allocate slot).create slot tid).flags other = ledger.flags other :=
  (set_flags_of_ne different _).trans (allocate_flags_of_ne different)

theorem join_flags_self : ((ledger.join slot).flags slot).inUse = false := by
  rw [join, release_flags_self]

theorem join_flags_of_ne {other : Slot} (different : other ≠ slot) :
    (ledger.join slot).flags other = ledger.flags other :=
  (release_flags_of_ne different).trans (set_flags_of_ne different _)

/-- A slot that was free is not among the launched ones. -/
theorem Standing.notMem (standing : ledger.Standing launched)
    (free : (ledger.flags slot).inUse = false) : slot ∉ launched := by
  intro member
  exact Bool.false_ne_true (free.symm.trans (standing.running slot member).1)

theorem Standing.launch {tid : Nat} (standing : ledger.Standing launched)
    (free : (ledger.flags slot).inUse = false) (thread : tid ≠ 0) :
    ((ledger.allocate slot).create slot tid).Standing (launched ++ [slot]) := by
  refine ⟨fun other used => ?_, fun other member => ?_, ?_⟩
  · by_cases isSlot : other = slot
    · subst isSlot
      rw [launch_flags_self]
      exact ⟨rfl, rfl⟩
    · rw [launch_flags_of_ne isSlot] at used ⊢
      exact standing.waiting other used
  · by_cases isSlot : other = slot
    · subst isSlot
      rw [launch_flags_self]
      exact ⟨rfl, thread⟩
    · rw [launch_flags_of_ne isSlot]
      exact standing.running other ((List.mem_append.mp member).resolve_right fun last =>
        isSlot (List.mem_singleton.mp last))
  · refine List.nodup_append.mpr ⟨standing.nodup, List.nodup_singleton _, ?_⟩
    rintro other member last isLast rfl
    exact standing.notMem free (List.mem_singleton.mp isLast ▸ member)

/-- A slot that no launched worker has can be released at any time. -/
theorem Standing.release (standing : ledger.Standing launched) (apart : slot ∉ launched) :
    (ledger.release slot).Standing launched := by
  refine ⟨fun other used => ?_, fun other member => ?_, standing.nodup⟩
  · by_cases isSlot : other = slot
    · subst isSlot
      rw [release_flags_self] at used
      cases used
    · rw [release_flags_of_ne isSlot] at used ⊢
      exact standing.waiting other used
  · have isOther : other ≠ slot := fun same => apart (same ▸ member)
    rw [release_flags_of_ne isOther]
    exact standing.running other member

/-- A start that fails releases the slot it was given. -/
theorem Standing.refuse (standing : ledger.Standing launched)
    (free : (ledger.flags slot).inUse = false) :
    ((ledger.allocate slot).release slot).Standing launched := by
  have apart := standing.notMem free
  refine ⟨fun other used => ?_, fun other member => ?_, standing.nodup⟩
  · by_cases isSlot : other = slot
    · subst isSlot
      rw [release_flags_self] at used
      cases used
    · rw [release_flags_of_ne isSlot, allocate_flags_of_ne isSlot] at used ⊢
      exact standing.waiting other used
  · have isOther : other ≠ slot := fun same => apart (same ▸ member)
    rw [release_flags_of_ne isOther, allocate_flags_of_ne isOther]
    exact standing.running other member

theorem Standing.join (standing : ledger.Standing launched) (slot : Slot) :
    (ledger.join slot).Standing (launched.erase slot) := by
  refine ⟨fun other used => ?_, fun other member => ?_, standing.nodup.erase slot⟩
  · by_cases isSlot : other = slot
    · subst isSlot
      exact absurd (join_flags_self.symm.trans used) Bool.false_ne_true
    · rw [join_flags_of_ne isSlot] at used ⊢
      exact standing.waiting other used
  · have isOther : other ≠ slot := fun same => standing.nodup.not_mem_erase (same ▸ member)
    rw [join_flags_of_ne isOther]
    exact standing.running other (List.mem_of_mem_erase member)

theorem Accounted.launch {tid : Nat} (accounted : ledger.Accounted launched)
    (free : (ledger.flags slot).inUse = false) (thread : tid ≠ 0) :
    ((ledger.allocate slot).create slot tid).Accounted (launched ++ [slot]) := by
  refine ⟨?_, accounted.standing.launch free thread, fun other used => ?_⟩
  · exact (accounted.balanced.allocate free).set_same rfl
  · by_cases isSlot : other = slot
    · exact .inr (List.mem_append_right _ (List.mem_singleton.mpr isSlot))
    · rw [launch_flags_of_ne isSlot] at used ⊢
      exact (accounted.belongs other used).imp_right (List.mem_append_left _)

theorem Accounted.refuse (accounted : ledger.Accounted launched)
    (free : (ledger.flags slot).inUse = false) :
    ((ledger.allocate slot).release slot).Accounted launched := by
  refine ⟨?_, accounted.standing.refuse free, fun other used => ?_⟩
  · exact (accounted.balanced.allocate free).release (by rw [allocate_flags_self])
  · by_cases isSlot : other = slot
    · subst isSlot
      rw [release_flags_self] at used
      cases used
    · rw [release_flags_of_ne isSlot, allocate_flags_of_ne isSlot] at used ⊢
      exact accounted.belongs other used

theorem Accounted.join (accounted : ledger.Accounted launched)
    (used : (ledger.flags slot).inUse = true) :
    (ledger.join slot).Accounted (launched.erase slot) := by
  refine ⟨?_, accounted.standing.join slot, fun other still => ?_⟩
  · have marked : (ledger.set slot { ledger.flags slot with
        reaped := true
        joinable := false }).Balanced := accounted.balanced.set_same rfl
    exact marked.release (by rw [set_flags_self]; exact used)
  · by_cases isSlot : other = slot
    · subst isSlot
      exact absurd (join_flags_self.symm.trans still) Bool.false_ne_true
    · rw [join_flags_of_ne isSlot] at still ⊢
      exact (accounted.belongs other still).imp_right (List.mem_erase_of_ne isSlot).mpr

/-- The worker a spawn launched stays behind as a background worker. -/
theorem Standing.leave (standing : ledger.Standing launched) :
    (ledger.set slot { ledger.flags slot with background := true }).Standing [] := by
  refine ⟨fun other used => ?_, nofun, List.nodup_nil⟩
  by_cases isSlot : other = slot
  · subst isSlot
    rw [set_flags_self] at used ⊢
    exact standing.waiting other used
  · rw [set_flags_of_ne isSlot] at used ⊢
    exact standing.waiting other used

theorem Accounted.leave (accounted : ledger.Accounted [slot]) :
    (ledger.set slot { ledger.flags slot with background := true }).Accounted [] := by
  refine ⟨accounted.balanced.set_same rfl, accounted.standing.leave, fun other used => .inl ?_⟩
  by_cases isSlot : other = slot
  · rw [isSlot, set_flags_self]
  · rw [set_flags_of_ne isSlot] at used ⊢
    exact (accounted.belongs other used).resolve_right fun member =>
      isSlot (List.mem_singleton.mp member)

end Ledger

namespace World

variable {world : World} {slot : Slot} {launched : List Slot}

theorem accounted_join (accounted : world.ledger.Accounted launched)
    (used : (world.ledger.flags slot).inUse = true) :
    (world.taskStaticJoin slot).1.ledger.Accounted (launched.erase slot) := by
  obtain ⟨unreaped, joinable⟩ := accounted.standing.waiting slot used
  rw [(taskStaticJoin_joins used unreaped joinable).1]
  exact accounted.join used

theorem accounted_joinStages (slots : List Slot) (status : Int) (world : World)
    (accounted : world.ledger.Accounted slots) :
    (world.joinStages slots status).1.ledger.Accounted [] := by
  induction slots generalizing world status with
  | nil => exact accounted
  | cons slot rest inductionHypothesis =>
      have used := (accounted.standing.running slot List.mem_cons_self).1
      have joined := accounted_join accounted used
      rw [List.erase_cons_head] at joined
      exact inductionHypothesis _ _ joined

/-- Every launched worker has a thread, so the loop at `fail_workers` joins it. -/
theorem accounted_failWorkers (slots : List Slot) (world : World)
    (accounted : world.ledger.Accounted slots) :
    (world.failWorkers slots).ledger.Accounted [] := by
  induction slots generalizing world with
  | nil => exact accounted
  | cons slot rest inductionHypothesis =>
      obtain ⟨used, thread⟩ := accounted.standing.running slot List.mem_cons_self
      have joined := accounted_join accounted used
      rw [List.erase_cons_head] at joined
      refine inductionHypothesis _ ?_
      have threaded : (world.workers slot).tid ≠ 0 := thread
      unfold failWorker
      rw [if_pos threaded]
      exact joined

theorem ledger_closeEnd (world : World) (number : Nat) :
    (world.closeEnd number).ledger = world.ledger :=
  world.ledger_settle

theorem ledger_closePipes (world : World) (made : List PipeEnds) :
    (world.closePipes made).ledger = world.ledger := by
  refine ledger_foldl (fun world ends => ?_) made world
  rw [ledger_closeEnd, ledger_closeEnd]

theorem ledger_makePipes (call : PipelineCall) (indices : List Nat) (made : List PipeEnds)
    (world : World) : (world.makePipes call indices made).1.ledger = world.ledger := by
  induction indices generalizing world made with
  | nil => rfl
  | cons index rest inductionHypothesis =>
      have piped : world.settle.pipe2.1.ledger = world.ledger := world.ledger_settle
      unfold makePipes
      split
      · exact world.ledger_settle
      · dsimp only
        split
        · rw [ledger_settle, piped]
        · rw [inductionHypothesis, ledger_settle, piped]

/-- A launch in which every stage that gets a slot starts. -/
theorem accounted_startStages (call : PipelineCall) (made : List PipeEnds) (stages : List Nat)
    (world : World) (slots : List Slot) (accounted : world.ledger.Accounted slots)
    (starts : ∀ stage ∈ stages.take (4 - world.ledger.used.card),
      Starts (call.argv stage) (call.start stage)) :
    (world.startStages call made stages slots).1.ledger.Accounted
      (world.startStages call made stages slots).2.1 := by
  induction stages generalizing world slots with
  | nil => exact accounted
  | cons stage rest inductionHypothesis =>
      unfold startStages
      cases found : world.ledger.freeSlot with
      | none =>
          rw [taskStaticAllocate_none found]
          dsimp only
          rw [ledger_settle]
          exact accounted
      | some slot =>
          have free := Ledger.freeSlot_free found
          have room := Ledger.card_used_lt found
          have budget : 4 - world.ledger.used.card = 4 - (world.ledger.used.card + 1) + 1 := by
            omega
          rw [budget, List.take_succ_cons] at starts
          have stageStarts := starts stage List.mem_cons_self
          obtain ⟨held, allocated, heldLedger⟩ := taskStaticAllocate_some found
          obtain ⟨started, start, startedLedger⟩ := taskStaticStart_starts held slot
            (stageSource call.stages made stage) stageStarts
          rw [heldLedger] at startedLedger
          have launched : started.ledger.Accounted (slots ++ [slot]) := by
            rw [startedLedger]
            exact accounted.launch free stageStarts.thread
          rw [allocated]
          dsimp only
          rw [start]
          dsimp only
          split
          next negative => exact launched
          next positive =>
            refine inductionHypothesis started _ launched fun other member => ?_
            rw [startedLedger, Ledger.card_used_launch free] at member
            exact starts other (List.mem_cons_of_mem _ member)

end World

/-- Every pipe of the pipeline is made and holds a chunk. -/
def PipelineCall.PipesMade (call : PipelineCall) : Prop :=
  ∀ index < call.stages - 1, 0 ≤ (call.pipe index).result ∧
    lunaStdioIoChunk ≤ (call.pipe index).capacity

/-- No stage of a pipeline that gets a slot fails to start, and a thread of a single
command is not mistaken for an error. -/
def StagesStart (world : World) : Call → Prop
  | .runStatic _ answers => 0 ≤ World.pidOf answers.thread
  | .spawnStatic _ answers => answers.thread = 0 ∨ 0 < World.pidOf answers.thread
  | .runPipeline call => call.InRange → call.Allowed → call.PipesMade →
      ∀ stage < call.stages, stage < 4 - world.ledger.used.card →
        Starts (call.argv stage) (call.start stage)
  | _ => True

namespace World

variable {world : World}

theorem makePipes_made {call : PipelineCall} (indices : List Nat) (made : List PipeEnds)
    (world : World) : (world.makePipes call indices made).2.2 = true ↔
      ∀ index ∈ indices, 0 ≤ (call.pipe index).result ∧
        lunaStdioIoChunk ≤ (call.pipe index).capacity := by
  induction indices generalizing world made with
  | nil => simp [makePipes]
  | cons index rest inductionHypothesis =>
      unfold makePipes
      split
      next failed => simp [failed]
      next passed =>
        dsimp only
        split
        next small => simp [small]
        next enough =>
          rw [inductionHypothesis]
          simp [Int.not_lt.mp passed, Int.not_lt.mp enough]

theorem pipesMade_iff (world : World) (call : PipelineCall) :
    (world.makePipes call (List.range (call.stages - 1)) []).2.2 = true ↔ call.PipesMade := by
  rw [makePipes_made]
  simp [PipelineCall.PipesMade]

theorem accounted_pipeline {call : PipelineCall} (accounted : world.ledger.Accounted [])
    (clean : StagesStart world (.runPipeline call)) :
    (world.lunaBbRunPipeline call).1.ledger.Accounted [] := by
  unfold lunaBbRunPipeline
  split
  next outside => exact accounted
  next inRange =>
    split
    next refused => exact accounted
    next allowed =>
      have piped := world.ledger_makePipes call (List.range (call.stages - 1)) []
      have made := world.pipesMade_iff call
      split
      next piping ends failed =>
        rw [failed] at piped
        rw [ledger_closePipes, piped]
        exact accounted
      next piping ends succeeded =>
        rw [succeeded] at piped made
        have launching : piping.ledger.Accounted [] := by
          rw [piped]
          exact accounted
        have launched := accounted_startStages call ends (List.range call.stages) piping []
          launching fun stage member => by
            rw [piped] at member
            obtain ⟨index, bound, rfl⟩ := List.mem_take_iff_getElem.mp member
            rw [List.length_range] at bound
            rw [List.getElem_range]
            exact clean (not_not.mp inRange) (not_not.mp allowed) (made.mp rfl) index
              (by omega) (by omega)
        split
        next started slots failed =>
          rw [failed] at launched
          rw [ledger_closePipes]
          exact accounted_failWorkers slots started launched
        next started slots succeeded =>
          rw [succeeded] at launched
          refine accounted_joinStages slots 0 _ ?_
          rw [ledger_closePipes]
          exact launched

/-- A single command is started and joined, or its slot is released. -/
theorem accounted_runStatic {argv : List String} {answers : StartAnswers}
    (accounted : world.ledger.Accounted []) (positive : 0 ≤ pidOf answers.thread) :
    (world.lunaBbRunStatic argv answers).1.ledger.Accounted [] := by
  unfold lunaBbRunStatic
  cases found : world.ledger.freeSlot with
  | none =>
      rw [taskStaticAllocate_none found]
      dsimp only
      rw [ledger_settle]
      exact accounted
  | some slot =>
      have free := Ledger.freeSlot_free found
      obtain ⟨held, allocated, heldLedger⟩ := taskStaticAllocate_some found
      rw [allocated]
      dsimp only
      by_cases starts : Starts argv answers
      · obtain ⟨started, start, startedLedger⟩ :=
          taskStaticStart_starts held slot launcherStdio starts
        rw [start]
        dsimp only
        rw [if_neg (Int.not_lt.mpr positive)]
        rw [heldLedger] at startedLedger
        have launched := accounted.launch free starts.thread
        rw [← startedLedger] at launched
        have joined := accounted_join launched
          (launched.standing.running slot (List.mem_singleton_self slot)).1
        rw [List.nil_append, List.erase_cons_head] at joined
        exact joined
      · obtain ⟨refused, code, start, negative, refusedLedger⟩ :=
          taskStaticStart_fails held slot launcherStdio starts
        rw [start]
        dsimp only
        rw [if_pos negative, refusedLedger, heldLedger]
        exact accounted.refuse free

theorem accounted_spawnStatic {argv : List String} {answers : StartAnswers}
    (accounted : world.ledger.Accounted [])
    (positive : answers.thread = 0 ∨ 0 < pidOf answers.thread) :
    (world.lunaBbSpawnStatic argv answers).1.ledger.Accounted [] := by
  unfold lunaBbSpawnStatic
  cases found : world.ledger.freeSlot with
  | none =>
      rw [taskStaticAllocate_none found]
      dsimp only
      rw [ledger_settle]
      exact accounted
  | some slot =>
      have free := Ledger.freeSlot_free found
      obtain ⟨held, allocated, heldLedger⟩ := taskStaticAllocate_some found
      rw [allocated]
      dsimp only
      by_cases starts : Starts argv answers
      · obtain ⟨started, start, startedLedger⟩ :=
          taskStaticStart_starts held slot launcherStdio starts
        rw [start]
        dsimp only
        rw [if_pos (positive.resolve_left starts.thread)]
        rw [heldLedger] at startedLedger
        have launched := accounted.launch free starts.thread
        rw [← startedLedger] at launched
        rw [ledger_put]
        exact launched.leave
      · obtain ⟨refused, code, start, negative, refusedLedger⟩ :=
          taskStaticStart_fails held slot launcherStdio starts
        rw [start]
        dsimp only
        rw [if_neg (Int.not_lt.mpr (Int.le_of_lt negative)), refusedLedger, heldLedger]
        exact accounted.refuse free

theorem accounted_waitpid (pid : Int) (nohang : Bool) (accounted : world.ledger.Accounted []) :
    (world.lunaBbWaitpid pid nohang).1.ledger.Accounted [] := by
  have settled : world.settle.ledger.Accounted [] := by
    rw [ledger_settle]
    exact accounted
  unfold lunaBbWaitpid
  dsimp only
  split
  next slot found =>
    have selected := List.find?_some found
    have waited := (Bool.and_eq_true_iff.mp selected).1
    have joined := accounted_join settled (of_decide_eq_true waited).1
    split <;> exact joined
  next nobody =>
    split
    · exact settled
    · split <;> exact settled

theorem accounted_perform {call : Call} (accounted : world.ledger.Accounted [])
    (clean : StagesStart world call) : (world.perform call).ledger.Accounted [] := by
  cases call with
  | runStatic argv answers => exact accounted_runStatic accounted clean
  | spawnStatic argv answers => exact accounted_spawnStatic accounted clean
  | runPipeline call => exact accounted_pipeline accounted clean
  | waitpid pid nohang => exact accounted_waitpid pid nohang accounted
  | openOther =>
      have kept : (world.perform .openOther).ledger = world.ledger := world.ledger_settle
      rw [kept]
      exact accounted
  | closeOther number =>
      have kept : (world.perform (.closeOther number)).ledger = world.ledger := by
        rw [← world.ledger_settle]
        unfold perform closeOther
        dsimp only
        split <;> rfl
      rw [kept]
      exact accounted

end World

/-- The accounts between two calls. -/
structure SlotsExact (world : World) : Prop where
  matched : ∀ slot, world.slotLog.foldlM (occupy slot) false = some (world.workers slot).inUse
  counted : world.current =
    (Finset.univ.filter fun slot => (world.workers slot).inUse = true).card
  bounded : world.current ≤ 4
  waiting : ∀ slot, (world.workers slot).inUse = true → (world.workers slot).background = true ∧
    (world.workers slot).joinable = true ∧ (world.workers slot).reaped = false

theorem Ledger.Accounted.exact {world : World} (accounted : world.ledger.Accounted []) :
    SlotsExact world := by
  refine ⟨accounted.balanced.matched, accounted.balanced.counted, ?_, fun slot used => ?_⟩
  · exact accounted.balanced.counted.trans_le world.ledger.card_used_le
  · obtain ⟨unreaped, joinable⟩ := accounted.standing.waiting slot used
    exact ⟨(accounted.belongs slot used).resolve_right List.not_mem_nil, joinable, unreaped⟩

theorem Booted.accounted {world : World} (booted : Booted world) :
    world.ledger.Accounted [] := by
  have unused : ∀ slot, (world.ledger.flags slot).inUse = false := by
    intro slot
    rw [World.ledger, booted.workers]
    rfl
  have none : ∀ slot, (world.ledger.flags slot).inUse ≠ true := by
    intro slot
    rw [unused]
    exact Bool.false_ne_true
  refine ⟨⟨fun slot => ?_, ?_⟩, ⟨fun slot used => absurd used (none slot), nofun, List.nodup_nil⟩,
    fun slot used => absurd used (none slot)⟩
  · rw [unused, World.ledger, booted.slotLog]
    rfl
  · rw [World.ledger, booted.current]
    exact (Finset.card_eq_zero.mpr (Finset.filter_false_of_mem fun slot _ used => by
      rw [booted.workers] at used
      cases used)).symm

/-- Static worker slots are accounted exactly over every sequence of calls in which
each stage that gets a slot starts. -/
theorem slots_exact_of_stagesStart {world : World}
    (reached : system.Reach StagesStart world) : SlotsExact world := by
  have accounted : world.ledger.Accounted [] := by
    refine System.Reach.invariant (fun world => world.ledger.Accounted []) ?_ ?_ reached
    · intro world booted
      exact booted.accounted
    · intro world call target accounted clean performed
      cases performed
      exact World.accounted_perform accounted clean
  exact accounted.exact

/-- A shell with its three standard descriptors. -/
def bootWorld : World where
  workers := fun _ => .zero
  current := 0
  files := .ofList [⟨none, .other⟩, ⟨none, .other⟩, ⟨none, .other⟩]
  pipes := 0
  schedule := fun _ => []
  clock := 0
  slotLog := []
  joins := []

theorem bootWorld_booted : Booted bootWorld := by
  have files : ∀ number file, bootWorld.files.lookup number = some file →
      file = ⟨none, .other⟩ := by
    intro number file found
    match number with
    | 0 | 1 | 2 => exact (Option.some.inj found).symm
    | number + 3 => cases found
  refine ⟨rfl, rfl, rfl, fun number file found => ?_, fun number file pipe side found piped => ?_⟩
  · rw [files number file found]
  · rw [files number file found] at piped
    cases piped

/-- Every request of a start is granted. -/
def granted (thread : Nat) : StartAnswers where
  dup := fun _ => 0
  thread := thread
  exitStatus := 0

/-- A pipeline of two commands whose pipes are made and whose requests are granted. -/
def pipelineOf (first second : List String) : PipelineCall where
  count := 2
  commands := fun stage => if stage = 0 then some first else some second
  pipe := fun _ => ⟨0, 262144⟩
  start := fun stage => granted (stage + 2)

theorem slots_exact_of_stagesStart_run :
    ∃ world, system.Reach StagesStart world ∧ world.current = 1 ∧ world.slotLog.length = 5 ∧
      SlotsExact world := by
  have spawns : StagesStart bootWorld (.spawnStatic ["sleep"] (granted 7)) := .inr (by decide)
  have booted : system.Reach StagesStart bootWorld := .init bootWorld_booted
  have spawned := System.Reach.step booted spawns rfl
  have pipes (world : World) : StagesStart world (.runPipeline (pipelineOf ["ls"] ["wc"])) := by
    intro _ _ _ stage bound _
    have stages : (pipelineOf ["ls"] ["wc"]).stages = 2 := rfl
    rw [stages] at bound
    match stage, bound with
    | 0, _ => exact ⟨by decide +kernel, by decide +kernel, fun _ => Int.le_refl 0, by decide⟩
    | 1, _ => exact ⟨by decide +kernel, by decide +kernel, fun _ => Int.le_refl 0, by decide⟩
  have piped := System.Reach.step spawned (pipes _) rfl
  exact ⟨_, piped, by decide +kernel, by decide +kernel, slots_exact_of_stagesStart piped⟩

/-- The first stage has seventeen arguments, so its start fails and its slot is
released twice. -/
theorem slots_not_exact :
    ¬ ∀ world, system.Reachable world → SlotsExact world := by
  intro all
  have slots := all (bootWorld.perform (.runPipeline
      (pipelineOf ("echo" :: List.replicate 16 "x") ["cat"])))
    (.next _ (.init bootWorld_booted) rfl)
  have wrapped : (bootWorld.perform (.runPipeline
      (pipelineOf ("echo" :: List.replicate 16 "x") ["cat"]))).current = 4294967295 := by
    decide +kernel
  have bounded := slots.bounded
  rw [wrapped] at bounded
  exact absurd bounded (by decide)

end Luna.Static
