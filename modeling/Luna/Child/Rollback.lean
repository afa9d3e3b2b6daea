import Luna.Child.Start
import Mathlib.Algebra.BigOperators.Fin

/-!
# Rolling back a failed start

The bookkeeping covers what is held: at every point of `start_child` the things
acquired and not yet released are those that `destroy_child` will find, through
the flags in the resources, the child's CSpace and its VSpace.  A thing between
two calls, a slot without a capability, is named apart until it is recorded or
given back.
-/

namespace Luna.Child

open Attempt

/-- What a table of the bookkeeping answers for, thing by thing. -/
abbrev Outstanding := Held → Nat

section Footprint

def ResourceSlot.held (slot : ResourceSlot) : List Held :=
  (if slot.threadConfigured then [.thread slot.thread] else []) ++
    (if slot.joinAllocated then [.notification slot.joinNtfn] else [])

def SyncSlot.held (slot : SyncSlot) : List Held :=
  if slot.allocated then [.notification slot.ntfn] else []

def ConsoleResource.held (console : ConsoleResource) : List Held :=
  (if console.capCreated then [.cap console.ioPortPath] else []) ++
    (if console.slotAllocated then [.slot console.ioPortPath] else [])

/-- A frame cap that was copied and not mapped. -/
def WindowMapping.held {pages : Nat} (mapping : WindowMapping pages) (page : Fin pages) :
    List Held :=
  if mapping.mappedPages ≤ page.val ∧ mapping.capAllocated page = true then
    [.cap (mapping.frameCaps page), .slot (mapping.frameCaps page)]
  else []

/-- What the teardown of the process releases. -/
def Process.held (process : Process) : List Held :=
  .process process.cspace :: process.childCaps.map .childCap ++
    process.mappedCaps.flatMap (fun handle => [.cap handle, .slot handle])

def WindowMapping.count {pages : Nat} (mapping : WindowMapping pages) : Outstanding :=
  fun held => Tally.total (List.count held) mapping.held

def Resources.slotsCount (resources : Resources) : Outstanding :=
  fun held => Tally.total (fun slot => slot.held.count held) resources.slots

def Resources.syncCount (resources : Resources) : Outstanding :=
  fun held => Tally.total (fun slot => slot.held.count held) resources.sync

def Resources.count (resources : Resources) : Outstanding := fun held =>
  resources.slotsCount held + resources.syncCount held + resources.console.held.count held +
    resources.disk.count held + resources.net.count held

end Footprint

/-- Everything acquired and not outstanding has been released, each thing once. -/
structure Ledger (outstanding : Outstanding) (world : World) : Prop where
  balance : ∀ held, world.acquired.count held = outstanding held + world.released.count held
  nodup : world.acquired.Nodup
  fresh : ∀ held ∈ world.acquired, held.handle < world.next
  positive : 0 < world.next

namespace Ledger

variable {outstanding : Outstanding} {world : World}

theorem release (outstanding : Outstanding) (held : Held)
    (ledger : Ledger (fun other => outstanding other + [held].count other) world) :
    Ledger outstanding (world.release held) where
  balance other := by
    have before := ledger.balance other
    have grown : (held :: world.released).count other =
        world.released.count other + [held].count other := by
      rw [List.count_cons, List.count_singleton]
    dsimp only [World.release]
    omega
  nodup := ledger.nodup
  fresh := ledger.fresh
  positive := ledger.positive

theorem weaken {other : Outstanding} (ledger : Ledger outstanding world)
    (same : ∀ held, other held = outstanding held) : Ledger other world where
  balance held := by
    rw [same]
    exact ledger.balance held
  nodup := ledger.nodup
  fresh := ledger.fresh
  positive := ledger.positive

end Ledger

/-- Before a start and after a rollback: nothing is outstanding, and the records
are all zero. -/
structure Clean (world : World) : Prop where
  ledger : Ledger (fun _ => 0) world
  process : world.process = {}
  resources : world.resources = {}

/-- A child under construction: what is outstanding is in the records or among
`extra`; no heap page is mapped yet. -/
structure Owns (extra : List Held) (failures : Nat) (world : World) : Prop where
  ledger : Ledger (fun held => world.process.held.count held + world.resources.count held +
    extra.count held) world
  configured : world.process.cspace ≠ 0
  heapFrames : world.process.heapFrames = []
  heapMapped : ∀ page, world.resources.heap.mapped page = false
  failures : world.failures = failures

/-- Where a failed attempt leaves a child. -/
def Partial (world : World) : Prop := ∃ failures, Owns [] failures world

theorem Owns.toPartial {failures : Nat} {world : World} (owns : Owns [] failures world) :
    Partial world := ⟨failures, owns⟩

/-- The rule for a call that may fail. -/
theorem meets_call {setting : Setting} {effect : World → World}
    {before success failure : World → Prop}
    (counts : ∀ world, before world → before { world with calls := world.calls + 1 })
    (succeeds : ∀ world, before world → success (effect world))
    (fails : ∀ world, before world → failure { world with
      calls := world.calls + 1
      failures := world.failures + 1 }) :
    Meets before (call setting effect) success failure := by
  intro world holds
  unfold call
  split
  · exact ⟨nofun, fun _ => fails world holds⟩
  · exact ⟨fun _ => succeeds _ (counts world holds), nofun⟩

theorem keeps_call {View : Type} {view : World → View} {setting : Setting} {effect : World → World}
    (counts : ∀ world calls failures, view { world with
      calls := calls
      failures := failures } = view world)
    (kept : ∀ world, view (effect world) = view world) : Keeps view (call setting effect) := by
  intro world
  unfold call
  split
  · exact counts world _ _
  · exact (kept _).trans (counts world _ world.failures)

theorem Owns.counted {extra : List Held} {failures : Nat} {world : World}
    (owns : Owns extra failures world) :
    Owns extra failures { world with calls := world.calls + 1 } :=
  { owns with ledger := { owns.ledger with } }

theorem Owns.failed {extra : List Held} {failures : Nat} {world : World}
    (owns : Owns extra failures world) : Owns extra (failures + 1) { world with
      calls := world.calls + 1
      failures := world.failures + 1 } :=
  { owns with
    ledger := { owns.ledger with }
    failures := congrArg (· + 1) owns.failures }

/-- `target` is `world` with one more thing, which was not there before; the
records may differ. -/
structure Grown (world target : World) (held : Held) : Prop where
  unknown : held ∉ world.acquired
  below : held.handle < target.next
  next : world.next ≤ target.next
  acquired : target.acquired = held :: world.acquired
  released : target.released = world.released
  failures : target.failures = world.failures
  cspace : target.process.cspace = world.process.cspace
  heapFrames : target.process.heapFrames = world.process.heapFrames
  heapMapped : target.resources.heap.mapped = world.resources.heap.mapped

/-- A step that acquires a thing and records it. -/
theorem Owns.grow {extra after : List Held} {failures : Nat} {world target : World} {held : Held}
    (owns : Owns extra failures world) (grown : Grown world target held)
    (recorded : ∀ other, target.process.held.count other + target.resources.count other +
      after.count other = world.process.held.count other + world.resources.count other +
      extra.count other + [held].count other) : Owns after failures target where
  ledger := by
    refine ⟨fun other => ?_, ?_, fun other member => ?_, ?_⟩
    · have before := owns.ledger.balance other
      have record := recorded other
      rw [grown.acquired, grown.released, List.count_cons, ← List.count_singleton]
      omega
    · rw [grown.acquired]
      exact List.nodup_cons.mpr ⟨grown.unknown, owns.ledger.nodup⟩
    · rw [grown.acquired] at member
      rcases List.mem_cons.mp member with equal | member
      · rw [equal]
        exact grown.below
      · exact Nat.lt_of_lt_of_le (owns.ledger.fresh other member) grown.next
    · exact Nat.lt_of_lt_of_le owns.ledger.positive grown.next
  configured := by
    rw [grown.cspace]
    exact owns.configured
  heapFrames := by
    rw [grown.heapFrames]
    exact owns.heapFrames
  heapMapped := by
    rw [grown.heapMapped]
    exact owns.heapMapped
  failures := by
    rw [grown.failures]
    exact owns.failures

/-- A thing under a new handle is new. -/
theorem Owns.unknown {extra : List Held} {failures : Nat} {world : World} {held : Held}
    (owns : Owns extra failures world) (new : held.handle = world.next) :
    held ∉ world.acquired := by
  intro member
  have below := owns.ledger.fresh held member
  rw [new] at below
  exact Nat.lt_irrefl _ below

/-- A new thing for which the records, as they are or changed, answer. -/
theorem Owns.growNew {extra after : List Held} {failures : Nat} {world target : World}
    (held : Held) (owns : Owns extra failures world) (new : held.handle = world.next)
    {process : Process} {resources : Resources}
    (shaped : target = { world.bump.acquire held with
      process := process
      resources := resources })
    (cspace : process.cspace = world.process.cspace)
    (heapFrames : process.heapFrames = world.process.heapFrames)
    (heapMapped : resources.heap.mapped = world.resources.heap.mapped)
    (recorded : ∀ other, process.held.count other + resources.count other +
      after.count other = world.process.held.count other + world.resources.count other +
      extra.count other + [held].count other) : Owns after failures target := by
  subst shaped
  have below : held.handle < world.next + 1 := by
    rw [new]
    exact Nat.lt_succ_self _
  exact owns.grow ⟨owns.unknown new, below, Nat.le_succ _, rfl, rfl, rfl, cspace, heapFrames,
    heapMapped⟩ recorded

section Start

variable {setting : Setting} {failures : Nat}

/-- A capability copied or minted into the child's CSpace; what the caller keeps
of it answers for nothing. -/
theorem Owns.copyCapToProcess {extra : List Held} {world : World} {keep : World → Handle → World}
    (owns : Owns extra failures world)
    (keeps : ∀ world handle, ∃ resources, keep world handle = { world with resources := resources } ∧
      resources.count = world.resources.count ∧
      resources.heap.mapped = world.resources.heap.mapped) :
    Owns extra failures (world.copyCapToProcess keep) := by
  unfold World.copyCapToProcess
  obtain ⟨resources, kept, counted, mapped⟩ := keeps _ _
  rw [kept]
  refine owns.growNew (.childCap world.next) rfl rfl rfl rfl mapped ?_
  intro other
  rw [counted]
  simp only [Process.held, World.acquire, World.bump, List.map_cons, List.cons_append,
    List.count_cons, List.count_nil]
  omega

theorem Resources.count_setSlot (resources : Resources) (index : Fin lunaResourceSlots)
    (slot : ResourceSlot) (held : Held) :
    ({ resources with slots := Function.update resources.slots index slot } : Resources).count held +
      (resources.slots index).held.count held =
      resources.count held + slot.held.count held := by
  have updated := Tally.total_update (fun slot : ResourceSlot => slot.held.count held)
    resources.slots index slot
  simp only [Resources.count, Resources.slotsCount, Resources.syncCount] at updated ⊢
  omega

theorem Resources.count_setSync (resources : Resources) (index : Fin lunaSyncSlots)
    (slot : SyncSlot) (held : Held) :
    ({ resources with sync := Function.update resources.sync index slot } : Resources).count held +
      (resources.sync index).held.count held =
      resources.count held + slot.held.count held := by
  have updated := Tally.total_update (fun slot : SyncSlot => slot.held.count held)
    resources.sync index slot
  simp only [Resources.count, Resources.slotsCount, Resources.syncCount] at updated ⊢
  omega

theorem Resources.count_setConsole (resources : Resources) (console : ConsoleResource)
    (held : Held) : ({ resources with console := console } : Resources).count held +
      resources.console.held.count held = resources.count held + console.held.count held := by
  simp only [Resources.count, Resources.slotsCount, Resources.syncCount]
  omega

/-- The entries of a table that a loop has yet to reach are still zero. -/
structure Untouched {Index Entry : Type} (table : Index → Entry) (zero : Entry)
    (rest : List Index) : Prop where
  nodup : rest.Nodup
  zero : ∀ index ∈ rest, table index = zero

theorem Untouched.update {Index Entry : Type} [DecidableEq Index] {table : Index → Entry}
    {zero entry : Entry} {index : Index} {rest : List Index} (untouched : Untouched table zero rest)
    (passed : index ∉ rest) : Untouched (Function.update table index entry) zero rest where
  nodup := untouched.nodup
  zero other member := by
    have different : other ≠ index := by
      rintro rfl
      exact passed member
    rw [Function.update_of_ne different]
    exact untouched.zero other member

theorem Untouched.tail {Index Entry : Type} {table : Index → Entry} {zero : Entry} {index : Index}
    {rest : List Index} (untouched : Untouched table zero (index :: rest)) :
    Untouched table zero rest where
  nodup := (List.nodup_cons.mp untouched.nodup).2
  zero other member := untouched.zero other (List.mem_cons_of_mem _ member)

section Slots

variable {index : Fin lunaResourceSlots} {rest : List (Fin lunaResourceSlots)} {world : World}

theorem Owns.growSlot (owns : Owns [] failures world) (slot : ResourceSlot) {held : Held}
    (new : held.handle = world.next)
    (adds : slot.held.Perm (held :: (world.resources.slots index).held)) :
    Owns [] failures ((world.bump.acquire held).setSlot index slot) := by
  refine owns.growNew held new rfl rfl rfl rfl ?_
  intro other
  have counted := world.resources.count_setSlot index slot other
  rw [adds.count_eq, List.count_cons, ← List.count_singleton] at counted
  dsimp only [World.acquire, World.bump]
  omega

theorem Owns.copyToSlot (keep : ResourceSlot → Handle → ResourceSlot)
    (owns : Owns [] failures world) (same : ∀ slot handle, (keep slot handle).held = slot.held) :
    Owns [] failures (world.copyCapToProcess fun world handle =>
      world.setSlot index (keep (world.resources.slots index) handle)) := by
  refine owns.copyCapToProcess fun world handle => ⟨_, rfl, ?_, rfl⟩
  funext other
  have counted := world.resources.count_setSlot index (keep (world.resources.slots index) handle)
    other
  rw [same] at counted
  exact Nat.add_right_cancel counted

/-- The thread loop stands at `index`, whose entry has the thread if `configured`
and no notification yet. -/
structure SlotTurn (failures : Nat) (index : Fin lunaResourceSlots)
    (rest : List (Fin lunaResourceSlots)) (configured : Bool) (world : World) : Prop where
  owns : Owns [] failures world
  passed : index ∉ rest
  rest : Untouched world.resources.slots {} rest
  configured : (world.resources.slots index).threadConfigured = configured
  unjoined : (world.resources.slots index).joinAllocated = false

theorem SlotTurn.counted {configured : Bool} (turn : SlotTurn failures index rest configured world) :
    SlotTurn failures index rest configured { world with calls := world.calls + 1 } :=
  { turn with owns := turn.owns.counted }

theorem meets_configureSlot (index : Fin lunaResourceSlots) (rest : List (Fin lunaResourceSlots)) :
    Meets (SlotTurn failures index rest false) (configureSlot setting index)
      (fun world => Owns [] failures world ∧ Untouched world.resources.slots {} rest) Partial := by
  have failed : ∀ configured world, SlotTurn failures index rest configured world →
      Partial { world with
        calls := world.calls + 1
        failures := world.failures + 1 } := fun _ _ turn => turn.owns.failed.toPartial
  refine Meets.andThen (SlotTurn failures index rest true)
    (meets_call (fun _ => SlotTurn.counted) (fun world turn => ?_) (failed false)) ?_
  · refine ⟨turn.owns.growSlot _ rfl ?_, turn.passed, turn.rest.update turn.passed, ?_, ?_⟩
    · simp [ResourceSlot.held, turn.configured, turn.unjoined]
    · simp [World.setSlot]
    · simp [World.setSlot, turn.unjoined]
  refine Meets.andThen (SlotTurn failures index rest true)
    (meets_call (fun _ => SlotTurn.counted) (fun world turn => ?_) (failed true)) ?_
  · refine ⟨turn.owns.copyToSlot (fun slot handle => { slot with childTcb := handle })
      fun _ _ => rfl, turn.passed, turn.rest.update turn.passed, ?_, ?_⟩
    · simp [World.copyCapToProcess, World.acquire, World.bump, World.setSlot, turn.configured]
    · simp [World.copyCapToProcess, World.acquire, World.bump, World.setSlot, turn.unjoined]
  refine Meets.andThen (fun world => Owns [] failures world ∧ index ∉ rest ∧
      Untouched world.resources.slots {} rest)
    (meets_call (fun _ => SlotTurn.counted) (fun world turn => ?_) (failed true)) ?_
  · refine ⟨turn.owns.growSlot _ rfl ?_, turn.passed, turn.rest.update turn.passed⟩
    simp [ResourceSlot.held, turn.configured, turn.unjoined]
    exact List.Perm.swap ..
  · refine meets_call (fun _ holds => ⟨holds.1.counted, holds.2⟩) (fun world holds => ?_)
      fun _ holds => holds.1.failed.toPartial
    exact ⟨holds.1.copyToSlot (fun slot handle => { slot with childJoinNtfn := handle })
      fun _ _ => rfl, holds.2.2.update holds.2.1⟩

theorem meets_configureSlots :
    Meets (fun world => Owns [] failures world ∧
        Untouched world.resources.slots {} (List.finRange lunaResourceSlots))
      (Attempt.forEach (configureSlot setting) (List.finRange lunaResourceSlots))
      (Owns [] failures) Partial := by
  refine (meets_forEach (fun rest world => Owns [] failures world ∧
    Untouched world.resources.slots {} rest) (fun index rest => ?_) _).weaken
    (fun _ => id) fun _ holds => holds.1
  refine (meets_configureSlot index rest).weaken (fun world holds => ?_) fun _ => id
  obtain ⟨owns, untouched⟩ := holds
  have zero := untouched.zero index List.mem_cons_self
  exact ⟨owns, (List.nodup_cons.mp untouched.nodup).1, untouched.tail, by rw [zero], by rw [zero]⟩

end Slots

section SyncSlots

variable {index : Fin lunaSyncSlots} {rest : List (Fin lunaSyncSlots)} {world : World}

theorem Owns.growSync (owns : Owns [] failures world) (slot : SyncSlot) {held : Held}
    (new : held.handle = world.next)
    (adds : slot.held = held :: (world.resources.sync index).held) :
    Owns [] failures ((world.bump.acquire held).setSync index slot) := by
  refine owns.growNew held new rfl rfl rfl rfl ?_
  intro other
  have counted := world.resources.count_setSync index slot other
  rw [adds, List.count_cons, ← List.count_singleton] at counted
  dsimp only [World.acquire, World.bump]
  omega

theorem Owns.copyToSync (keep : SyncSlot → Handle → SyncSlot)
    (owns : Owns [] failures world) (same : ∀ slot handle, (keep slot handle).held = slot.held) :
    Owns [] failures (world.copyCapToProcess fun world handle =>
      world.setSync index (keep (world.resources.sync index) handle)) := by
  refine owns.copyCapToProcess fun world handle => ⟨_, rfl, ?_, rfl⟩
  funext other
  have counted := world.resources.count_setSync index (keep (world.resources.sync index) handle)
    other
  rw [same] at counted
  exact Nat.add_right_cancel counted

theorem meets_configureSync (index : Fin lunaSyncSlots) (rest : List (Fin lunaSyncSlots)) :
    Meets (fun world => Owns [] failures world ∧
        Untouched world.resources.sync {} (index :: rest))
      (configureSync setting index)
      (fun world => Owns [] failures world ∧ Untouched world.resources.sync {} rest) Partial := by
  refine Meets.andThen (fun world => Owns [] failures world ∧ index ∉ rest ∧
      Untouched world.resources.sync {} rest)
    (meets_call (fun _ holds => ⟨holds.1.counted, holds.2⟩) (fun world holds => ?_)
      fun _ holds => holds.1.failed.toPartial) ?_
  · have passed := (List.nodup_cons.mp holds.2.nodup).1
    refine ⟨holds.1.growSync _ rfl ?_, passed, holds.2.tail.update passed⟩
    simp [SyncSlot.held, holds.2.zero index List.mem_cons_self]
  · refine meets_call (fun _ holds => ⟨holds.1.counted, holds.2⟩) (fun world holds => ?_)
      fun _ holds => holds.1.failed.toPartial
    exact ⟨holds.1.copyToSync (fun slot handle => { slot with childNtfn := handle })
      fun _ _ => rfl, holds.2.2.update holds.2.1⟩

theorem meets_configureSyncs :
    Meets (fun world => Owns [] failures world ∧
        Untouched world.resources.sync {} (List.finRange lunaSyncSlots))
      (Attempt.forEach (configureSync setting) (List.finRange lunaSyncSlots))
      (Owns [] failures) Partial :=
  (meets_forEach (fun rest world => Owns [] failures world ∧
    Untouched world.resources.sync {} rest) meets_configureSync _).weaken
    (fun _ => id) fun _ holds => holds.1

end SyncSlots

section Console

variable {world : World}

theorem Owns.growConsole (owns : Owns [] failures world) (console : ConsoleResource) {held : Held}
    (new : held.handle = world.next) (adds : console.held = held :: world.resources.console.held) :
    Owns [] failures ((world.bump.acquire held).setConsole console) := by
  refine owns.growNew held new rfl rfl rfl rfl ?_
  intro other
  have counted := world.resources.count_setConsole console other
  rw [adds, List.count_cons, ← List.count_singleton] at counted
  dsimp only [World.acquire, World.bump]
  omega

theorem Owns.copyToConsole (keep : ConsoleResource → Handle → ConsoleResource)
    (owns : Owns [] failures world)
    (same : ∀ console handle, (keep console handle).held = console.held) :
    Owns [] failures (world.copyCapToProcess fun world handle =>
      world.setConsole (keep world.resources.console handle)) := by
  refine owns.copyCapToProcess fun world handle => ⟨_, rfl, ?_, rfl⟩
  funext other
  have counted := world.resources.count_setConsole (keep world.resources.console handle) other
  rw [same] at counted
  exact Nat.add_right_cancel counted

/-- The console's slot was allocated, and no capability is in it. -/
structure ConsoleSlot (failures : Nat) (world : World) : Prop where
  owns : Owns [] failures world
  slot : world.resources.console.slotAllocated = true
  empty : world.resources.console.capCreated = false
  below : world.resources.console.ioPortPath < world.next
  unknown : .cap world.resources.console.ioPortPath ∉ world.acquired

theorem ConsoleSlot.counted (console : ConsoleSlot failures world) :
    ConsoleSlot failures { world with calls := world.calls + 1 } :=
  { console with owns := console.owns.counted }

theorem ConsoleSlot.created (console : ConsoleSlot failures world) :
    Owns [] failures ((world.acquire (.cap world.resources.console.ioPortPath)).setConsole
      { world.resources.console with capCreated := true }) := by
  refine console.owns.grow ⟨console.unknown, console.below, Nat.le_refl _, rfl, rfl, rfl, rfl, rfl,
    rfl⟩ ?_
  intro other
  have counted := world.resources.count_setConsole
    { world.resources.console with capCreated := true } other
  simp only [ConsoleResource.held, console.slot, console.empty, if_true, Bool.false_eq_true,
    if_false, List.nil_append, List.count_append] at counted
  dsimp only [World.setConsole, World.acquire]
  simp only [console.slot] at counted ⊢
  omega

theorem meets_configureConsole :
    Meets (fun world => Owns [] failures world ∧ world.resources.console = {})
      (configureConsole setting) (Owns [] failures) Partial := by
  refine Meets.andThen (ConsoleSlot failures)
    (meets_call (fun _ holds => ⟨holds.1.counted, holds.2⟩) (fun world holds => ?_)
      fun _ holds => holds.1.failed.toPartial) ?_
  · obtain ⟨owns, zero⟩ := holds
    have unknown : .cap world.next ∉ world.acquired := owns.unknown rfl
    refine ⟨?_, rfl, ?_, Nat.lt_succ_self _, ?_⟩
    · refine owns.growConsole _ rfl ?_
      simp [ConsoleResource.held, zero]
    · simp [World.setConsole, World.acquire, World.bump, zero]
    · simpa [World.setConsole, World.acquire, World.bump] using unknown
  refine Meets.andThen (Owns [] failures)
    (meets_call (fun _ => ConsoleSlot.counted) (fun _ => ConsoleSlot.created)
      fun _ console => console.owns.failed.toPartial) ?_
  exact meets_call (fun _ => Owns.counted) (fun world owns => owns.copyToConsole
    (fun console handle => { console with childIoPort := handle }) fun _ _ => rfl)
    fun _ owns => owns.failed.toPartial

end Console

section WindowPages

variable {pages : Nat} {window : Window pages} {world : World} {page : Fin pages}
  {rest : List (Fin pages)}

/-- A window is a part of the resources of its own. -/
structure Window.Lawful (window : Window pages) : Prop where
  get_set : ∀ resources mapping, window.get (window.set resources mapping) = mapping
  count_set : ∀ resources mapping held, (window.set resources mapping).count held +
    (window.get resources).count held = resources.count held + mapping.count held
  heapMapped : ∀ resources mapping,
    (window.set resources mapping).heap.mapped = resources.heap.mapped

theorem diskWindow_lawful : diskWindow.Lawful where
  get_set _ _ := rfl
  count_set resources mapping held := by
    simp only [diskWindow, Resources.count, Resources.slotsCount, Resources.syncCount]
    omega
  heapMapped _ _ := rfl

theorem netWindow_lawful : netWindow.Lawful where
  get_set _ _ := rfl
  count_set resources mapping held := by
    simp only [netWindow, Resources.count, Resources.slotsCount, Resources.syncCount]
    omega
  heapMapped _ _ := rfl

/-- The page loop stands at `page`: the pages before are mapped, and nothing is
copied for those from `page` on. -/
structure PageTurn (window : Window pages) (failures : Nat) (left : List (Fin pages))
    (world : World) : Prop where
  owns : Owns [] failures world
  remaining : left.map Fin.val =
    List.range' (window.get world.resources).mappedPages left.length
  uncopied : ∀ page ∈ left, (window.get world.resources).capAllocated page = false

/-- A slot was allocated for `page`'s capability. -/
structure PageSlot (window : Window pages) (failures : Nat) (page : Fin pages)
    (rest : List (Fin pages)) (world : World) : Prop where
  owns : Owns [.slot ((window.get world.resources).frameCaps page)] failures world
  next : (window.get world.resources).mappedPages = page.val
  remaining : rest.map Fin.val = List.range' (page.val + 1) rest.length
  uncopied : ∀ other ∈ page :: rest, (window.get world.resources).capAllocated other = false
  below : (window.get world.resources).frameCaps page < world.next
  unknown : .cap ((window.get world.resources).frameCaps page) ∉ world.acquired

/-- The capability was copied. -/
structure PageCopied (window : Window pages) (failures : Nat) (page : Fin pages)
    (rest : List (Fin pages)) (world : World) : Prop where
  owns : Owns [] failures world
  next : (window.get world.resources).mappedPages = page.val
  remaining : rest.map Fin.val = List.range' (page.val + 1) rest.length
  uncopied : ∀ other ∈ rest, (window.get world.resources).capAllocated other = false
  copied : (window.get world.resources).capAllocated page = true

theorem PageTurn.counted {left : List (Fin pages)} (turn : PageTurn window failures left world) :
    PageTurn window failures left { world with calls := world.calls + 1 } :=
  { turn with owns := turn.owns.counted }

theorem PageSlot.counted (slot : PageSlot window failures page rest world) :
    PageSlot window failures page rest { world with calls := world.calls + 1 } :=
  { slot with owns := slot.owns.counted }

theorem PageCopied.counted (copied : PageCopied window failures page rest world) :
    PageCopied window failures page rest { world with calls := world.calls + 1 } :=
  { copied with owns := copied.owns.counted }

theorem WindowMapping.held_of_uncopied {mapping : WindowMapping pages}
    (uncopied : mapping.capAllocated page = false) : mapping.held page = [] := by
  simp [WindowMapping.held, uncopied]

/-- Writing down the slot of a page without a capability answers for nothing. -/
theorem WindowMapping.count_frameCaps {mapping : WindowMapping pages} (handle : Handle)
    (uncopied : mapping.capAllocated page = false) :
    ({ mapping with
      frameCaps := Function.update mapping.frameCaps page handle } : WindowMapping pages).count =
      mapping.count := by
  have table : ({ mapping with
      frameCaps := Function.update mapping.frameCaps page handle } : WindowMapping pages).held =
      mapping.held := by
    funext other
    by_cases equal : other = page
    · subst equal
      simp [WindowMapping.held, uncopied]
    · simp [WindowMapping.held, equal]
  unfold WindowMapping.count
  rw [table]

/-- Copying the next page's capability. -/
theorem WindowMapping.count_copied {mapping : WindowMapping pages}
    (uncopied : mapping.capAllocated page = false) (next : mapping.mappedPages = page.val)
    (held : Held) :
    ({ mapping with
      capAllocated := Function.update mapping.capAllocated page true } : WindowMapping pages).count
      held = mapping.count held +
        [Held.cap (mapping.frameCaps page), .slot (mapping.frameCaps page)].count held := by
  have table : ({ mapping with
      capAllocated := Function.update mapping.capAllocated page true } : WindowMapping pages).held =
      Function.update mapping.held page
        [.cap (mapping.frameCaps page), .slot (mapping.frameCaps page)] := by
    funext other
    by_cases equal : other = page
    · subst equal
      simp [WindowMapping.held, next]
    · simp [WindowMapping.held, equal]
  have updated := Tally.total_update (List.count held) mapping.held page
    [.cap (mapping.frameCaps page), .slot (mapping.frameCaps page)]
  rw [held_of_uncopied uncopied] at updated
  unfold WindowMapping.count
  rw [table]
  simpa using updated

/-- Mapping it hands it over to the VSpace. -/
theorem WindowMapping.count_mapped {mapping : WindowMapping pages}
    (copied : mapping.capAllocated page = true) (next : mapping.mappedPages = page.val)
    (held : Held) :
    ({ mapping with mappedPages := mapping.mappedPages + 1 } : WindowMapping pages).count held +
      [Held.cap (mapping.frameCaps page), .slot (mapping.frameCaps page)].count held =
      mapping.count held := by
  have table : ({ mapping with mappedPages := mapping.mappedPages + 1 } : WindowMapping pages).held =
      Function.update mapping.held page [] := by
    funext other
    by_cases equal : other = page
    · subst equal
      simp [WindowMapping.held, next]
    · have different : other.val ≠ page.val := fun same => equal (Fin.ext same)
      have bound : mapping.mappedPages + 1 ≤ other.val ↔ mapping.mappedPages ≤ other.val := by
        omega
      simp [WindowMapping.held, equal, bound]
  have updated := Tally.total_update (List.count held) mapping.held page []
  have before : mapping.held page =
      [.cap (mapping.frameCaps page), .slot (mapping.frameCaps page)] := by
    simp [WindowMapping.held, copied, next]
  rw [before] at updated
  unfold WindowMapping.count
  rw [table]
  simpa using updated

theorem PageTurn.next (turn : PageTurn window failures (page :: rest) world) :
    (window.get world.resources).mappedPages = page.val ∧
      rest.map Fin.val = List.range' (page.val + 1) rest.length := by
  have split := turn.remaining
  rw [List.map_cons, List.length_cons, List.range'_succ, List.cons.injEq] at split
  exact ⟨split.1.symm, split.1 ▸ split.2⟩

theorem PageTurn.allocated (lawful : window.Lawful)
    (turn : PageTurn window failures (page :: rest) world) :
    PageSlot window failures page rest (window.update (world.bump.acquire (.slot world.next))
      fun mapping => { mapping with
        frameCaps := Function.update mapping.frameCaps page world.next }) := by
  have uncopied := turn.uncopied page List.mem_cons_self
  have unknown : .cap world.next ∉ world.acquired := turn.owns.unknown rfl
  have set : ∀ mapping, window.get (window.set (world.bump.acquire (.slot world.next)).resources
      mapping) = mapping := lawful.get_set _
  have slot : (window.get (window.set (world.bump.acquire (.slot world.next)).resources
      { window.get world.resources with
        frameCaps := Function.update (window.get world.resources).frameCaps page
          world.next })).frameCaps page = world.next := by
    rw [set]
    exact Function.update_self ..
  have recorded : Owns [.slot world.next] failures (window.update
      (world.bump.acquire (.slot world.next)) fun mapping => { mapping with
        frameCaps := Function.update mapping.frameCaps page world.next }) := by
    refine turn.owns.growNew (.slot world.next) rfl rfl rfl rfl (lawful.heapMapped _ _) ?_
    intro other
    have counted := lawful.count_set world.resources
      { window.get world.resources with
        frameCaps := Function.update (window.get world.resources).frameCaps page world.next } other
    rw [WindowMapping.count_frameCaps _ uncopied] at counted
    dsimp only [World.acquire, World.bump] at counted ⊢
    rw [List.count_nil]
    omega
  refine ⟨slot.symm ▸ recorded, ?_, turn.next.2, ?_, ?_, ?_⟩
  · exact (congrArg WindowMapping.mappedPages (set _)).trans turn.next.1
  · intro other member
    exact (congrFun (congrArg WindowMapping.capAllocated (set _)) other).trans
      (turn.uncopied other member)
  · exact slot.symm ▸ Nat.lt_succ_self _
  · intro member
    rcases List.mem_cons.mp member with equal | member
    · cases equal
    · exact unknown (slot ▸ member)

theorem PageSlot.copied (lawful : window.Lawful)
    (slot : PageSlot window failures page rest world) (passed : page ∉ rest) :
    PageCopied window failures page rest (window.update
      (world.acquire (.cap ((window.get world.resources).frameCaps page)))
      fun mapping => { mapping with
        capAllocated := Function.update mapping.capAllocated page true }) := by
  have set : ∀ mapping, window.get (window.set
      (world.acquire (.cap ((window.get world.resources).frameCaps page))).resources mapping) =
      mapping := lawful.get_set _
  simp only [Window.update]
  refine ⟨?_, by rw [set]; exact slot.next, slot.remaining, ?_, ?_⟩
  · refine slot.owns.grow ⟨slot.unknown, slot.below, Nat.le_refl _, rfl, rfl, rfl, rfl, rfl,
      lawful.heapMapped _ _⟩ ?_
    intro other
    have counted := lawful.count_set world.resources
      { window.get world.resources with
        capAllocated := Function.update (window.get world.resources).capAllocated page true } other
    rw [WindowMapping.count_copied (slot.uncopied page List.mem_cons_self) slot.next,
      List.count_cons, ← List.count_singleton] at counted
    dsimp only [World.acquire] at counted ⊢
    rw [List.count_nil]
    omega
  · intro other member
    have different : other ≠ page := by
      rintro rfl
      exact passed member
    rw [set]
    exact (Function.update_of_ne different ..).trans
      (slot.uncopied other (List.mem_cons_of_mem _ member))
  · rw [set]
    exact Function.update_self ..

theorem PageSlot.freed (slot : PageSlot window failures page rest world) :
    Partial (world.freePath ((window.get world.resources).frameCaps page)) := by
  have ledger := Ledger.release (fun held => world.process.held.count held +
    world.resources.count held) _ slot.owns.ledger
  refine ⟨failures, ledger.weaken fun other => ?_, slot.owns.configured, slot.owns.heapFrames,
    slot.owns.heapMapped, slot.owns.failures⟩
  rw [List.count_nil, Nat.add_zero]
  rfl

theorem PageCopied.mapped (lawful : window.Lawful)
    (copied : PageCopied window failures page rest world) :
    PageTurn window failures rest (window.update
      { world with process := { world.process with
        mappedCaps := (window.get world.resources).frameCaps page :: world.process.mappedCaps } }
      fun mapping => { mapping with mappedPages := mapping.mappedPages + 1 }) := by
  have set : ∀ mapping, window.get (window.set world.resources mapping) = mapping :=
    lawful.get_set _
  have counted : ∀ other, (window.set world.resources
      { window.get world.resources with
        mappedPages := (window.get world.resources).mappedPages + 1 }).count other +
      [Held.cap ((window.get world.resources).frameCaps page),
        .slot ((window.get world.resources).frameCaps page)].count other =
      world.resources.count other := by
    intro other
    have counted := lawful.count_set world.resources
      { window.get world.resources with
        mappedPages := (window.get world.resources).mappedPages + 1 } other
    have mapped := WindowMapping.count_mapped copied.copied copied.next other
    dsimp only at counted mapped ⊢
    omega
  simp only [Window.update]
  refine ⟨⟨?_, copied.owns.configured, copied.owns.heapFrames, ?_, copied.owns.failures⟩, ?_, ?_⟩
  · refine Ledger.weaken { copied.owns.ledger with } fun other => ?_
    have moved := counted other
    simp only [Process.held, List.flatMap_cons, List.count_append, List.count_cons, List.count_nil]
      at moved ⊢
    omega
  · rw [lawful.heapMapped]
    exact copied.owns.heapMapped
  · rw [set, copied.next]
    exact copied.remaining
  · rw [set]
    exact copied.uncopied

theorem meets_mapPage (lawful : window.Lawful) (page : Fin pages) (rest : List (Fin pages))
    (passed : page ∉ rest) :
    Meets (PageTurn window failures (page :: rest)) (mapPage setting window page)
      (PageTurn window failures rest) Partial := by
  refine Meets.andThen (PageTurn window failures (page :: rest))
    (meets_call (fun _ => PageTurn.counted) (fun _ => id)
      fun _ turn => turn.owns.failed.toPartial) ?_
  refine Meets.andThen (PageSlot window failures page rest)
    (meets_call (fun _ => PageTurn.counted) (fun _ => PageTurn.allocated lawful)
      fun _ turn => turn.owns.failed.toPartial) ?_
  refine Meets.andThen (PageCopied window failures page rest)
    (Meets.orUndo (PageSlot window (failures + 1) page rest)
      (meets_call (fun _ => PageSlot.counted) (fun _ slot => slot.copied lawful passed)
        fun _ slot => { slot with owns := slot.owns.failed }) fun _ slot => slot.freed) ?_
  exact meets_call (fun _ => PageCopied.counted) (fun _ copied => copied.mapped lawful)
    fun _ copied => copied.owns.failed.toPartial

theorem meets_mapWindow (lawful : window.Lawful) :
    Meets (fun world => Owns [] failures world ∧ window.get world.resources = {})
      (mapWindow setting window) (Owns [] failures) Partial := by
  refine Meets.andThen (PageTurn window failures (List.finRange pages))
    (meets_call (fun _ holds => ⟨holds.1.counted, holds.2⟩) (fun world holds => ?_)
      fun _ holds => holds.1.failed.toPartial) ?_
  · obtain ⟨owns, zero⟩ := holds
    have counted := lawful.count_set world.resources
      { window.get world.resources with reserved := true }
    refine ⟨⟨?_, owns.configured, owns.heapFrames, ?_, owns.failures⟩, ?_, ?_⟩
    · refine Ledger.weaken { owns.ledger with } fun other => ?_
      have same : ∀ mapping : WindowMapping pages,
          ({ mapping with reserved := true } : WindowMapping pages).count = mapping.count :=
        fun _ => rfl
      have update := counted other
      rw [same] at update
      dsimp only [Window.update] at update ⊢
      omega
    · dsimp only [Window.update]
      rw [lawful.heapMapped]
      exact owns.heapMapped
    · dsimp only [Window.update]
      rw [lawful.get_set, zero, List.length_finRange, ← List.range_eq_range']
      exact List.map_coe_finRange_eq_range
    · intro page _
      dsimp only [Window.update]
      rw [lawful.get_set, zero]
  · refine (meets_forEach (fun left world => PageTurn window failures left world ∧ left.Nodup)
      (fun page rest => ?_) _).weaken (fun _ turn => ⟨turn, List.nodup_finRange _⟩)
      fun _ holds => holds.1.owns
    intro world holds
    have unique := List.nodup_cons.mp holds.2
    have outcome := (meets_mapPage lawful page rest unique.1 :
      Meets _ (mapPage setting window page) _ _) world holds.1
    exact ⟨fun succeeded => ⟨outcome.1 succeeded, unique.2⟩, outcome.2⟩

end WindowPages

section Stages

/-- What `configure_resource_pool` fills in is still zero. -/
structure PoolBlank (resources : Resources) : Prop where
  slots : resources.slots = fun _ => {}
  sync : resources.sync = fun _ => {}
  console : resources.console = {}

theorem untouched_of_blank {size : Nat} {Entry : Type} {table : Fin size → Entry} {zero : Entry}
    (blank : table = fun _ => zero) : Untouched table zero (List.finRange size) :=
  ⟨List.nodup_finRange _, fun index _ => congrFun blank index⟩

theorem meets_configureResourcePool :
    Meets (fun world => Owns [] failures world ∧ PoolBlank world.resources)
      (configureResourcePool setting) (Owns [] failures) Partial := by
  have keepsSlots : Keeps (fun world => (world.resources.sync, world.resources.console))
      (Attempt.forEach (configureSlot setting) (List.finRange lunaResourceSlots)) := by
    refine keeps_forEach (fun index => ?_) _
    refine Keeps.andThen (keeps_call ?_ ?_) (Keeps.andThen (keeps_call ?_ ?_)
      (Keeps.andThen (keeps_call ?_ ?_) (keeps_call ?_ ?_))) <;> exact fun _ => by intros; rfl
  have keepsSync : Keeps (fun world => world.resources.console)
      (Attempt.forEach (configureSync setting) (List.finRange lunaSyncSlots)) := by
    refine keeps_forEach (fun index => ?_) _
    refine Keeps.andThen (keeps_call ?_ ?_) (keeps_call ?_ ?_) <;> exact fun _ => by intros; rfl
  refine Meets.andThen (fun world => Owns [] failures world ∧
      world.resources.sync = (fun _ => {}) ∧ world.resources.console = {}) ?_ ?_
  · refine (meets_configureSlots.frame (fun view => view.1 = (fun _ => {}) ∧ view.2 = {})
      keepsSlots).weaken (fun world holds => ?_) fun _ => id
    exact ⟨⟨holds.1, untouched_of_blank holds.2.slots⟩, holds.2.sync, holds.2.console⟩
  refine Meets.andThen (fun world => Owns [] failures world ∧ world.resources.console = {}) ?_
    meets_configureConsole
  refine (meets_configureSyncs.frame (fun view => view = {}) keepsSync).weaken
    (fun world holds => ?_) fun _ => id
  exact ⟨⟨holds.1, untouched_of_blank holds.2.1⟩, holds.2.2⟩

/-- A window's calls change nothing of the resources but the window. -/
theorem keeps_mapWindow {View : Type} {view : World → View} {pages : Nat} (window : Window pages)
    (counts : ∀ world calls failures, view { world with
      calls := calls
      failures := failures } = view world)
    (released : ∀ world held, view (World.release world held) = view world)
    (changed : ∀ world mapping (changed : World), changed.resources = world.resources →
      view { changed with resources := window.set world.resources mapping } = view world) :
    Keeps view (mapWindow setting window) := by
  refine Keeps.andThen (keeps_call counts fun world => changed world _ _ rfl)
    (keeps_forEach (fun page => ?_) _)
  refine Keeps.andThen (keeps_call counts fun _ => rfl) (Keeps.andThen
    (keeps_call counts fun world => changed world _ _ rfl) (Keeps.andThen (Keeps.orUndo
      (keeps_call counts fun world => changed world _ _ rfl) fun world => released world _)
      (keeps_call counts fun world => changed world _ _ rfl)))

theorem meets_mapPersistentDisk :
    Meets (fun world => Owns [] failures world ∧ world.resources.disk = {})
      (mapPersistentDisk setting) (Owns [] failures) Partial :=
  Meets.andThen _ (meets_require fun _ holds => holds.1.toPartial) (meets_mapWindow diskWindow_lawful)

theorem keeps_mapPersistentDisk : Keeps (fun world => (world.resources.net, world.resources.slots,
    world.resources.sync, world.resources.console)) (mapPersistentDisk setting) := by
  refine Keeps.andThen (fun _ => rfl) (keeps_mapWindow diskWindow (fun _ _ _ => rfl)
    (fun _ _ => rfl) fun _ _ _ same => ?_)
  rfl

theorem meets_lunaNetworkMapChild :
    Meets (fun world => Owns [] failures world ∧ world.resources.net = {})
      (lunaNetworkMapChild setting) (Owns [] failures) Partial := by
  have mint : ∀ keep : NetCaps → Handle → NetCaps, Meets (Owns [] failures)
      (call setting fun world => world.copyCapToProcess fun world handle =>
        world.setNetCaps (keep world.resources.netCaps handle)) (Owns [] failures) Partial :=
    fun keep => meets_call (fun _ => Owns.counted)
      (fun world owns => owns.copyCapToProcess fun _ _ => ⟨_, rfl, rfl, rfl⟩)
      fun _ owns => owns.failed.toPartial
  refine Meets.andThen _ (meets_require fun _ holds => holds.1.toPartial) ?_
  refine Meets.andThen (Owns [] failures) (meets_mapWindow netWindow_lawful) ?_
  refine Meets.andThen (Owns [] failures)
    (mint fun caps handle => { caps with childRxNtfn := handle }) ?_
  refine Meets.andThen (Owns [] failures)
    (mint fun caps handle => { caps with childTxNtfn := handle }) ?_
  refine Meets.andThen (Owns [] failures)
    (mint fun caps handle => { caps with childTxSubmitNtfn := handle }) ?_
  exact meets_always fun world owns => { owns with ledger := { owns.ledger with } }

theorem keeps_lunaNetworkMapChild : Keeps (fun world => (world.resources.slots,
    world.resources.sync, world.resources.console)) (lunaNetworkMapChild setting) := by
  refine Keeps.andThen (fun _ => rfl) (Keeps.andThen (keeps_mapWindow netWindow (fun _ _ _ => rfl)
    (fun _ _ => rfl) fun _ _ _ same => rfl) ?_)
  refine Keeps.andThen (keeps_call ?_ ?_) (Keeps.andThen (keeps_call ?_ ?_)
    (Keeps.andThen (keeps_call ?_ ?_) fun _ => rfl)) <;> exact fun _ => by intros; rfl

theorem meets_mintCap : Meets (Owns [] failures) (mintCap setting) (Owns [] failures) Partial :=
  meets_call (fun _ => Owns.counted)
    (fun _ owns => owns.copyCapToProcess fun world _ => ⟨world.resources, rfl, rfl, rfl⟩)
    fun _ owns => owns.failed.toPartial

end Stages

end Start

section Destroy

variable {resources : Resources} {left : Outstanding} {world : World}

/-- `destroy_child` at work: `left` is what the records still answer for, besides
the process. -/
structure Teardown (resources : Resources) (left : Outstanding) (world : World) : Prop where
  ledger : Ledger (fun held => world.process.held.count held + left held) world
  records : world.resources = resources
  configured : world.process.cspace ≠ 0
  heapFrames : world.process.heapFrames = []

theorem Teardown.release {held : Held}
    (teardown : Teardown resources (fun other => left other + [held].count other) world) :
    Teardown resources left (world.release held) where
  ledger := by
    refine Ledger.release (fun other => world.process.held.count other + left other) held ?_
    exact teardown.ledger.weaken fun other => Nat.add_assoc ..
  records := teardown.records
  configured := teardown.configured
  heapFrames := teardown.heapFrames

theorem Teardown.releaseIf {flag : Bool} {held : Held} (teardown : Teardown resources
    (fun other => left other + (if flag then [held] else []).count other) world) :
    Teardown resources left (if flag then world.release held else world) := by
  cases flag with
  | true => exact teardown.release
  | false => exact teardown

theorem Teardown.deleteChildCap (cap : Handle) (teardown : Teardown resources left world) :
    Teardown resources left (world.deleteChildCap cap) := by
  unfold World.deleteChildCap
  split
  · exact teardown
  split
  · next member =>
      refine ⟨?_, teardown.records, teardown.configured, teardown.heapFrames⟩
      have removed : ∀ other, (world.process.childCaps.map Held.childCap).count other =
          ((world.process.childCaps.erase cap).map Held.childCap).count other +
            [Held.childCap cap].count other := by
        intro other
        rw [((List.perm_cons_erase member).map Held.childCap).count_eq, List.map_cons,
          List.count_cons, ← List.count_singleton]
      have ledger := Ledger.release (fun other => ({ world.process with
        childCaps := world.process.childCaps.erase cap } : Process).held.count other + left other)
        (.childCap cap) (teardown.ledger.weaken fun other => ?_)
      · exact { ledger with }
      · have split := removed other
        simp only [Process.held, List.cons_append, List.count_append, List.count_cons] at split ⊢
        omega
  · exact teardown

theorem Teardown.weaken {other : Outstanding} (teardown : Teardown resources left world)
    (same : ∀ held, other held = left held) : Teardown resources other world :=
  { teardown with ledger := teardown.ledger.weaken fun held => by rw [same] }

theorem Teardown.destroySlot {index : Fin lunaResourceSlots} (teardown : Teardown resources
    (fun other => left other + (resources.slots index).held.count other) world) :
    Teardown resources left (world.destroySlot index) := by
  dsimp only [World.destroySlot]
  rw [teardown.records]
  refine Teardown.releaseIf (Teardown.releaseIf ?_)
  refine Teardown.deleteChildCap _ (Teardown.deleteChildCap _ (teardown.weaken fun other => ?_))
  rw [ResourceSlot.held, List.count_append]
  omega

theorem Teardown.destroySync {index : Fin lunaSyncSlots} (teardown : Teardown resources
    (fun other => left other + (resources.sync index).held.count other) world) :
    Teardown resources left (world.destroySync index) := by
  dsimp only [World.destroySync]
  rw [teardown.records]
  exact Teardown.releaseIf (teardown.deleteChildCap _)

theorem Teardown.destroyConsole (teardown : Teardown resources
    (fun other => left other + resources.console.held.count other) world) :
    Teardown resources left world.destroyConsole := by
  dsimp only [World.destroyConsole]
  rw [teardown.records]
  refine Teardown.releaseIf (Teardown.releaseIf ?_)
  refine Teardown.deleteChildCap _ (Teardown.deleteChildCap _ (Teardown.deleteChildCap _
    (Teardown.deleteChildCap _ (teardown.weaken fun other => ?_))))
  rw [ConsoleResource.held, List.count_append]
  omega

/-- A loop that discharges one entry's part after the other. -/
theorem foldl_discharges {Index : Type} (holds : Outstanding → World → Prop)
    (part : Index → Outstanding) (step : World → Index → World)
    (discharges : ∀ index left world, holds (fun held => left held + part index held) world →
      holds left (step world index))
    (indices : List Index) {world : World} {left : Outstanding}
    (before : holds (fun held => left held + (indices.map fun index => part index held).sum) world) :
    holds left (indices.foldl step world) := by
  induction indices generalizing world with
  | nil => exact before
  | cons index rest inductionHypothesis =>
      refine inductionHypothesis (discharges index _ world ?_)
      have same : (fun held => left held + ((index :: rest).map fun index => part index held).sum) =
          fun held => left held + (rest.map fun index => part index held).sum + part index held := by
        funext held
        rw [List.map_cons, List.sum_cons]
        omega
      rw [← same]
      exact before

/-- A page mapped for its page table and unmapped again. -/
theorem Teardown.materialized (start : Nat) (teardown : Teardown resources left world) :
    Teardown resources left (({ world.bump.acquire (.frame world.next) with
      process := { world.process with
        heapFrames := (start, world.next) :: world.process.heapFrames } } : World).unmapPages
        start 1) where
  ledger := by
    have unknown : Held.frame world.next ∉ world.acquired := fun member =>
      Nat.lt_irrefl _ (teardown.ledger.fresh _ member)
    refine ⟨fun held => ?_, ?_, fun held member => ?_, ?_⟩
    · have before := teardown.ledger.balance held
      simp only [World.unmapPages, World.acquire, World.bump, teardown.heapFrames,
        List.filter_cons, List.filter_nil, Nat.le_refl, Nat.lt_succ_self, and_self,
        decide_true, if_true, List.map_cons, List.map_nil, List.singleton_append, List.count_cons,
        Process.held] at before ⊢
      omega
    · exact List.nodup_cons.mpr ⟨unknown, teardown.ledger.nodup⟩
    · rcases List.mem_cons.mp member with rfl | member
      · exact Nat.lt_succ_self _
      · exact Nat.lt_succ_of_lt (teardown.ledger.fresh held member)
    · exact Nat.succ_pos _
  records := teardown.records
  configured := teardown.configured
  heapFrames := by
    simp [World.unmapPages, teardown.heapFrames]

theorem Teardown.counted (teardown : Teardown resources left world) (calls failures : Nat) :
    Teardown resources left { world with
      calls := calls
      failures := failures } :=
  { teardown with ledger := { teardown.ledger with } }

theorem Teardown.materialize {setting : Setting} (teardown : Teardown resources left world) :
    Teardown resources left (materializeHeapReservationMetadata setting world).2 := by
  unfold materializeHeapReservationMetadata
  split
  · exact teardown
  refine (meets_forEach (fun _ => Teardown resources left) (fun start _ => ?_) _).either teardown
  intro world teardown
  dsimp only [materializeSpan]
  split
  · exact ⟨fun _ => teardown, fun _ => teardown⟩
  refine (Meets.andThen (fun world => Teardown resources left (world.unmapPages start 1))
    (meets_call (fun _ teardown => teardown.counted _ _)
      (fun world teardown => teardown.materialized start) fun _ teardown => teardown.counted _ _)
    (meets_always fun _ => id)) world teardown

theorem unmapRuns_eq (unmapped : ∀ page, world.resources.heap.mapped page = false)
    (fuel page : Nat) : world.unmapRuns fuel page = world := by
  induction fuel generalizing page with
  | zero => rfl
  | succ fuel inductionHypothesis =>
      unfold World.unmapRuns
      split
      · rw [unmapped]
        exact inductionHypothesis _
      · rfl

theorem Teardown.destroyHeap (setting : Setting)
    (unmapped : ∀ page, resources.heap.mapped page = false)
    (teardown : Teardown resources left world) :
    Teardown resources left (World.destroyHeap setting world).2 := by
  unfold World.destroyHeap
  split
  · have materialized : Teardown resources left
        (materializeHeapReservationMetadata setting world).2 := teardown.materialize
    dsimp only
    rw [unmapRuns_eq (by rw [materialized.records]; exact unmapped)]
    exact materialized
  · exact teardown

/-- After `sel4utils_destroy_process` only the frame caps that were not mapped are
left. -/
theorem Teardown.destroyProcess (teardown : Teardown resources left world) :
    Ledger left world.destroyProcess ∧ world.destroyProcess.resources = resources := by
  unfold World.destroyProcess
  rw [if_neg teardown.configured]
  refine ⟨⟨fun held => ?_, teardown.ledger.nodup, teardown.ledger.fresh, teardown.ledger.positive⟩,
    teardown.records⟩
  have before := teardown.ledger.balance held
  simp only [Process.held, teardown.heapFrames, List.map_nil, List.append_nil, List.cons_append,
    List.count_cons, List.count_append] at before ⊢
  omega

/-- The frame caps of a window past the mapped ones. -/
theorem releasePage_discharges {pages : Nat} (window : Window pages) (page : Fin pages)
    (left : Outstanding) (world : World)
    (holds : Ledger (fun held => left held + ((window.get resources).held page).count held) world ∧
      world.resources = resources) :
    Ledger left (world.releasePage window (window.get resources).mappedPages page) ∧
      (world.releasePage window (window.get resources).mappedPages page).resources = resources := by
  obtain ⟨ledger, records⟩ := holds
  unfold World.releasePage
  rw [records]
  unfold WindowMapping.held at ledger
  split
  · next unmapped =>
      rw [if_pos unmapped] at ledger
      refine ⟨Ledger.release _ _ (Ledger.release _ _ (ledger.weaken fun held => ?_)), records⟩
      simp only [List.count_cons, List.count_nil]
      omega
  · next mapped =>
      rw [if_neg mapped] at ledger
      exact ⟨ledger.weaken fun _ => rfl, records⟩

theorem total_eq_sum {pages : Nat} {Entry : Type} (weight : Entry → Nat) (table : Fin pages → Entry) :
    Tally.total weight table = ((List.finRange pages).map fun index => weight (table index)).sum :=
  Fin.sum_univ_def _

theorem Teardown.destroySlots (teardown : Teardown resources
    (fun held => left held + resources.slotsCount held) world) :
    Teardown resources left ((List.finRange lunaResourceSlots).foldl World.destroySlot world) := by
  refine foldl_discharges (Teardown resources) (fun index held =>
    (resources.slots index).held.count held) _ (fun _ _ _ => Teardown.destroySlot) _ ?_
  refine teardown.weaken fun held => ?_
  rw [Resources.slotsCount, total_eq_sum]

theorem Teardown.destroySyncs (teardown : Teardown resources
    (fun held => left held + resources.syncCount held) world) :
    Teardown resources left ((List.finRange lunaSyncSlots).foldl World.destroySync world) := by
  refine foldl_discharges (Teardown resources) (fun index held =>
    (resources.sync index).held.count held) _ (fun _ _ _ => Teardown.destroySync) _ ?_
  refine teardown.weaken fun held => ?_
  rw [Resources.syncCount, total_eq_sum]

theorem releasePages_discharges {pages : Nat} (window : Window pages)
    (ledger : Ledger (fun held => left held + (window.get resources).count held) world)
    (records : world.resources = resources) :
    Ledger left ((List.finRange pages).foldl (fun world page =>
      world.releasePage window (window.get resources).mappedPages page) world) ∧
      ((List.finRange pages).foldl (fun world page =>
      world.releasePage window (window.get resources).mappedPages page) world).resources =
        resources := by
  refine foldl_discharges (fun left world => Ledger left world ∧ world.resources = resources)
    (fun page held => ((window.get resources).held page).count held) _
    (releasePage_discharges window) _ ⟨ledger.weaken fun held => ?_, records⟩
  rw [WindowMapping.count, total_eq_sum]

/-- Whatever a failed start has built, `destroy_child` releases it, each thing
once, and clears the records. -/
theorem Partial.destroyed {setting : Setting} (part : Partial world) :
    Clean (destroyChild setting world).2 := by
  obtain ⟨failures, owns⟩ := part
  have teardown : Teardown world.resources (fun held => (((world.resources.net.count held +
      world.resources.disk.count held) + world.resources.console.held.count held) +
      world.resources.syncCount held) + world.resources.slotsCount held) world := by
    refine ⟨owns.ledger.weaken fun held => ?_, rfl, owns.configured, owns.heapFrames⟩
    rw [List.count_nil, Resources.count]
    omega
  have quiet : Teardown world.resources (fun held => (((world.resources.net.count held +
      world.resources.disk.count held) + world.resources.console.held.count held) +
      world.resources.syncCount held) + world.resources.slotsCount held)
      (if setting.networkReady then { world with childActive := false } else world) := by
    split
    · exact { teardown with ledger := { teardown.ledger with } }
    · exact teardown
  have heap := quiet.destroySlots.destroySyncs.destroyConsole.destroyHeap setting owns.heapMapped
  obtain ⟨processLedger, processRecords⟩ := heap.destroyProcess
  obtain ⟨diskLedger, diskRecords⟩ := releasePages_discharges diskWindow processLedger processRecords
  obtain ⟨netLedger, -⟩ := releasePages_discharges netWindow
    (diskLedger.weaken fun _ => Nat.zero_add _) diskRecords
  exact ⟨{ netLedger with }, rfl, rfl⟩

end Destroy

section Run

variable {setting : Setting} {failures : Nat} {world : World}

/-- How a start ends: it has built the child, no call has failed and no injection
point of `passed` was hit, or it has returned an error and rolled back. -/
structure Settled (setting : Setting) (failures : Nat) (passed : List StartFailpoint)
    (result : Int × World) : Prop where
  started : result.1 = 0 → Owns [] failures result.2 ∧ setting.failpoint ∉ passed
  rolledBack : result.1 ≠ 0 → Clean result.2

theorem settled_failed {passed : List StartFailpoint} {target : World} (clean : Clean target) :
    Settled setting failures passed (-1, target) :=
  ⟨nofun, fun _ => clean⟩

/-- One stage, and the stages after it. -/
theorem settled_stage {before : World → Prop} (after : World → Prop) {current : StartFailpoint}
    {attempt : Attempt World} {rest : World → Int × World} {passed : List StartFailpoint}
    (meets : Meets before attempt after Partial)
    (owned : ∀ world, after world → Owns [] failures world)
    (continues : ∀ world, after world → Settled setting failures passed (rest world)) :
    ∀ world, before world →
      Settled setting failures (current :: passed) (stage setting current attempt rest world) := by
  intro world holds
  have outcome := meets world holds
  unfold stage
  generalize attempt world = result at outcome ⊢
  obtain ⟨succeeded, reached⟩ := result
  cases succeeded with
  | false => exact settled_failed (outcome.2 rfl).destroyed
  | true =>
      have afterwards := outcome.1 rfl
      have destroyed : Clean (destroyChild setting reached).2 :=
        (owned _ afterwards).toPartial.destroyed
      dsimp only [injectStartRollback]
      by_cases injected : setting.failpoint = current
      · rw [if_neg (not_not_intro injected)]
        split <;> exact ⟨nofun, fun _ => destroyed⟩
      · rw [if_pos injected]
        have settled := continues reached afterwards
        refine ⟨fun started => ⟨(settled.started started).1, ?_⟩, settled.rolledBack⟩
        rw [List.mem_cons, not_or]
        exact ⟨injected, (settled.started started).2⟩

theorem settled_spawnProcess (owns : Owns [] failures world) :
    Settled setting failures [] (spawnProcess setting world) := by
  have outcome := (meets_call (fun _ => Owns.counted) (fun _ => id) fun _ owns =>
    owns.failed.toPartial : Meets (Owns [] failures) (call setting id) _ Partial) world owns
  unfold spawnProcess
  generalize call setting id world = result at outcome ⊢
  obtain ⟨succeeded, reached⟩ := result
  cases succeeded with
  | false => exact settled_failed (outcome.2 rfl).destroyed
  | true => exact ⟨fun _ => ⟨outcome.1 rfl, List.not_mem_nil⟩, fun failed => absurd rfl failed⟩

/-- The records `start_child` is given are zero: no page, slot or capability is
answered for. -/
theorem count_zero (held : Held) : ({} : Resources).count held = 0 := by
  have slots : ({} : Resources).slotsCount held = 0 :=
    (Tally.total_eq_zero_iff _ _).mpr fun _ => rfl
  have sync : ({} : Resources).syncCount held = 0 :=
    (Tally.total_eq_zero_iff _ _).mpr fun _ => rfl
  have window : ∀ pages, ({} : WindowMapping pages).count held = 0 := fun pages =>
    (Tally.total_eq_zero_iff _ _).mpr fun page => by
      rw [WindowMapping.held_of_uncopied rfl, List.count_nil]
  rw [Resources.count, slots, sync, window, window]
  rfl

theorem meets_configureProcess :
    Meets (fun world => Clean world ∧ world.failures = failures) (configureProcess setting)
      (fun world => Owns [] failures world ∧ world.resources = {}) Clean := by
  refine meets_call (fun _ holds => ⟨{ holds.1 with ledger := { holds.1.ledger with } }, holds.2⟩)
    (fun world holds => ?_) fun _ holds => { holds.1 with ledger := { holds.1.ledger with } }
  obtain ⟨clean, failures⟩ := holds
  have unknown : Held.process world.next ∉ world.acquired := fun member =>
    Nat.lt_irrefl _ (clean.ledger.fresh _ member)
  refine ⟨⟨⟨fun held => ?_, ?_, fun held member => ?_, Nat.succ_pos _⟩, ?_, ?_, ?_, failures⟩,
    clean.resources⟩
  · have before := clean.ledger.balance held
    simp only [World.acquire, World.bump, clean.process, clean.resources, count_zero, Process.held,
      List.map_nil, List.flatMap_nil, List.append_nil, List.count_cons, List.count_nil]
      at before ⊢
    omega
  · exact List.nodup_cons.mpr ⟨unknown, clean.ledger.nodup⟩
  · rcases List.mem_cons.mp member with rfl | member
    · exact Nat.lt_succ_of_lt (Nat.lt_succ_self _)
    · exact Nat.lt_succ_of_lt (Nat.lt_succ_of_lt (clean.ledger.fresh held member))
  · exact Nat.ne_of_gt clean.ledger.positive
  · dsimp only [World.acquire, World.bump]
    rw [clean.process]
  · dsimp only [World.acquire, World.bump]
    rw [clean.resources]
    exact fun _ => rfl

theorem settled_startChild (setting : Setting) (clean : Clean world) :
    Settled setting world.failures [.process, .heap, .disk, .network, .resourcePool, .controlCap,
      .commandCap] (startChild setting world) := by
  have outcome := (meets_configureProcess : Meets _ (configureProcess setting) _ _) world
    ⟨clean, rfl⟩
  unfold startChild
  generalize configureProcess setting world = result at outcome ⊢
  obtain ⟨succeeded, configured⟩ := result
  cases succeeded with
  | false => exact settled_failed (outcome.2 rfl)
  | true =>
      refine settled_stage (fun world => Owns [] _ world ∧ world.resources = {})
        (meets_require fun _ holds => holds.1.toPartial) (fun _ holds => holds.1) ?_ _ (outcome.1 rfl)
      refine settled_stage (fun reserved => Owns [] _ reserved ∧
          reserved.resources.disk = {} ∧ reserved.resources.net = {} ∧
          PoolBlank reserved.resources) ?_ (fun _ holds => holds.1) ?_
      · refine meets_call (fun _ holds => ⟨holds.1.counted, holds.2⟩) (fun world holds => ?_)
          fun _ holds => holds.1.failed.toPartial
        obtain ⟨owns, zero⟩ := holds
        refine ⟨{ owns with ledger := { owns.ledger with } }, ?_⟩
        dsimp only
        rw [zero]
        exact ⟨rfl, rfl, rfl, rfl, rfl⟩
      refine settled_stage (fun mapped => Owns [] _ mapped ∧
          mapped.resources.net = {} ∧ PoolBlank mapped.resources) ?_ (fun _ holds => holds.1) ?_
      · refine (meets_mapPersistentDisk.frame (fun view => view.1 = {} ∧ view.2.1 = (fun _ => {}) ∧
          view.2.2.1 = (fun _ => {}) ∧ view.2.2.2 = {}) keeps_mapPersistentDisk).weaken
          (fun _ holds => ⟨⟨holds.1, holds.2.1⟩, holds.2.2.1, holds.2.2.2.slots, holds.2.2.2.sync,
            holds.2.2.2.console⟩) fun _ holds => ⟨holds.1, holds.2.1, holds.2.2.1, holds.2.2.2.1,
            holds.2.2.2.2⟩
      refine settled_stage (fun connected => Owns [] _ connected ∧
          PoolBlank connected.resources) ?_ (fun _ holds => holds.1) ?_
      · refine (meets_lunaNetworkMapChild.frame (fun view => view.1 = (fun _ => {}) ∧
          view.2.1 = (fun _ => {}) ∧ view.2.2 = {}) keeps_lunaNetworkMapChild).weaken
          (fun _ holds => ⟨⟨holds.1, holds.2.1⟩, holds.2.2.slots, holds.2.2.sync,
            holds.2.2.console⟩) fun _ holds => ⟨holds.1, holds.2.1, holds.2.2.1, holds.2.2.2⟩
      refine settled_stage _ meets_configureResourcePool (fun _ => id) ?_
      refine settled_stage _ meets_mintCap (fun _ => id) ?_
      refine settled_stage _ meets_mintCap (fun _ => id) ?_
      exact fun _ => settled_spawnProcess

/-- Whichever calls fail and whatever stage is injected, `start_child` either
succeeds with no failure at all or leaves nothing behind: everything acquired was
released once, and the records are zero. -/
theorem start_child_rolls_back (setting : Setting) (world : World) (clean : Clean world) :
    ((startChild setting world).1 = 0 →
      (startChild setting world).2.failures = world.failures ∧ setting.failpoint = .none) ∧
    ((startChild setting world).1 ≠ 0 →
      (startChild setting world).2.acquired.Nodup ∧
      (startChild setting world).2.released.Perm (startChild setting world).2.acquired ∧
      (startChild setting world).2.process = {} ∧
      (startChild setting world).2.resources = {}) := by
  have settled := settled_startChild setting clean
  refine ⟨fun started => ?_, fun failed => ?_⟩
  · obtain ⟨owns, passed⟩ := settled.started started
    refine ⟨owns.failures, ?_⟩
    cases point : setting.failpoint <;> simp_all
  · have rolled := settled.rolledBack failed
    refine ⟨rolled.ledger.nodup, ?_, rolled.process, rolled.resources⟩
    rw [List.perm_iff_count]
    intro held
    rw [rolled.ledger.balance held, Nat.zero_add]

end Run

def freshWorld : World := ⟨0, 0, 1, [], [], {}, {}, false⟩

/-- The third page of the disk window is copied and cannot be mapped. -/
def thirdMapFails : Setting where
  fails := fun index => index == 14
  ownCspace := true
  ownVspace := true
  ownEp := true
  managerPd := 0
  managerCnode := 0
  diskReady := true
  networkReady := true
  activate := true
  failpoint := .none

theorem start_child_rolls_back_third_page :
    (startChild thirdMapFails freshWorld).1 = -1 ∧
    (startChild thirdMapFails freshWorld).2.acquired.length = 23 ∧
    (startChild thirdMapFails freshWorld).2.released.Perm
      (startChild thirdMapFails freshWorld).2.acquired := by
  have failed : (startChild thirdMapFails freshWorld).1 = -1 := by decide +kernel
  refine ⟨failed, by decide +kernel, ?_⟩
  have clean : Clean freshWorld :=
    ⟨⟨fun _ => rfl, List.nodup_nil, nofun, Nat.one_pos⟩, rfl, rfl⟩
  refine ((start_child_rolls_back thirdMapFails freshWorld clean).2 ?_).2.1
  rw [failed]
  decide

end Luna.Child
