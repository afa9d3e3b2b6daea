import Luna.Child.Boot
import Luna.Child.HeapMessages
import Luna.Child.Rollback

/-!
# The run of the root task

`luna_isolation_smoke`: an audit of the rollbacks, a child that faults, one hundred children
one after the other and a last one, with every way out of it.  Whichever calls fail and
whatever the children send, all that was acquired for a child has been released when it
returns, and so have its endpoints, the timer and the private page.  What it has set up for the
network card and the persistent disk stays.
-/

namespace Luna.Child

open Attempt
open PageHeap (Manager serviceMemoryRequest firstPageOf)

/-! ## The run -/

/-- What `luna_isolation_smoke` frees behind `out`.  The network card and the persistent disk,
whose set-up it calls as well, stay with the root task and are not counted. -/
inductive RootHeld where
  | privateReservation
  | privatePage
  | timer
  | controlEp
  | commandEp
  deriving DecidableEq, Repr

/-- The variables of `luna_isolation_smoke`; `flagged` are `timer_initialized`,
`control_allocated` and `command_allocated`.  `waiting` is set once the manager waits for a
message or a receiver that does not come. -/
structure Root where
  world : World
  mappedPages : Nat
  childLive : Bool
  flagged : RootHeld → Bool
  waiting : Bool
  acquired : List RootHeld
  released : List RootHeld

/-- `enum luna_isolation_event`, as a word. -/
def Event.word : Event → Nat
  | .ready => 0x100
  | .done => 0x101
  | .lklLinked => 0x102
  | .resourceOk => 0x103
  | .lklInitOk => 0x104
  | .resourceConfigured => 0x105
  | .lklBootOk => 0x106
  | .lklHaltOk => 0x107
  | .lklShellReady => 0x108
  | .allocatorOk => 0x109
  | .allocatorReleased => 0x10a
  | .syncTlsOk => 0x10b
  | .threadTimerOk => 0x10c
  | .virtioBlockOk => 0x10d
  | .userProgramOk => 0x10e
  | .virtioNetOk => 0x10f
  | .networkIpv4Ok => 0x110
  | .networkIcmpOk => 0x111
  | .networkTcpOk => 0x112
  | .networkPressureOk => 0x114
  | .networkTxPressureOk => 0x115
  | .networkIcmpUnavailable => 0x116

def Mode.word : Mode → Nat
  | .fault => 1
  | .clean => 2
  | .stress => 3

/-- `CHILD_BADGE_FAULT`, `CHILD_BADGE_CLEAN` and `CHILD_BADGE_STRESS`. -/
def Mode.badge : Mode → Nat
  | .fault => 0x41
  | .clean => 0x42
  | .stress => 0x43

/-- `vspace_new_pages_at_vaddr`: a frame for each of `count` heap pages from `first` on. -/
def World.newPages (world : World) (first : Nat) : Nat → World
  | 0 => world
  | count + 1 =>
      { world.bump.acquire (.frame world.next) with
        process := { world.process with
          heapFrames := (first, world.next) :: world.process.heapFrames } }.newPages
        (first + 1) count

/-- Other heap records. -/
def World.setHeap (world : World) (heap : HeapResource) : World :=
  { world with resources := { world.resources with heap := heap } }

namespace Root

/-- `context->resources->heap`. -/
def heap (root : Root) : Manager where
  mapped := root.world.resources.heap.mapped
  mappedPages := root.mappedPages
  peakPages := root.world.resources.heap.peakPages
  reserved := root.world.resources.heap.reserved

def setHeap (root : Root) (heap : Manager) : Root :=
  { root with
    mappedPages := heap.mappedPages
    world := root.world.setHeap ⟨heap.mapped, heap.peakPages, heap.reserved⟩ }

/-- The VSpace calls of a memory request that is served. -/
def mapPages (root : Root) (event : PageHeap.Event) (request pageCount : Nat) : Root :=
  match event with
  | .memoryMap =>
      { root with world := root.world.newPages (firstPageOf request) pageCount }
  | .memoryUnmap =>
      { root with world := root.world.unmapPages (firstPageOf request) pageCount }

/-- One message in `receive_event_variant`. -/
def receive (root : Root) (input : Input) : Received × Root :=
  let received := Child.receive root.heap input
  match received.1, memoryEvent input.message.event with
  | .serviced, some event =>
      (.serviced, (root.mapPages event input.message.second input.message.third).setHeap
        received.2)
  | outcome, _ => (outcome, root)

/-- `receive_event_variant`: messages are served until one is not a request. -/
def receiveEventVariant (expectation : Expectation) : List Input → Attempt Root
  | [] => fun root => (false, { root with waiting := true })
  | input :: rest => fun root =>
      let received := root.receive { input with expectation := expectation }
      match received.1 with
      | .serviced => receiveEventVariant expectation rest received.2
      | .failed => (false, received.2)
      | .accepted _ => (true, received.2)

end Root

/-- What the manager meets with in a step: the messages that arrive, whether the child takes
the command and whether the interrupt is verified. -/
structure Meeting where
  messages : List Input
  taken : Bool
  verified : Bool

/-- One child: how its start fares and what the manager meets with in each step. -/
structure Life where
  setting : Setting
  addresses : Fin lunaResourceSlots → ThreadAddresses
  tscFrequency : Nat
  meetings : Nat → Meeting

def manageStep (mode : Mode) (meeting : Meeting) : ManagerStep → Attempt Root
  | .receive expected alternative =>
      Root.receiveEventVariant ⟨mode.badge, expected.word, (alternative.map Event.word).getD 0,
        mode.word⟩ meeting.messages
  | .send _ => fun root =>
      if meeting.taken then (true, root) else (false, { root with waiting := true })
  | .verifyIrq => require fun _ => meeting.verified

/-- `start_child` in `boot_child`. -/
def startLife (life : Life) : Attempt Root := fun root =>
  let started := startChild { life.setting with failpoint := .none } root.world
  if started.1 ≠ 0 then (false, { root with world := started.2, mappedPages := 0 })
  else (true, { root with world := started.2, childLive := true })

/-- The rest of `boot_child`, and what is expected of a child of the mode until it halts. -/
def manageLife (life : Life) (mode : Mode) : Attempt Root := fun root =>
  let setting := ⟨root.world.resources, life.addresses, mode, life.tscFrequency⟩
  forEach (fun step : ManagerStep × Nat => manageStep mode (life.meetings step.2) step.1)
    (manageChild setting).zipIdx root

def destroyLife (setting : Setting) (root : Root) : Bool × Root :=
  let destroyed := destroyChild setting root.world
  (destroyed.1 == 0, { root with world := destroyed.2, mappedPages := 0 })

def releaseChild (setting : Setting) : Attempt Root := fun root =>
  let destroyed := destroyLife setting root
  (destroyed.1, { destroyed.2 with childLive := false })

deriving instance DecidableEq for Process, ResourceSlot, SyncSlot, ConsoleResource, NetCaps

/-- Nothing is recorded of a window. -/
def WindowMapping.zeroed {pages : Nat} (mapping : WindowMapping pages) : Bool :=
  mapping.mappedPages == 0 && !mapping.reserved &&
    decide (∀ page, mapping.frameCaps page = 0 ∧ mapping.capAllocated page = false)

/-- The process and the resources are all zero, as two `memcmp`s see them. -/
def World.zeroed (world : World) : Bool :=
  let resources := world.resources
  decide (world.process = {}) && decide (∀ index, resources.slots index = {}) &&
    decide (∀ index, resources.sync index = {}) && decide (resources.console = {}) &&
    !resources.heap.reserved && resources.heap.peakPages == 0 &&
    (List.range lunaChildHeapPages).all (fun page => !resources.heap.mapped page) &&
    resources.disk.zeroed && resources.net.zeroed && decide (resources.netCaps = {})

/-- One turn of `audit_child_start_rollbacks`. -/
def auditFailpoint (settings : StartFailpoint → Setting) (failpoint : StartFailpoint) :
    Attempt Root := fun root =>
  let setting := { settings failpoint with failpoint := failpoint }
  let started := startChild setting root.world
  if started.1 ≠ 1 ∨ started.2.zeroed = false then
    let world := if started.1 = 0 then (destroyChild setting started.2).2 else started.2
    (false, { root with world := world, mappedPages := 0 })
  else (true, { root with world := started.2, mappedPages := 0 })

def auditChildStartRollbacks (settings : StartFailpoint → Setting) : Attempt Root :=
  forEach (auditFailpoint settings)
    [.process, .heap, .disk, .network, .resourcePool, .controlCap, .commandCap]

def lunaRestartStressRounds : Nat := 100

/-- What a run finds. -/
structure Environment where
  reserves : Bool
  mapsPage : Bool
  timerInit : Bool
  networkInit : Bool
  diskInit : Bool
  controlAlloc : Bool
  commandAlloc : Bool
  audit : StartFailpoint → Setting
  fault : Life
  /-- The message at the fault endpoint: `none` if none comes, else whether it is the VM fault
  at the private page and the page still holds the secret. -/
  faultMessage : Option Bool
  stress : Nat → Life
  clean : Life
  /-- The calls of the last `destroy_child`. -/
  out : Setting

/-- An allocation that stands to be freed behind `out`. -/
def allocate (succeeds : Bool) (held : RootHeld) : Attempt Root := fun root =>
  if succeeds then
    (true, { root with
      acquired := held :: root.acquired
      flagged := Function.update root.flagged held true })
  else (false, root)

def receiveFault (message : Option Bool) : Attempt Root := fun root =>
  match message with
  | none => (false, { root with waiting := true })
  | some expected => (expected, root)

/-- One child from `boot_child` to `release_child`. -/
def liveOnce (life : Life) (mode : Mode) (fault : Attempt Root) : Attempt Root :=
  (startLife life).andThen <| (manageLife life mode).andThen <| fault.andThen <|
  releaseChild life.setting

/-- `luna_isolation_smoke` up to `out`. -/
def smokeBody (environment : Environment) : Attempt Root :=
  (allocate environment.timerInit .timer).andThen <|
  (require fun _ => environment.networkInit).andThen <|
  (require fun _ => environment.diskInit).andThen <|
  (allocate environment.controlAlloc .controlEp).andThen <|
  (allocate environment.commandAlloc .commandEp).andThen <|
  (auditChildStartRollbacks environment.audit).andThen <|
  (liveOnce environment.fault .fault (receiveFault environment.faultMessage)).andThen <|
  (forEach (fun round => liveOnce (environment.stress round) .stress (always id))
    (List.range lunaRestartStressRounds)).andThen <|
  liveOnce environment.clean .clean (always id)

def Root.free (root : Root) (held : RootHeld) : Root :=
  { root with released := held :: root.released }

def Root.freeFlagged (root : Root) (held : RootHeld) : Root :=
  if root.flagged held then root.free held else root

/-- What stands behind `out`. -/
def smokeOut (environment : Environment) (root : Root) : Root :=
  let destroyed := if root.childLive then (destroyLife environment.out root).2 else root
  ((((destroyed.freeFlagged .commandEp).freeFlagged .controlEp).freeFlagged .timer).free
    .privatePage).free .privateReservation

def lunaIsolationSmoke (environment : Environment) (root : Root) : Bool × Root :=
  if !environment.reserves then (false, root)
  else
    let reserved := { root with acquired := .privateReservation :: root.acquired }
    if !environment.mapsPage then (false, reserved.free .privateReservation)
    else
      let ended := smokeBody environment { reserved with
        acquired := .privatePage :: reserved.acquired }
      if ended.2.waiting then ended else (ended.1, smokeOut environment ended.2)


/-! ## A living child -/

/-- What the heap frames answer for. -/
def Process.frames (process : Process) : List Held :=
  process.heapFrames.map fun entry => .frame entry.2

/-- Every heap frame backs a page that is marked as mapped. -/
def Backed (world : World) : Prop :=
  ∀ entry ∈ world.process.heapFrames,
    entry.1 < lunaChildHeapPages ∧ world.resources.heap.mapped entry.1 = true

/-- A child that was started: what is outstanding is in the records, in its CSpace or in its
VSpace. -/
structure Living (world : World) : Prop where
  ledger : Ledger (fun held => world.process.held.count held + world.resources.count held +
    world.process.frames.count held) world
  configured : world.process.cspace ≠ 0
  backed : Backed world
  reserved : world.resources.heap.reserved = false → world.process.heapFrames = []

variable {world : World}

theorem Owns.living {failures : Nat} (owns : Owns [] failures world) : Living world where
  ledger := by
    refine owns.ledger.weaken fun held => ?_
    rw [Process.frames, owns.heapFrames]
    rfl
  configured := owns.configured
  backed := by
    intro entry member
    rw [owns.heapFrames] at member
    cases member
  reserved := fun _ => owns.heapFrames

/-- New pages bring new frames. -/
theorem Ledger.newPages {left : Outstanding} (count : Nat) : ∀ {world : World} (first : Nat),
    Ledger (fun held => left held + world.process.frames.count held) world →
    Ledger (fun held => left held + (world.newPages first count).process.frames.count held)
      (world.newPages first count) := by
  induction count with
  | zero => exact fun _ ledger => ledger
  | succ count inductionHypothesis =>
      intro world first ledger
      unfold World.newPages
      refine inductionHypothesis _ ⟨fun held => ?_, ?_, fun held member => ?_, Nat.succ_pos _⟩
      · have before := ledger.balance held
        simp only [World.acquire, World.bump, Process.frames, List.map_cons, List.count_cons]
          at before ⊢
        omega
      · have unknown : Held.frame world.next ∉ world.acquired := fun member =>
          Nat.lt_irrefl _ (ledger.fresh _ member)
        exact List.nodup_cons.mpr ⟨unknown, ledger.nodup⟩
      · rcases List.mem_cons.mp member with rfl | member
        · exact Nat.lt_succ_self _
        · exact Nat.lt_succ_of_lt (ledger.fresh held member)

/-- What new pages leave alone. -/
theorem newPages_kept (count : Nat) : ∀ (world : World) (first : Nat),
    (world.newPages first count).resources = world.resources ∧
      (world.newPages first count).process.cspace = world.process.cspace ∧
      (world.newPages first count).process.held = world.process.held := by
  induction count with
  | zero => exact fun _ _ => ⟨rfl, rfl, rfl⟩
  | succ count inductionHypothesis => exact fun world first => inductionHypothesis _ (first + 1)

/-- The frames of new pages are within them. -/
theorem newPages_frames (count : Nat) : ∀ (world : World) (first : Nat),
    ∀ entry ∈ (world.newPages first count).process.heapFrames,
      entry ∈ world.process.heapFrames ∨ first ≤ entry.1 ∧ entry.1 < first + count := by
  induction count with
  | zero => exact fun _ _ entry member => .inl member
  | succ count inductionHypothesis =>
      intro world first entry member
      rcases inductionHypothesis _ _ entry member with old | new
      · rcases List.mem_cons.mp old with rfl | old
        · exact .inr ⟨Nat.le_refl _, Nat.lt_add_of_pos_right (Nat.succ_pos _)⟩
        · exact .inl old
      · exact .inr ⟨by omega, by omega⟩

/-- Unmapped pages give their frames back. -/
theorem Ledger.unmapPages {left : Outstanding} (first count : Nat)
    (ledger : Ledger (fun held => left held + world.process.frames.count held) world) :
    Ledger (fun held => left held + (world.unmapPages first count).process.frames.count held)
      (world.unmapPages first count) := by
  refine ⟨fun held => ?_, ledger.nodup, ledger.fresh, ledger.positive⟩
  have before := ledger.balance held
  have parts : ∀ (inside : Nat × Handle → Bool) (entries : List (Nat × Handle)),
      (entries.map fun entry => Held.frame entry.2).count held =
        ((entries.filter fun entry => !inside entry).map fun entry => Held.frame entry.2).count
          held + ((entries.filter inside).map fun entry => Held.frame entry.2).count held := by
    intro inside entries
    have split := (List.filter_append_perm inside entries).map fun entry => Held.frame entry.2
    rw [← split.count_eq, List.map_append, List.count_append, Nat.add_comm]
  dsimp only [World.unmapPages, Process.frames] at before ⊢
  rw [before, parts fun entry => decide (first ≤ entry.1 ∧ entry.1 < first + count),
    List.count_append]
  omega

/-- The frames left are those outside the pages. -/
theorem mem_unmapPages {first count : Nat} {entry : Nat × Handle} :
    entry ∈ (world.unmapPages first count).process.heapFrames ↔
      entry ∈ world.process.heapFrames ∧ ¬InRun (first, count) entry.1 := by
  unfold World.unmapPages InRun
  simp only [List.mem_filter, Bool.not_eq_true', decide_eq_false_iff_not]

/-! ## Serving memory requests -/

variable {root : Root}

theorem acceptEvent_ne_serviced (manager : Manager) (expectation : Expectation)
    (message : Message) : acceptEvent manager expectation message ≠ .serviced := by
  unfold acceptEvent
  split
  · simp
  split
  · simp
  split <;> simp

/-- A memory event is served by `service_memory_request` only. -/
theorem receive_requested {manager : Manager} {input : Input} {event : PageHeap.Event}
    (serviced : (Child.receive manager input).1 = .serviced)
    (decoded : memoryEvent input.message.event = some event) :
    serviceMemoryRequest manager event input.message.second input.message.third
      input.vspaceError = .ok (Child.receive manager input).2 := by
  unfold Child.receive at serviced ⊢
  simp only [decoded] at serviced ⊢
  cases request : input.message.isRequest input.expectation.badge with
  | true =>
      simp only [request] at serviced ⊢
      split at serviced
      next manager served => exact served
      next refused => cases serviced
  | false =>
      simp only [request, Bool.false_and, if_false, Bool.false_eq_true] at serviced
      exact absurd serviced (acceptEvent_ne_serviced _ _ _)

theorem admits_reserved {manager : Manager} {request pageCount : Nat}
    (admitted : manager.admits request pageCount = true) : manager.reserved = true := by
  simp only [Manager.admits, Bool.and_eq_true] at admitted
  exact admitted.1.1.1.1.1

theorem Living.mapPages {heap : HeapResource} {first count : Nat} (living : Living world)
    (inside : first + count ≤ lunaChildHeapPages)
    (marks : heap.mapped = Bitmap.fill world.resources.heap.mapped first count true)
    (reserved : heap.reserved = true) : Living ((world.newPages first count).setHeap heap) := by
  obtain ⟨resources, cspace, held⟩ := newPages_kept count world first
  refine ⟨?_, ?_, fun entry member => ?_, fun unreserved => ?_⟩
  · have ledger := Ledger.newPages count first living.ledger
    refine { ledger.weaken fun other => ?_ with }
    simp only [World.setHeap, held, resources]
    rfl
  · exact cspace ▸ living.configured
  · unfold World.setHeap
    dsimp only
    rw [marks, Bitmap.fill_true_eq_true_iff]
    rcases newPages_frames count _ _ entry member with old | new
    · obtain ⟨small, marked⟩ := living.backed entry old
      exact ⟨small, .inr marked⟩
    · exact ⟨Nat.lt_of_lt_of_le new.2 inside, .inl new⟩
  · exact absurd (reserved.symm.trans unreserved) (by simp)

theorem Living.unmapPages {heap : HeapResource} {first count : Nat} (living : Living world)
    (marks : heap.mapped = Bitmap.fill world.resources.heap.mapped first count false)
    (reserved : heap.reserved = true) :
    Living ((world.unmapPages first count).setHeap heap) := by
  refine ⟨?_, living.configured, fun entry member => ?_, fun unreserved => ?_⟩
  · exact { Ledger.unmapPages first count living.ledger with }
  · unfold World.setHeap
    dsimp only
    rw [marks, Bitmap.fill_false_eq_true_iff]
    obtain ⟨old, outside⟩ := mem_unmapPages.mp member
    obtain ⟨small, marked⟩ := living.backed entry old
    exact ⟨small, outside, marked⟩
  · exact absurd (reserved.symm.trans unreserved) (by simp)

/-- A request that is served leaves the frames and the records in step. -/
theorem Living.serve {event : PageHeap.Event} {request pageCount : Nat} {vspaceError : Int}
    {target : Manager} (living : Living root.world)
    (served : serviceMemoryRequest root.heap event request pageCount vspaceError = .ok target) :
    Living ((root.mapPages event request pageCount).setHeap target).world := by
  obtain ⟨admitted, changed⟩ := serviceMemoryRequest_cases served
  have reserved : root.world.resources.heap.reserved = true := admits_reserved admitted
  have inside := (admits_inside admitted).1
  rcases changed with ⟨rfl, -, rfl⟩ | ⟨rfl, -, rfl⟩
  · exact living.mapPages inside rfl reserved
  · exact living.unmapPages rfl reserved

theorem Living.receive (living : Living root.world) (input : Input) :
    Living (root.receive input).2.world := by
  unfold Root.receive
  dsimp only
  split
  next event serviced decoded => exact living.serve (receive_requested serviced decoded)
  next => exact living

/-! ## Destroying a living child -/

section Destroy

variable {resources : Resources} {left : Outstanding}

/-- Other heap frames. -/
def World.withFrames (world : World) (frames : List (Nat × Handle)) : World :=
  { world with process := { world.process with heapFrames := frames } }

variable {frames : List (Nat × Handle)}

theorem deleteChildCap_withFrames (cap : Handle) :
    (world.withFrames frames).deleteChildCap cap =
      (world.deleteChildCap cap).withFrames frames := by
  unfold World.deleteChildCap World.withFrames
  dsimp only
  split
  · rfl
  · split <;> rfl

theorem destroySlot_withFrames (index : Fin lunaResourceSlots) :
    (world.withFrames frames).destroySlot index = (world.destroySlot index).withFrames frames := by
  unfold World.destroySlot
  have records : (world.withFrames frames).resources = world.resources := rfl
  dsimp only
  rw [records, deleteChildCap_withFrames, deleteChildCap_withFrames]
  split <;> split <;> rfl

theorem destroySync_withFrames (index : Fin lunaSyncSlots) :
    (world.withFrames frames).destroySync index = (world.destroySync index).withFrames frames := by
  unfold World.destroySync
  have records : (world.withFrames frames).resources = world.resources := rfl
  dsimp only
  rw [records, deleteChildCap_withFrames]
  split <;> rfl

theorem destroyConsole_withFrames :
    (world.withFrames frames).destroyConsole = world.destroyConsole.withFrames frames := by
  unfold World.destroyConsole
  have records : (world.withFrames frames).resources = world.resources := rfl
  dsimp only
  rw [records, deleteChildCap_withFrames, deleteChildCap_withFrames, deleteChildCap_withFrames,
    deleteChildCap_withFrames]
  split <;> split <;> rfl

theorem foldl_withFrames {Index : Type} {step : World → Index → World}
    (commutes : ∀ world index, step (world.withFrames frames) index =
      (step world index).withFrames frames) (indices : List Index) :
    indices.foldl step (world.withFrames frames) =
      (indices.foldl step world).withFrames frames := by
  induction indices generalizing world with
  | nil => rfl
  | cons index rest inductionHypothesis =>
      rw [List.foldl_cons, List.foldl_cons, commutes]
      exact inductionHypothesis

/-- `destroy_child` at the heap: the frames are outstanding besides `left`. -/
structure Emptying (resources : Resources) (left : Outstanding) (world : World) : Prop where
  ledger : Ledger (fun held => world.process.held.count held + left held +
    world.process.frames.count held) world
  records : world.resources = resources
  configured : world.process.cspace ≠ 0
  backed : Backed world

theorem Emptying.counted (emptying : Emptying resources left world) (calls failures : Nat) :
    Emptying resources left { world with
      calls := calls
      failures := failures } :=
  { emptying with ledger := { emptying.ledger with } }

/-- A page of a span is mapped and unmapped again. -/
theorem Emptying.materialized (start : Nat) (emptying : Emptying resources left world) :
    Emptying resources left ((world.newPages start 1).unmapPages start 1) := by
  have ledger := Ledger.unmapPages start 1 (Ledger.newPages 1 start emptying.ledger)
  refine ⟨{ ledger with }, emptying.records, emptying.configured, fun entry member => ?_⟩
  obtain ⟨either, outside⟩ := mem_unmapPages.mp member
  rcases newPages_frames 1 world start entry either with old | new
  · exact emptying.backed entry old
  · exact absurd new outside

theorem Emptying.materialize {setting : Setting} (emptying : Emptying resources left world) :
    Emptying resources left (materializeHeapReservationMetadata setting world).2 := by
  unfold materializeHeapReservationMetadata
  split
  · exact emptying
  refine (meets_forEach (fun _ => Emptying resources left) (fun start _ => ?_) _).either emptying
  intro world emptying
  dsimp only [materializeSpan]
  split
  · exact ⟨fun _ => emptying, fun _ => emptying⟩
  refine Meets.andThen (fun world => Emptying resources left (world.unmapPages start 1))
    (meets_call (fun _ emptying => emptying.counted _ _)
      (fun world emptying => emptying.materialized start) fun _ emptying => emptying.counted _ _)
    (meets_always fun _ => id) world emptying

/-- The frames left after some runs are those outside all of them. -/
theorem mem_unmapRuns (runs : List (Nat × Nat)) : ∀ (world : World) {entry : Nat × Handle},
    entry ∈ (runs.foldl (fun world run => world.unmapPages run.1 run.2) world).process.heapFrames →
      entry ∈ world.process.heapFrames ∧ ∀ run ∈ runs, ¬InRun run entry.1 := by
  induction runs with
  | nil => exact fun _ _ member => ⟨member, by simp⟩
  | cons run rest inductionHypothesis =>
      intro world entry member
      obtain ⟨kept, outside⟩ := inductionHypothesis _ member
      obtain ⟨old, apart⟩ := mem_unmapPages.mp kept
      exact ⟨old, by simpa using ⟨apart, fun first count => outside (first, count)⟩⟩

/-- The run loop takes every frame. -/
theorem Emptying.unmapRuns (emptying : Emptying resources left world) :
    Teardown resources left (world.unmapRuns lunaChildHeapPages 0) := by
  rw [unmapRuns_eq_foldl]
  have keeps : ∀ (runs : List (Nat × Nat)) (world : World),
      Emptying resources left world → Emptying resources left
        (runs.foldl (fun world run => world.unmapPages run.1 run.2) world) := by
    intro runs
    induction runs with
    | nil => exact fun _ emptying => emptying
    | cons run rest inductionHypothesis =>
        intro world emptying
        refine inductionHypothesis _ ⟨?_, emptying.records, emptying.configured, ?_⟩
        · exact { Ledger.unmapPages run.1 run.2 emptying.ledger with }
        · exact fun entry member => emptying.backed entry (mem_unmapPages.mp member).1
  have emptied := keeps (heapRuns world.resources.heap.mapped lunaChildHeapPages 0) world
    emptying
  have none : ((heapRuns world.resources.heap.mapped lunaChildHeapPages 0).foldl
      (fun world run => world.unmapPages run.1 run.2) world).process.heapFrames = [] := by
    rw [List.eq_nil_iff_forall_not_mem]
    intro entry member
    obtain ⟨old, outside⟩ := mem_unmapRuns _ _ member
    obtain ⟨run, found, within⟩ := ((runsExact _).covers entry.1).mpr (emptying.backed entry old)
    exact outside run found within
  refine ⟨emptied.ledger.weaken fun held => ?_, emptied.records, emptied.configured, none⟩
  rw [Process.frames, none]
  rfl

theorem Emptying.destroyHeap {setting : Setting} (emptying : Emptying resources left world)
    (reserved : resources.heap.reserved = false → world.process.heapFrames = []) :
    Teardown resources left (World.destroyHeap setting world).2 := by
  unfold World.destroyHeap
  split
  next isReserved =>
    exact emptying.materialize.unmapRuns
  next unreserved =>
    rw [emptying.records] at unreserved
    have none := reserved (by simpa using unreserved)
    refine ⟨emptying.ledger.weaken fun held => ?_, emptying.records, emptying.configured, none⟩
    rw [Process.frames, none]
    rfl

/-- What the records of the windows answer for. -/
def Resources.windows (resources : Resources) : Outstanding := fun held =>
  resources.net.count held + resources.disk.count held

/-- Up to the heap, `destroy_child` does not look at the frames. -/
theorem Living.emptying (living : Living world) (active : Bool) :
    Emptying world.resources world.resources.windows
      ((List.finRange lunaSyncSlots).foldl World.destroySync
        ((List.finRange lunaResourceSlots).foldl World.destroySlot
          { world with childActive := active })).destroyConsole ∧
      ((List.finRange lunaSyncSlots).foldl World.destroySync
        ((List.finRange lunaResourceSlots).foldl World.destroySlot
          { world with childActive := active })).destroyConsole.process.heapFrames =
        world.process.heapFrames := by
  have ledger : Ledger (fun held => world.process.held.count held +
      ((((world.process.frames.count held + world.resources.windows held) +
        world.resources.console.held.count held) + world.resources.syncCount held) +
        world.resources.slotsCount held)) world := by
    refine living.ledger.weaken fun held => ?_
    rw [Resources.count, Resources.windows]
    omega
  have stripped : Teardown world.resources (fun held => (((world.process.frames.count held +
      world.resources.windows held) + world.resources.console.held.count held) +
      world.resources.syncCount held) + world.resources.slotsCount held)
      (World.withFrames { world with childActive := active } []) :=
    ⟨{ ledger with }, rfl, living.configured, rfl⟩
  have emptied := stripped.destroySlots.destroySyncs.destroyConsole
  have split : { world with childActive := active } =
      (World.withFrames { world with childActive := active } []).withFrames
        world.process.heapFrames := rfl
  rw [split, foldl_withFrames (fun _ => destroySlot_withFrames),
    foldl_withFrames (fun _ => destroySync_withFrames), destroyConsole_withFrames]
  generalize ((List.finRange lunaSyncSlots).foldl World.destroySync
    ((List.finRange lunaResourceSlots).foldl World.destroySlot
      (World.withFrames { world with childActive := active } []))).destroyConsole = emptiedWorld
    at emptied ⊢
  have backed : Backed (emptiedWorld.withFrames world.process.heapFrames) := by
    have records : (emptiedWorld.withFrames world.process.heapFrames).resources =
        world.resources := emptied.records
    unfold Backed
    rw [records]
    exact living.backed
  refine ⟨⟨?_, emptied.records, emptied.configured, backed⟩, rfl⟩
  have balanced : Ledger (fun held => emptiedWorld.process.held.count held +
      world.resources.windows held + world.process.frames.count held) emptiedWorld := by
    refine emptied.ledger.weaken fun held => ?_
    omega
  exact { balanced with }

/-- Whatever a living child holds, `destroy_child` releases it, each thing once, and clears
the records. -/
theorem Living.destroyed {setting : Setting} (living : Living world) :
    Clean (destroyChild setting world).2 := by
  have quiet : ∃ active, (if setting.networkReady then { world with childActive := false }
      else world) = { world with childActive := active } := by
    split
    · exact ⟨false, rfl⟩
    · exact ⟨world.childActive, rfl⟩
  obtain ⟨active, same⟩ := quiet
  unfold destroyChild
  dsimp only
  rw [same]
  obtain ⟨emptying, frames⟩ := living.emptying active
  have heap : Teardown world.resources world.resources.windows (World.destroyHeap setting _).2 :=
    emptying.destroyHeap fun unreserved => frames.trans (living.reserved unreserved)
  obtain ⟨processLedger, processRecords⟩ := heap.destroyProcess
  obtain ⟨diskLedger, diskRecords⟩ :=
    releasePages_discharges diskWindow processLedger processRecords
  obtain ⟨netLedger, -⟩ := releasePages_discharges netWindow
    (diskLedger.weaken fun _ => Nat.zero_add _) diskRecords
  exact ⟨{ netLedger with }, rfl, rfl⟩

end Destroy

/-! ## The whole run -/

/-- `luna_isolation_smoke` holds what its flags say, and has given nothing back yet. -/
structure Balanced (root : Root) : Prop where
  released : root.released = []
  acquired : ∀ held, root.acquired.count held =
    if held = .privateReservation ∨ held = .privatePage ∨ root.flagged held = true then 1 else 0

/-- No child lives. -/
structure Between (flags : RootHeld → Bool) (root : Root) : Prop where
  clean : Clean root.world
  childLive : root.childLive = false
  waiting : root.waiting = false
  flagged : root.flagged = flags
  balanced : Balanced root

/-- A child lives. -/
structure Occupied (flags : RootHeld → Bool) (root : Root) : Prop where
  living : Living root.world
  childLive : root.childLive = true
  waiting : root.waiting = false
  flagged : root.flagged = flags
  balanced : Balanced root

/-- What is acquired for a child is a living child's. -/
structure Accounted (root : Root) : Prop where
  living : root.childLive = true → Living root.world
  clean : root.childLive = false → Clean root.world

/-- Where `luna_isolation_smoke` goes to `out`, or waits. -/
structure Left (root : Root) : Prop where
  accounted : Accounted root
  balanced : Balanced root

variable {flags : RootHeld → Bool}

theorem Between.left (between : Between flags root) : Left root where
  accounted := ⟨fun live => absurd (between.childLive.symm.trans live) (by simp),
    fun _ => between.clean⟩
  balanced := between.balanced

theorem Occupied.left (occupied : Occupied flags root) : Left root where
  accounted := ⟨fun _ => occupied.living,
    fun dead => absurd (occupied.childLive.symm.trans dead) (by simp)⟩
  balanced := occupied.balanced

theorem Left.wait (left : Left root) : Left { root with waiting := true } where
  accounted := ⟨left.accounted.living, left.accounted.clean⟩
  balanced := ⟨left.balanced.released, left.balanced.acquired⟩

theorem meets_allocate {held : RootHeld} (succeeds : Bool) (unflagged : flags held = false)
    (separate : held ≠ .privateReservation ∧ held ≠ .privatePage) :
    Meets (Between flags) (allocate succeeds held)
      (Between (Function.update flags held true)) Left := by
  intro root between
  unfold allocate
  cases succeeds with
  | false => exact ⟨by simp, fun _ => between.left⟩
  | true =>
      rw [if_pos rfl]
      refine ⟨fun _ => ?_, by simp⟩
      refine ⟨between.clean, between.childLive, between.waiting, ?_, between.balanced.released, ?_⟩
      · rw [between.flagged]
      · intro other
        have before := between.balanced.acquired other
        rw [between.flagged] at before
        rw [List.count_cons, between.flagged]
        by_cases same : other = held
        · subst same
          simp [separate, unflagged] at before
          simp [before]
        · simp [Ne.symm same, same, before]

theorem Occupied.receive (occupied : Occupied flags root) (input : Input) :
    Occupied flags (root.receive input).2 := by
  have living := occupied.living.receive input
  unfold Root.receive at living ⊢
  dsimp only at living ⊢
  split at living
  next event serviced decoded =>
    cases event with
    | memoryMap => exact ⟨living, occupied.childLive, occupied.waiting, occupied.flagged,
        occupied.balanced.released, occupied.balanced.acquired⟩
    | memoryUnmap => exact ⟨living, occupied.childLive, occupied.waiting, occupied.flagged,
        occupied.balanced.released, occupied.balanced.acquired⟩
  next => exact occupied

theorem meets_receiveEventVariant (expectation : Expectation) (messages : List Input) :
    Meets (Occupied flags) (Root.receiveEventVariant expectation messages) (Occupied flags)
      Left := by
  induction messages with
  | nil => exact fun root occupied => ⟨by simp [Root.receiveEventVariant],
      fun _ => occupied.left.wait⟩
  | cons input rest inductionHypothesis =>
      intro root occupied
      have received := occupied.receive { input with expectation := expectation }
      unfold Root.receiveEventVariant
      dsimp only
      split
      next => exact inductionHypothesis _ received
      next => exact ⟨by simp, fun _ => received.left⟩
      next => exact ⟨fun _ => received, by simp⟩

theorem meets_manageStep (mode : Mode) (meeting : Meeting) (step : ManagerStep) :
    Meets (Occupied flags) (manageStep mode meeting step) (Occupied flags) Left := by
  cases step with
  | receive expected alternative => exact meets_receiveEventVariant _ _
  | send message =>
      intro root occupied
      unfold manageStep
      dsimp only
      split
      · exact ⟨fun _ => occupied, by simp⟩
      · exact ⟨by simp, fun _ => occupied.left.wait⟩
  | verifyIrq => exact meets_require fun _ occupied => occupied.left

theorem meets_startLife (life : Life) :
    Meets (Between flags) (startLife life) (Occupied flags) Left := by
  intro root between
  have settled := settled_startChild { life.setting with failpoint := .none } between.clean
  unfold startLife
  dsimp only
  split
  next failed =>
    refine ⟨by simp, fun _ => ⟨⟨?_, fun _ => settled.rolledBack failed⟩,
      between.balanced.released, between.balanced.acquired⟩⟩
    exact fun live => absurd (between.childLive.symm.trans live) (by simp)
  next started =>
    refine ⟨fun _ => ⟨?_, rfl, between.waiting, between.flagged, between.balanced.released,
      between.balanced.acquired⟩, by simp⟩
    exact (settled.started (not_not.mp started)).1.living

theorem meets_manageLife (life : Life) (mode : Mode) :
    Meets (Occupied flags) (manageLife life mode) (Occupied flags) Left := fun root occupied =>
  meets_forEach (fun _ => Occupied flags)
    (fun step _ => meets_manageStep mode (life.meetings step.2) step.1) _ root occupied

theorem meets_releaseChild (setting : Setting) :
    Meets (Occupied flags) (releaseChild setting) (Between flags) Left := by
  intro root occupied
  have between : Between flags (releaseChild setting root).2 :=
    ⟨occupied.living.destroyed, rfl, occupied.waiting, occupied.flagged,
      occupied.balanced.released, occupied.balanced.acquired⟩
  exact ⟨fun _ => between, fun _ => between.left⟩

theorem meets_receiveFault (message : Option Bool) :
    Meets (Occupied flags) (receiveFault message) (Occupied flags) Left := by
  intro root occupied
  cases message with
  | none => exact ⟨by simp [receiveFault], fun _ => occupied.left.wait⟩
  | some expected => exact ⟨fun _ => occupied, fun _ => occupied.left⟩

theorem meets_liveOnce (life : Life) (mode : Mode) {fault : Attempt Root}
    (faultMeets : Meets (Occupied flags) fault (Occupied flags) Left) :
    Meets (Between flags) (liveOnce life mode fault) (Between flags) Left :=
  Meets.andThen _ (meets_startLife life) <| Meets.andThen _ (meets_manageLife life mode) <|
    Meets.andThen _ faultMeets (meets_releaseChild life.setting)

theorem meets_auditFailpoint (settings : StartFailpoint → Setting) (failpoint : StartFailpoint) :
    Meets (Between flags) (auditFailpoint settings failpoint) (Between flags) Left := by
  intro root between
  have settled := settled_startChild { settings failpoint with failpoint := failpoint }
    between.clean
  have kept : ∀ world, Clean world → Between flags { root with world := world, mappedPages := 0 } :=
    fun world clean => ⟨clean, between.childLive, between.waiting, between.flagged,
      between.balanced.released, between.balanced.acquired⟩
  unfold auditFailpoint
  dsimp only
  split
  next failed =>
    refine ⟨by simp, fun _ => (kept _ ?_).left⟩
    split
    next started => exact (settled.started started).1.toPartial.destroyed
    next rolledBack => exact settled.rolledBack rolledBack
  next passed =>
    have rolledBack : (startChild { settings failpoint with failpoint := failpoint }
        root.world).1 ≠ 0 := by
      rw [not_or, not_not] at passed
      rw [passed.1]
      simp
    exact ⟨fun _ => kept _ (settled.rolledBack rolledBack), by simp⟩

theorem meets_smokeBody (environment : Environment) :
    Meets (Between fun _ => false) (smokeBody environment) Left Left := by
  have required : ∀ (flags : RootHeld → Bool) (check : Bool),
      Meets (Between flags) (require fun _ => check) (Between flags) Left :=
    fun _ _ => meets_require fun _ between => between.left
  refine Meets.andThen _ (meets_allocate _ rfl (by simp)) ?_
  refine Meets.andThen _ (required _ _) ?_
  refine Meets.andThen _ (required _ _) ?_
  refine Meets.andThen _ (meets_allocate _ (by simp) (by simp)) ?_
  refine Meets.andThen _ (meets_allocate _ (by simp) (by simp)) ?_
  refine Meets.andThen _ (meets_forEach (fun _ => Between _)
    (fun failpoint _ => meets_auditFailpoint _ failpoint) _) ?_
  refine Meets.andThen _ (meets_liveOnce _ _ (meets_receiveFault _)) ?_
  refine Meets.andThen _ (meets_forEach (fun _ => Between _)
    (fun round _ => meets_liveOnce _ _ (meets_always fun _ => id)) _) ?_
  exact (meets_liveOnce _ _ (meets_always fun _ => id)).weaken (fun _ => id)
    fun _ between => between.left

@[simp]
theorem freeFlagged_world (root : Root) (held : RootHeld) :
    (root.freeFlagged held).world = root.world := by
  unfold Root.freeFlagged
  split <;> rfl

@[simp]
theorem freeFlagged_flagged (root : Root) (held : RootHeld) :
    (root.freeFlagged held).flagged = root.flagged := by
  unfold Root.freeFlagged
  split <;> rfl

@[simp]
theorem freeFlagged_acquired (root : Root) (held : RootHeld) :
    (root.freeFlagged held).acquired = root.acquired := by
  unfold Root.freeFlagged
  split <;> rfl

@[simp]
theorem freeFlagged_waiting (root : Root) (held : RootHeld) :
    (root.freeFlagged held).waiting = root.waiting := by
  unfold Root.freeFlagged
  split <;> rfl

@[simp]
theorem count_freeFlagged (root : Root) (held other : RootHeld) :
    (root.freeFlagged held).released.count other = root.released.count other +
      if other = held ∧ root.flagged held = true then 1 else 0 := by
  unfold Root.freeFlagged
  split
  next flagged =>
    simp only [Root.free, List.count_cons, flagged, beq_iff_eq, and_true]
    congr 1
    simp [eq_comm]
  next unflagged => simp [unflagged]

/-- Everything acquired for a child was released, each thing once, the records are zero, and
the endpoints, the timer and the private page are given back. -/
structure NothingLeft (root : Root) : Prop where
  released : root.world.released.Perm root.world.acquired
  once : root.world.acquired.Nodup
  process : root.world.process = {}
  resources : root.world.resources = {}
  own : root.released.Perm root.acquired

theorem Clean.nothingLeft (clean : Clean root.world) (own : root.released.Perm root.acquired) :
    NothingLeft root where
  released := by
    rw [List.perm_iff_count]
    intro held
    rw [clean.ledger.balance held, Nat.zero_add]
  once := clean.ledger.nodup
  process := clean.process
  resources := clean.resources
  own := own

/-- Behind `out` nothing is left. -/
theorem Left.smokeOut (left : Left root) (environment : Environment) :
    NothingLeft (smokeOut environment root) := by
  obtain ⟨destroyed, same⟩ : ∃ world : World, Clean world ∧
      (if root.childLive then (destroyLife environment.out root).2 else root) =
        { root with
          world := world
          mappedPages := if root.childLive then 0 else root.mappedPages } := by
    split
    next live => exact ⟨_, (left.accounted.living live).destroyed, rfl⟩
    next dead => exact ⟨root.world, left.accounted.clean (by simpa using dead), rfl⟩
  unfold Child.smokeOut
  dsimp only
  rw [same.2]
  refine Clean.nothingLeft (by simpa [Root.free] using same.1) ?_
  rw [List.perm_iff_count]
  intro held
  have acquired := left.balanced.acquired held
  cases held <;> simp [Root.free, left.balanced.released, acquired]

theorem smokeOut_waiting (environment : Environment) :
    (smokeOut environment root).waiting = root.waiting := by
  unfold smokeOut
  dsimp only
  split <;> simp [Root.free, destroyLife]

/-! ## Nothing is left -/

/-- `luna_isolation_smoke` is given a fresh system. -/
def startedRoot : Root where
  world := freshWorld
  mappedPages := 0
  childLive := false
  flagged := fun _ => false
  waiting := false
  acquired := []
  released := []

/-- Whichever calls fail, in whichever start, and whatever the children send: nothing is left
once `luna_isolation_smoke` has returned, and while it waits, what is outstanding is the
living child's. -/
theorem smoke_leaves_nothing (environment : Environment) :
    ((lunaIsolationSmoke environment startedRoot).2.waiting = false →
      NothingLeft (lunaIsolationSmoke environment startedRoot).2) ∧
    ((lunaIsolationSmoke environment startedRoot).2.waiting = true →
      Accounted (lunaIsolationSmoke environment startedRoot).2) := by
  have clean : Clean freshWorld :=
    ⟨⟨fun _ => rfl, List.nodup_nil, by simp [freshWorld], Nat.one_pos⟩, rfl, rfl⟩
  unfold lunaIsolationSmoke
  split
  next unreserved =>
    exact ⟨fun _ => Clean.nothingLeft clean .nil, fun waits => absurd waits (by simp [startedRoot])⟩
  split
  next unmapped =>
    exact ⟨fun _ => Clean.nothingLeft clean (.refl _),
      fun waits => absurd waits (by simp [startedRoot, Root.free])⟩
  next mapped =>
    have between : Between (fun _ => false)
        { startedRoot with acquired := [.privatePage, .privateReservation] } := by
      refine ⟨clean, rfl, rfl, rfl, rfl, fun held => ?_⟩
      cases held <;> decide
    have left : Left (smokeBody environment
        { startedRoot with acquired := [.privatePage, .privateReservation] }).2 :=
      (meets_smokeBody environment).either between
    dsimp only
    split
    next waits =>
      exact ⟨fun returns => absurd (waits.symm.trans returns) (by simp), fun _ => left.accounted⟩
    next returns =>
      refine ⟨fun _ => left.smokeOut environment, fun waits => absurd waits ?_⟩
      rw [smokeOut_waiting]
      exact returns

end Luna.Child
