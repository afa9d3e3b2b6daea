import Luna.Lib.Attempt
import Luna.Lib.Tally
import Mathlib.Data.List.FinRange

/-!
# Starting and destroying the child

`start_child` of `isolation_manager.c` builds the child step by step, and every
step may fail.  `destroy_child` goes by what the bookkeeping in
`luna_child_resources` says has been acquired.  The world keeps two histories:
what was acquired and what was released, each thing under a handle of its own.
-/

namespace Luna.Child

/-- `seL4_CPtr`; 0 is `seL4_CapNull`. -/
abbrev Handle := Nat

def lunaResourceSlots : Nat := 49
def lunaSyncSlots : Nat := 96
def lunaDiskIoPages : Nat := 16
def lunaNetIoPages : Nat := 17
def lunaChildHeapPages : Nat := 8192
/-- `BIT(seL4_LargePageBits - seL4_PageBits)`. -/
def spanPages : Nat := 512

/-- A thing that can be leaked.  `slot` is a slot of the manager's CSpace and
`cap` the capability in it; `childCap` is a capability in the child's CSpace. -/
inductive Held where
  | process (handle : Handle)
  | thread (handle : Handle)
  | notification (handle : Handle)
  | slot (handle : Handle)
  | cap (handle : Handle)
  | childCap (handle : Handle)
  | frame (handle : Handle)
deriving DecidableEq

def Held.handle : Held → Handle
  | .process handle | .thread handle | .notification handle | .slot handle | .cap handle
  | .childCap handle | .frame handle => handle

/-- `sel4utils_process_t`, with the contents of its CSpace, the frame caps mapped
in its VSpace and the frames of its heap pages. -/
structure Process where
  cspace : Handle := 0
  pd : Handle := 0
  ownCspace : Bool := false
  ownVspace : Bool := false
  ownEp : Bool := false
  childCaps : List Handle := []
  mappedCaps : List Handle := []
  heapFrames : List (Nat × Handle) := []

/-- `struct luna_resource_slot`. -/
structure ResourceSlot where
  thread : Handle := 0
  joinNtfn : Handle := 0
  childTcb : Handle := 0
  childJoinNtfn : Handle := 0
  threadConfigured : Bool := false
  joinAllocated : Bool := false

/-- `struct luna_sync_slot`. -/
structure SyncSlot where
  ntfn : Handle := 0
  childNtfn : Handle := 0
  allocated : Bool := false

/-- `struct luna_console_resource`. -/
structure ConsoleResource where
  ioPortPath : Handle := 0
  childIoPort : Handle := 0
  slotAllocated : Bool := false
  capCreated : Bool := false

/-- `struct luna_heap_resource`. -/
structure HeapResource where
  mapped : Nat → Bool := fun _ => false
  peakPages : Nat := 0
  reserved : Bool := false

/-- What `luna_disk_mapping` and `luna_net_mapping` have in common. -/
structure WindowMapping (pages : Nat) where
  frameCaps : Fin pages → Handle := fun _ => 0
  capAllocated : Fin pages → Bool := fun _ => false
  mappedPages : Nat := 0
  reserved : Bool := false

/-- The capabilities `luna_net_mapping` keeps besides. -/
structure NetCaps where
  childRxNtfn : Handle := 0
  childTxNtfn : Handle := 0
  childTxSubmitNtfn : Handle := 0

/-- `struct luna_child_resources`. -/
structure Resources where
  slots : Fin lunaResourceSlots → ResourceSlot := fun _ => {}
  sync : Fin lunaSyncSlots → SyncSlot := fun _ => {}
  console : ConsoleResource := {}
  heap : HeapResource := {}
  disk : WindowMapping lunaDiskIoPages := {}
  net : WindowMapping lunaNetIoPages := {}
  netCaps : NetCaps := {}

/-- `calls` and `failures` count the calls that may fail and those that did. -/
structure World where
  calls : Nat
  failures : Nat
  next : Handle
  acquired : List Held
  released : List Held
  process : Process
  resources : Resources
  childActive : Bool

/-- `enum luna_start_failpoint`. -/
inductive StartFailpoint where
  | none
  | process
  | heap
  | disk
  | network
  | resourcePool
  | controlCap
  | commandCap
deriving DecidableEq

/-- What a start finds: which calls fail, what `sel4utils_configure_process_custom`
grants, the manager's own capabilities, the disk and the network. -/
structure Setting where
  fails : Nat → Bool
  ownCspace : Bool
  ownVspace : Bool
  ownEp : Bool
  managerPd : Handle
  managerCnode : Handle
  diskReady : Bool
  networkReady : Bool
  activate : Bool
  failpoint : StartFailpoint

namespace World

def acquire (world : World) (held : Held) : World :=
  { world with acquired := held :: world.acquired }

def release (world : World) (held : Held) : World :=
  { world with released := held :: world.released }

/-- Take a new handle. -/
def bump (world : World) : World := { world with next := world.next + 1 }

def setSlot (world : World) (index : Fin lunaResourceSlots) (slot : ResourceSlot) : World :=
  { world with resources := { world.resources with
      slots := Function.update world.resources.slots index slot } }

def setSync (world : World) (index : Fin lunaSyncSlots) (slot : SyncSlot) : World :=
  { world with resources := { world.resources with
      sync := Function.update world.resources.sync index slot } }

def setConsole (world : World) (console : ConsoleResource) : World :=
  { world with resources := { world.resources with console := console } }

def setNetCaps (world : World) (caps : NetCaps) : World :=
  { world with resources := { world.resources with netCaps := caps } }

end World

/-- A call that may fail; a failing call acquires nothing. -/
def call (setting : Setting) (effect : World → World) : Attempt World := fun world =>
  if setting.fails world.calls then
    (false, { world with
      calls := world.calls + 1
      failures := world.failures + 1 })
  else (true, effect { world with calls := world.calls + 1 })

/-- `vka_cnode_delete` and `vka_cspace_free_path`: deleting and freeing do not fail. -/
def World.deleteCap (world : World) (handle : Handle) : World := world.release (.cap handle)

def World.freePath (world : World) (handle : Handle) : World := world.release (.slot handle)

/-- `sel4utils_copy_cap_to_process` and `sel4utils_mint_cap_to_process`; `keep` is
what the caller does with the slot it is given. -/
def World.copyCapToProcess (world : World) (keep : World → Handle → World) : World :=
  keep { world.bump.acquire (.childCap world.next) with
    process := { world.process with childCaps := world.next :: world.process.childCaps } }
    world.next

/-- `delete_child_cap`. -/
def World.deleteChildCap (world : World) (cap : Handle) : World :=
  if cap = 0 ∨ world.process.cspace = 0 then world
  else if cap ∈ world.process.childCaps then
    { world.release (.childCap cap) with
      process := { world.process with childCaps := world.process.childCaps.erase cap } }
  else world

section Windows

variable {pages : Nat}

/-- How a window is found in the resources. -/
structure Window (pages : Nat) where
  get : Resources → WindowMapping pages
  set : Resources → WindowMapping pages → Resources

def Window.update (window : Window pages) (world : World)
    (change : WindowMapping pages → WindowMapping pages) : World :=
  { world with resources := window.set world.resources (change (window.get world.resources)) }

/-- The body of the page loops of `map_persistent_disk` and
`luna_network_map_child`. -/
def mapPage (setting : Setting) (window : Window pages) (page : Fin pages) : Attempt World :=
  -- vspace_get_cap
  (call setting id).andThen <|
  -- vka_cspace_alloc_path
  (call setting fun world => window.update (world.bump.acquire (.slot world.next))
    fun mapping => { mapping with
      frameCaps := Function.update mapping.frameCaps page world.next }).andThen <|
  ((call setting fun world => window.update
    (world.acquire (.cap ((window.get world.resources).frameCaps page)))
    fun mapping => { mapping with
      capAllocated := Function.update mapping.capAllocated page true }).orUndo
    fun world => world.freePath ((window.get world.resources).frameCaps page)).andThen <|
  -- vspace_map_pages_at_vaddr
  call setting fun world => window.update
    { world with process := { world.process with
      mappedCaps := (window.get world.resources).frameCaps page :: world.process.mappedCaps } }
    fun mapping => { mapping with mappedPages := mapping.mappedPages + 1 }

/-- Reserve the window's range and map its pages. -/
def mapWindow (setting : Setting) (window : Window pages) : Attempt World :=
  (call setting fun world => window.update world fun mapping =>
    { mapping with reserved := true }).andThen <|
  Attempt.forEach (mapPage setting window) (List.finRange pages)

/-- The tail of `destroy_child`'s frame loops: page `page` of a window. -/
def World.releasePage (world : World) (window : Window pages) (mapped : Nat) (page : Fin pages) :
    World :=
  if mapped ≤ page.val ∧ (window.get world.resources).capAllocated page = true then
    (world.deleteCap ((window.get world.resources).frameCaps page)).freePath
      ((window.get world.resources).frameCaps page)
  else world

end Windows

def diskWindow : Window lunaDiskIoPages where
  get resources := resources.disk
  set resources mapping := { resources with disk := mapping }

def netWindow : Window lunaNetIoPages where
  get resources := resources.net
  set resources mapping := { resources with net := mapping }

def mapPersistentDisk (setting : Setting) : Attempt World :=
  (Attempt.require fun _ => setting.diskReady).andThen (mapWindow setting diskWindow)

def lunaNetworkMapChild (setting : Setting) : Attempt World :=
  (Attempt.require fun _ => setting.networkReady).andThen <|
  (mapWindow setting netWindow).andThen <|
  (call setting fun world => world.copyCapToProcess fun world handle =>
    world.setNetCaps { world.resources.netCaps with childRxNtfn := handle }).andThen <|
  (call setting fun world => world.copyCapToProcess fun world handle =>
    world.setNetCaps { world.resources.netCaps with childTxNtfn := handle }).andThen <|
  (call setting fun world => world.copyCapToProcess fun world handle =>
    world.setNetCaps { world.resources.netCaps with childTxSubmitNtfn := handle }).andThen <|
  Attempt.always fun world => { world with childActive := setting.activate }

/-- One turn of the thread loop of `configure_resource_pool`. -/
def configureSlot (setting : Setting) (index : Fin lunaResourceSlots) : Attempt World :=
  -- sel4utils_configure_thread_config
  (call setting fun world => (world.bump.acquire (.thread world.next)).setSlot index
    { world.resources.slots index with
      thread := world.next
      threadConfigured := true }).andThen <|
  (call setting fun world => world.copyCapToProcess fun world handle => world.setSlot index
    { world.resources.slots index with childTcb := handle }).andThen <|
  -- vka_alloc_notification
  (call setting fun world => (world.bump.acquire (.notification world.next)).setSlot index
    { world.resources.slots index with
      joinNtfn := world.next
      joinAllocated := true }).andThen <|
  call setting fun world => world.copyCapToProcess fun world handle => world.setSlot index
    { world.resources.slots index with childJoinNtfn := handle }

/-- One turn of the notification loop of `configure_resource_pool`. -/
def configureSync (setting : Setting) (index : Fin lunaSyncSlots) : Attempt World :=
  (call setting fun world => (world.bump.acquire (.notification world.next)).setSync index
    { world.resources.sync index with
      ntfn := world.next
      allocated := true }).andThen <|
  call setting fun world => world.copyCapToProcess fun world handle => world.setSync index
    { world.resources.sync index with childNtfn := handle }

/-- The console part of `configure_resource_pool`. -/
def configureConsole (setting : Setting) : Attempt World :=
  (call setting fun world => (world.bump.acquire (.slot world.next)).setConsole
    { world.resources.console with
      ioPortPath := world.next
      slotAllocated := true }).andThen <|
  -- simple_get_IOPort_cap
  (call setting fun world => (world.acquire (.cap world.resources.console.ioPortPath)).setConsole
    { world.resources.console with capCreated := true }).andThen <|
  call setting fun world => world.copyCapToProcess fun world handle => world.setConsole
    { world.resources.console with childIoPort := handle }

def configureResourcePool (setting : Setting) : Attempt World :=
  (Attempt.forEach (configureSlot setting) (List.finRange lunaResourceSlots)).andThen <|
  (Attempt.forEach (configureSync setting) (List.finRange lunaSyncSlots)).andThen <|
  configureConsole setting

section Destroy

/-- The thread loop's body of `destroy_child`.  Suspending the TCBs holds
nothing. -/
def World.destroySlot (world : World) (index : Fin lunaResourceSlots) : World :=
  let slot := world.resources.slots index
  let deleted := (world.deleteChildCap slot.childTcb).deleteChildCap slot.childJoinNtfn
  let cleaned := if slot.threadConfigured then deleted.release (.thread slot.thread) else deleted
  if slot.joinAllocated then cleaned.release (.notification slot.joinNtfn) else cleaned

def World.destroySync (world : World) (index : Fin lunaSyncSlots) : World :=
  let slot := world.resources.sync index
  let deleted := world.deleteChildCap slot.childNtfn
  if slot.allocated then deleted.release (.notification slot.ntfn) else deleted

def World.destroyConsole (world : World) : World :=
  let console := world.resources.console
  let caps := world.resources.netCaps
  let deleted := (((world.deleteChildCap console.childIoPort).deleteChildCap
    caps.childRxNtfn).deleteChildCap caps.childTxNtfn).deleteChildCap caps.childTxSubmitNtfn
  let uncapped := if console.capCreated then deleted.deleteCap console.ioPortPath else deleted
  if console.slotAllocated then uncapped.freePath console.ioPortPath else uncapped

/-- `vspace_unmap_pages` on `count` heap pages from `start`. -/
def World.unmapPages (world : World) (start count : Nat) : World :=
  let inside := fun entry : Nat × Handle => decide (start ≤ entry.1 ∧ entry.1 < start + count)
  { world with
    released := (world.process.heapFrames.filter inside).map (fun entry => .frame entry.2) ++
      world.released
    process := { world.process with
      heapFrames := world.process.heapFrames.filter fun entry => !inside entry } }

/-- `materialize_heap_reservation_metadata` on the span that starts at `start`. -/
def materializeSpan (setting : Setting) (start : Nat) : Attempt World := fun world =>
  let last := min (start + spanPages) lunaChildHeapPages
  if (List.range' start (last - start)).any world.resources.heap.mapped then (true, world)
  else
    ((call setting fun world => { world.bump.acquire (.frame world.next) with
      process := { world.process with
        heapFrames := (start, world.next) :: world.process.heapFrames } }).andThen <|
    Attempt.always fun world => world.unmapPages start 1) world

def materializeHeapReservationMetadata (setting : Setting) : Attempt World := fun world =>
  if world.resources.heap.peakPages = lunaChildHeapPages then (true, world)
  else Attempt.forEach (materializeSpan setting)
    ((List.range (lunaChildHeapPages / spanPages)).map (· * spanPages)) world

/-- The first page from `page` on that is not mapped, `fuel` pages at most. -/
def runEnd (mapped : Nat → Bool) : Nat → Nat → Nat
  | 0, page => page
  | fuel + 1, page => if mapped page then runEnd mapped fuel (page + 1) else page

/-- The run-coalescing loop over the heap pages. -/
def World.unmapRuns (world : World) : Nat → Nat → World
  | 0, _ => world
  | fuel + 1, page =>
      if page < lunaChildHeapPages then
        if world.resources.heap.mapped page then
          let last := runEnd world.resources.heap.mapped (lunaChildHeapPages - page) page
          (world.unmapPages page (last - page)).unmapRuns fuel last
        else world.unmapRuns fuel (page + 1)
      else world

/-- The heap part of `destroy_child`, with what goes into its result. -/
def World.destroyHeap (setting : Setting) : Attempt World := fun world =>
  if world.resources.heap.reserved then
    let materialized := materializeHeapReservationMetadata setting world
    (materialized.1, materialized.2.unmapRuns lunaChildHeapPages 0)
  else (true, world)

/-- `sel4utils_destroy_process`: the process, what its CSpace still holds and the
frame caps mapped in its VSpace. -/
def World.destroyProcess (world : World) : World :=
  if world.process.cspace = 0 then world
  else { world with
    released := .process world.process.cspace ::
      world.process.childCaps.map .childCap ++
      world.process.mappedCaps.flatMap (fun handle => [.cap handle, .slot handle]) ++
      world.process.heapFrames.map (fun entry => .frame entry.2) ++ world.released }

def destroyChild (setting : Setting) (world : World) : Int × World :=
  let diskMappedPages := world.resources.disk.mappedPages
  let netMappedPages := world.resources.net.mappedPages
  -- luna_timer_manager_deactivate, luna_network_deactivate_child
  let quiet := if setting.networkReady then { world with childActive := false } else world
  let slots := (List.finRange lunaResourceSlots).foldl World.destroySlot quiet
  let sync := (List.finRange lunaSyncSlots).foldl World.destroySync slots
  let heap := World.destroyHeap setting sync.destroyConsole
  let process := heap.2.destroyProcess
  let disk := (List.finRange lunaDiskIoPages).foldl
    (fun world page => world.releasePage diskWindow diskMappedPages page) process
  let net := (List.finRange lunaNetIoPages).foldl
    (fun world page => world.releasePage netWindow netMappedPages page) disk
  (if heap.1 then 0 else -1, { net with
    resources := {}
    process := {} })

end Destroy

/-- `inject_start_rollback`. -/
def injectStartRollback (setting : Setting) (current : StartFailpoint) (world : World) :
    Int × World :=
  if setting.failpoint ≠ current then (0, world)
  else
    let destroyed := destroyChild setting world
    if destroyed.1 ≠ 0 then (-1, destroyed.2) else (1, destroyed.2)

/-- One stage of `start_child`: a failure destroys the child, a success passes
the stage's injection point. -/
def stage (setting : Setting) (current : StartFailpoint) (attempt : Attempt World)
    (rest : World → Int × World) (world : World) : Int × World :=
  match attempt world with
  | (false, failed) => (-1, (destroyChild setting failed).2)
  | (true, passed) =>
      let injected := injectStartRollback setting current passed
      if injected.1 ≠ 0 then injected else rest injected.2

/-- The checks after `sel4utils_configure_process_custom`. -/
def independent (setting : Setting) : Attempt World := Attempt.require fun world =>
  world.process.ownCspace && world.process.ownVspace && world.process.ownEp &&
    decide (world.process.pd ≠ setting.managerPd) &&
    decide (world.process.cspace ≠ setting.managerCnode)

/-- `sel4utils_configure_process_custom`. -/
def configureProcess (setting : Setting) : Attempt World := call setting fun world =>
  { world.bump.bump.acquire (.process world.next) with
    process := { world.process with
      cspace := world.next
      pd := world.next + 1
      ownCspace := setting.ownCspace
      ownVspace := setting.ownVspace
      ownEp := setting.ownEp } }

def reserveHeap (setting : Setting) : Attempt World := call setting fun world =>
  { world with resources := { world.resources with
    heap := { world.resources.heap with reserved := true } } }

/-- The control and command capabilities stay in the child's CSpace only. -/
def mintCap (setting : Setting) : Attempt World :=
  call setting fun world => world.copyCapToProcess fun world _ => world

/-- `sel4utils_spawn_process_v`. -/
def spawnProcess (setting : Setting) (world : World) : Int × World :=
  match call setting id world with
  | (false, failed) => (-1, (destroyChild setting failed).2)
  | (true, spawned) => (0, spawned)

def startChild (setting : Setting) (world : World) : Int × World :=
  match configureProcess setting world with
  | (false, failed) => (-1, failed)
  | (true, configured) =>
      (stage setting .process (independent setting) <|
      stage setting .heap (reserveHeap setting) <|
      stage setting .disk (mapPersistentDisk setting) <|
      stage setting .network (lunaNetworkMapChild setting) <|
      stage setting .resourcePool (configureResourcePool setting) <|
      stage setting .controlCap (mintCap setting) <|
      stage setting .commandCap (mintCap setting) <|
      spawnProcess setting) configured

end Luna.Child
