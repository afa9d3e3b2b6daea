import Mathlib.Data.List.FinRange
import Mathlib.Data.List.Induction
import Luna.Lib.Bitmap
import Luna.Lib.Tally

/-!
# The child's page allocator and the manager's mappings

`task_heap_alloc` and `task_heap_free` on the child's side,
`service_memory_request` on the manager's.  A child call holds the manager lock
over its request, so one call is one step; the only choice left open is the
error `vspace_new_pages_at_vaddr` returns.  `refusals` is history: why the
manager answered a request with an error.
-/

namespace Luna.PageHeap

def lunaChildHeapBase : Nat := 0x20000000
def lunaChildHeapPages : Nat := 8192
def taskPageSize : Nat := 4096
def taskHeapAlignment : Nat := 16
def taskHeapMaxAllocations : Nat := 1024
def sizeMax : Nat := 2 ^ 64 - 1

def lunaChildHeapSize : Nat := lunaChildHeapPages * taskPageSize

/-- `struct task_heap_allocation`. -/
structure Record where
  address : Nat
  pages : Nat
  requested : Nat
  used : Bool
  deriving DecidableEq, Repr

def Record.empty : Record := ⟨0, 0, 0, false⟩

structure Child where
  pages : Bitmap
  records : Fin taskHeapMaxAllocations → Record
  activeAllocations : Nat
  activeBytes : Nat
  peakBytes : Nat

/-- `struct luna_heap_resource`. -/
structure Manager where
  mapped : Bitmap
  mappedPages : Nat
  peakPages : Nat
  reserved : Bool

inductive Event where
  | memoryMap
  | memoryUnmap
  deriving DecidableEq, Repr

/-- Where `service_memory_request` set its error. -/
inductive Refusal where
  | range
  | overlap
  | notMapped
  | vspace (error : Int)
  deriving DecidableEq, Repr

structure World where
  child : Child
  manager : Manager
  refusals : List Refusal

def firstPageOf (address : Nat) : Nat := (address - lunaChildHeapBase) / taskPageSize

/-- The address checks of `service_memory_request`. -/
def Manager.admits (manager : Manager) (request pageCount : Nat) : Bool :=
  manager.reserved && pageCount != 0 && decide (lunaChildHeapBase ≤ request) &&
    decide (request < lunaChildHeapBase + lunaChildHeapSize) && request % taskPageSize == 0 &&
    decide (pageCount ≤ (lunaChildHeapBase + lunaChildHeapSize - request) / taskPageSize)

/-- `service_memory_request`; `vspaceError` is what mapping new pages returns. -/
def serviceMemoryRequest (manager : Manager) (event : Event) (request pageCount : Nat)
    (vspaceError : Int) : Except Refusal Manager :=
  if !manager.admits request pageCount then .error .range
  else
    let first := firstPageOf request
    match event with
    | .memoryMap =>
        if (List.range pageCount).any fun index => manager.mapped (first + index) then
          .error .overlap
        else if vspaceError ≠ 0 then .error (.vspace vspaceError)
        else
          let mappedPages := manager.mappedPages + pageCount
          .ok { manager with
            mapped := manager.mapped.fill first pageCount true
            mappedPages
            peakPages := max manager.peakPages mappedPages }
    | .memoryUnmap =>
        if (List.range pageCount).any fun index => !manager.mapped (first + index) then
          .error .notMapped
        else
          .ok { manager with
            mapped := manager.mapped.fill first pageCount false
            mappedPages := manager.mappedPages - pageCount }

/-- The first unused allocation record. -/
def Child.freeRecord (child : Child) : Option (Fin taskHeapMaxAllocations) :=
  (List.finRange taskHeapMaxAllocations).find? fun index => !(child.records index).used

/-- The used record of an address. -/
def Child.recordOf (child : Child) (pointer : Nat) : Option (Fin taskHeapMaxAllocations) :=
  (List.finRange taskHeapMaxAllocations).find? fun index =>
    (child.records index).used && (child.records index).address == pointer

/-- A power of two up to the page size, once raised to the minimum. -/
def alignmentAccepted (align : Nat) : Bool :=
  let align := if align < taskHeapAlignment then taskHeapAlignment else align
  (align &&& (align - 1)) == 0 && decide (align ≤ taskPageSize)

def requestedBytes (size : Nat) : Nat := if size = 0 then 1 else size

/-- The argument checks of `task_heap_alloc`: the bytes and pages asked for. -/
def requestedPages (size align : Nat) : Option (Nat × Nat) :=
  if !alignmentAccepted align then none
  else if sizeMax - (taskPageSize - 1) < requestedBytes size then none
  else
    let pages := (requestedBytes size + taskPageSize - 1) / taskPageSize
    if pages = 0 ∨ lunaChildHeapPages < pages then none else some (requestedBytes size, pages)

/-- The bookkeeping of a successful map. -/
def Child.record (child : Child) (index : Fin taskHeapMaxAllocations)
    (first pages requested : Nat) : Child :=
  let activeBytes := child.activeBytes + requested
  { pages := child.pages.fill first pages true
    records := Function.update child.records index
      ⟨lunaChildHeapBase + first * taskPageSize, pages, requested, true⟩
    activeAllocations := child.activeAllocations + 1
    activeBytes
    peakBytes := max child.peakBytes activeBytes }

/-- The bookkeeping of a successful unmap. -/
def Child.forget (child : Child) (index : Fin taskHeapMaxAllocations) (first : Nat) : Child :=
  { child with
    pages := child.pages.fill first (child.records index).pages false
    records := Function.update child.records index .empty
    activeAllocations := child.activeAllocations - 1
    activeBytes := child.activeBytes - (child.records index).requested }

/-- `task_heap_request`: whether the manager granted the request. -/
def taskHeapRequest (world : World) (event : Event) (address pages : Nat) (vspaceError : Int) :
    World × Bool :=
  if pages = 0 then (world, false)
  else
    match serviceMemoryRequest world.manager event address pages vspaceError with
    | .error refusal => ({ world with refusals := world.refusals ++ [refusal] }, false)
    | .ok manager => ({ world with manager }, true)

def taskHeapAlloc (world : World) (size align : Nat) (vspaceError : Int) :
    World × Option Nat :=
  match requestedPages size align with
  | none => (world, none)
  | some (requested, pages) =>
      match world.child.freeRecord,
          Bitmap.findFree lunaChildHeapPages world.child.pages pages 0 with
      | some index, some first =>
          let address := lunaChildHeapBase + first * taskPageSize
          match taskHeapRequest world .memoryMap address pages vspaceError with
          | (world, false) => (world, none)
          | (world, true) =>
              ({ world with child := world.child.record index first pages requested },
                some address)
      | _, _ => (world, none)

/-- `task_heap_free` with the value it returns. -/
def taskHeapFree (world : World) (pointer : Nat) : World × Int :=
  if pointer = 0 then (world, 0)
  else if pointer < lunaChildHeapBase ∨ lunaChildHeapBase + lunaChildHeapSize ≤ pointer ∨
      pointer % taskPageSize ≠ 0 then (world, -1)
  else
    match world.child.recordOf pointer with
    | none => (world, -1)
    | some index =>
        match taskHeapRequest world .memoryUnmap pointer (world.child.records index).pages 0 with
        | (world, false) => (world, -1)
        | (world, true) => ({ world with child := world.child.forget index (firstPageOf pointer) }, 0)

def taskHeapIsIdle (child : Child) : Bool :=
  child.activeAllocations == 0 && child.activeBytes == 0 &&
    (List.range lunaChildHeapPages).all fun page => !child.pages page

/-- A fresh child of a manager that reserved the heap range. -/
def started : World :=
  ⟨⟨fun _ => false, fun _ => .empty, 0, 0, 0⟩, ⟨fun _ => false, 0, 0, true⟩, []⟩

inductive Call where
  | alloc (size align : Nat) (vspaceError : Int)
  | free (pointer : Nat)
  deriving DecidableEq, Repr

def World.perform (world : World) : Call → World
  | .alloc size align vspaceError => (taskHeapAlloc world size align vspaceError).1
  | .free pointer => (taskHeapFree world pointer).1

def World.after (calls : List Call) : World := calls.foldl World.perform started

/-! ## The invariant -/

/-- The page lies in the region of a used record. -/
def Record.Covers (record : Record) (page : Nat) : Prop :=
  record.used = true ∧ firstPageOf record.address ≤ page ∧
    page < firstPageOf record.address + record.pages

/-- A used record describes a nonempty page range of the arena that holds the request. -/
structure Record.Fits (record : Record) : Prop where
  address : record.address = lunaChildHeapBase + firstPageOf record.address * taskPageSize
  nonempty : 0 < record.pages
  inside : firstPageOf record.address + record.pages ≤ lunaChildHeapPages
  positive : 0 < record.requested
  enough : record.requested ≤ record.pages * taskPageSize

def Child.usedCount (child : Child) : Nat :=
  Tally.total (fun record => if record.used then 1 else 0) child.records

def Child.usedBytes (child : Child) : Nat :=
  Tally.total (fun record => if record.used then record.requested else 0) child.records

structure Inv (world : World) : Prop where
  reserved : world.manager.reserved = true
  agree : world.child.pages = world.manager.mapped
  fits : ∀ index, (world.child.records index).used = true → (world.child.records index).Fits
  marked : ∀ page, world.child.pages page = true ↔
    ∃ index, (world.child.records index).Covers page
  apart : ∀ first second page, (world.child.records first).Covers page →
    (world.child.records second).Covers page → first = second
  allocations : world.child.activeAllocations = world.child.usedCount
  bytes : world.child.activeBytes = world.child.usedBytes
  mappedPages : world.manager.mappedPages =
    Bitmap.population lunaChildHeapPages world.manager.mapped
  refusals : ∀ refusal ∈ world.refusals, ∃ error, error ≠ 0 ∧ refusal = .vspace error

theorem started_inv : Inv started := by
  refine ⟨rfl, rfl, ?_, ?_, ?_, ?_, ?_, ?_, ?_⟩ <;>
    simp [started, Record.empty, Record.Covers, Child.usedCount, Child.usedBytes,
      Tally.total, Bitmap.population]

@[simp] theorem firstPageOf_page (first : Nat) :
    firstPageOf (lunaChildHeapBase + first * taskPageSize) = first := by
  simp [firstPageOf, taskPageSize]

theorem admits_page {manager : Manager} {first pages : Nat} (reserved : manager.reserved = true)
    (nonempty : 0 < pages) (inside : first + pages ≤ lunaChildHeapPages) :
    manager.admits (lunaChildHeapBase + first * taskPageSize) pages = true := by
  simp only [Manager.admits, reserved, Bool.true_and, Bool.and_eq_true, bne_iff_ne, ne_eq,
    decide_eq_true_eq, beq_iff_eq]
  simp only [lunaChildHeapBase, lunaChildHeapSize, lunaChildHeapPages, taskPageSize] at inside ⊢
  omega

/-- A map request over clear pages fails only if the kernel refuses it. -/
theorem serviceMemoryRequest_map {manager : Manager} {first pages : Nat} (vspaceError : Int)
    (reserved : manager.reserved = true) (nonempty : 0 < pages)
    (inside : first + pages ≤ lunaChildHeapPages)
    (clear : ∀ page, first ≤ page → page < first + pages → manager.mapped page = false) :
    serviceMemoryRequest manager .memoryMap (lunaChildHeapBase + first * taskPageSize) pages
        vspaceError =
      if vspaceError ≠ 0 then .error (.vspace vspaceError)
      else .ok { manager with
        mapped := manager.mapped.fill first pages true
        mappedPages := manager.mappedPages + pages
        peakPages := max manager.peakPages (manager.mappedPages + pages) } := by
  have free : ((List.range pages).any fun index => manager.mapped (first + index)) = false := by
    rw [List.any_eq_false]
    intro index member
    simp [clear (first + index) (by omega) (by simpa using member)]
  simp [serviceMemoryRequest, admits_page reserved nonempty inside, free]

/-- An unmap request over mapped pages succeeds. -/
theorem serviceMemoryRequest_unmap {manager : Manager} {first pages : Nat} (vspaceError : Int)
    (reserved : manager.reserved = true) (nonempty : 0 < pages)
    (inside : first + pages ≤ lunaChildHeapPages)
    (mapped : ∀ page, first ≤ page → page < first + pages → manager.mapped page = true) :
    serviceMemoryRequest manager .memoryUnmap (lunaChildHeapBase + first * taskPageSize) pages
        vspaceError =
      .ok { manager with
        mapped := manager.mapped.fill first pages false
        mappedPages := manager.mappedPages - pages } := by
  have present :
      ((List.range pages).any fun index => !manager.mapped (first + index)) = false := by
    rw [List.any_eq_false]
    intro index member
    simp [mapped (first + index) (by omega) (by simpa using member)]
  simp [serviceMemoryRequest, admits_page reserved nonempty inside, present]

theorem requestedBytes_spec (size : Nat) : 0 < requestedBytes size ∧ size ≤ requestedBytes size := by
  unfold requestedBytes
  split <;> omega

theorem requestedPages_spec {size align requested pages : Nat}
    (accepted : requestedPages size align = some (requested, pages)) :
    0 < requested ∧ size ≤ requested ∧ 0 < pages ∧ requested ≤ pages * taskPageSize := by
  have bytes := requestedBytes_spec size
  unfold requestedPages at accepted
  split at accepted
  next badAlign => cases accepted
  next =>
    split at accepted
    next tooLarge => cases accepted
    next =>
      dsimp only at accepted
      split at accepted
      next badCount => cases accepted
      next =>
        simp only [Option.some.injEq, Prod.mk.injEq] at accepted
        obtain ⟨rfl, rfl⟩ := accepted
        simp only [taskPageSize]
        omega

theorem freeRecord_spec {child : Child} {index : Fin taskHeapMaxAllocations}
    (found : child.freeRecord = some index) : (child.records index).used = false := by
  simpa using List.find?_some found

theorem recordOf_spec {child : Child} {pointer : Nat} {index : Fin taskHeapMaxAllocations}
    (found : child.recordOf pointer = some index) :
    (child.records index).used = true ∧ (child.records index).address = pointer := by
  simpa using List.find?_some found

/-! ## Allocation -/

theorem record_covers {child : Child} {index other : Fin taskHeapMaxAllocations}
    {first pages requested page : Nat} :
    ((child.record index first pages requested).records other).Covers page ↔
      if other = index then first ≤ page ∧ page < first + pages
      else (child.records other).Covers page := by
  by_cases same : other = index <;> simp [Child.record, same, Record.Covers]

/-- Taking an unused record over clear pages, on both sides. -/
theorem record_inv {world : World} (inv : Inv world) {index : Fin taskHeapMaxAllocations}
    {first pages requested : Nat} (unused : (world.child.records index).used = false)
    (nonempty : 0 < pages) (inside : first + pages ≤ lunaChildHeapPages)
    (clear : ∀ page, first ≤ page → page < first + pages → world.child.pages page = false)
    (positive : 0 < requested) (enough : requested ≤ pages * taskPageSize) (peakPages : Nat) :
    Inv { world with
      child := world.child.record index first pages requested
      manager := { world.manager with
        mapped := world.manager.mapped.fill first pages true
        mappedPages := world.manager.mappedPages + pages
        peakPages } } := by
  have uncovered : ∀ other page, first ≤ page → page < first + pages →
      ¬ (world.child.records other).Covers page := by
    intro other page low high covers
    have marked := (inv.marked page).mpr ⟨other, covers⟩
    simp [clear page low high] at marked
  refine ⟨inv.reserved, ?_, ?_, ?_, ?_, ?_, ?_, ?_, inv.refusals⟩
  · simp only [Child.record, inv.agree]
  · intro other isUsed
    by_cases same : other = index
    · subst same
      simp only [Child.record, Function.update_self]
      exact ⟨by simp, nonempty, by simpa using inside, positive, enough⟩
    · simp only [Child.record, Function.update_of_ne same] at isUsed ⊢
      exact inv.fits other isUsed
  · intro page
    simp only [record_covers]
    constructor
    · intro marked
      simp only [Child.record, Bitmap.fill_true_eq_true_iff] at marked
      rcases marked with covered | marked
      · exact ⟨index, by simpa using covered⟩
      · obtain ⟨other, covers⟩ := (inv.marked page).mp marked
        have different : other ≠ index := by
          rintro rfl
          simp [Record.Covers, unused] at covers
        exact ⟨other, by simpa [different] using covers⟩
    · rintro ⟨other, covers⟩
      simp only [Child.record, Bitmap.fill_true_eq_true_iff]
      split at covers
      next same => exact .inl covers
      next different => exact .inr ((inv.marked page).mpr ⟨other, covers⟩)
  · intro left right page leftCovers rightCovers
    rw [record_covers] at leftCovers rightCovers
    split at leftCovers
    next leftNew =>
      split at rightCovers
      next rightNew => exact leftNew.trans rightNew.symm
      next rightOld => exact absurd rightCovers (uncovered right page leftCovers.1 leftCovers.2)
    next leftOld =>
      split at rightCovers
      next rightNew => exact absurd leftCovers (uncovered left page rightCovers.1 rightCovers.2)
      next rightOld => exact inv.apart left right page leftCovers rightCovers
  · have counted := Tally.total_update (fun record : Record => if record.used then 1 else 0)
      world.child.records index ⟨lunaChildHeapBase + first * taskPageSize, pages, requested, true⟩
    have before := inv.allocations
    simp only [unused, Child.record, Child.usedCount, Bool.false_eq_true, if_true, if_false]
      at counted before ⊢
    omega
  · have counted := Tally.total_update
      (fun record : Record => if record.used then record.requested else 0)
      world.child.records index ⟨lunaChildHeapBase + first * taskPageSize, pages, requested, true⟩
    have before := inv.bytes
    simp only [unused, Child.record, Child.usedBytes, Bool.false_eq_true, if_true, if_false]
      at counted before ⊢
    omega
  · rw [inv.agree] at clear
    simp only [Bitmap.population_fill_true inside clear, inv.mappedPages]

/-- A refusal of the kernel changes nothing else. -/
theorem Inv.refused {world : World} (inv : Inv world) {error : Int} (nonzero : error ≠ 0) :
    Inv { world with refusals := world.refusals ++ [.vspace error] } := by
  refine ⟨inv.reserved, inv.agree, inv.fits, inv.marked, inv.apart, inv.allocations, inv.bytes,
    inv.mappedPages, ?_⟩
  intro refusal member
  rcases List.mem_append.mp member with earlier | latest
  · exact inv.refusals refusal earlier
  · exact ⟨error, nonzero, by simpa using latest⟩

/-- Every way `task_heap_alloc` can end. -/
theorem taskHeapAlloc_cases {world : World} (inv : Inv world) (size align : Nat)
    (vspaceError : Int) :
    taskHeapAlloc world size align vspaceError = (world, none) ∨
    (vspaceError ≠ 0 ∧ taskHeapAlloc world size align vspaceError =
      ({ world with refusals := world.refusals ++ [.vspace vspaceError] }, none)) ∨
    ∃ index first pages requested peakPages,
      requestedPages size align = some (requested, pages) ∧
      (world.child.records index).used = false ∧ first + pages ≤ lunaChildHeapPages ∧
      (∀ page, first ≤ page → page < first + pages → world.child.pages page = false) ∧
      taskHeapAlloc world size align vspaceError =
        ({ world with
            child := world.child.record index first pages requested
            manager := { world.manager with
              mapped := world.manager.mapped.fill first pages true
              mappedPages := world.manager.mappedPages + pages
              peakPages } },
          some (lunaChildHeapBase + first * taskPageSize)) := by
  unfold taskHeapAlloc
  cases accepted : requestedPages size align with
  | none => exact .inl rfl
  | some request =>
      obtain ⟨requested, pages⟩ := request
      obtain ⟨_, _, nonempty, _⟩ := requestedPages_spec accepted
      dsimp only
      split
      next index first foundRecord foundPages =>
        obtain ⟨inside, clear⟩ := Bitmap.findFree_spec foundPages
        have served := serviceMemoryRequest_map vspaceError inv.reserved nonempty inside
          (inv.agree ▸ clear)
        by_cases failed : vspaceError ≠ 0
        · rw [if_pos failed] at served
          refine .inr (.inl ⟨failed, ?_⟩)
          simp [taskHeapRequest, Nat.ne_of_gt nonempty, served]
        · rw [if_neg failed] at served
          refine .inr (.inr ⟨index, first, pages, requested,
            max world.manager.peakPages (world.manager.mappedPages + pages), rfl,
            freeRecord_spec foundRecord, inside, clear, ?_⟩)
          simp [taskHeapRequest, Nat.ne_of_gt nonempty, served]
      next => exact .inl rfl

theorem alloc_inv {world : World} (inv : Inv world) (size align : Nat) (vspaceError : Int) :
    Inv (taskHeapAlloc world size align vspaceError).1 := by
  rcases taskHeapAlloc_cases inv size align vspaceError with
    unchanged | ⟨failed, refused⟩ | ⟨index, first, pages, requested, peakPages, accepted, unused,
      inside, clear, taken⟩
  · rwa [unchanged]
  · rw [refused]
    exact inv.refused failed
  · obtain ⟨positive, _, nonempty, enough⟩ := requestedPages_spec accepted
    rw [taken]
    exact record_inv inv unused nonempty inside clear positive enough peakPages

/-! ## Release -/

theorem forget_covers {child : Child} {index other : Fin taskHeapMaxAllocations}
    {first page : Nat} :
    ((child.forget index first).records other).Covers page ↔
      other ≠ index ∧ (child.records other).Covers page := by
  by_cases same : other = index <;> simp [Child.forget, same, Record.Covers, Record.empty]

/-- Dropping a used record, on both sides. -/
theorem forget_inv {world : World} (inv : Inv world) {index : Fin taskHeapMaxAllocations}
    {first : Nat} (isUsed : (world.child.records index).used = true)
    (firstPage : firstPageOf (world.child.records index).address = first) :
    Inv { world with
      child := world.child.forget index first
      manager := { world.manager with
        mapped := world.manager.mapped.fill first (world.child.records index).pages false
        mappedPages := world.manager.mappedPages - (world.child.records index).pages } } := by
  have covers : ∀ page, first ≤ page → page < first + (world.child.records index).pages →
      (world.child.records index).Covers page :=
    fun page low high => ⟨isUsed, by rwa [firstPage], by rwa [firstPage]⟩
  refine ⟨inv.reserved, ?_, ?_, ?_, ?_, ?_, ?_, ?_, inv.refusals⟩
  · simp only [Child.forget, inv.agree]
  · intro other otherUsed
    by_cases same : other = index
    · simp [Child.forget, same, Record.empty] at otherUsed
    · simp only [Child.forget, Function.update_of_ne same] at otherUsed ⊢
      exact inv.fits other otherUsed
  · intro page
    simp only [forget_covers]
    simp only [Child.forget, Bitmap.fill_false_eq_true_iff]
    constructor
    · rintro ⟨outside, marked⟩
      obtain ⟨other, otherCovers⟩ := (inv.marked page).mp marked
      refine ⟨other, ?_, otherCovers⟩
      rintro rfl
      exact outside (firstPage ▸ otherCovers.2)
    · rintro ⟨other, different, otherCovers⟩
      refine ⟨fun inside => different ?_, (inv.marked page).mpr ⟨other, otherCovers⟩⟩
      exact inv.apart other index page otherCovers (covers page inside.1 inside.2)
  · intro left right page leftCovers rightCovers
    rw [forget_covers] at leftCovers rightCovers
    exact inv.apart left right page leftCovers.2 rightCovers.2
  · have counted := Tally.total_update (fun record : Record => if record.used then 1 else 0)
      world.child.records index .empty
    have before := inv.allocations
    simp only [isUsed, Record.empty, Child.forget, Child.usedCount, Bool.false_eq_true, if_true,
      if_false] at counted before ⊢
    omega
  · have counted := Tally.total_update
      (fun record : Record => if record.used then record.requested else 0)
      world.child.records index .empty
    have before := inv.bytes
    simp only [isUsed, Record.empty, Child.forget, Child.usedBytes, Bool.false_eq_true, if_true,
      if_false] at counted before ⊢
    omega
  · have inside := (inv.fits index isUsed).inside
    rw [firstPage] at inside
    have counted := Bitmap.population_fill_false world.manager.mapped inside
      (fun page low high => by
        rw [← inv.agree]
        exact (inv.marked page).mpr ⟨index, covers page low high⟩)
    have before := inv.mappedPages
    simp only
    omega

/-- Every way `task_heap_free` can end. -/
theorem taskHeapFree_cases {world : World} (inv : Inv world) (pointer : Nat) :
    (∃ result, taskHeapFree world pointer = (world, result)) ∨
    ∃ index first, (world.child.records index).used = true ∧
      (world.child.records index).address = pointer ∧ firstPageOf pointer = first ∧
      taskHeapFree world pointer =
        ({ world with
            child := world.child.forget index first
            manager := { world.manager with
              mapped := world.manager.mapped.fill first (world.child.records index).pages false
              mappedPages := world.manager.mappedPages - (world.child.records index).pages } },
          0) := by
  unfold taskHeapFree
  split
  next null => exact .inl ⟨_, rfl⟩
  next notNull =>
    split
    next outside => exact .inl ⟨_, rfl⟩
    next inside =>
      split
      next unknown => exact .inl ⟨_, rfl⟩
      next index found =>
        obtain ⟨isUsed, address⟩ := recordOf_spec found
        have fits := inv.fits index isUsed
        obtain ⟨first, firstPage⟩ : ∃ first, firstPageOf pointer = first := ⟨_, rfl⟩
        have atPage := fits.address
        have inside := fits.inside
        rw [address, firstPage] at atPage inside
        have served := serviceMemoryRequest_unmap 0 inv.reserved fits.nonempty inside
          (fun page low high => by
            rw [← inv.agree]
            exact (inv.marked page).mpr ⟨index, isUsed, by rwa [address, firstPage],
              by rwa [address, firstPage]⟩)
        rw [← atPage] at served
        refine .inr ⟨index, first, isUsed, address, firstPage, ?_⟩
        simp [taskHeapRequest, Nat.ne_of_gt fits.nonempty, served, firstPage]

theorem free_inv {world : World} (inv : Inv world) (pointer : Nat) :
    Inv (taskHeapFree world pointer).1 := by
  rcases taskHeapFree_cases inv pointer with
    ⟨result, unchanged⟩ | ⟨index, first, isUsed, address, firstPage, freed⟩
  · rwa [unchanged]
  · rw [freed]
    exact forget_inv inv isUsed (address ▸ firstPage)

/-- The run lemma: every sequence of calls keeps both sides in step. -/
theorem after_inv (calls : List Call) : Inv (World.after calls) := by
  unfold World.after
  induction calls using List.reverseRecOn with
  | nil => exact started_inv
  | append_singleton earlier call inductionHypothesis =>
      rw [List.foldl_append]
      cases call with
      | alloc size align vspaceError => exact alloc_inv inductionHypothesis size align vspaceError
      | free pointer => exact free_inv inductionHypothesis pointer

/-! ## Results -/

/-- The byte regions of two records share no byte. -/
def Record.Disjoint (first second : Record) : Prop :=
  first.address + first.pages * taskPageSize ≤ second.address ∨
    second.address + second.pages * taskPageSize ≤ first.address

/-- What the two sides promise after any sequence of calls. -/
structure Agreement (world : World) : Prop where
  agree : ∀ page, world.child.pages page = world.manager.mapped page
  marked : ∀ page, world.child.pages page = true ↔
    ∃! index, (world.child.records index).Covers page
  allocations : world.child.activeAllocations = world.child.usedCount
  bytes : world.child.activeBytes = world.child.usedBytes
  mappedPages : world.manager.mappedPages =
    Bitmap.population lunaChildHeapPages world.manager.mapped
  neverRejected : ∀ refusal ∈ world.refusals, ∃ error, error ≠ 0 ∧ refusal = .vspace error
  aligned : ∀ index, (world.child.records index).used = true →
    (world.child.records index).address % taskPageSize = 0
  inside : ∀ index, (world.child.records index).used = true →
    lunaChildHeapBase ≤ (world.child.records index).address ∧
      (world.child.records index).address + (world.child.records index).pages * taskPageSize ≤
        lunaChildHeapBase + lunaChildHeapSize
  covered : ∀ index, (world.child.records index).used = true →
    (world.child.records index).requested ≤ (world.child.records index).pages * taskPageSize
  disjoint : ∀ first second, first ≠ second → (world.child.records first).used = true →
    (world.child.records second).used = true →
      (world.child.records first).Disjoint (world.child.records second)
  returned : ∀ size align vspaceError address,
    (taskHeapAlloc world size align vspaceError).2 = some address →
      ∃ index, (world.child.records index).used = false ∧
        ((taskHeapAlloc world size align vspaceError).1.child.records index).used = true ∧
        ((taskHeapAlloc world size align vspaceError).1.child.records index).address = address ∧
        size ≤ ((taskHeapAlloc world size align vspaceError).1.child.records index).requested ∧
        ∀ other, other ≠ index →
          (taskHeapAlloc world size align vspaceError).1.child.records other =
            world.child.records other
  idle : taskHeapIsIdle world.child = true ↔ ∀ index, (world.child.records index).used = false

theorem Inv.disjoint {world : World} (inv : Inv world) {first second : Fin taskHeapMaxAllocations}
    (different : first ≠ second) (firstUsed : (world.child.records first).used = true)
    (secondUsed : (world.child.records second).used = true) :
    (world.child.records first).Disjoint (world.child.records second) := by
  have firstFits := inv.fits first firstUsed
  have secondFits := inv.fits second secondUsed
  by_contra meet
  -- The larger of the two first pages lies in both regions.
  have apart := fun page firstCovers secondCovers =>
    different (inv.apart first second page firstCovers secondCovers)
  refine apart (max (firstPageOf (world.child.records first).address)
    (firstPageOf (world.child.records second).address))
    ⟨firstUsed, Nat.le_max_left _ _, ?_⟩ ⟨secondUsed, Nat.le_max_right _ _, ?_⟩
  all_goals
    have firstAddress := firstFits.address
    have secondAddress := secondFits.address
    have firstNonempty := firstFits.nonempty
    have secondNonempty := secondFits.nonempty
    simp only [Record.Disjoint, taskPageSize, not_or, Nat.not_le] at *
    omega

theorem Inv.idle {world : World} (inv : Inv world) :
    taskHeapIsIdle world.child = true ↔ ∀ index, (world.child.records index).used = false := by
  have counted := inv.allocations
  have bytes := inv.bytes
  constructor
  · intro idle index
    simp only [taskHeapIsIdle, Bool.and_eq_true, beq_iff_eq] at idle
    rw [idle.1.1] at counted
    have zero := (Tally.total_eq_zero_iff _ _).mp counted.symm index
    by_contra isUsed
    simp [isUsed] at zero
  · intro unused
    have noAllocations : world.child.usedCount = 0 :=
      (Tally.total_eq_zero_iff _ _).mpr fun index => by simp [unused index]
    have noBytes : world.child.usedBytes = 0 :=
      (Tally.total_eq_zero_iff _ _).mpr fun index => by simp [unused index]
    have clear : ∀ page, world.child.pages page = false := by
      intro page
      by_contra marked
      obtain ⟨index, isUsed, _⟩ := (inv.marked page).mp (by simpa using marked)
      simp [unused index] at isUsed
    simp [taskHeapIsIdle, counted, bytes, noAllocations, noBytes, clear]

theorem Inv.returned {world : World} (inv : Inv world) {size align : Nat} {vspaceError : Int}
    {address : Nat} (succeeded : (taskHeapAlloc world size align vspaceError).2 = some address) :
    ∃ index, (world.child.records index).used = false ∧
      ((taskHeapAlloc world size align vspaceError).1.child.records index).used = true ∧
      ((taskHeapAlloc world size align vspaceError).1.child.records index).address = address ∧
      size ≤ ((taskHeapAlloc world size align vspaceError).1.child.records index).requested ∧
      ∀ other, other ≠ index →
        (taskHeapAlloc world size align vspaceError).1.child.records other =
          world.child.records other := by
  rcases taskHeapAlloc_cases inv size align vspaceError with
    unchanged | ⟨_, refused⟩ | ⟨index, first, pages, requested, peakPages, accepted, unused,
      inside, clear, taken⟩
  · simp [unchanged] at succeeded
  · simp [refused] at succeeded
  · simp only [taken, Option.some.injEq] at succeeded
    refine ⟨index, unused, ?_⟩
    rw [taken]
    refine ⟨by simp [Child.record], by simp [Child.record, succeeded], ?_, ?_⟩
    · simpa [Child.record] using (requestedPages_spec accepted).2.1
    · intro other different
      simp [Child.record, different]

/-- After every sequence of calls, with the kernel free to refuse any mapping,
the child's records, its page map and the manager's mappings agree. -/
theorem heap_agreement (calls : List Call) : Agreement (World.after calls) := by
  have inv := after_inv calls
  refine
    { agree := fun page => congrFun inv.agree page
      marked := fun page => ?_
      allocations := inv.allocations
      bytes := inv.bytes
      mappedPages := inv.mappedPages
      neverRejected := inv.refusals
      aligned := fun index isUsed => ?_
      inside := fun index isUsed => ?_
      covered := fun index isUsed => (inv.fits index isUsed).enough
      disjoint := fun _ _ different firstUsed secondUsed =>
        inv.disjoint different firstUsed secondUsed
      returned := fun _ _ _ _ succeeded => inv.returned succeeded
      idle := inv.idle }
  · rw [inv.marked page]
    constructor
    · rintro ⟨index, covers⟩
      exact ⟨index, covers, fun other otherCovers => inv.apart other index page otherCovers covers⟩
    · rintro ⟨index, covers, _⟩
      exact ⟨index, covers⟩
  · rw [(inv.fits index isUsed).address]
    simp [lunaChildHeapBase, taskPageSize]
  · have fits := inv.fits index isUsed
    have address := fits.address
    have inside := fits.inside
    simp only [lunaChildHeapBase, lunaChildHeapSize, lunaChildHeapPages, taskPageSize]
      at address inside ⊢
    omega

/-! ## First fit -/

/-- The alignment, raised to the least that `task_heap_alloc` gives. -/
def raisedAlignment (align : Nat) : Nat :=
  if align < taskHeapAlignment then taskHeapAlignment else align

theorem alignmentAccepted_iff (align : Nat) : alignmentAccepted align = true ↔
    (raisedAlignment align).isPowerOfTwo ∧ raisedAlignment align ≤ taskPageSize := by
  have positive : raisedAlignment align ≠ 0 := by
    unfold raisedAlignment taskHeapAlignment
    split <;> omega
  rw [← Nat.and_sub_one_eq_zero_iff_isPowerOfTwo positive]
  simp [alignmentAccepted, raisedAlignment]

/-- The pages a size is rounded up to. -/
def roundedPages (size : Nat) : Nat := (requestedBytes size + taskPageSize - 1) / taskPageSize

/-- Why `task_heap_alloc` refuses a request when the manager maps what it is asked for. -/
inductive Refused (child : Child) (size align : Nat) : Prop where
  | alignment (bad : ¬ ((raisedAlignment align).isPowerOfTwo ∧
      raisedAlignment align ≤ taskPageSize))
  | overflow (long : sizeMax < requestedBytes size + (taskPageSize - 1))
  | pages (count : roundedPages size = 0 ∨ lunaChildHeapPages < roundedPages size)
  | records (full : ∀ index, (child.records index).used = true)
  | noRun (none : ∀ first,
      ¬ Bitmap.FreeAt lunaChildHeapPages child.pages (roundedPages size) first)

/-- `task_heap_alloc` is a naive first fit. -/
structure FirstFit (world : World) (size align : Nat) : Prop where
  lowest : ∀ address, (taskHeapAlloc world size align 0).2 = some address → ∃ first,
    address = lunaChildHeapBase + first * taskPageSize ∧
    Bitmap.FreeAt lunaChildHeapPages world.child.pages (roundedPages size) first ∧
    ∀ earlier < first,
      ¬ Bitmap.FreeAt lunaChildHeapPages world.child.pages (roundedPages size) earlier
  refused : (taskHeapAlloc world size align 0).2 = none ↔ Refused world.child size align
  unchanged : (taskHeapAlloc world size align 0).2 = none →
    (taskHeapAlloc world size align 0).1 = world

theorem requestedPages_eq (size align : Nat) :
    requestedPages size align = none ∧ (¬ ((raisedAlignment align).isPowerOfTwo ∧
        raisedAlignment align ≤ taskPageSize) ∨
      sizeMax < requestedBytes size + (taskPageSize - 1) ∨ roundedPages size = 0 ∨
      lunaChildHeapPages < roundedPages size) ∨
    requestedPages size align = some (requestedBytes size, roundedPages size) ∧
      ((raisedAlignment align).isPowerOfTwo ∧ raisedAlignment align ≤ taskPageSize) ∧
      ¬ sizeMax < requestedBytes size + (taskPageSize - 1) ∧ roundedPages size ≠ 0 ∧
      ¬ lunaChildHeapPages < roundedPages size := by
  unfold requestedPages
  have accepts := alignmentAccepted_iff align
  by_cases aligned : (raisedAlignment align).isPowerOfTwo ∧ raisedAlignment align ≤ taskPageSize
  · rw [if_neg (by simp [accepts.mpr aligned])]
    by_cases long : sizeMax - (taskPageSize - 1) < requestedBytes size
    · rw [if_pos long]
      refine .inl ⟨rfl, .inr (.inl ?_)⟩
      unfold sizeMax taskPageSize at long ⊢
      omega
    · rw [if_neg long]
      have fits : ¬ sizeMax < requestedBytes size + (taskPageSize - 1) := by
        unfold sizeMax taskPageSize at long ⊢
        omega
      dsimp only
      by_cases count : roundedPages size = 0 ∨ lunaChildHeapPages < roundedPages size
      · exact .inl ⟨if_pos count, .inr (.inr count)⟩
      · exact .inr ⟨if_neg count, aligned, fits, not_or.mp count⟩
  · rw [if_pos (by simpa using accepts.not.mpr aligned)]
    exact .inl ⟨rfl, .inl aligned⟩

theorem freeRecord_eq_none (child : Child) :
    child.freeRecord = none ↔ ∀ index, (child.records index).used = true := by
  unfold Child.freeRecord
  rw [List.find?_eq_none]
  simp

theorem refused_first_fit {world : World} {size align : Nat}
    (nothing : taskHeapAlloc world size align 0 = (world, none))
    (reason : Refused world.child size align) : FirstFit world size align where
  lowest address some := by
    rw [nothing] at some
    cases some
  refused := ⟨fun _ => reason, fun _ => congrArg Prod.snd nothing⟩
  unchanged _ := congrArg Prod.fst nothing

theorem Inv.first_fit {world : World} (inv : Inv world) (size align : Nat) :
    FirstFit world size align := by
  rcases requestedPages_eq size align with ⟨rejects, reason⟩ | ⟨asked, aligned, short, positive, small⟩
  · have nothing : taskHeapAlloc world size align 0 = (world, none) := by
      unfold taskHeapAlloc
      rw [rejects]
    refine refused_first_fit nothing ?_
    rcases reason with bad | long | zero | many
    · exact .alignment bad
    · exact .overflow long
    · exact .pages (.inl zero)
    · exact .pages (.inr many)
  · have search := Bitmap.findFree_lowest lunaChildHeapPages world.child.pages
      (roundedPages size) 0
    cases record : world.child.freeRecord with
    | none =>
        have nothing : taskHeapAlloc world size align 0 = (world, none) := by
          unfold taskHeapAlloc
          rw [asked]
          dsimp only
          rw [record]
        refine refused_first_fit nothing (.records ((freeRecord_eq_none _).mp record))
    | some index =>
        cases found : Bitmap.findFree lunaChildHeapPages world.child.pages (roundedPages size) 0 with
        | none =>
            rw [found] at search
            have nothing : taskHeapAlloc world size align 0 = (world, none) := by
              unfold taskHeapAlloc
              rw [asked]
              dsimp only
              rw [record, found]
            exact refused_first_fit nothing (.noRun fun first => search first (Nat.zero_le _))
        | some first =>
            rw [found] at search
            obtain ⟨_, free, lowest⟩ := search
            have served := serviceMemoryRequest_map 0 inv.reserved (Nat.pos_of_ne_zero positive)
              free.1 (inv.agree ▸ free.2)
            rw [if_neg (by decide)] at served
            have taken : (taskHeapAlloc world size align 0).2 =
                some (lunaChildHeapBase + first * taskPageSize) := by
              unfold taskHeapAlloc
              rw [asked]
              dsimp only
              rw [record, found]
              simp [taskHeapRequest, positive, served]
            refine ⟨fun address some => ?_, ⟨fun none => ?_, fun refused => ?_⟩, fun none => ?_⟩
            · rw [taken] at some
              cases some
              exact ⟨first, rfl, free, fun earlier below => lowest earlier (Nat.zero_le _) below⟩
            · rw [taken] at none
              cases none
            · exfalso
              cases refused with
              | alignment bad => exact bad aligned
              | overflow long => exact short long
              | pages count => exact count.elim positive small
              | records full =>
                  have unused := freeRecord_spec record
                  rw [full index] at unused
                  cases unused
              | noRun none => exact none first free
            · rw [taken] at none
              cases none

/-- In every reachable state the page search is a naive first fit. -/
theorem alloc_first_fit (calls : List Call) (size align : Nat) :
    FirstFit (World.after calls) size align :=
  (after_inv calls).first_fit size align

/-- An alignment of 3 is raised to 16, and the first page is returned. -/
theorem alloc_raises_alignment : ¬ ∀ calls size align,
    ¬ (align.isPowerOfTwo ∧ align ≤ taskPageSize) →
    (taskHeapAlloc (World.after calls) size align 0).2 = none := by
  intro always
  have three : ¬ (Nat.isPowerOfTwo 3 ∧ 3 ≤ taskPageSize) := by
    rw [← Nat.and_sub_one_eq_zero_iff_isPowerOfTwo (by decide)]
    decide
  have refused := (started_inv.first_fit 1 3).refused.mp (always [] 1 3 three)
  cases refused with
  | alignment bad => exact bad ⟨⟨4, rfl⟩, by decide⟩
  | overflow long => exact absurd long (by decide)
  | pages count => exact absurd count (by decide)
  | records full => exact absurd (full ⟨0, by decide⟩) (by simp [started, Record.empty])
  | noRun none => exact none 0 ⟨by decide, fun _ _ _ => rfl⟩

end Luna.PageHeap
