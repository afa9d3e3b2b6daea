import Luna.Child.Start
import Luna.PageHeap
import Mathlib.Order.Bounds.Basic

/-!
# The manager's heap bookkeeping under arbitrary messages

The child sends whatever words it likes.  `receive_event_variant` serves the
memory requests among them with `service_memory_request`, passes others on, and
accepts the event it waits for.  The bitmap and the two counters are looked at
over a whole history of messages, and the bitmap again in the run-coalescing loop
of `destroy_child`.
-/

namespace Luna.Child

open PageHeap (Manager serviceMemoryRequest firstPageOf lunaChildHeapBase taskPageSize)

def eventAllocatorOk : Nat := 0x109
def eventAllocatorReleased : Nat := 0x10a

/-- `MEMORY_MAP` and `MEMORY_UNMAP`. -/
def memoryEvent : Nat → Option PageHeap.Event
  | 0x200 => some .memoryMap
  | 0x201 => some .memoryUnmap
  | _ => none

/-- The disk, network and timer events; a disk batch must have a zero third word. -/
def forwardedEvent (event third : Nat) : Bool :=
  event ∈ [0x202, 0x203, 0x204] || (event == 0x20e && third == 0) ||
    event ∈ [0x205, 0x206, 0x20c, 0x20d, 0x207, 0x208, 0x209, 0x20a, 0x20b, 0x211] ||
    event ∈ [0x20f, 0x210]

/-- A message: its label, length and badge, and the first three message registers. -/
structure Message where
  label : Nat
  length : Nat
  badge : Nat
  first : Nat
  second : Nat
  third : Nat

/-- What `receive_event_variant` is called with. -/
structure Expectation where
  badge : Nat
  expectedEvent : Nat
  alternativeEvent : Nat
  expectedDetail : Nat

/-- One message and what the rest of the system answers: the result of mapping new
pages, and whether a service outside the heap succeeds. -/
structure Input where
  message : Message
  expectation : Expectation
  vspaceError : Int
  forwarded : Bool

inductive Received where
  | serviced
  | failed
  | accepted (event : Nat)
deriving DecidableEq

def lunaIsolationModeStress : Nat := 3
def lunaAllocatorLightMaxPages : Nat := 64

/-- The peak that the allocator profile of a mode asks for. -/
def profileHolds (mode peak : Nat) : Bool :=
  if mode = lunaIsolationModeStress then decide (0 < peak ∧ peak ≤ lunaAllocatorLightMaxPages)
  else peak == lunaChildHeapPages

def Message.event (message : Message) : Nat := if 0 < message.length then message.first else 0

def Message.detail (message : Message) : Nat := if 1 < message.length then message.second else 0

/-- The form every request of the child has. -/
def Message.isRequest (message : Message) (badge : Nat) : Bool :=
  message.label == 0 && message.length == 3 && message.badge == badge

/-- The end of `receive_event_variant`: the event must be an expected one, the
allocator events need an empty heap and `ALLOCATOR_OK` a peak that fits. -/
def acceptEvent (manager : Manager) (expectation : Expectation) (message : Message) : Received :=
  if message.label ≠ 0 ∨ message.length < 2 ∨ message.badge ≠ expectation.badge ∨
      (message.event ≠ expectation.expectedEvent ∧
        message.event ≠ expectation.alternativeEvent) ∨
      message.detail ≠ expectation.expectedDetail then .failed
  else if (message.event = eventAllocatorOk ∨ message.event = eventAllocatorReleased) ∧
      manager.mappedPages ≠ 0 then .failed
  else if message.event = eventAllocatorOk ∧
      profileHolds message.detail manager.peakPages = false then .failed
  else .accepted message.event

/-- One turn of the loop of `receive_event_variant`. -/
def receive (manager : Manager) (input : Input) : Received × Manager :=
  let message := input.message
  match message.isRequest input.expectation.badge, memoryEvent message.event with
  | true, some event =>
      match serviceMemoryRequest manager event message.second message.third input.vspaceError with
      | .ok manager => (.serviced, manager)
      | .error _ => (.failed, manager)
  | request, _ =>
      if request && forwardedEvent message.event message.third then
        (if input.forwarded then .serviced else .failed, manager)
      else (acceptEvent manager input.expectation message, manager)

/-- The heap of a child that was just started. -/
def startedHeap : Manager := PageHeap.started.manager

def afterInputs (inputs : List Input) : Manager :=
  inputs.foldl (fun manager input => (receive manager input).2) startedHeap

/-! ## What is claimed -/

/-- The pages that a request reads, maps, unmaps or marks: those behind the address
checks. -/
def touchedPages (manager : Manager) (request pageCount : Nat) : List Nat :=
  if manager.admits request pageCount then
    (List.range pageCount).map (firstPageOf request + ·)
  else []

/-- The counts of mapped pages over a history. -/
def pageCounts (inputs : List Input) : Set Nat :=
  { count | ∃ history, history <+: inputs ∧ (afterInputs history).mappedPages = count }

/-- The runs that the loop of `destroy_child` passes to `vspace_unmap_pages`, as
first page and count. -/
def heapRuns (mapped : Nat → Bool) : Nat → Nat → List (Nat × Nat)
  | 0, _ => []
  | fuel + 1, page =>
      if page < lunaChildHeapPages then
        if mapped page then
          let last := runEnd mapped (lunaChildHeapPages - page) page
          (page, last - page) :: heapRuns mapped fuel last
        else heapRuns mapped fuel (page + 1)
      else []

def InRun (run : Nat × Nat) (page : Nat) : Prop := run.1 ≤ page ∧ page < run.1 + run.2

/-- The runs are disjoint and cover exactly the mapped pages. -/
structure RunsExact (mapped : Nat → Bool) : Prop where
  apart : (heapRuns mapped lunaChildHeapPages 0).Pairwise fun first second =>
    ∀ page, InRun first page → ¬ InRun second page
  covers : ∀ page, (∃ run ∈ heapRuns mapped lunaChildHeapPages 0, InRun run page) ↔
    page < lunaChildHeapPages ∧ mapped page = true

structure HeapExact (inputs : List Input) : Prop where
  count : (afterInputs inputs).mappedPages =
    Bitmap.population lunaChildHeapPages (afterInputs inputs).mapped
  peak : IsGreatest (pageCounts inputs) (afterInputs inputs).peakPages
  failed : ∀ input, (receive (afterInputs inputs) input).1 = .failed →
    (receive (afterInputs inputs) input).2 = afterInputs inputs
  arena : ∀ request pageCount, ∀ page ∈ touchedPages (afterInputs inputs) request pageCount,
    page < lunaChildHeapPages ∧ lunaChildHeapBase + page * taskPageSize ≤
      request + (pageCount - 1) * taskPageSize ∧ request ≤ lunaChildHeapBase + page * taskPageSize
  outside : ∀ input, ∀ page, lunaChildHeapPages ≤ page →
    (receive (afterInputs inputs) input).2.mapped page = (afterInputs inputs).mapped page
  allocator : ∀ input event, (receive (afterInputs inputs) input).1 = .accepted event →
    event = eventAllocatorOk ∨ event = eventAllocatorReleased →
    ∀ page < lunaChildHeapPages, (afterInputs inputs).mapped page = false
  runs : RunsExact (afterInputs inputs).mapped
  unmapped : ∀ world : World, world.resources.heap.mapped = (afterInputs inputs).mapped →
    world.unmapRuns lunaChildHeapPages 0 =
      (heapRuns (afterInputs inputs).mapped lunaChildHeapPages 0).foldl
        (fun world run => world.unmapPages run.1 run.2) world

/-! ## Requests -/

section Requests

variable {manager target : Manager} {event : PageHeap.Event} {request pageCount : Nat}

/-- An admitted request lies in the arena. -/
theorem admits_inside (admitted : manager.admits request pageCount = true) :
    firstPageOf request + pageCount ≤ lunaChildHeapPages ∧
      request = lunaChildHeapBase + firstPageOf request * taskPageSize ∧ 0 < pageCount := by
  simp only [Manager.admits, Bool.and_eq_true, bne_iff_ne, ne_eq, decide_eq_true_eq,
    beq_iff_eq] at admitted
  simp only [firstPageOf, PageHeap.lunaChildHeapSize, PageHeap.lunaChildHeapPages,
    lunaChildHeapBase, taskPageSize, lunaChildHeapPages] at admitted ⊢
  omega

/-- What a request that succeeds has done. -/
theorem serviceMemoryRequest_cases {vspaceError : Int}
    (served : serviceMemoryRequest manager event request pageCount vspaceError = .ok target) :
    manager.admits request pageCount = true ∧
      ((event = .memoryMap ∧
        (∀ page, firstPageOf request ≤ page → page < firstPageOf request + pageCount →
          manager.mapped page = false) ∧
        target = { manager with
          mapped := manager.mapped.fill (firstPageOf request) pageCount true
          mappedPages := manager.mappedPages + pageCount
          peakPages := max manager.peakPages (manager.mappedPages + pageCount) }) ∨
      (event = .memoryUnmap ∧
        (∀ page, firstPageOf request ≤ page → page < firstPageOf request + pageCount →
          manager.mapped page = true) ∧
        target = { manager with
          mapped := manager.mapped.fill (firstPageOf request) pageCount false
          mappedPages := manager.mappedPages - pageCount })) := by
  have scanned : ∀ value, ((List.range pageCount).any fun index =>
      manager.mapped (firstPageOf request + index) == value) = false →
      ∀ page, firstPageOf request ≤ page → page < firstPageOf request + pageCount →
        manager.mapped page = !value := by
    intro value none page above below
    rw [List.any_eq_false] at none
    have here := none (page - firstPageOf request) (List.mem_range.mpr (by omega))
    rw [show firstPageOf request + (page - firstPageOf request) = page by omega] at here
    cases value <;> cases marked : manager.mapped page <;> simp_all
  unfold serviceMemoryRequest at served
  split at served
  next refused => cases served
  next admitted =>
    refine ⟨by simpa using admitted, ?_⟩
    cases event with
    | memoryMap =>
        dsimp only at served
        split at served
        next overlap => cases served
        next clear =>
          split at served
          next error => cases served
          next mapped =>
            cases served
            exact .inl ⟨rfl, scanned true (by simpa using clear), rfl⟩
    | memoryUnmap =>
        dsimp only at served
        split at served
        next missing => cases served
        next present =>
          cases served
          refine .inr ⟨rfl, scanned false ?_, rfl⟩
          rw [← Bool.not_eq_true]
          simpa using present

/-- A message changes the bookkeeping only as a request that succeeds. -/
theorem receive_cases (manager : Manager) (input : Input) :
    (receive manager input).2 = manager ∨
      ((receive manager input).1 = .serviced ∧ ∃ event,
        serviceMemoryRequest manager event input.message.second input.message.third
          input.vspaceError = .ok (receive manager input).2) := by
  unfold receive
  dsimp only
  split
  next event requests decoded =>
    split
    next served => exact .inr ⟨rfl, event, served⟩
    next refused => exact .inl rfl
  next other => split <;> exact .inl rfl

/-- An allocator event is accepted only with no page counted. -/
theorem acceptEvent_allocator {expectation : Expectation} {message : Message} {event : Nat}
    (accepted : acceptEvent manager expectation message = .accepted event)
    (allocator : event = eventAllocatorOk ∨ event = eventAllocatorReleased) :
    manager.mappedPages = 0 := by
  unfold acceptEvent at accepted
  split at accepted
  next mismatch => cases accepted
  next =>
    split at accepted
    next retained => cases accepted
    next released =>
      split at accepted
      next profile => cases accepted
      next =>
        cases accepted
        by_contra mapped
        exact released ⟨allocator, mapped⟩

theorem receive_accepted {input : Input} {event : Nat}
    (accepted : (receive manager input).1 = .accepted event) :
    acceptEvent manager input.expectation input.message = .accepted event := by
  unfold receive at accepted
  dsimp only at accepted
  split at accepted
  next requests decoded => split at accepted <;> cases accepted
  next other =>
    split at accepted
    next forwarded =>
      cases done : input.forwarded <;> rw [done] at accepted <;> cases accepted
    next awaited => exact accepted

/-- The counter counts, and nothing outside the arena is marked. -/
structure Counted (manager : Manager) : Prop where
  count : manager.mappedPages = Bitmap.population lunaChildHeapPages manager.mapped
  blank : ∀ page, lunaChildHeapPages ≤ page → manager.mapped page = false

theorem Counted.serve {vspaceError : Int} (counted : Counted manager)
    (served : serviceMemoryRequest manager event request pageCount vspaceError = .ok target) :
    Counted target ∧ target.peakPages = max manager.peakPages target.mappedPages ∨
      Counted target ∧ target.peakPages = manager.peakPages ∧
        target.mappedPages ≤ manager.mappedPages := by
  obtain ⟨admitted, mapping | unmapping⟩ := serviceMemoryRequest_cases served
  · obtain ⟨-, clear, rfl⟩ := mapping
    obtain ⟨inside, -, -⟩ := admits_inside admitted
    refine .inl ⟨⟨?_, fun page beyond => ?_⟩, rfl⟩
    · rw [Bitmap.population_fill_true inside clear]
      exact congrArg (· + pageCount) counted.count
    · dsimp only
      rw [Bitmap.fill_outside (by omega)]
      exact counted.blank page beyond
  · obtain ⟨-, marked, rfl⟩ := unmapping
    obtain ⟨inside, -, -⟩ := admits_inside admitted
    refine .inr ⟨⟨?_, fun page beyond => ?_⟩, rfl, Nat.sub_le _ _⟩
    · have cleared := Bitmap.population_fill_false manager.mapped inside marked
      have before := counted.count
      dsimp only
      omega
    · dsimp only
      rw [Bitmap.fill_outside (by omega)]
      exact counted.blank page beyond

end Requests

/-! ## Histories -/

section Histories

variable {inputs : List Input}

theorem afterInputs_append (inputs : List Input) (input : Input) :
    afterInputs (inputs ++ [input]) = (receive (afterInputs inputs) input).2 := by
  simp [afterInputs]

theorem pageCounts_append (inputs : List Input) (input : Input) :
    pageCounts (inputs ++ [input]) =
      insert (afterInputs (inputs ++ [input])).mappedPages (pageCounts inputs) := by
  ext count
  constructor
  · rintro ⟨history, initial, rfl⟩
    rcases List.prefix_concat_iff.mp initial with rfl | earlier
    · exact .inl rfl
    · exact .inr ⟨history, earlier, rfl⟩
  · rintro (rfl | ⟨history, initial, rfl⟩)
    · exact ⟨_, List.prefix_refl _, rfl⟩
    · exact ⟨history, initial.trans (List.prefix_append _ _), rfl⟩

theorem mappedPages_mem (inputs : List Input) :
    (afterInputs inputs).mappedPages ∈ pageCounts inputs := ⟨inputs, List.prefix_refl _, rfl⟩

theorem history_exact (inputs : List Input) :
    Counted (afterInputs inputs) ∧
      IsGreatest (pageCounts inputs) (afterInputs inputs).peakPages := by
  induction inputs using List.reverseRecOn with
  | nil =>
      refine ⟨⟨?_, fun _ _ => rfl⟩, mappedPages_mem [], ?_⟩
      · simp [afterInputs, startedHeap, PageHeap.started, Bitmap.population]
      · rintro count ⟨history, initial, rfl⟩
        rw [List.prefix_nil.mp initial]
        exact Nat.le_refl _
  | append_singleton inputs input inductionHypothesis =>
      obtain ⟨counted, greatest⟩ := inductionHypothesis
      have stands := mappedPages_mem inputs
      rw [pageCounts_append, afterInputs_append]
      rcases receive_cases (afterInputs inputs) input with same | ⟨-, event, served⟩
      · rw [same]
        refine ⟨counted, ?_⟩
        have raised := greatest.insert (afterInputs inputs).mappedPages
        rwa [Nat.max_eq_right (greatest.2 stands)] at raised
      · rcases counted.serve served with ⟨counts, raised⟩ | ⟨counts, kept, fewer⟩
        · refine ⟨counts, ?_⟩
          rw [raised, Nat.max_comm]
          exact greatest.insert _
        · refine ⟨counts, ?_⟩
          rw [kept, ← Nat.max_eq_right (Nat.le_trans fewer (greatest.2 stands))]
          exact greatest.insert _

end Histories

/-! ## Runs -/

section Runs

variable {mapped : Nat → Bool}

/-- The run from `page` on: everything in it is mapped, and it stops at a page that
is not. -/
theorem runEnd_spec (mapped : Nat → Bool) (fuel page : Nat) :
    page ≤ runEnd mapped fuel page ∧ runEnd mapped fuel page ≤ page + fuel ∧
      (∀ other, page ≤ other → other < runEnd mapped fuel page → mapped other = true) ∧
      (runEnd mapped fuel page < page + fuel → mapped (runEnd mapped fuel page) = false) := by
  induction fuel generalizing page with
  | zero =>
      refine ⟨Nat.le_refl _, Nat.le_refl _, fun other above below => ?_, fun below => ?_⟩
      · exact absurd below (Nat.not_lt.mpr above)
      · exact absurd below (Nat.lt_irrefl _)
  | succ fuel inductionHypothesis =>
      unfold runEnd
      split
      next here =>
        obtain ⟨above, below, inside, stops⟩ := inductionHypothesis (page + 1)
        refine ⟨by omega, by omega, fun other otherAbove otherBelow => ?_, fun early => ?_⟩
        · rcases Nat.eq_or_lt_of_le otherAbove with rfl | later
          · exact here
          · exact inside other later otherBelow
        · exact stops (by omega)
      next gap =>
        refine ⟨Nat.le_refl _, by omega, fun other above below => ?_, fun _ => by simpa using gap⟩
        exact absurd below (Nat.not_lt.mpr above)

/-- The runs found from `page` on lie from there on, are disjoint and cover the
mapped pages. -/
theorem heapRuns_spec (fuel page : Nat) (enough : lunaChildHeapPages ≤ page + fuel) :
    (∀ run ∈ heapRuns mapped fuel page, ∀ other, InRun run other → page ≤ other) ∧
      (heapRuns mapped fuel page).Pairwise (fun first second =>
        ∀ other, InRun first other → ¬ InRun second other) ∧
      ∀ other, page ≤ other → ((∃ run ∈ heapRuns mapped fuel page, InRun run other) ↔
        other < lunaChildHeapPages ∧ mapped other = true) := by
  induction fuel generalizing page with
  | zero =>
      refine ⟨nofun, .nil, fun other above => ⟨nofun, fun inside => ?_⟩⟩
      omega
  | succ fuel inductionHypothesis =>
      unfold heapRuns
      split
      next inArena =>
        split
        next here =>
          obtain ⟨above, below, inside, stops⟩ :=
            runEnd_spec mapped (lunaChildHeapPages - page) page
          -- The first page is mapped, so the run is not empty and the scan moves on.
          have grows : page < runEnd mapped (lunaChildHeapPages - page) page := by
            refine Nat.lt_of_le_of_ne above fun same => ?_
            have gap := stops (by omega)
            rw [← same, here] at gap
            cases gap
          dsimp only
          generalize runEnd mapped (lunaChildHeapPages - page) page = last at *
          obtain ⟨later, apart, covers⟩ := inductionHypothesis last (by omega)
          refine ⟨?_, ?_, fun other otherAbove => ?_⟩
          · intro run member other within
            rcases List.mem_cons.mp member with rfl | member
            · exact within.1
            · exact Nat.le_trans above (later run member other within)
          · refine .cons (fun run member other within other_within => ?_) apart
            have after := later run member other other_within
            have before := within.2
            dsimp only at before
            omega
          · rw [List.exists_mem_cons_iff]
            by_cases early : other < last
            · refine ⟨fun _ => ⟨by omega, inside other otherAbove early⟩, fun _ => .inl ⟨?_, ?_⟩⟩
              · exact otherAbove
              · dsimp only
                omega
            · rw [← covers other (by omega)]
              refine ⟨?_, .inr⟩
              rintro (within | found)
              · have before := within.2
                dsimp only at before
                omega
              · exact found
        next gap =>
          obtain ⟨later, apart, covers⟩ := inductionHypothesis (page + 1) (by omega)
          refine ⟨fun run member other within => ?_, apart, fun other otherAbove => ?_⟩
          · exact Nat.le_of_succ_le (later run member other within)
          · rcases Nat.eq_or_lt_of_le otherAbove with rfl | past
            · refine ⟨fun ⟨run, member, within⟩ => ?_, fun marked => absurd marked.2 gap⟩
              exact absurd (later run member _ within) (Nat.not_succ_le_self _)
            · exact covers other past
      next beyond =>
        refine ⟨nofun, .nil, fun other above => ⟨nofun, fun inside => ?_⟩⟩
        omega

theorem runsExact (mapped : Nat → Bool) : RunsExact mapped := by
  obtain ⟨-, apart, covers⟩ := @heapRuns_spec mapped lunaChildHeapPages 0 (by omega)
  exact ⟨apart, fun page => covers page (Nat.zero_le _)⟩

/-- The loop of `destroy_child` unmaps the runs one after the other. -/
theorem unmapRuns_eq_foldl (world : World) (fuel page : Nat) :
    world.unmapRuns fuel page = (heapRuns world.resources.heap.mapped fuel page).foldl
      (fun world run => world.unmapPages run.1 run.2) world := by
  induction fuel generalizing world page with
  | zero => rfl
  | succ fuel inductionHypothesis =>
      unfold World.unmapRuns heapRuns
      split
      next inside =>
        split
        next here => exact inductionHypothesis (world.unmapPages page _) _
        next gap => exact inductionHypothesis world _
      next beyond => rfl

end Runs

/-! ## Results -/

/-- After every history of messages the bookkeeping is exact. -/
theorem heap_bookkeeping_exact (inputs : List Input) : HeapExact inputs := by
  obtain ⟨counted, greatest⟩ := history_exact inputs
  refine ⟨counted.count, greatest, fun input failed => ?_, ?_, fun input page beyond => ?_, ?_,
    runsExact _, fun world same => ?_⟩
  · rcases receive_cases (afterInputs inputs) input with same | ⟨serviced, -⟩
    · exact same
    · rw [failed] at serviced
      cases serviced
  · intro request pageCount page touched
    unfold touchedPages at touched
    split at touched
    next admitted =>
      obtain ⟨index, small, rfl⟩ := List.mem_map.mp touched
      obtain ⟨inside, aligned, -⟩ := admits_inside admitted
      have below := List.mem_range.mp small
      simp only [taskPageSize] at aligned ⊢
      omega
    next refused => cases touched
  · rcases receive_cases (afterInputs inputs) input with same | ⟨-, event, served⟩
    · rw [same]
    · have after : Counted (receive (afterInputs inputs) input).2 := by
        rcases counted.serve served with raised | kept
        · exact raised.1
        · exact kept.1
      rw [after.blank page beyond, counted.blank page beyond]
  · intro input event accepted allocator page inside
    have none := acceptEvent_allocator (receive_accepted accepted) allocator
    rw [counted.count, Bitmap.population, Finset.card_eq_zero, Finset.filter_eq_empty_iff] at none
    exact Bool.not_eq_true _ |>.mp (none (Finset.mem_range.mpr inside))
  · rw [← same]
    exact unmapRuns_eq_foldl world _ _

end Luna.Child
