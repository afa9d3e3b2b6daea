import Luna.HeapPointers
import Luna.Lib.Interleaving

/-!
# The BusyBox heap under threads

Applets run side by side on one heap.  `luna_bb_malloc` and `luna_bb_free` hold
`task_user_heap_lock` from end to end; `luna_bb_realloc` drops it between finding the block,
allocating another one, copying and freeing.  A block belongs to one thread at a time, which may
hand it on.
-/

namespace Luna.UserHeap

open ByteMemory Interleaving

/-- Where a thread is: outside, or in `luna_bb_realloc` behind one of its locked sections. -/
inductive HeapPc where
  | idle
  | found (pointer size oldSize : Nat)
  | copying (pointer oldSize replacement copied : Nat)
  deriving DecidableEq, Repr

/-- `owner` and `known` are history: whom a pointer was given to, and which bytes behind it were
stored. -/
structure HeapThreads (Thread : Type) where
  heap : Statics
  pc : Thread → HeapPc
  owner : Nat → Option Thread
  known : Nat → Nat → Option UInt8

/-- `lookup`, `allocate`, `copy` (of one byte) and `release` are the parts of
`luna_bb_realloc`. -/
inductive HeapAction (Thread : Type) where
  | malloc (thread : Thread) (size : Nat)
  | free (thread : Thread) (pointer : Nat)
  | lookup (thread : Thread) (pointer size : Nat)
  | allocate (thread : Thread)
  | copy (thread : Thread)
  | release (thread : Thread)
  | store (thread : Thread) (pointer index : Nat) (byte : UInt8)
  | hand (thread other : Thread) (pointer : Nat)
  deriving DecidableEq, Repr

namespace HeapThreads

variable {Thread : Type} [DecidableEq Thread]

/-- The thread is outside of `luna_bb_realloc` and the pointer is its own. -/
def mayUse (state : HeapThreads Thread) (thread : Thread) (pointer : Nat) : Bool :=
  decide (state.pc thread = .idle) && decide (state.owner pointer = some thread)

/-- A thread is given a pointer. -/
def give (state : HeapThreads Thread) (thread : Thread) (heap : Statics) (pointer : Nat)
    (pc : HeapPc) : HeapThreads Thread where
  heap := heap
  pc := Function.update state.pc thread pc
  owner := Function.update state.owner pointer (some thread)
  known := Function.update state.known pointer fun _ => none

/-- A pointer belongs to nobody any more. -/
def drop (state : HeapThreads Thread) (thread : Thread) (heap : Statics) (pointer : Nat) :
    HeapThreads Thread :=
  { state with
    heap := heap
    pc := Function.update state.pc thread .idle
    owner := Function.update state.owner pointer none }

def next (state : HeapThreads Thread) : HeapAction Thread → Option (HeapThreads Thread)
  | .malloc thread size =>
      if state.pc thread = .idle then
        match state.heap.malloc walkLimit size with
        | none => none
        | some (heap, none) => some { state with heap := heap }
        | some (heap, some pointer) => some (state.give thread heap pointer .idle)
      else none
  | .free thread pointer =>
      if state.mayUse thread pointer then
        match state.heap.free walkLimit pointer with
        | none => none
        | some heap => some (state.drop thread heap pointer)
      else none
  | .lookup thread pointer size =>
      if size ≠ 0 ∧ state.mayUse thread pointer = true then
        match findWalk pointer walkLimit state.heap.memory 0 state.heap.head with
        | none => none
        | some (_, block) =>
            if block = 0 ∨ getFree state.heap.memory block ≠ 0 then
              some { state with heap := { state.heap with errno := some .einval } }
            else if size ≤ getSize state.heap.memory block then some state
            else
              let pc : HeapPc := .found pointer size (getSize state.heap.memory block)
              some { state with pc := Function.update state.pc thread pc }
      else none
  | .allocate thread =>
      match state.pc thread with
      | .found pointer size oldSize =>
          match state.heap.malloc walkLimit size with
          | none => none
          | some (heap, none) =>
              some { state with heap := heap, pc := Function.update state.pc thread .idle }
          | some (heap, some replacement) =>
              some (state.give thread heap replacement (.copying pointer oldSize replacement 0))
      | _ => none
  | .copy thread =>
      match state.pc thread with
      | .copying pointer oldSize replacement copied =>
          if copied < oldSize then
            let memory := write state.heap.memory (replacement + copied)
              [state.heap.memory (pointer + copied)]
            some { state with
              heap := { state.heap with memory := memory }
              pc := Function.update state.pc thread
                (.copying pointer oldSize replacement (copied + 1)) }
          else none
      | _ => none
  | .release thread =>
      match state.pc thread with
      | .copying pointer oldSize replacement copied =>
          if copied < oldSize then none
          else
            match state.heap.free walkLimit pointer with
            | none => none
            | some heap => some { state.drop thread heap pointer with
                known := Function.update state.known replacement fun index =>
                  if index < oldSize then state.known pointer index else none }
      | _ => none
  | .store thread pointer index byte =>
      if state.mayUse thread pointer = true ∧
          index < getSize state.heap.memory (pointer - headerSize) then
        some { state with
          heap := { state.heap with memory := write state.heap.memory (pointer + index) [byte] }
          known := Function.update state.known pointer
            (Function.update (state.known pointer) index (some byte)) }
      else none
  | .hand thread other pointer =>
      if state.mayUse thread pointer then
        some { state with owner := Function.update state.owner pointer (some other) }
      else none

/-- After `task_user_heap_reset`. -/
def reset (arena : Arena) (memory : Memory) : HeapThreads Thread :=
  ⟨Statics.reset arena memory, fun _ => .idle, fun _ => none, fun _ _ => none⟩

end HeapThreads

def heapSystem (Thread : Type) [DecidableEq Thread] (arena : Arena) :
    System (HeapThreads Thread) (HeapAction Thread) where
  init state := ∃ memory, state = HeapThreads.reset arena memory
  next := HeapThreads.next

/-! ## Blocks that stay -/

section Blocks

variable {arena : Arena} {shadow after : Contents} {block target : Block}

/-- The block stays allocated, with its bytes. -/
structure Stays (shadow after : Contents) (block : Block) : Prop where
  allocated : block ∈ used after.heap.blocks
  bytes : ∀ index < block.size,
    after.memory (block.payload + index) = shadow.memory (block.payload + index)

theorem stays_of_differs (wf : WellFormed arena shadow.heap)
    (member : block ∈ used shadow.heap.blocks) (allocated : block ∈ used after.heap.blocks)
    (differs : DiffersIn (Writable shadow.heap.blocks) shadow.memory after.memory) :
    Stays shadow after block :=
  ⟨allocated, fun _ inside => differs _
    (wf.layout.payload_unwritable member (Nat.le_add_right _ _) (Nat.add_lt_add_left inside _))⟩

theorem malloc_stays (wf : WellFormed arena shadow.heap)
    (member : block ∈ used shadow.heap.blocks) (size : Nat) :
    Stays shadow (shadow.malloc size).1 block :=
  stays_of_differs wf member (malloc_used size member) (malloc_differs shadow size)

theorem free_stays (wf : WellFormed arena shadow.heap)
    (member : block ∈ used shadow.heap.blocks) {pointer : Nat} (other : block.payload ≠ pointer) :
    Stays shadow (shadow.free pointer) block :=
  stays_of_differs wf member (free_used member other) (free_differs shadow pointer)

/-- A byte is stored. -/
def Contents.poke (state : Contents) (address : Nat) (byte : UInt8) : Contents :=
  { state with memory := write state.memory address [byte] }

theorem poke_same (address : Nat) (byte : UInt8) :
    (shadow.poke address byte).memory address = byte := by
  simp [Contents.poke, write]

theorem poke_other {address other : Nat} (differ : other ≠ address) (byte : UInt8) :
    (shadow.poke address byte).memory other = shadow.memory other := by
  by_cases below : other < address
  · exact write_apply_of_lt below
  · refine write_apply_of_ge ?_
    rw [List.length_singleton]
    omega

/-- Behind another pointer. -/
theorem poke_stays (wf : WellFormed arena shadow.heap)
    (member : block ∈ used shadow.heap.blocks) (targetUsed : target ∈ used shadow.heap.blocks)
    (other : block.payload ≠ target.payload) {index : Nat} (inside : index < target.size)
    (byte : UInt8) : Stays shadow (shadow.poke (target.payload + index) byte) block := by
  have apart := wf.layout.disjoint (mem_used.mp member).1 (mem_used.mp targetUsed).1 other
  exact ⟨member, fun position within => poke_other (by omega) byte⟩

theorem Simulates.poke {heap : Statics} (simulates : Simulates arena heap shadow)
    (member : target ∈ used shadow.heap.blocks) {index : Nat} (inside : index < target.size)
    (byte : UInt8) :
    Simulates arena { heap with memory := write heap.memory (target.payload + index) [byte] }
      (shadow.poke (target.payload + index) byte) := by
  rw [simulates.memory]
  refine simulates.store member fun other outside => ?_
  have differ : other ≠ target.payload + index := by
    rintro rfl
    exact outside ⟨Nat.le_add_right _ _, by omega⟩
  exact poke_other differ byte

/-- No allocated block is handed out again. -/
theorem malloc_fresh (wf : WellFormed arena shadow.heap) {size pointer : Nat}
    (returned : (lunaBbMalloc shadow.heap size).2 = some pointer)
    (member : block ∈ used shadow.heap.blocks) : block.payload ≠ pointer := by
  intro same
  have distinct := (malloc_wellFormed wf size).distinct
  rw [malloc_live returned, List.map_append] at distinct
  obtain ⟨allocation, present, payload⟩ := wf.known block member
  exact (List.nodup_append.mp distinct).2.2 _ (List.mem_map_of_mem present) pointer (by simp)
    (payload.trans same)

end Blocks

/-! ## What belongs to whom -/

section Ownership

variable {Thread : Type} [DecidableEq Thread] {arena : Arena} {state target : HeapThreads Thread}
  {shadow after : Contents}

/-- A pointer that belongs to a thread has a block with the bytes that were stored. -/
def Owned (shadow : Contents) (known : Nat → Option UInt8) (pointer : Nat) : Prop :=
  ∃ block ∈ used shadow.heap.blocks, block.payload = pointer ∧
    ∀ index byte, known index = some byte →
      index < block.size ∧ shadow.memory (pointer + index) = byte

/-- What a thread in `luna_bb_realloc` relies on. -/
def BusyAt (state : HeapThreads Thread) (shadow : Contents) (thread : Thread) : HeapPc → Prop
  | .idle => True
  | .found pointer size oldSize =>
      state.owner pointer = some thread ∧ oldSize < size ∧
        ∃ block ∈ used shadow.heap.blocks, block.payload = pointer ∧ block.size = oldSize
  | .copying pointer oldSize replacement copied =>
      state.owner pointer = some thread ∧ state.owner replacement = some thread ∧
        pointer ≠ replacement ∧ (∀ index, state.known replacement index = none) ∧
        copied ≤ oldSize ∧
        (∃ block ∈ used shadow.heap.blocks, block.payload = pointer ∧ block.size = oldSize) ∧
        (∃ block ∈ used shadow.heap.blocks, block.payload = replacement ∧
          oldSize ≤ block.size) ∧
        ∀ index < copied, shadow.memory (replacement + index) = shadow.memory (pointer + index)

def Busy (state : HeapThreads Thread) (shadow : Contents) (thread : Thread) : Prop :=
  BusyAt state shadow thread (state.pc thread)

/-- The heap next to its block list, with what belongs to whom. -/
structure Shadowed (arena : Arena) (state : HeapThreads Thread) (shadow : Contents) : Prop where
  simulates : Simulates arena state.heap shadow
  owned : ∀ pointer thread, state.owner pointer = some thread →
    Owned shadow (state.known pointer) pointer
  busy : ∀ thread, Busy state shadow thread

/-- A step leaves a pointer alone. -/
structure Untouched (state target : HeapThreads Thread) (shadow after : Contents)
    (pointer : Nat) : Prop where
  owner : target.owner pointer = state.owner pointer
  known : target.known pointer = state.known pointer
  stays : ∀ block ∈ used shadow.heap.blocks, block.payload = pointer → Stays shadow after block

omit [DecidableEq Thread] in
theorem Owned.stays {known : Nat → Option UInt8} {pointer : Nat}
    (owned : Owned shadow known pointer)
    (stays : ∀ block ∈ used shadow.heap.blocks, block.payload = pointer →
      Stays shadow after block) : Owned after known pointer := by
  obtain ⟨block, member, rfl, bytes⟩ := owned
  have stay := stays block member rfl
  refine ⟨block, stay.allocated, rfl, fun index byte isKnown => ?_⟩
  obtain ⟨inside, stored⟩ := bytes index byte isKnown
  exact ⟨inside, (stay.bytes index inside).trans stored⟩

omit [DecidableEq Thread] in
theorem Busy.frame {thread : Thread} (busy : Busy state shadow thread)
    (same : target.pc thread = state.pc thread)
    (untouched : ∀ pointer, state.owner pointer = some thread →
      Untouched state target shadow after pointer) : Busy target after thread := by
  unfold Busy at busy ⊢
  rw [same]
  cases pc : state.pc thread with
  | idle => trivial
  | found pointer size oldSize =>
      rw [pc] at busy
      obtain ⟨owner, larger, block, member, payload, isSize⟩ := busy
      have alone := untouched pointer owner
      exact ⟨alone.owner.trans owner, larger, block, (alone.stays block member payload).allocated,
        payload, isSize⟩
  | copying pointer oldSize replacement copied =>
      rw [pc] at busy
      obtain ⟨owner, owns, differ, nothing, bound, ⟨block, member, payload, isSize⟩,
        ⟨next, nextMember, nextPayload, enough⟩, copy⟩ := busy
      have alone := untouched pointer owner
      have nextAlone := untouched replacement owns
      have stay := alone.stays block member payload
      have nextStay := nextAlone.stays next nextMember nextPayload
      refine ⟨alone.owner.trans owner, nextAlone.owner.trans owns, differ, ?_, bound,
        ⟨block, stay.allocated, payload, isSize⟩, ⟨next, nextStay.allocated, nextPayload, enough⟩,
        fun index inside => ?_⟩
      · rw [nextAlone.known]
        exact nothing
      · have bytes := stay.bytes index (by omega)
        have nextBytes := nextStay.bytes index (by omega)
        rw [payload] at bytes
        rw [nextPayload] at nextBytes
        rw [bytes, nextBytes]
        exact copy index inside

omit [DecidableEq Thread] in
/-- A step of one thread. -/
theorem Shadowed.move (shadowed : Shadowed arena state shadow) (thread : Thread)
    (simulates : Simulates arena target.heap after)
    (elsewhere : ∀ other, other ≠ thread → target.pc other = state.pc other)
    (untouched : ∀ pointer other, other ≠ thread → state.owner pointer = some other →
      Untouched state target shadow after pointer)
    (owned : ∀ pointer other, target.owner pointer = some other →
      Untouched state target shadow after pointer ∨ Owned after (target.known pointer) pointer)
    (busy : Busy target after thread) : Shadowed arena target after where
  simulates := simulates
  owned := by
    intro pointer other owner
    rcases owned pointer other owner with alone | owned
    · rw [alone.known]
      exact (shadowed.owned pointer other (alone.owner ▸ owner)).stays alone.stays
    · exact owned
  busy := by
    intro other
    by_cases same : other = thread
    · exact same ▸ busy
    · exact (shadowed.busy other).frame (elsewhere other same) fun pointer owner =>
        untouched pointer other same owner

end Ownership

/-! ## The steps -/

section Steps

variable {Thread : Type} [DecidableEq Thread] {arena : Arena} {state target : HeapThreads Thread}
  {shadow : Contents} {thread : Thread} {pointer : Nat}

theorem mayUse_iff : state.mayUse thread pointer = true ↔
    state.pc thread = .idle ∧ state.owner pointer = some thread := by
  unfold HeapThreads.mayUse
  rw [Bool.and_eq_true, decide_eq_true_eq, decide_eq_true_eq]

omit [DecidableEq Thread] in
theorem busy_of {pc : HeapPc} (here : state.pc thread = pc)
    (busy : BusyAt state shadow thread pc) : Busy state shadow thread := by
  unfold Busy
  rw [here]
  exact busy

omit [DecidableEq Thread] in
theorem busy_of_idle (idle : state.pc thread = .idle) : Busy state shadow thread :=
  busy_of idle trivial

omit [DecidableEq Thread] in
theorem Shadowed.busyAt (shadowed : Shadowed arena state shadow) {pc : HeapPc}
    (here : state.pc thread = pc) : BusyAt state shadow thread pc := by
  have busy := shadowed.busy thread
  unfold Busy at busy
  rwa [here] at busy

omit [DecidableEq Thread] in
theorem Untouched.same (owner : target.owner pointer = state.owner pointer)
    (known : target.known pointer = state.known pointer) :
    Untouched state target shadow shadow pointer :=
  ⟨owner, known, fun _ member _ => ⟨member, fun _ _ => rfl⟩⟩

omit [DecidableEq Thread] in
/-- Two threads do not own the same pointer. -/
theorem ne_of_owner {other : Thread} {second : Nat} (differ : other ≠ thread)
    (owner : state.owner pointer = some thread) (owns : state.owner second = some other) :
    second ≠ pointer := by
  rintro rfl
  rw [owner] at owns
  exact differ (Option.some.inj owns).symm

omit [DecidableEq Thread] in
theorem Shadowed.fresh (shadowed : Shadowed arena state shadow) {size : Nat}
    (returned : (shadow.malloc size).2 = some pointer) {owned : Nat} {other : Thread}
    (owner : state.owner owned = some other) : owned ≠ pointer := by
  obtain ⟨block, member, rfl, -⟩ := shadowed.owned owned other owner
  exact malloc_fresh shadowed.simulates.wellFormed returned member

omit [DecidableEq Thread] in
/-- The arena has no room. -/
theorem Shadowed.refused (shadowed : Shadowed arena state shadow) {size : Nat}
    (simulates : Simulates arena target.heap (shadow.malloc size).1)
    (elsewhere : ∀ other, other ≠ thread → target.pc other = state.pc other)
    (idle : target.pc thread = .idle) (owner : target.owner = state.owner)
    (known : target.known = state.known) : Shadowed arena target (shadow.malloc size).1 := by
  have wf := shadowed.simulates.wellFormed
  have untouched : ∀ pointer, Untouched state target shadow (shadow.malloc size).1 pointer :=
    fun pointer => ⟨congrFun owner pointer, congrFun known pointer,
      fun _ member _ => malloc_stays wf member size⟩
  exact shadowed.move thread simulates elsewhere (fun pointer _ _ _ => untouched pointer)
    (fun pointer _ _ => .inl (untouched pointer)) (busy_of_idle idle)

/-- A thread gets a new block. -/
theorem Shadowed.give (shadowed : Shadowed arena state shadow) {size : Nat} {heap : Statics}
    {pc : HeapPc} (returned : (shadow.malloc size).2 = some pointer)
    (simulates : Simulates arena heap (shadow.malloc size).1)
    (busy : Busy (state.give thread heap pointer pc) (shadow.malloc size).1 thread) :
    Shadowed arena (state.give thread heap pointer pc) (shadow.malloc size).1 := by
  have wf := shadowed.simulates.wellFormed
  have untouched : ∀ owned other, state.owner owned = some other →
      Untouched state (state.give thread heap pointer pc) shadow (shadow.malloc size).1 owned := by
    intro owned other owner
    have differ := shadowed.fresh returned owner
    exact ⟨Function.update_of_ne differ .., Function.update_of_ne differ ..,
      fun _ member _ => malloc_stays wf member size⟩
  refine shadowed.move thread simulates (fun other differ => Function.update_of_ne differ ..)
    (fun owned other _ owner => untouched owned other owner) (fun owned other owner => ?_) busy
  by_cases here : owned = pointer
  · subst here
    obtain ⟨taken, allocated, payload, -⟩ := malloc_taken returned
    have nothing : (state.give thread heap owned pc).known owned = fun _ => none :=
      Function.update_self ..
    refine .inr ⟨taken, allocated, payload, ?_⟩
    rw [nothing]
    intro _ _ isKnown
    cases isKnown
  · refine .inl (untouched owned other ?_)
    exact (Function.update_of_ne here ..).symm.trans owner

/-- A thread gives a block back. -/
theorem Shadowed.drop (shadowed : Shadowed arena state shadow) {heap : Statics}
    (owner : state.owner pointer = some thread)
    (simulates : Simulates arena heap (shadow.free pointer)) :
    Shadowed arena (state.drop thread heap pointer) (shadow.free pointer) := by
  have wf := shadowed.simulates.wellFormed
  have untouched : ∀ owned, owned ≠ pointer →
      Untouched state (state.drop thread heap pointer) shadow (shadow.free pointer) owned := by
    intro owned differ
    exact ⟨Function.update_of_ne differ .., rfl,
      fun _ member payload => free_stays wf member (payload ▸ differ)⟩
  refine shadowed.move thread simulates (fun other differ => Function.update_of_ne differ ..)
    (fun owned other differ owns => untouched owned (ne_of_owner differ owner owns))
    (fun owned other owns => ?_) (busy_of_idle (Function.update_self ..))
  refine .inl (untouched owned ?_)
  rintro rfl
  have gone : (state.drop thread heap owned).owner owned = none := Function.update_self ..
  rw [gone] at owns
  cases owns

omit [DecidableEq Thread] in
/-- More is known about the bytes of an idle thread. -/
theorem Shadowed.learn (shadowed : Shadowed arena state shadow)
    (idle : state.pc thread = .idle) (owner : state.owner pointer = some thread)
    {known : Nat → Option UInt8} (owned : Owned shadow known pointer) :
    Shadowed arena { state with known := Function.update state.known pointer known } shadow := by
  have untouched : ∀ owned, owned ≠ pointer → Untouched state
      { state with known := Function.update state.known pointer known } shadow shadow owned :=
    fun owned differ => .same rfl (Function.update_of_ne differ ..)
  refine shadowed.move thread shadowed.simulates (fun _ _ => rfl)
    (fun second other differ owns => untouched second (ne_of_owner differ owner owns))
    (fun second other owns => ?_) (busy_of_idle idle)
  by_cases here : second = pointer
  · subst here
    refine .inr ?_
    dsimp only
    rw [Function.update_self]
    exact owned
  · exact .inl (untouched second here)

theorem Shadowed.malloc (shadowed : Shadowed arena state shadow) (linked : arena.Linked)
    {size : Nat} (moved : state.next (.malloc thread size) = some target) :
    ∃ after, Shadowed arena target after := by
  obtain ⟨heap, allocated, simulates⟩ := shadowed.simulates.malloc linked size
  simp only [HeapThreads.next, allocated] at moved
  split at moved
  next idle =>
    cases returned : (shadow.malloc size).2 with
    | none =>
        rw [returned] at moved
        cases moved
        exact ⟨_, shadowed.refused simulates (fun _ _ => rfl) idle rfl rfl⟩
    | some pointer =>
        rw [returned] at moved
        cases moved
        exact ⟨_, shadowed.give returned simulates (busy_of_idle (Function.update_self ..))⟩
  next => cases moved

theorem Shadowed.free (shadowed : Shadowed arena state shadow) (linked : arena.Linked)
    (moved : state.next (.free thread pointer) = some target) :
    ∃ after, Shadowed arena target after := by
  obtain ⟨heap, freed, simulates⟩ := shadowed.simulates.free linked pointer
  simp only [HeapThreads.next, freed] at moved
  split at moved
  next mine =>
    cases moved
    exact ⟨_, shadowed.drop (mayUse_iff.mp mine).2 simulates⟩
  next => cases moved

theorem Shadowed.lookup (shadowed : Shadowed arena state shadow) (linked : arena.Linked)
    {size : Nat} (moved : state.next (.lookup thread pointer size) = some target) :
    ∃ after, Shadowed arena target after := by
  have wf := shadowed.simulates.wellFormed
  simp only [HeapThreads.next] at moved
  split at moved
  next mine =>
    obtain ⟨idle, owner⟩ := mayUse_iff.mp mine.2
    obtain ⟨block, member, payload, -⟩ := shadowed.owned pointer thread owner
    obtain ⟨⟨previous, header⟩, walked, finds⟩ :=
      findWalk_lookup pointer (wf.placed linked) shadowed.simulates.represents wf.short 0
    have known := wf.layout.lookup_eq member
    rw [payload] at known
    rw [known] at finds
    obtain ⟨isFound, isSize⟩ := finds
    rw [← shadowed.simulates.memory, ← shadowed.simulates.head] at walked
    rw [← shadowed.simulates.memory] at isFound isSize
    simp only [walked, if_neg isFound, isSize] at moved
    split at moved
    next => cases moved; exact ⟨shadow, shadowed⟩
    next grows =>
      cases moved
      refine ⟨shadow, shadowed.move thread shadowed.simulates
        (fun other differ => Function.update_of_ne differ ..) (fun _ _ _ _ => .same rfl rfl)
        (fun _ _ _ => .inl (.same rfl rfl)) (busy_of (Function.update_self ..) ?_)⟩
      exact ⟨owner, Nat.lt_of_not_le grows, block, member, payload, rfl⟩
  next => cases moved

theorem Shadowed.allocate (shadowed : Shadowed arena state shadow) (linked : arena.Linked)
    (moved : state.next (.allocate thread) = some target) :
    ∃ after, Shadowed arena target after := by
  simp only [HeapThreads.next] at moved
  split at moved
  next pointer size oldSize pc =>
    obtain ⟨owner, larger, block, member, payload, isSize⟩ := shadowed.busyAt pc
    obtain ⟨heap, allocated, simulates⟩ := shadowed.simulates.malloc linked size
    rw [allocated] at moved
    cases returned : (shadow.malloc size).2 with
    | none =>
        rw [returned] at moved
        cases moved
        exact ⟨_, shadowed.refused simulates (fun other differ => Function.update_of_ne differ ..)
          (Function.update_self ..) rfl rfl⟩
    | some replacement =>
        rw [returned] at moved
        cases moved
        have differ := shadowed.fresh returned owner
        obtain ⟨taken, takenUsed, takenPayload, enough⟩ := malloc_taken returned
        have nothing : (state.give thread heap replacement
            (.copying pointer oldSize replacement 0)).known replacement = fun _ => none :=
          Function.update_self ..
        refine ⟨_, shadowed.give returned simulates (busy_of (Function.update_self ..) ?_)⟩
        refine ⟨(Function.update_of_ne differ ..).trans owner, Function.update_self .., differ,
          congrFun nothing, Nat.zero_le _, ⟨block, malloc_used size member, payload, isSize⟩,
          ⟨taken, takenUsed, takenPayload, by omega⟩, fun index inside => by omega⟩
  next => cases moved

theorem Shadowed.copy (shadowed : Shadowed arena state shadow)
    (moved : state.next (.copy thread) = some target) : ∃ after, Shadowed arena target after := by
  have wf := shadowed.simulates.wellFormed
  simp only [HeapThreads.next] at moved
  split at moved
  next pointer oldSize replacement copied pc =>
    obtain ⟨owner, owns, differ, nothing, bound, ⟨block, member, rfl, isSize⟩,
      ⟨next, nextMember, rfl, enough⟩, copy⟩ := shadowed.busyAt pc
    split at moved
    next more =>
      cases moved
      have inside : copied < next.size := by omega
      let byte := state.heap.memory (block.payload + copied)
      have stays : ∀ other ∈ used shadow.heap.blocks, other.payload ≠ next.payload →
          Stays shadow (shadow.poke (next.payload + copied) byte) other :=
        fun other otherUsed apart => poke_stays wf otherUsed nextMember apart inside byte
      refine ⟨_, shadowed.move thread (shadowed.simulates.poke nextMember inside byte)
        (fun other differ => Function.update_of_ne differ ..)
        (fun owned other apart own => ⟨rfl, rfl, fun other otherUsed payload =>
          stays other otherUsed (payload ▸ ne_of_owner apart owns own)⟩)
        (fun owned other own => ?_) ?_⟩
      · by_cases here : owned = next.payload
        · subst here
          refine .inr ⟨next, nextMember, rfl, fun index byte isKnown => ?_⟩
          rw [nothing index] at isKnown
          cases isKnown
        · exact .inl ⟨rfl, rfl, fun other otherUsed payload =>
            stays other otherUsed (payload ▸ here)⟩
      · have stay := stays block member differ
        refine busy_of (Function.update_self ..) ?_
        refine ⟨owner, owns, differ, nothing, more, ⟨block, member, rfl, isSize⟩,
          ⟨next, nextMember, rfl, enough⟩, fun index within => ?_⟩
        rw [stay.bytes index (by omega)]
        rcases Nat.lt_succ_iff_lt_or_eq.mp within with before | rfl
        · rw [poke_other (by omega)]
          exact copy index before
        · rw [poke_same]
          exact congrFun shadowed.simulates.memory _
    next => cases moved
  next => cases moved

theorem Shadowed.release (shadowed : Shadowed arena state shadow) (linked : arena.Linked)
    (moved : state.next (.release thread) = some target) :
    ∃ after, Shadowed arena target after := by
  have wf := shadowed.simulates.wellFormed
  simp only [HeapThreads.next] at moved
  split at moved
  next pointer oldSize replacement copied pc =>
    obtain ⟨owner, owns, differ, -, bound, -, ⟨next, nextMember, rfl, enough⟩, copy⟩ :=
      shadowed.busyAt pc
    split at moved
    next => cases moved
    next complete =>
      obtain rfl : copied = oldSize := by omega
      obtain ⟨heap, freed, simulates⟩ := shadowed.simulates.free linked pointer
      rw [freed] at moved
      cases moved
      have dropped := shadowed.drop owner simulates
      have stay := free_stays wf nextMember (Ne.symm differ)
      refine ⟨_, dropped.learn (Function.update_self ..)
        ((Function.update_of_ne (Ne.symm differ) ..).trans owns)
        ⟨next, stay.allocated, rfl, fun index byte isKnown => ?_⟩⟩
      dsimp only at isKnown
      split at isKnown
      next inside =>
        obtain ⟨block, member, payload, bytes⟩ := shadowed.owned pointer thread owner
        rw [stay.bytes index (by omega), copy index inside]
        exact ⟨by omega, (bytes index byte isKnown).2⟩
      next => cases isKnown
  next => cases moved

theorem Shadowed.store (shadowed : Shadowed arena state shadow) {index : Nat} {byte : UInt8}
    (moved : state.next (.store thread pointer index byte) = some target) :
    ∃ after, Shadowed arena target after := by
  have wf := shadowed.simulates.wellFormed
  simp only [HeapThreads.next] at moved
  split at moved
  next mine =>
    cases moved
    obtain ⟨idle, owner⟩ := mayUse_iff.mp mine.1
    obtain ⟨block, member, rfl, bytes⟩ := shadowed.owned pointer thread owner
    have inside : index < block.size := by
      have within := mine.2
      have isSize := shadowed.simulates.represents.header (mem_used.mp member).1
      unfold Block.payload at within
      rwa [Nat.add_sub_cancel, shadowed.simulates.memory, isSize] at within
    have untouched : ∀ owned, owned ≠ block.payload → ∀ other ∈ used shadow.heap.blocks,
        other.payload = owned → Stays shadow (shadow.poke (block.payload + index) byte) other :=
      fun owned apart other otherUsed payload =>
        poke_stays wf otherUsed member (payload ▸ apart) inside byte
    refine ⟨_, shadowed.move thread (shadowed.simulates.poke member inside byte) (fun _ _ => rfl)
      (fun owned other apart own => ⟨rfl, Function.update_of_ne (ne_of_owner apart owner own) ..,
        untouched owned (ne_of_owner apart owner own)⟩)
      (fun owned other own => ?_) (busy_of_idle idle)⟩
    by_cases here : owned = block.payload
    · subst here
      refine .inr ⟨block, member, rfl, fun position stored isKnown => ?_⟩
      dsimp only at isKnown
      rw [Function.update_self] at isKnown
      by_cases same : position = index
      · subst same
        rw [Function.update_self] at isKnown
        cases isKnown
        exact ⟨inside, poke_same _ _⟩
      · rw [Function.update_of_ne same] at isKnown
        rw [poke_other (by omega)]
        exact bytes position stored isKnown
    · exact .inl ⟨rfl, Function.update_of_ne here .., untouched owned here⟩
  next => cases moved

theorem Shadowed.hand (shadowed : Shadowed arena state shadow) {other : Thread}
    (moved : state.next (.hand thread other pointer) = some target) :
    Shadowed arena target shadow := by
  simp only [HeapThreads.next] at moved
  split at moved
  next mine =>
    cases moved
    obtain ⟨idle, owner⟩ := mayUse_iff.mp mine
    have untouched : ∀ owned, owned ≠ pointer → Untouched state
        { state with owner := Function.update state.owner pointer (some other) } shadow shadow
        owned := fun owned apart => .same (Function.update_of_ne apart ..) rfl
    refine shadowed.move thread shadowed.simulates (fun _ _ => rfl)
      (fun owned _ apart own => untouched owned (ne_of_owner apart owner own))
      (fun owned _ own => ?_) (busy_of_idle idle)
    by_cases here : owned = pointer
    · subst here
      exact .inr (shadowed.owned owned thread owner)
    · exact .inl (untouched owned here)
  next => cases moved

theorem Shadowed.next (shadowed : Shadowed arena state shadow) (linked : arena.Linked)
    (action : HeapAction Thread) (moved : state.next action = some target) :
    ∃ after, Shadowed arena target after := by
  cases action with
  | malloc thread size => exact shadowed.malloc linked moved
  | free thread pointer => exact shadowed.free linked moved
  | lookup thread pointer size => exact shadowed.lookup linked moved
  | allocate thread => exact shadowed.allocate linked moved
  | copy thread => exact shadowed.copy moved
  | release thread => exact shadowed.release linked moved
  | store thread pointer index byte => exact shadowed.store moved
  | hand thread other pointer => exact ⟨shadow, shadowed.hand moved⟩

end Steps

/-! ## Runs -/

section Runs

variable {Thread : Type} [DecidableEq Thread] {arena : Arena} {state : HeapThreads Thread}

/-- What every thread can rely on. -/
structure PrivateBlocks (state : HeapThreads Thread) : Prop where
  /-- Also across `luna_bb_realloc`. -/
  keeps : ∀ pointer thread index byte, state.owner pointer = some thread →
    state.known pointer index = some byte → state.heap.memory (pointer + index) = byte
  fresh : ∀ size heap pointer, state.heap.malloc walkLimit size = some (heap, some pointer) →
    state.owner pointer = none
  mallocEnds : ∀ size, state.heap.malloc walkLimit size ≠ none
  freeEnds : ∀ pointer, state.heap.free walkLimit pointer ≠ none
  lookupEnds : ∀ pointer, findWalk pointer walkLimit state.heap.memory 0 state.heap.head ≠ none

/-- Whatever the threads do, in any order of their locked sections, copied bytes and stores. -/
theorem heap_private (linked : arena.Linked)
    (reached : (heapSystem Thread arena).Reachable state) : PrivateBlocks state := by
  obtain ⟨shadow, shadowed⟩ : ∃ shadow, Shadowed arena state shadow := by
    refine reached.invariant (fun state => ∃ shadow, Shadowed arena state shadow) ?_ ?_
    · rintro _ ⟨memory, rfl⟩
      exact ⟨_, reset_simulates arena memory,
        fun _ _ owner => (Option.some_ne_none _ owner.symm).elim, fun _ => busy_of_idle rfl⟩
    · rintro state action target ⟨shadow, shadowed⟩ moved
      exact shadowed.next linked action moved
  refine ⟨fun pointer thread index byte owner isKnown => ?_, fun size heap pointer returned => ?_,
    fun size => ?_, fun pointer => ?_, fun pointer => ?_⟩
  · obtain ⟨block, -, -, bytes⟩ := shadowed.owned pointer thread owner
    rw [shadowed.simulates.memory]
    exact (bytes index byte isKnown).2
  · obtain ⟨after, allocated, -⟩ := shadowed.simulates.malloc linked size
    rw [allocated] at returned
    have result : (shadow.malloc size).2 = some pointer :=
      congrArg Prod.snd (Option.some.inj returned)
    by_contra someone
    obtain ⟨thread, owner⟩ := Option.ne_none_iff_exists'.mp someone
    exact shadowed.fresh result owner rfl
  · obtain ⟨after, allocated, -⟩ := shadowed.simulates.malloc linked size
    rw [allocated]
    exact Option.some_ne_none _
  · obtain ⟨after, freed, -⟩ := shadowed.simulates.free linked pointer
    rw [freed]
    exact Option.some_ne_none _
  · have wf := shadowed.simulates.wellFormed
    obtain ⟨found, walked, -⟩ :=
      findWalk_lookup pointer (wf.placed linked) shadowed.simulates.represents wf.short 0
    rw [shadowed.simulates.memory, shadowed.simulates.head, walked]
    exact Option.some_ne_none _

/-- Thread 0 grows its block while thread 1 takes, fills and frees another one. -/
theorem heap_private_moved : ∃ state : HeapThreads (Fin 2),
    (heapSystem (Fin 2) ⟨4096, ⟨256, rfl⟩⟩).Reachable state ∧ state.owner 4128 = none ∧
      state.owner 4224 = some 0 ∧ state.known 4224 3 = some 7 ∧ PrivateBlocks state := by
  obtain ⟨state, reached, moved⟩ := System.exists_reach_of_exec
    (heapSystem (Fin 2) ⟨4096, ⟨256, rfl⟩⟩) (fun _ _ => True)
    (HeapThreads.reset ⟨4096, ⟨256, rfl⟩⟩ fun _ => 0)
    ([.malloc 0 8, .store 0 4128 3 7, .lookup 0 4128 40, .malloc 1 8, .allocate 0,
        .store 1 4176 0 9] ++ List.replicate 16 (.copy 0) ++ [.free 1 4176, .release 0])
    (fun state => decide (state.owner 4128 = none ∧ state.owner 4224 = some 0 ∧
      state.known 4224 3 = some 7)) ⟨_, rfl⟩ (by decide +kernel)
  obtain ⟨freed, mine, kept⟩ := of_decide_eq_true moved
  exact ⟨state, reached.reachable, freed, mine, kept,
    heap_private ⟨by decide, by decide⟩ reached.reachable⟩

end Runs

end Luna.UserHeap
