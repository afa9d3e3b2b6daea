import Luna.Lib.ByteMemory
import Luna.Lib.ByteOrder
import Luna.UserHeap

/-!
# Contents of the BusyBox heap

The bytes of the arena under `luna_bb_malloc`, `luna_bb_free` and `luna_bb_realloc`.  The
block list of `Luna.UserHeap` is what the headers in the arena hold (`Represents`); the
walks below follow that list and store what the code stores on the way.
-/

namespace Luna.UserHeap

open ByteMemory
open ByteOrder (littleEndian length_littleEndian)

/-! The fields of `struct task_user_block`. -/

def setSize (memory : Memory) (header value : Nat) : Memory :=
  write memory header (littleEndian 8 value)

def setNext (memory : Memory) (header value : Nat) : Memory :=
  write memory (header + 8) (littleEndian 8 value)

def setFree (memory : Memory) (header value : Nat) : Memory :=
  write memory (header + 16) (littleEndian 4 value)

/-- The `next` pointer of the block in front of these. -/
def nextOf : List Block → Nat
  | [] => 0
  | block :: _ => block.addr

/-- The stores of the loop of `luna_bb_malloc`. -/
def firstFitStores (aligned : Nat) (memory : Memory) : List Block → Memory
  | [] => memory
  | block :: rest =>
      if block.free = false ∨ block.size < aligned then firstFitStores aligned memory rest
      else
        let remaining := block.size - aligned
        if headerSize + lunaUserMinSplit ≤ remaining then
          let split := block.payload + aligned
          let memory := setSize memory split (remaining - headerSize)
          let memory := setNext memory split (nextOf rest)
          let memory := setFree memory split 1
          let memory := setSize memory block.addr aligned
          let memory := setNext memory block.addr split
          setFree memory block.addr 0
        else setFree memory block.addr 0

/-- The stores that absorb the next block when it is free. -/
def joinNextStores (memory : Memory) (block : Block) : List Block → Memory
  | [] => memory
  | next :: rest =>
      if next.free then
        let memory := setSize memory block.addr (block.size + (headerSize + next.size))
        setNext memory block.addr (nextOf rest)
      else memory

/-- The stores that merge the freed block into its predecessor when that is free. -/
def joinPreviousStores (memory : Memory) (previous : Option Block) (block : Block)
    (rest : List Block) : Memory :=
  match previous with
  | none => memory
  | some previous =>
      if previous.free then
        let memory := setSize memory previous.addr (previous.size + (headerSize + block.size))
        setNext memory previous.addr (nextOf rest)
      else memory

/-- The stores of `luna_bb_free`. -/
def releaseStores (pointer : Nat) (memory : Memory) : Option Block → List Block → Memory
  | _, [] => memory
  | previous, block :: rest =>
      if block.payload = pointer then
        if block.free then memory
        else
          let memory := setFree memory block.addr 1
          let memory := joinNextStores memory { block with free := true } rest
          let joined := joinNext { block with free := true } rest
          joinPreviousStores memory previous joined.1 joined.2
      else releaseStores pointer memory (some block) rest

/-- A heap and the bytes of its arena. -/
structure Contents where
  heap : Heap
  memory : Memory

namespace Contents

/-- The bytes reserved for a pointer. -/
def payload (state : Contents) (pointer : Nat) : List UInt8 :=
  read state.memory pointer (state.heap.reserved pointer)

def malloc (state : Contents) (size : Nat) : Contents × Option Nat :=
  ({ heap := (lunaBbMalloc state.heap size).1
     memory :=
      if size = 0 ∨ sizeMax - (lunaUserAlignment - 1) < size then state.memory
      else firstFitStores (roundUp size) state.memory state.heap.blocks },
    (lunaBbMalloc state.heap size).2)

def free (state : Contents) (pointer : Nat) : Contents where
  heap := lunaBbFree state.heap pointer
  memory :=
    if pointer = 0 then state.memory
    else releaseStores pointer state.memory none state.heap.blocks

/-- `luna_bb_realloc` with the copy of `old_size` bytes. -/
def realloc (state : Contents) (pointer size : Nat) : Contents × Option Nat :=
  if pointer = 0 then state.malloc size
  else if size = 0 then (state.free pointer, none)
  else
    match lookup pointer state.heap.blocks with
    | none => ({ state with heap := (lunaBbRealloc state.heap pointer size).1 }, none)
    | some block =>
        if size ≤ block.size then
          ({ state with heap := (lunaBbRealloc state.heap pointer size).1 }, some pointer)
        else
          match state.malloc size with
          | (after, none) => (after, none)
          | (after, some replacement) =>
              let copied := blit after.memory replacement after.memory pointer block.size
              (({ after with memory := copied } : Contents).free pointer, some replacement)

end Contents

/-- The bytes are those of the heap model with its arena. -/
theorem Contents.realloc_heap (state : Contents) (pointer size : Nat) :
    (state.realloc pointer size).1.heap = (lunaBbRealloc state.heap pointer size).1 ∧
      (state.realloc pointer size).2 = (lunaBbRealloc state.heap pointer size).2 := by
  unfold Contents.realloc lunaBbRealloc
  by_cases null : pointer = 0
  · rw [if_pos null, if_pos null]
    exact ⟨rfl, rfl⟩
  by_cases zero : size = 0
  · rw [if_neg null, if_neg null, if_pos zero, if_pos zero]
    exact ⟨rfl, rfl⟩
  rw [if_neg null, if_neg null, if_neg zero, if_neg zero]
  cases lookup pointer state.heap.blocks with
  | none => exact ⟨rfl, rfl⟩
  | some block =>
      dsimp only
      by_cases fits : size ≤ block.size
      · rw [if_pos fits, if_pos fits]
        exact ⟨rfl, rfl⟩
      · rw [if_neg fits, if_neg fits]
        unfold Contents.malloc
        cases lunaBbMalloc state.heap size with
        | mk after result =>
            cases result with
            | none => exact ⟨rfl, rfl⟩
            | some replacement => exact ⟨rfl, rfl⟩

/-! ## Where the stores land -/

/-- Two memories differ only in a region. -/
def DiffersIn (region : Nat → Prop) (before after : Memory) : Prop :=
  ∀ address, ¬ region address → after address = before address

theorem DiffersIn.refl {region : Nat → Prop} (memory : Memory) : DiffersIn region memory memory :=
  fun _ _ => rfl

theorem DiffersIn.trans {region : Nat → Prop} {before middle after : Memory}
    (first : DiffersIn region before middle) (second : DiffersIn region middle after) :
    DiffersIn region before after :=
  fun address outside => (second address outside).trans (first address outside)

theorem DiffersIn.mono {region larger : Nat → Prop} {before after : Memory}
    (differs : DiffersIn region before after) (within : ∀ address, region address → larger address) :
    DiffersIn larger before after :=
  fun address outside => differs address fun inside => outside (within address inside)

/-- The addresses of a header. -/
def InHeader (header address : Nat) : Prop := header ≤ address ∧ address < header + headerSize

theorem write_differsIn (memory : Memory) {header offset : Nat} {bytes : List UInt8}
    (inside : offset + bytes.length ≤ headerSize) :
    DiffersIn (InHeader header) memory (write memory (header + offset) bytes) := by
  intro address outside
  by_cases below : address < header + offset
  · exact write_apply_of_lt below
  · refine write_apply_of_ge ?_
    unfold InHeader at outside
    omega

theorem setSize_differsIn (memory : Memory) (header value : Nat) :
    DiffersIn (InHeader header) memory (setSize memory header value) :=
  write_differsIn memory (show 0 + _ ≤ headerSize by rw [length_littleEndian]; decide)

theorem setNext_differsIn (memory : Memory) (header value : Nat) :
    DiffersIn (InHeader header) memory (setNext memory header value) :=
  write_differsIn memory (by rw [length_littleEndian]; decide)

theorem setFree_differsIn (memory : Memory) (header value : Nat) :
    DiffersIn (InHeader header) memory (setFree memory header value) :=
  write_differsIn memory (by rw [length_littleEndian]; decide)

/-- What the heap may write: the headers of its blocks and what is behind a free one. -/
def Writable (blocks : List Block) (address : Nat) : Prop :=
  ∃ block ∈ blocks, InHeader block.addr address ∨
    block.free = true ∧ block.addr ≤ address ∧ address < block.payload + block.size

theorem Writable.tail {block : Block} {blocks : List Block} {address : Nat}
    (writable : Writable blocks address) : Writable (block :: blocks) address := by
  obtain ⟨other, member, inside⟩ := writable
  exact ⟨other, List.mem_cons_of_mem _ member, inside⟩

theorem firstFitStores_differsIn (aligned : Nat) (memory : Memory) (blocks : List Block) :
    DiffersIn (Writable blocks) memory (firstFitStores aligned memory blocks) := by
  induction blocks with
  | nil => exact .refl _
  | cons block rest inductionHypothesis =>
      have header : ∀ address, InHeader block.addr address → Writable (block :: rest) address :=
        fun _ inside => ⟨block, List.mem_cons_self, Or.inl inside⟩
      unfold firstFitStores
      split
      · exact inductionHypothesis.mono fun _ => Writable.tail
      next fits =>
        have isFree : block.free = true := by simpa using fun used => fits (.inl used)
        dsimp only
        split
        next splits =>
          have split : ∀ address, InHeader (block.payload + aligned) address →
              Writable (block :: rest) address := by
            rintro address ⟨low, high⟩
            refine ⟨block, List.mem_cons_self, Or.inr ⟨isFree, ?_, ?_⟩⟩
            · unfold Block.payload at low
              omega
            · unfold headerSize at high splits
              omega
          exact ((setSize_differsIn _ _ _).mono split).trans <|
            ((setNext_differsIn _ _ _).mono split).trans <|
            ((setFree_differsIn _ _ _).mono split).trans <|
            ((setSize_differsIn _ _ _).mono header).trans <|
            ((setNext_differsIn _ _ _).mono header).trans <|
            (setFree_differsIn _ _ _).mono header
        next whole => exact (setFree_differsIn _ _ _).mono header

theorem joinNextStores_differsIn (memory : Memory) (block : Block) (rest : List Block) :
    DiffersIn (InHeader block.addr) memory (joinNextStores memory block rest) := by
  unfold joinNextStores
  split
  · exact .refl _
  split
  · exact (setSize_differsIn _ _ _).trans (setNext_differsIn _ _ _)
  · exact .refl _

theorem joinPreviousStores_differsIn (memory : Memory) (previous : Option Block) (block : Block)
    (rest : List Block) :
    DiffersIn (fun address => ∃ front ∈ previous, InHeader front.addr address) memory
      (joinPreviousStores memory previous block rest) := by
  unfold joinPreviousStores
  split
  · exact .refl _
  next front =>
    have header : ∀ address, InHeader front.addr address →
        ∃ other ∈ some front, InHeader other.addr address :=
      fun _ inside => ⟨front, rfl, inside⟩
    split
    · exact ((setSize_differsIn _ _ _).mono header).trans ((setNext_differsIn _ _ _).mono header)
    · exact .refl _

theorem releaseStores_differsIn (pointer : Nat) (memory : Memory) (previous : Option Block)
    (blocks : List Block) :
    DiffersIn (Writable (previous.toList ++ blocks)) memory
      (releaseStores pointer memory previous blocks) := by
  induction blocks generalizing previous with
  | nil => exact .refl _
  | cons block rest inductionHypothesis =>
      unfold releaseStores
      split
      · split
        · exact .refl _
        · have header : ∀ address, InHeader block.addr address →
              Writable (previous.toList ++ block :: rest) address :=
            fun _ inside => ⟨block, by simp, Or.inl inside⟩
          have front : ∀ address, (∃ other ∈ previous, InHeader other.addr address) →
              Writable (previous.toList ++ block :: rest) address := by
            rintro address ⟨other, member, inside⟩
            have member : other ∈ previous.toList := Option.mem_toList.mpr member
            exact ⟨other, List.mem_append_left _ member, Or.inl inside⟩
          exact ((setFree_differsIn memory block.addr 1).mono header).trans <|
            ((joinNextStores_differsIn _ { block with free := true } rest).mono header).trans <|
            (joinPreviousStores_differsIn _ previous _ _).mono front
      · refine (inductionHypothesis (some block)).mono fun address writable => ?_
        obtain ⟨other, member, inside⟩ := writable
        exact ⟨other, List.mem_append_right _ member, inside⟩

/-- The extents of two blocks do not overlap. -/
theorem Layout.extents_apart {before : Bool} {start stop : Nat} {blocks : List Block}
    (layout : Layout before start stop blocks) {first second : Block} (firstIn : first ∈ blocks)
    (secondIn : second ∈ blocks) (distinct : first ≠ second) :
    first.payload + first.size ≤ second.addr ∨ second.payload + second.size ≤ first.addr := by
  induction blocks generalizing before start with
  | nil => cases firstIn
  | cons block rest inductionHypothesis =>
      obtain ⟨_, _, _, tail⟩ := layout
      rcases List.mem_cons.mp firstIn with rfl | firstLater
      · rcases List.mem_cons.mp secondIn with rfl | secondLater
        · exact absurd rfl distinct
        · exact .inl (tail.inside secondLater).1
      · rcases List.mem_cons.mp secondIn with rfl | secondLater
        · exact .inr (tail.inside firstLater).1
        · exact inductionHypothesis tail firstLater secondLater

/-- No header and no free space lies in an allocated payload. -/
theorem Layout.payload_unwritable {before : Bool} {start stop : Nat} {blocks : List Block}
    (layout : Layout before start stop blocks) {block : Block} (member : block ∈ used blocks)
    {address : Nat} (low : block.payload ≤ address) (high : address < block.payload + block.size) :
    ¬ Writable blocks address := by
  obtain ⟨present, isUsed⟩ := mem_used.mp member
  rintro ⟨other, otherIn, inside⟩
  by_cases same : other = block
  · subst same
    rcases inside with ⟨-, header⟩ | ⟨isFree, -⟩
    · unfold Block.payload at low
      omega
    · rw [isUsed] at isFree
      cases isFree
  · have apart := layout.extents_apart otherIn present same
    unfold InHeader at inside
    unfold Block.payload at low high inside apart
    omega

/-! ## Allocated blocks stay where they are -/

section Blocks

variable {arena : Arena} {heap : Heap} {block : Block}

theorem malloc_used (size : Nat) (member : block ∈ used heap.blocks) :
    block ∈ used (lunaBbMalloc heap size).1.blocks := by
  unfold lunaBbMalloc
  split
  · exact member
  · split
    · exact member
    next blocks taken found =>
      exact (firstFit_used found).1.mem_iff.mpr (List.mem_cons_of_mem _ member)

theorem free_used {pointer : Nat} (member : block ∈ used heap.blocks)
    (other : block.payload ≠ pointer) : block ∈ used (lunaBbFree heap pointer).blocks := by
  unfold lunaBbFree
  split
  · exact member
  · split
    · exact member
    next blocks released found =>
      obtain ⟨freed, payload, -, same⟩ := release_used found
      rcases List.mem_cons.mp (same.mem_iff.mp member) with equal | remains
      · rw [equal] at other
        exact absurd payload other
      · exact remains

theorem WellFormed.reserved_eq (wf : WellFormed arena heap) (member : block ∈ used heap.blocks) :
    heap.reserved block.payload = block.size := by
  unfold Heap.reserved
  rw [wf.layout.lookup_eq member]
  rfl

/-- The block that `luna_bb_malloc` returns. -/
theorem malloc_taken {size pointer : Nat} (succeeded : (lunaBbMalloc heap size).2 = some pointer) :
    ∃ taken ∈ used (lunaBbMalloc heap size).1.blocks,
      taken.payload = pointer ∧ size ≤ taken.size := by
  unfold lunaBbMalloc at succeeded ⊢
  split at succeeded
  next refused => cases succeeded
  next accepted =>
    split at succeeded
    next exhausted => cases succeeded
    next blocks taken found =>
      cases succeeded
      obtain ⟨same, enough⟩ := firstFit_used found
      rw [if_neg accepted]
      exact ⟨taken, same.mem_iff.mpr List.mem_cons_self, rfl,
        Nat.le_trans (le_roundUp size) enough⟩

theorem malloc_none {size : Nat} (failed : (lunaBbMalloc heap size).2 = none) :
    (lunaBbMalloc heap size).1 = { heap with errno := some .enomem } := by
  unfold lunaBbMalloc at failed ⊢
  split at failed
  next refused => rw [if_pos refused]
  next accepted =>
    rw [if_neg accepted]
    split at failed
    next exhausted => rfl
    next blocks taken found => cases failed

theorem firstFitStores_none {aligned : Nat} {memory : Memory} {blocks : List Block}
    (exhausted : firstFit aligned blocks = none) :
    firstFitStores aligned memory blocks = memory := by
  induction blocks with
  | nil => rfl
  | cons first rest inductionHypothesis =>
      unfold firstFit at exhausted
      unfold firstFitStores
      split at exhausted
      next skipped =>
        rw [if_pos skipped]
        exact inductionHypothesis (Option.map_eq_none_iff.mp exhausted)
      next fits =>
        dsimp only at exhausted
        split at exhausted <;> cases exhausted

end Blocks

/-! ## What the operations keep -/

/-- An allocation is still live, with the same bytes reserved and the same bytes in them. -/
structure Kept (before after : Contents) (allocation : Allocation) : Prop where
  live : allocation ∈ after.heap.live
  reserved : after.heap.reserved allocation.pointer = before.heap.reserved allocation.pointer
  payload : after.payload allocation.pointer = before.payload allocation.pointer

theorem Kept.trans {before middle after : Contents} {allocation : Allocation}
    (first : Kept before middle allocation) (second : Kept middle after allocation) :
    Kept before after allocation :=
  ⟨second.live, second.reserved.trans first.reserved, second.payload.trans first.payload⟩

section Operations

variable {arena : Arena} {state after : Contents} {block : Block} {allocation : Allocation}

/-- The payload of a block that is allocated before and after is kept by stores into what
the heap may write. -/
theorem payload_kept (wf : WellFormed arena state.heap) (wfAfter : WellFormed arena after.heap)
    (member : block ∈ used state.heap.blocks) (memberAfter : block ∈ used after.heap.blocks)
    (differs : DiffersIn (Writable state.heap.blocks) state.memory after.memory) :
    after.heap.reserved block.payload = state.heap.reserved block.payload ∧
      after.payload block.payload = state.payload block.payload := by
  have reserved : after.heap.reserved block.payload = state.heap.reserved block.payload := by
    rw [wf.reserved_eq member, wfAfter.reserved_eq memberAfter]
  refine ⟨reserved, ?_⟩
  unfold Contents.payload
  rw [reserved, wf.reserved_eq member]
  refine read_congr fun index inside => differs _ ?_
  exact wf.layout.payload_unwritable member (Nat.le_add_right _ _) (by omega)

theorem malloc_differs (state : Contents) (size : Nat) :
    DiffersIn (Writable state.heap.blocks) state.memory (state.malloc size).1.memory := by
  unfold Contents.malloc
  dsimp only
  split
  · exact .refl _
  · exact firstFitStores_differsIn _ _ _

theorem free_differs (state : Contents) (pointer : Nat) :
    DiffersIn (Writable state.heap.blocks) state.memory (state.free pointer).memory := by
  unfold Contents.free
  dsimp only
  split
  · exact .refl _
  · exact releaseStores_differsIn pointer state.memory none state.heap.blocks

theorem malloc_kept (wf : WellFormed arena state.heap) (size : Nat)
    (member : allocation ∈ state.heap.live) : Kept state (state.malloc size).1 allocation := by
  obtain ⟨block, blockUsed, payload, -⟩ := wf.backed allocation member
  have kept := payload_kept wf (malloc_wellFormed wf size) blockUsed
    (malloc_used size blockUsed) (malloc_differs state size)
  rw [payload] at kept
  refine ⟨?_, kept.1, kept.2⟩
  change allocation ∈ (lunaBbMalloc state.heap size).1.live
  cases result : (lunaBbMalloc state.heap size).2 with
  | none =>
      rw [malloc_none result]
      exact member
  | some pointer =>
      rw [malloc_live result]
      exact List.mem_append_left _ member

theorem free_kept (wf : WellFormed arena state.heap) {pointer : Nat}
    (member : allocation ∈ state.heap.live) (other : allocation.pointer ≠ pointer) :
    Kept state (state.free pointer) allocation := by
  obtain ⟨block, blockUsed, payload, -⟩ := wf.backed allocation member
  have kept := payload_kept wf (free_wellFormed wf pointer) blockUsed
    (free_used blockUsed (by rw [payload]; exact other)) (free_differs state pointer)
  rw [payload] at kept
  exact ⟨free_keeps_live member other, kept.1, kept.2⟩

/-- A copy into the payload of another block. -/
theorem blit_kept (wf : WellFormed arena state.heap) {target : Block} {source length : Nat}
    (member : allocation ∈ state.heap.live) (targetUsed : target ∈ used state.heap.blocks)
    (other : allocation.pointer ≠ target.payload) (fits : length ≤ target.size) :
    Kept state
      { state with memory := blit state.memory target.payload state.memory source length }
      allocation := by
  obtain ⟨block, blockUsed, payload, -⟩ := wf.backed allocation member
  have apart := wf.layout.disjoint (mem_used.mp blockUsed).1 (mem_used.mp targetUsed).1
    (by rw [payload]; exact other)
  refine ⟨member, rfl, ?_⟩
  unfold Contents.payload
  dsimp only
  rw [← payload, wf.reserved_eq blockUsed]
  exact read_blit_disjoint (by omega)

theorem malloc_none_memory {size : Nat} (failed : (lunaBbMalloc state.heap size).2 = none) :
    (state.malloc size).1.memory = state.memory := by
  unfold Contents.malloc
  dsimp only
  split
  · rfl
  next accepted =>
    refine firstFitStores_none ?_
    unfold lunaBbMalloc at failed
    rw [if_neg accepted] at failed
    split at failed
    next exhausted => exact exhausted
    next blocks taken found => cases failed

/-- The branch of `luna_bb_realloc` that moves a block. -/
theorem realloc_grows (wf : WellFormed arena state.heap) (member : block ∈ used state.heap.blocks)
    {size : Nat} (grows : block.size < size) :
    state.realloc block.payload size =
      match state.malloc size with
      | (after, none) => (after, none)
      | (after, some replacement) =>
          (({ after with
              memory := blit after.memory replacement after.memory block.payload block.size } :
            Contents).free block.payload, some replacement) := by
  have notNull : block.payload ≠ 0 := by
    unfold Block.payload headerSize
    omega
  unfold Contents.realloc
  rw [if_neg notNull, if_neg (by omega), wf.layout.lookup_eq member]
  dsimp only
  rw [if_neg (Nat.not_le.mpr grows)]

/-- A block that is moved: the copy goes into the new payload only. -/
theorem realloc_moves (wf : WellFormed arena state.heap) (member : block ∈ used state.heap.blocks)
    {size replacement : Nat} (grows : block.size < size)
    (allocated : (state.malloc size).2 = some replacement) :
    (∀ allocation ∈ state.heap.live, allocation.pointer ≠ block.payload →
      Kept state (state.realloc block.payload size).1 allocation) ∧
    (state.realloc block.payload size).2 = some replacement ∧
    block.size ≤ (state.realloc block.payload size).1.heap.reserved replacement ∧
    read (state.realloc block.payload size).1.memory replacement block.size =
      state.payload block.payload ∧
    ∀ allocation ∈ (state.realloc block.payload size).1.heap.live,
      allocation.pointer ≠ block.payload := by
  have wfMiddle : WellFormed arena (state.malloc size).1.heap := malloc_wellFormed wf size
  obtain ⟨taken, takenUsed, payload, enough⟩ := malloc_taken allocated
  subst payload
  have fits : block.size ≤ taken.size := by omega
  have blockUsed := malloc_used size member
  have distinct : taken.payload ≠ block.payload := by
    intro same
    have reserved := wfMiddle.reserved_eq takenUsed
    rw [same] at reserved
    have other := wfMiddle.reserved_eq blockUsed
    omega
  let copied : Contents := { (state.malloc size).1 with
    memory := blit (state.malloc size).1.memory taken.payload (state.malloc size).1.memory
      block.payload block.size }
  have wfCopied : WellFormed arena copied.heap := wfMiddle
  have moved : state.realloc block.payload size =
      (copied.free block.payload, some taken.payload) := by
    rw [realloc_grows wf member grows]
    have split : state.malloc size = ((state.malloc size).1, some taken.payload) := by
      rw [← allocated]
    rw [split]
  have kept := payload_kept wfCopied (free_wellFormed wfCopied block.payload) takenUsed
    (free_used takenUsed distinct) (free_differs copied block.payload)
  rw [moved]
  refine ⟨?_, rfl, ?_, ?_, ?_⟩
  · intro allocation live other
    have first := malloc_kept wf size live
    refine first.trans ((blit_kept wfMiddle first.live takenUsed ?_ fits).trans
      (free_kept wfCopied first.live other))
    intro same
    have fresh := wfMiddle.distinct
    rw [Contents.malloc, malloc_live allocated, List.map_append, List.nodup_append] at fresh
    exact fresh.2.2 _ (List.mem_map_of_mem live) taken.payload (List.mem_singleton_self _) same
  · dsimp only
    rw [kept.1, wfCopied.reserved_eq takenUsed]
    exact fits
  · have same := payload_kept wf wfMiddle member blockUsed (malloc_differs state size)
    calc read (copied.free block.payload).memory taken.payload block.size
        = read copied.memory taken.payload block.size := by
          refine read_congr fun index inside => free_differs copied block.payload _ ?_
          exact wfCopied.layout.payload_unwritable takenUsed (Nat.le_add_right _ _) (by omega)
      _ = read (state.malloc size).1.memory block.payload block.size := read_blit_same
      _ = state.payload block.payload := by
          rw [← same.2, Contents.payload, wfMiddle.reserved_eq blockUsed]
  · intro allocation live
    exact (free_live wfCopied block.payload live).2

end Operations

/-- What the operations do to the contents of live blocks. -/
structure ContentsKept (state : Contents) : Prop where
  malloc : ∀ size, ∀ allocation ∈ state.heap.live, Kept state (state.malloc size).1 allocation
  free : ∀ pointer, ∀ allocation ∈ state.heap.live, allocation.pointer ≠ pointer →
    Kept state (state.free pointer) allocation
  realloc : ∀ pointer size, ∀ allocation ∈ state.heap.live, allocation.pointer ≠ pointer →
    Kept state (state.realloc pointer size).1 allocation
  /-- A move: the old bytes come first in the new block and the old one is freed. -/
  grows : ∀ allocation ∈ state.heap.live, ∀ size replacement,
    state.heap.reserved allocation.pointer < size →
      (state.realloc allocation.pointer size).2 = some replacement →
        read (state.realloc allocation.pointer size).1.memory replacement
            (state.heap.reserved allocation.pointer) = state.payload allocation.pointer ∧
          state.heap.reserved allocation.pointer ≤
            (state.realloc allocation.pointer size).1.heap.reserved replacement ∧
          lookup allocation.pointer (state.realloc allocation.pointer size).1.heap.blocks = none
  fails : ∀ allocation ∈ state.heap.live, ∀ size, size ≠ 0 →
    (state.realloc allocation.pointer size).2 = none →
      (state.realloc allocation.pointer size).1.memory = state.memory ∧
        (state.realloc allocation.pointer size).1.heap =
          { state.heap with errno := some .enomem }
  /-- A fit: nothing but the size asked for is noted. -/
  fits : ∀ allocation ∈ state.heap.live, ∀ size, size ≠ 0 →
    size ≤ state.heap.reserved allocation.pointer →
      (state.realloc allocation.pointer size).2 = some allocation.pointer ∧
        (state.realloc allocation.pointer size).1.memory = state.memory ∧
        ∃ live, (state.realloc allocation.pointer size).1.heap = { state.heap with live := live }

theorem realloc_fits {arena : Arena} {state : Contents} {block : Block}
    (wf : WellFormed arena state.heap) (member : block ∈ used state.heap.blocks) {size : Nat}
    (positive : size ≠ 0) (fits : size ≤ block.size) :
    (state.realloc block.payload size).2 = some block.payload ∧
      (state.realloc block.payload size).1.memory = state.memory ∧
      (state.realloc block.payload size).1.heap =
        { state.heap with live := state.heap.live.map fun allocation =>
            if allocation.pointer = block.payload then { allocation with requested := size }
            else allocation } := by
  have notNull : block.payload ≠ 0 := by
    unfold Block.payload headerSize
    omega
  unfold Contents.realloc lunaBbRealloc
  rw [if_neg notNull, if_neg positive, wf.layout.lookup_eq member]
  dsimp only
  rw [if_pos fits, if_neg notNull, if_neg positive]
  dsimp only
  rw [if_pos fits]
  exact ⟨rfl, rfl, rfl⟩

theorem kept_of_same {state after : Contents} {allocation : Allocation}
    (live : allocation ∈ after.heap.live) (blocks : after.heap.blocks = state.heap.blocks)
    (memory : after.memory = state.memory) : Kept state after allocation := by
  have reserved : after.heap.reserved allocation.pointer =
      state.heap.reserved allocation.pointer := by
    unfold Heap.reserved
    rw [blocks]
  refine ⟨live, reserved, ?_⟩
  unfold Contents.payload
  rw [reserved, memory]

/-- A move for which there is no room. -/
theorem realloc_fails {arena : Arena} {state : Contents} {block : Block}
    (wf : WellFormed arena state.heap) (member : block ∈ used state.heap.blocks) {size : Nat}
    (grows : block.size < size) (failed : (state.malloc size).2 = none) :
    state.realloc block.payload size = ((state.malloc size).1, none) := by
  have split : state.malloc size = ((state.malloc size).1, none) := by
    rw [← failed]
  rw [realloc_grows wf member grows, split]

theorem realloc_kept {arena : Arena} {state : Contents} (wf : WellFormed arena state.heap)
    (pointer size : Nat) {allocation : Allocation} (member : allocation ∈ state.heap.live)
    (other : allocation.pointer ≠ pointer) :
    Kept state (state.realloc pointer size).1 allocation := by
  by_cases null : pointer = 0
  · rw [Contents.realloc, if_pos null]
    exact malloc_kept wf size member
  by_cases zero : size = 0
  · rw [Contents.realloc, if_neg null, if_pos zero]
    exact free_kept wf member other
  cases found : lookup pointer state.heap.blocks with
  | none =>
      have result : state.realloc pointer size =
          ({ state with heap := { state.heap with errno := some .einval } }, none) := by
        rw [Contents.realloc, lunaBbRealloc, if_neg null, if_neg zero, found, if_neg null,
          if_neg zero]
      rw [result]
      exact kept_of_same member rfl rfl
  | some block =>
      obtain ⟨blockUsed, rfl⟩ := lookup_some found
      by_cases fits : size ≤ block.size
      · obtain ⟨-, memory, heap⟩ := realloc_fits wf blockUsed zero fits
        refine kept_of_same ?_ (by rw [heap]) memory
        rw [heap]
        exact List.mem_map.mpr ⟨allocation, member, if_neg other⟩
      · have grows := Nat.lt_of_not_le fits
        cases allocated : (state.malloc size).2 with
        | none =>
            rw [realloc_fails wf blockUsed grows allocated]
            exact malloc_kept wf size member
        | some replacement => exact (realloc_moves wf blockUsed grows allocated).1 _ member other

/-- Whatever the bytes of the arena, an operation keeps the contents of the live blocks it is
not about, and `luna_bb_realloc` those of its own. -/
theorem heap_keeps_contents {arena : Arena} {state : Contents}
    (wf : WellFormed arena state.heap) : ContentsKept state where
  malloc size _ member := malloc_kept wf size member
  free _ _ member other := free_kept wf member other
  realloc pointer size _ member other := realloc_kept wf pointer size member other
  grows := by
    intro allocation member size replacement larger succeeded
    obtain ⟨block, blockUsed, payload, -⟩ := wf.backed allocation member
    rw [← payload, wf.reserved_eq blockUsed] at larger ⊢
    rw [← payload] at succeeded
    cases allocated : (state.malloc size).2 with
    | none =>
        rw [realloc_fails wf blockUsed larger allocated] at succeeded
        cases succeeded
    | some pointer =>
        obtain ⟨-, result, enough, copied, gone⟩ := realloc_moves wf blockUsed larger allocated
        rw [result] at succeeded
        cases succeeded
        have wfAfter : WellFormed arena (state.realloc block.payload size).1.heap := by
          rw [(state.realloc_heap block.payload size).1]
          exact realloc_wellFormed wf _ _
        exact ⟨copied, enough, wfAfter.lookup_foreign gone⟩
  fails := by
    intro allocation member size positive failed
    obtain ⟨block, blockUsed, payload, -⟩ := wf.backed allocation member
    rw [← payload] at failed ⊢
    have grows : block.size < size := by
      by_contra small
      have fits := (realloc_fits wf blockUsed positive (Nat.not_lt.mp small)).1
      rw [failed] at fits
      cases fits
    cases allocated : (state.malloc size).2 with
    | none =>
        rw [realloc_fails wf blockUsed grows allocated]
        exact ⟨malloc_none_memory allocated, malloc_none allocated⟩
    | some replacement =>
        rw [(realloc_moves wf blockUsed grows allocated).2.1] at failed
        cases failed
  fits := by
    intro allocation member size positive small
    obtain ⟨block, blockUsed, payload, -⟩ := wf.backed allocation member
    rw [← payload, wf.reserved_eq blockUsed] at small
    obtain ⟨result, memory, heap⟩ := realloc_fits wf blockUsed positive small
    rw [← payload]
    exact ⟨result, memory, _, heap⟩

/-- Two live blocks, the first of which is moved when it grows. -/
def twoLive : Contents where
  heap := Heap.after ⟨4096, ⟨256, rfl⟩⟩ [.malloc 100, .malloc 50]
  memory address := UInt8.ofNat address

theorem heap_keeps_contents_two_live :
    twoLive.heap.live = [⟨4128, 100⟩, ⟨4272, 50⟩] ∧
      (twoLive.realloc 4128 200).2 = some 4368 ∧ ContentsKept twoLive :=
  ⟨by decide, by decide, heap_keeps_contents (after_wellFormed _ _)⟩

end Luna.UserHeap
