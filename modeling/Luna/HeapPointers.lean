import Luna.HeapContents

/-!
# The BusyBox heap over its headers

`luna_bb_malloc`, `luna_bb_free` and `luna_bb_realloc` as they run: they start from
`task_user_heap_head` and follow the `next` pointers in the arena, between the bytes that the
applets write.  They refine the block list of `Luna.UserHeap` and the stores of
`Luna.HeapContents`.
-/

namespace Luna.UserHeap

open ByteMemory
open ByteOrder (littleEndian length_littleEndian ofLittleEndian ofLittleEndian_littleEndian)

/-! The fields of `struct task_user_block` in the arena. -/

def getSize (memory : Memory) (header : Nat) : Nat := ofLittleEndian (read memory header 8)

def getNext (memory : Memory) (header : Nat) : Nat := ofLittleEndian (read memory (header + 8) 8)

def getFree (memory : Memory) (header : Nat) : Nat := ofLittleEndian (read memory (header + 16) 4)

/-- The loop body of `luna_bb_malloc` for the block it takes. -/
def takeBlock (aligned : Nat) (memory : Memory) (block : Nat) : Memory :=
  let remaining := getSize memory block - aligned
  let memory :=
    if headerSize + lunaUserMinSplit ≤ remaining then
      let split := block + headerSize + aligned
      let memory := setSize memory split (remaining - headerSize)
      let memory := setNext memory split (getNext memory block)
      let memory := setFree memory split 1
      let memory := setSize memory block aligned
      setNext memory block split
    else memory
  setFree memory block 0

/-- The loop of `luna_bb_malloc` from `block` on, 0 being `NULL`; without a result when the
fuel ends first. -/
def mallocWalk (aligned : Nat) : Nat → Memory → Nat → Option (Memory × Option Nat)
  | 0, _, _ => none
  | fuel + 1, memory, block =>
      if block = 0 then some (memory, none)
      else if getFree memory block = 0 ∨ getSize memory block < aligned then
        mallocWalk aligned fuel memory (getNext memory block)
      else some (takeBlock aligned memory block, some block)

/-- The loop of `luna_bb_free` and `luna_bb_realloc`, the latter without `previous`. -/
def findWalk (pointer : Nat) : Nat → Memory → Nat → Nat → Option (Nat × Nat)
  | 0, _, _, _ => none
  | fuel + 1, memory, previous, block =>
      if block ≠ 0 ∧ block + headerSize ≠ pointer then
        findWalk pointer fuel memory block (getNext memory block)
      else some (previous, block)

/-- `luna_bb_free` absorbs the next block when that is free. -/
def absorbNext (memory : Memory) (block : Nat) : Memory :=
  let next := getNext memory block
  if next ≠ 0 ∧ getFree memory next ≠ 0 then
    let memory := setSize memory block
      (getSize memory block + (headerSize + getSize memory next))
    setNext memory block (getNext memory (getNext memory block))
  else memory

/-- And the previous block absorbs the freed one. -/
def absorbInto (memory : Memory) (previous block : Nat) : Memory :=
  if previous ≠ 0 ∧ getFree memory previous ≠ 0 then
    let memory := setSize memory previous
      (getSize memory previous + (headerSize + getSize memory block))
    setNext memory previous (getNext memory block)
  else memory

/-- The stores of `luna_bb_free` behind its checks. -/
def freeBlock (memory : Memory) (previous block : Nat) : Memory :=
  absorbInto (absorbNext (setFree memory block 1) block) previous block

/-- `task_user_heap`, `task_user_heap_head`, the two counters and `task_user_errno`. -/
structure Statics where
  memory : Memory
  head : Nat
  current : Nat
  peak : Nat
  errno : Option Errno

namespace Statics

def malloc (fuel : Nat) (heap : Statics) (size : Nat) : Option (Statics × Option Nat) :=
  if size = 0 ∨ sizeMax - (lunaUserAlignment - 1) < size then
    some ({ heap with errno := some .enomem }, none)
  else
    match mallocWalk (roundUp size) fuel heap.memory heap.head with
    | none => none
    | some (memory, none) => some ({ heap with memory, errno := some .enomem }, none)
    | some (memory, some block) =>
        let current := heap.current + getSize memory block
        some ({ heap with memory, current, peak := max heap.peak current },
          some (block + headerSize))

def free (fuel : Nat) (heap : Statics) (pointer : Nat) : Option Statics :=
  if pointer = 0 then some heap
  else
    match findWalk pointer fuel heap.memory 0 heap.head with
    | none => none
    | some (previous, block) =>
        if block = 0 ∨ getFree heap.memory block ≠ 0 then some heap
        else some { heap with
          memory := freeBlock heap.memory previous block
          current := heap.current - getSize heap.memory block }

def realloc (fuel : Nat) (heap : Statics) (pointer size : Nat) : Option (Statics × Option Nat) :=
  if pointer = 0 then heap.malloc fuel size
  else if size = 0 then (heap.free fuel pointer).map fun heap => (heap, none)
  else
    match findWalk pointer fuel heap.memory 0 heap.head with
    | none => none
    | some (_, block) =>
        if block = 0 ∨ getFree heap.memory block ≠ 0 then
          some ({ heap with errno := some .einval }, none)
        else if size ≤ getSize heap.memory block then some (heap, some pointer)
        else
          let oldSize := getSize heap.memory block
          match heap.malloc fuel size with
          | none => none
          | some (heap, none) => some (heap, none)
          | some (heap, some replacement) =>
              let memory := blit heap.memory replacement heap.memory pointer oldSize
              (({ heap with memory } : Statics).free fuel pointer).map fun heap =>
                (heap, some replacement)

end Statics

/-- What an applet does: a call, or a store of its own. -/
inductive Request where
  | call (operation : Operation)
  | store (address : Nat) (bytes : List UInt8)
  deriving DecidableEq, Repr

def Statics.perform (fuel : Nat) (heap : Statics) : Request → Option (Statics × Option Nat)
  | .call (.malloc size) => heap.malloc fuel size
  | .call (.free pointer) => (heap.free fuel pointer).map fun heap => (heap, none)
  | .call (.realloc pointer size) => heap.realloc fuel pointer size
  | .store address bytes => some ({ heap with memory := write heap.memory address bytes }, none)

/-- The state after some requests, with what each of them returned. -/
def Statics.run (fuel : Nat) (heap : Statics) : List Request →
    Option (Statics × List (Option Nat))
  | [] => some (heap, [])
  | request :: rest =>
      match heap.perform fuel request with
      | none => none
      | some (heap, result) => (heap.run fuel rest).map fun after => (after.1, result :: after.2)

/-- `task_user_heap_reset`. -/
def taskUserHeapResetStores (arena : Arena) (memory : Memory) : Memory :=
  let memory := write memory arena.base (List.replicate lunaUserHeapSize 0)
  let memory := setSize memory arena.base (lunaUserHeapSize - headerSize)
  let memory := setNext memory arena.base 0
  setFree memory arena.base 1

/-- Behind a reset, with no error so far. -/
def Statics.reset (arena : Arena) (memory : Memory) : Statics :=
  ⟨taskUserHeapResetStores arena memory, arena.base, 0, 0, none⟩

/-! ## The block list with its bytes -/

namespace Contents

def perform (state : Contents) : Request → Contents × Option Nat
  | .call (.malloc size) => state.malloc size
  | .call (.free pointer) => (state.free pointer, none)
  | .call (.realloc pointer size) => state.realloc pointer size
  | .store address bytes => ({ state with memory := write state.memory address bytes }, none)

def run (state : Contents) : List Request → Contents × List (Option Nat)
  | [] => (state, [])
  | request :: rest =>
      let next := state.perform request
      let after := next.1.run rest
      (after.1, next.2 :: after.2)

def reset (arena : Arena) (memory : Memory) : Contents :=
  ⟨taskUserHeapReset arena, taskUserHeapResetStores arena memory⟩

end Contents

/-- A store stays inside of one of the live blocks. -/
def Request.inside (heap : Heap) : Request → Bool
  | .call _ => true
  | .store address bytes => heap.live.any fun allocation =>
      decide (allocation.pointer ≤ address ∧
        address + bytes.length ≤ allocation.pointer + heap.reserved allocation.pointer)

/-- Every store of a run is, when it is made. -/
def storesInside (state : Contents) : List Request → Bool
  | [] => true
  | request :: rest => request.inside state.heap && storesInside (state.perform request).1 rest

/-! ## Reading what was stored -/

section Fields

variable (memory : Memory) (header value : Nat)

theorem read_stored (width address : Nat) :
    ofLittleEndian (read (write memory address (littleEndian width value)) address width) =
      value % 256 ^ width := by
  have stored : read (write memory address (littleEndian width value)) address
      (littleEndian width value).length = littleEndian width value := read_write_same
  rw [length_littleEndian] at stored
  rw [stored, ofLittleEndian_littleEndian]

theorem getSize_setSize : getSize (setSize memory header value) header = value % 256 ^ 8 :=
  read_stored memory value 8 header

theorem getNext_setNext : getNext (setNext memory header value) header = value % 256 ^ 8 :=
  read_stored memory value 8 (header + 8)

theorem getFree_setFree : getFree (setFree memory header value) header = value % 256 ^ 4 :=
  read_stored memory value 4 (header + 16)

@[simp] theorem getNext_setSize :
    getNext (setSize memory header value) header = getNext memory header := by
  unfold getNext setSize
  rw [read_write_disjoint (.inr (by rw [length_littleEndian]))]

@[simp] theorem getFree_setSize :
    getFree (setSize memory header value) header = getFree memory header := by
  unfold getFree setSize
  rw [read_write_disjoint (.inr (by rw [length_littleEndian]; omega))]

@[simp] theorem getSize_setNext :
    getSize (setNext memory header value) header = getSize memory header := by
  unfold getSize setNext
  rw [read_write_disjoint (.inl le_rfl)]

@[simp] theorem getFree_setNext :
    getFree (setNext memory header value) header = getFree memory header := by
  unfold getFree setNext
  rw [read_write_disjoint (.inr (by rw [length_littleEndian]))]

@[simp] theorem getSize_setFree :
    getSize (setFree memory header value) header = getSize memory header := by
  unfold getSize setFree
  rw [read_write_disjoint (.inl (by omega))]

@[simp] theorem getNext_setFree :
    getNext (setFree memory header value) header = getNext memory header := by
  unfold getNext setFree
  rw [read_write_disjoint (.inl (by omega))]

end Fields

/-! ## Memory that holds a block list -/

/-- What the header of a block says. -/
structure Header (memory : Memory) (block : Block) (next : Nat) : Prop where
  size : getSize memory block.addr = block.size
  next : getNext memory block.addr = next
  free : getFree memory block.addr = block.free.toNat

/-- Where the block in front of these points, when `last` is behind them. -/
def pointsTo (last : Nat) : List Block → Nat
  | [] => last
  | block :: _ => block.addr

/-- The headers of these blocks, chained up to `last`. -/
def Represents (memory : Memory) (last : Nat) : List Block → Prop
  | [] => True
  | block :: rest => Header memory block (pointsTo last rest) ∧ Represents memory last rest

/-- The blocks lie one behind the other, where 8 bytes can point to them. -/
structure Placed (blocks : List Block) : Prop where
  ordered : blocks.Pairwise fun first second => first.payload + first.size ≤ second.addr
  positive : ∀ block ∈ blocks, 0 < block.addr
  bounded : ∀ block ∈ blocks, block.payload + block.size ≤ 256 ^ 8

section Representation

variable {memory after : Memory} {region : Nat → Prop} {block edited : Block}
  {blocks front rest : List Block} {last : Nat}

theorem nextOf_eq (blocks : List Block) : nextOf blocks = pointsTo 0 blocks := by
  cases blocks with
  | nil => rfl
  | cons block rest => rfl

theorem pointsTo_append (front back : List Block) :
    pointsTo last (front ++ back) = pointsTo (pointsTo last back) front := by
  cases front with
  | nil => rfl
  | cons block rest => rfl

theorem represents_append : Represents memory last (front ++ rest) ↔
    Represents memory (pointsTo last rest) front ∧ Represents memory last rest := by
  induction front with
  | nil => exact ⟨fun represents => ⟨trivial, represents⟩, And.right⟩
  | cons block front inductionHypothesis =>
      rw [List.cons_append]
      simp only [Represents]
      rw [inductionHypothesis, pointsTo_append, and_assoc]

theorem Header.frame {next : Nat} (header : Header memory block next)
    (differs : DiffersIn region memory after)
    (apart : ∀ address, InHeader block.addr address → ¬region address) :
    Header after block next := by
  have same : ∀ offset width, offset + width ≤ headerSize →
      ofLittleEndian (read after (block.addr + offset) width) =
        ofLittleEndian (read memory (block.addr + offset) width) := by
    intro offset width within
    refine congrArg ofLittleEndian (read_congr fun index inside => ?_)
    exact differs _ (apart _ ⟨by omega, by omega⟩)
  exact ⟨(same 0 8 (by decide)).trans header.size, (same 8 8 (by decide)).trans header.next,
    (same 16 4 (by decide)).trans header.free⟩

theorem Header.getFree_eq_zero {next : Nat} (header : Header memory block next)
    (used : block.free = false) : getFree memory block.addr = 0 := by
  rw [header.free, used]
  rfl

theorem Header.getFree_ne_zero {next : Nat} (header : Header memory block next)
    (free : block.free = true) : getFree memory block.addr ≠ 0 := by
  rw [header.free, free]
  decide

theorem Represents.frame (represents : Represents memory last blocks)
    (differs : DiffersIn region memory after)
    (apart : ∀ block ∈ blocks, ∀ address, InHeader block.addr address → ¬region address) :
    Represents after last blocks := by
  induction blocks with
  | nil => trivial
  | cons block rest inductionHypothesis =>
      refine ⟨represents.1.frame differs (apart block List.mem_cons_self), ?_⟩
      exact inductionHypothesis represents.2 fun other member =>
        apart other (List.mem_cons_of_mem _ member)

theorem Represents.header (represents : Represents memory last blocks) (member : block ∈ blocks) :
    getSize memory block.addr = block.size := by
  induction blocks with
  | nil => cases member
  | cons first rest inductionHypothesis =>
      rcases List.mem_cons.mp member with rfl | later
      · exact represents.1.size
      · exact inductionHypothesis represents.2 later

theorem Layout.placed {before : Bool} {start stop : Nat} (layout : Layout before start stop blocks)
    (positive : 0 < start) (bounded : stop ≤ 256 ^ 8) : Placed blocks where
  ordered := layout.ordered
  positive _ member := Nat.lt_of_lt_of_le positive (layout.inside member).1
  bounded _ member := (layout.inside member).2.trans bounded

theorem Placed.drop (front : List Block) (placed : Placed (front ++ rest)) : Placed rest where
  ordered := (List.pairwise_append.mp placed.ordered).2.1
  positive other member := placed.positive other (List.mem_append_right _ member)
  bounded other member := placed.bounded other (List.mem_append_right _ member)

theorem Placed.tail (placed : Placed (block :: rest)) : Placed rest := placed.drop [block]

theorem Placed.pointsTo_lt (placed : Placed blocks) : pointsTo 0 blocks < 256 ^ 8 := by
  cases blocks with
  | nil => decide
  | cons block rest =>
      have bounded := placed.bounded block List.mem_cons_self
      unfold Block.payload headerSize at bounded
      change block.addr < 256 ^ 8
      omega

/-- The header in front of some blocks is none of theirs. -/
theorem Placed.apart (front : List Block) (placed : Placed (front ++ block :: rest)) {other : Block}
    (member : other ∈ front ++ rest) (address : Nat) (inside : InHeader other.addr address) :
    ¬InHeader block.addr address := by
  obtain ⟨-, ordered, across⟩ := List.pairwise_append.mp placed.ordered
  have separate : other.payload + other.size ≤ block.addr ∨
      block.payload + block.size ≤ other.addr := by
    rcases List.mem_append.mp member with before | behind
    · exact .inl (across other before block List.mem_cons_self)
    · exact .inr ((List.pairwise_cons.mp ordered).1 other behind)
  unfold Block.payload at separate
  unfold InHeader at inside ⊢
  omega

/-- Stores into the blocks behind a header leave it alone. -/
theorem Placed.header_unwritable (placed : Placed (block :: rest)) (address : Nat)
    (inside : InHeader block.addr address) : ¬Writable rest address := by
  rintro ⟨other, otherIn, writable⟩
  have behind := (List.pairwise_cons.mp placed.ordered).1 other otherIn
  unfold Block.payload at behind
  unfold InHeader at inside writable
  omega

/-- A header is rewritten; the block may have absorbed some behind it. -/
theorem Represents.edit (front absorbed : List Block)
    (represents : Represents memory last (front ++ block :: (absorbed ++ rest)))
    (placed : Placed (front ++ block :: (absorbed ++ rest)))
    (differs : DiffersIn (InHeader block.addr) memory after) (same : edited.addr = block.addr)
    (header : Header after edited (pointsTo last rest)) :
    Represents after last (front ++ edited :: rest) := by
  obtain ⟨before, -, behind⟩ := represents_append.mp represents
  obtain ⟨-, rests⟩ := represents_append.mp behind
  refine represents_append.mpr ⟨?_, header, ?_⟩
  · have points : pointsTo last (edited :: rest) = block.addr := same
    rw [points]
    exact before.frame differs fun other member =>
      placed.apart front (List.mem_append_left _ member)
  · exact rests.frame differs fun other member =>
      placed.apart front (List.mem_append_right _ (List.mem_append_right _ member))

end Representation

/-! ## The walks -/

section Walks

variable {memory : Memory} {block taken : Block} {blocks front rest after : List Block}
  {aligned pointer fuel : Nat} {previous : Option Block}

theorem pointsTo_ne_zero (placed : Placed (block :: rest)) : block.addr ≠ 0 :=
  Nat.ne_of_gt (placed.positive block List.mem_cons_self)

/-- Behind the six stores of a split. -/
theorem split_represents (represents : Represents memory 0 (block :: rest))
    (placed : Placed (block :: rest)) (splits : headerSize + lunaUserMinSplit ≤ block.size - aligned) :
    let split := block.addr + headerSize + aligned
    let behind := setFree (setNext (setSize memory split (block.size - aligned - headerSize)) split
      (nextOf rest)) split 1
    Represents (setFree (setNext (setSize behind block.addr aligned) block.addr split) block.addr 0)
      0 (⟨block.addr, aligned, false⟩ :: ⟨split, block.size - aligned - headerSize, true⟩ :: rest) := by
  intro split behind
  have bounded := placed.bounded block List.mem_cons_self
  have behindRest := (List.pairwise_cons.mp placed.ordered).1
  have wide : aligned + 48 ≤ block.size := by
    unfold headerSize lunaUserMinSplit at splits
    omega
  have header : headerSize = 32 := rfl
  unfold Block.payload at bounded behindRest
  have points := placed.tail.pointsTo_lt
  have first : DiffersIn (InHeader split) memory behind :=
    ((setSize_differsIn _ _ _).trans (setNext_differsIn _ _ _)).trans (setFree_differsIn _ _ _)
  have second : DiffersIn (InHeader block.addr) behind
      (setFree (setNext (setSize behind block.addr aligned) block.addr split) block.addr 0) :=
    ((setSize_differsIn _ _ _).trans (setNext_differsIn _ _ _)).trans (setFree_differsIn _ _ _)
  have splitHeader : Header behind ⟨split, block.size - aligned - headerSize, true⟩
      (pointsTo 0 rest) := by
    refine ⟨?_, ?_, getFree_setFree ..⟩
    · rw [getSize_setFree, getSize_setNext, getSize_setSize, Nat.mod_eq_of_lt]
      omega
    · rw [getNext_setFree, getNext_setNext, nextOf_eq, Nat.mod_eq_of_lt points]
  have takenHeader : Header
      (setFree (setNext (setSize behind block.addr aligned) block.addr split) block.addr 0)
      ⟨block.addr, aligned, false⟩ split := by
    refine ⟨?_, ?_, getFree_setFree ..⟩
    · rw [getSize_setFree, getSize_setNext, getSize_setSize, Nat.mod_eq_of_lt]
      omega
    · rw [getNext_setFree, getNext_setNext, Nat.mod_eq_of_lt]
      omega
  refine ⟨takenHeader, splitHeader.frame second ?_, ?_⟩
  · intro address inside
    change split ≤ address ∧ address < split + headerSize at inside
    unfold InHeader
    omega
  · refine (represents.2.frame first ?_).frame second ?_
    · intro other member address inside
      have later := behindRest other member
      unfold InHeader at inside ⊢
      omega
    · intro other member address inside
      have later := behindRest other member
      unfold InHeader at inside ⊢
      omega

theorem takeBlock_eq (represents : Represents memory 0 (block :: rest))
    (fits : ¬(block.free = false ∨ block.size < aligned)) :
    takeBlock aligned memory block.addr = firstFitStores aligned memory (block :: rest) := by
  unfold takeBlock firstFitStores
  rw [if_neg fits, represents.1.size]
  dsimp only
  by_cases splits : headerSize + lunaUserMinSplit ≤ block.size - aligned
  · rw [if_pos splits, if_pos splits]
    have kept : getNext (setSize memory (block.addr + headerSize + aligned)
        (block.size - aligned - headerSize)) block.addr = nextOf rest := by
      refine (represents.1.frame (setSize_differsIn _ _ _) ?_).next.trans (nextOf_eq rest).symm
      intro address inside
      unfold InHeader at inside ⊢
      omega
    rw [kept]
    rfl
  · rw [if_neg splits, if_neg splits]

theorem mallocWalk_eq (placed : Placed blocks) (represents : Represents memory 0 blocks)
    (enough : blocks.length < fuel) : mallocWalk aligned fuel memory (nextOf blocks) =
      some (firstFitStores aligned memory blocks,
        (firstFit aligned blocks).map fun found => found.2.addr) := by
  induction blocks generalizing fuel with
  | nil =>
      cases fuel with
      | zero => cases enough
      | succ fuel => rfl
  | cons block rest inductionHypothesis =>
      cases fuel with
      | zero => cases enough
      | succ fuel =>
          have header := represents.1
          have skips : (getFree memory block.addr = 0 ∨ getSize memory block.addr < aligned) ↔
              (block.free = false ∨ block.size < aligned) := by
            rw [header.free, header.size, Bool.toNat_eq_zero]
          have onward := inductionHypothesis placed.tail represents.2
            (Nat.lt_of_succ_lt_succ enough)
          unfold mallocWalk
          rw [nextOf, if_neg (pointsTo_ne_zero placed)]
          by_cases skipped : block.free = false ∨ block.size < aligned
          · rw [if_pos (skips.mpr skipped), header.next, ← nextOf_eq, onward, firstFitStores,
              firstFit, if_pos skipped, if_pos skipped, Option.map_map]
            rfl
          · have taken : (firstFit aligned (block :: rest)).map (fun found => found.2.addr) =
                some block.addr := by
              unfold firstFit
              rw [if_neg skipped]
              dsimp only
              split <;> rfl
            rw [if_neg (mt skips.mp skipped), takeBlock_eq represents skipped, taken]

theorem firstFit_represents (placed : Placed blocks) (represents : Represents memory 0 blocks)
    (found : firstFit aligned blocks = some (after, taken)) :
    Represents (firstFitStores aligned memory blocks) 0 after ∧ nextOf after = nextOf blocks ∧
      taken ∈ after := by
  induction blocks generalizing after with
  | nil => cases found
  | cons block rest inductionHypothesis =>
      unfold firstFit at found
      unfold firstFitStores
      split at found
      next skipped =>
        rw [if_pos skipped]
        obtain ⟨⟨later, _⟩, foundLater, equal⟩ := Option.map_eq_some_iff.mp found
        cases equal
        obtain ⟨representsLater, points, member⟩ :=
          inductionHypothesis placed.tail represents.2 foundLater
        refine ⟨⟨?_, representsLater⟩, rfl, List.mem_cons_of_mem _ member⟩
        rw [← nextOf_eq, points, nextOf_eq]
        exact represents.1.frame (firstFitStores_differsIn aligned memory rest)
          placed.header_unwritable
      next fits =>
        rw [if_neg fits]
        dsimp only at found ⊢
        split at found
        next splits =>
          cases found
          rw [if_pos splits]
          exact ⟨split_represents represents placed splits, rfl, List.mem_cons_self⟩
        next whole =>
          cases found
          rw [if_neg whole]
          refine ⟨?_, rfl, List.mem_cons_self⟩
          refine Represents.edit [] [] represents placed (setFree_differsIn _ _ _) rfl
            ⟨?_, ?_, getFree_setFree ..⟩
          · rw [getSize_setFree]
            exact represents.1.size
          · rw [getNext_setFree]
            exact represents.1.next

end Walks

/-! ## Freeing -/

section Freeing

variable {memory : Memory} {block : Block} {blocks front rest : List Block} {pointer fuel : Nat}
  {previous : Option Block}

theorem Placed.edit (front absorbed : List Block) {edited : Block}
    (placed : Placed (front ++ block :: (absorbed ++ rest))) (same : edited.addr = block.addr)
    (behind : ∀ other ∈ rest, edited.payload + edited.size ≤ other.addr)
    (bounded : edited.payload + edited.size ≤ 256 ^ 8) : Placed (front ++ edited :: rest) := by
  obtain ⟨before, ordered, across⟩ := List.pairwise_append.mp placed.ordered
  have rests := (List.pairwise_append.mp (List.pairwise_cons.mp ordered).2).2.1
  refine ⟨List.pairwise_append.mpr ⟨before, .cons behind rests, ?_⟩, ?_, ?_⟩
  · intro other member second secondMember
    rcases List.mem_cons.mp secondMember with rfl | later
    · rw [same]
      exact across other member block List.mem_cons_self
    · exact across other member second (by simp [later])
  · intro other member
    rcases List.mem_append.mp member with earlier | later
    · exact placed.positive other (List.mem_append_left _ earlier)
    · rcases List.mem_cons.mp later with rfl | later
      · rw [same]
        exact placed.positive block (by simp)
      · exact placed.positive other (by simp [later])
  · intro other member
    rcases List.mem_append.mp member with earlier | later
    · exact placed.bounded other (List.mem_append_left _ earlier)
    · rcases List.mem_cons.mp later with rfl | later
      · exact bounded
      · exact placed.bounded other (by simp [later])

/-- A block may grow over the next one. -/
theorem Placed.join {next : Block} (placed : Placed (front ++ block :: next :: rest)) :
    Placed (front ++ { block with size := block.size + (headerSize + next.size) } :: rest) ∧
      block.size + (headerSize + next.size) < 256 ^ 8 := by
  obtain ⟨-, ordered, -⟩ := List.pairwise_append.mp placed.ordered
  obtain ⟨blockBefore, ordered⟩ := List.pairwise_cons.mp ordered
  have touching := blockBefore next List.mem_cons_self
  have nextBounded := placed.bounded next (by simp)
  have positive := placed.positive block (by simp)
  unfold Block.payload at touching nextBounded
  refine ⟨placed.edit front [next] rfl (fun other member => ?_) ?_, by omega⟩
  · have behind := (List.pairwise_cons.mp ordered).1 other member
    unfold Block.payload at behind ⊢
    dsimp only
    omega
  · unfold Block.payload
    dsimp only
    omega

/-- A block that absorbs the next one, size first. -/
theorem Represents.join {next : Block}
    (represents : Represents memory 0 (front ++ block :: next :: rest))
    (placed : Placed (front ++ block :: next :: rest)) :
    Represents (setNext (setSize memory block.addr (block.size + (headerSize + next.size)))
      block.addr (nextOf rest)) 0
      (front ++ { block with size := block.size + (headerSize + next.size) } :: rest) := by
  obtain ⟨joined, small⟩ := placed.join
  obtain ⟨-, header, -⟩ := represents_append.mp represents
  have points : nextOf rest < 256 ^ 8 := by
    rw [nextOf_eq]
    exact (joined.drop front).tail.pointsTo_lt
  refine Represents.edit front [next] represents placed
    ((setSize_differsIn _ _ _).trans (setNext_differsIn _ _ _)) rfl ⟨?_, ?_, ?_⟩
  · rw [getSize_setNext, getSize_setSize, Nat.mod_eq_of_lt small]
  · rw [getNext_setNext, Nat.mod_eq_of_lt points, nextOf_eq]
  · rw [getFree_setNext, getFree_setSize]
    exact header.free

theorem joinNext_addr (block : Block) (rest : List Block) :
    (joinNext block rest).1.addr = block.addr := by
  cases rest with
  | nil => rfl
  | cons next rest =>
      cases isFree : next.free with
      | false => rw [joinNext_cons_used isFree]
      | true => rw [joinNext_cons_free isFree]

theorem absorbNext_eq (represents : Represents memory 0 (front ++ block :: rest))
    (placed : Placed (front ++ block :: rest)) :
    absorbNext memory block.addr = joinNextStores memory block rest ∧
      Represents (joinNextStores memory block rest) 0
        (front ++ (joinNext block rest).1 :: (joinNext block rest).2) ∧
      Placed (front ++ (joinNext block rest).1 :: (joinNext block rest).2) := by
  obtain ⟨-, header, behind⟩ := represents_append.mp represents
  unfold absorbNext
  rw [header.next, header.size]
  cases rest with
  | nil => exact ⟨if_neg fun next => next.1 rfl, represents, placed⟩
  | cons next rest =>
      have notNull : next.addr ≠ 0 := Nat.ne_of_gt (placed.positive next (by simp))
      cases isFree : next.free with
      | false =>
          simp only [joinNext_cons_used isFree, joinNextStores, isFree]
          exact ⟨if_neg fun next => next.2 (behind.1.getFree_eq_zero isFree), represents, placed⟩
      | true =>
          have free : getFree memory next.addr ≠ 0 := behind.1.getFree_ne_zero isFree
          have kept : getNext (setSize memory block.addr
              (block.size + (headerSize + next.size))) next.addr = nextOf rest := by
            refine (behind.1.frame (setSize_differsIn _ _ _) ?_).next.trans (nextOf_eq rest).symm
            exact placed.apart front (List.mem_append_right _ List.mem_cons_self)
          simp only [joinNext_cons_free isFree, joinNextStores, isFree, if_true]
          refine ⟨?_, represents.join placed, placed.join.1⟩
          have points : pointsTo 0 (next :: rest) = next.addr := rfl
          rw [points, if_pos ⟨notNull, free⟩, getNext_setSize, header.next, points, behind.1.size,
            kept]

theorem absorbInto_eq (represents : Represents memory 0 (previous.toList ++ block :: rest))
    (placed : Placed (previous.toList ++ block :: rest)) :
    absorbInto memory (previous.elim 0 Block.addr) block.addr =
        joinPreviousStores memory previous block rest ∧
      Represents (joinPreviousStores memory previous block rest) 0
        (joinPrevious previous block rest) := by
  obtain ⟨-, header, -⟩ := represents_append.mp represents
  unfold absorbInto
  cases previous with
  | none => exact ⟨if_neg fun front => front.1 rfl, represents⟩
  | some front =>
      have notNull : front.addr ≠ 0 := Nat.ne_of_gt (placed.positive front (by simp))
      have frontHeader : Header memory front block.addr := represents.1
      cases isFree : front.free with
      | false =>
          rw [joinPrevious_used isFree]
          simp only [joinPreviousStores, isFree]
          exact ⟨if_neg fun front => front.2 (frontHeader.getFree_eq_zero isFree), represents⟩
      | true =>
          have free : getFree memory front.addr ≠ 0 := frontHeader.getFree_ne_zero isFree
          have kept : getNext (setSize memory front.addr
              (front.size + (headerSize + block.size))) block.addr = nextOf rest := by
            refine (header.frame (setSize_differsIn _ _ _) ?_).next.trans (nextOf_eq rest).symm
            exact placed.apart [] List.mem_cons_self
          have joined : Represents _ 0 ([] ++ _ :: rest) := Represents.join represents placed
          have stores : joinPreviousStores memory (some front) block rest =
              setNext (setSize memory front.addr (front.size + (headerSize + block.size)))
                front.addr (nextOf rest) := if_pos isFree
          rw [joinPrevious_free isFree, stores]
          refine ⟨?_, joined⟩
          rw [Option.elim_some, if_pos ⟨notNull, free⟩, frontHeader.size, header.size]
          dsimp only
          rw [kept]

/-- How `luna_bb_free` goes on behind its walk, next to the block list. -/
def FreesAs (memory : Memory) (found : Nat × Nat) (stores : Memory) (first : Nat) :
    Option (List Block × Nat) → Prop
  | none => (found.2 = 0 ∨ getFree memory found.2 ≠ 0) ∧ stores = memory
  | some (after, released) =>
      ¬(found.2 = 0 ∨ getFree memory found.2 ≠ 0) ∧ getSize memory found.2 = released ∧
        freeBlock memory found.1 found.2 = stores ∧ Represents stores 0 after ∧
        nextOf after = first

/-- The block is found and allocated. -/
theorem Represents.release (represents : Represents memory 0 (previous.toList ++ block :: rest))
    (placed : Placed (previous.toList ++ block :: rest)) (used : block.free = false) :
    FreesAs memory (previous.elim 0 Block.addr, block.addr)
      (joinPreviousStores (joinNextStores (setFree memory block.addr 1)
        { block with free := true } rest) previous (joinNext { block with free := true } rest).1
        (joinNext { block with free := true } rest).2)
      (nextOf (previous.toList ++ block :: rest))
      (some (joinPrevious previous (joinNext { block with free := true } rest).1
        (joinNext { block with free := true } rest).2, block.size)) := by
  obtain ⟨-, header, -⟩ := represents_append.mp represents
  have ordered := (List.pairwise_append.mp placed.ordered).2.1
  have notNull : block.addr ≠ 0 := Nat.ne_of_gt (placed.positive block (by simp))
  have isUsed : getFree memory block.addr = 0 := header.getFree_eq_zero used
  have freed : Represents (setFree memory block.addr 1) 0
      (previous.toList ++ { block with free := true } :: rest) := by
    refine Represents.edit previous.toList [] represents placed (setFree_differsIn _ _ _) rfl
      ⟨?_, ?_, getFree_setFree ..⟩
    · rw [getSize_setFree]
      exact header.size
    · rw [getNext_setFree]
      exact header.next
  have freedPlaced : Placed (previous.toList ++ { block with free := true } :: rest) :=
    placed.edit previous.toList [] rfl (List.pairwise_cons.mp ordered).1
      (placed.bounded block (by simp))
  obtain ⟨next, joined, joinedPlaced⟩ := absorbNext_eq freed freedPlaced
  obtain ⟨front, result⟩ := absorbInto_eq joined joinedPlaced
  rw [joinNext_addr] at front
  refine ⟨fun refused => refused.elim notNull fun free => free isUsed, header.size, ?_, result, ?_⟩
  · unfold freeBlock
    rw [next, front]
  · cases previous with
    | none => exact joinNext_addr _ rest
    | some before =>
        cases isFree : before.free with
        | false =>
            rw [joinPrevious_used isFree]
            rfl
        | true =>
            rw [joinPrevious_free isFree]
            rfl

theorem findWalk_release (pointer : Nat) (previous : Option Block)
    (placed : Placed (previous.toList ++ blocks))
    (represents : Represents memory 0 (previous.toList ++ blocks)) (enough : blocks.length < fuel) :
    ∃ found, findWalk pointer fuel memory (previous.elim 0 Block.addr) (nextOf blocks) = some found ∧
      FreesAs memory found (releaseStores pointer memory previous blocks)
        (nextOf (previous.toList ++ blocks)) (release pointer previous blocks) := by
  induction blocks generalizing fuel previous with
  | nil =>
      cases fuel with
      | zero => cases enough
      | succ fuel => exact ⟨_, rfl, .inl rfl, rfl⟩
  | cons block rest inductionHypothesis =>
      cases fuel with
      | zero => cases enough
      | succ fuel =>
          obtain ⟨-, header, behind⟩ := represents_append.mp represents
          have notNull : block.addr ≠ 0 := Nat.ne_of_gt (placed.positive block (by simp))
          rw [findWalk, nextOf]
          by_cases here : block.payload = pointer
          · rw [if_neg fun walks => walks.2 here]
            refine ⟨_, rfl, ?_⟩
            rw [release, releaseStores, if_pos here, if_pos here]
            cases isFree : block.free with
            | true => exact ⟨.inr (header.getFree_ne_zero isFree), rfl⟩
            | false => exact represents.release placed isFree
          · have placedHere : Placed ((some block).toList ++ rest) := placed.drop previous.toList
            obtain ⟨found, walked, frees⟩ := inductionHypothesis _ placedHere
              (represents_append.mp represents).2 (Nat.lt_of_succ_lt_succ enough)
            rw [if_pos ⟨notNull, here⟩, header.next, ← nextOf_eq]
            refine ⟨found, walked, ?_⟩
            rw [release, releaseStores, if_neg here, if_neg here]
            cases released : release pointer (some block) rest with
            | none =>
                rw [released] at frees
                exact frees
            | some result =>
                rw [released] at frees
                obtain ⟨isFound, size, stores, result, first⟩ := frees
                refine ⟨isFound, size, stores, ?_, ?_⟩
                · cases previous with
                  | none => exact result
                  | some front =>
                      have points := (nextOf_eq _).symm.trans first
                      refine ⟨?_, result⟩
                      rw [List.append_eq, List.nil_append, points]
                      exact represents.1.frame
                        (releaseStores_differsIn pointer memory (some block) rest)
                        placed.header_unwritable
                · cases previous with
                  | none => exact first
                  | some front => rfl

end Freeing

/-! ## Calls and stores -/

section Lookup

variable {memory : Memory} {blocks : List Block} {pointer fuel : Nat}

/-- How `luna_bb_realloc` goes on behind its walk, next to the block list. -/
def FindsAs (memory : Memory) (found : Nat × Nat) : Option Block → Prop
  | none => found.2 = 0 ∨ getFree memory found.2 ≠ 0
  | some block => ¬(found.2 = 0 ∨ getFree memory found.2 ≠ 0) ∧
      getSize memory found.2 = block.size

theorem findWalk_lookup (pointer : Nat) (placed : Placed blocks)
    (represents : Represents memory 0 blocks)
    (enough : blocks.length < fuel) (previous : Nat) :
    ∃ found, findWalk pointer fuel memory previous (nextOf blocks) = some found ∧
      FindsAs memory found (lookup pointer blocks) := by
  induction blocks generalizing fuel previous with
  | nil =>
      cases fuel with
      | zero => cases enough
      | succ fuel => exact ⟨_, rfl, .inl rfl⟩
  | cons block rest inductionHypothesis =>
      cases fuel with
      | zero => cases enough
      | succ fuel =>
          have header := represents.1
          have notNull := pointsTo_ne_zero placed
          rw [findWalk, nextOf]
          by_cases here : block.payload = pointer
          · have found : lookup pointer (block :: rest) =
                if block.free then none else some block := by
              unfold lookup
              rw [List.find?_cons_of_pos (by simpa using here)]
            rw [if_neg fun walks => walks.2 here, found]
            refine ⟨_, rfl, ?_⟩
            cases isFree : block.free with
            | true => exact .inr (header.getFree_ne_zero isFree)
            | false =>
                have isUsed := header.getFree_eq_zero isFree
                exact ⟨fun refused => refused.elim notNull fun free => free isUsed, header.size⟩
          · have elsewhere : lookup pointer (block :: rest) = lookup pointer rest := by
              unfold lookup
              rw [List.find?_cons_of_neg (by simpa using here)]
            rw [if_pos ⟨notNull, here⟩, header.next, ← nextOf_eq, elsewhere]
            exact inductionHypothesis placed.tail represents.2 (Nat.lt_of_succ_lt_succ enough) _

end Lookup

/-- A walk passes at most so many blocks. -/
def walkLimit : Nat := lunaUserHeapSize / headerSize + 1

/-- The static variables hold the heap of the block list, in well-formed headers. -/
structure Simulates (arena : Arena) (heap : Statics) (state : Contents) : Prop where
  wellFormed : WellFormed arena state.heap
  memory : heap.memory = state.memory
  head : heap.head = nextOf state.heap.blocks
  represents : Represents state.memory 0 state.heap.blocks
  current : heap.current = state.heap.current
  peak : heap.peak = state.heap.peak
  errno : heap.errno = state.heap.errno

/-- The arena is where a linker may put it. -/
structure Arena.Linked (arena : Arena) : Prop where
  notNull : 0 < arena.base
  addressable : arena.base + lunaUserHeapSize ≤ 256 ^ 8

section Calls

variable {arena : Arena} {heap : Statics} {state : Contents}

theorem WellFormed.placed (linked : arena.Linked) {heap : Heap} (wf : WellFormed arena heap) :
    Placed heap.blocks :=
  wf.layout.placed linked.notNull linked.addressable

theorem headers_le_sum (blocks : List Block) :
    headerSize * blocks.length ≤ (blocks.map fun block => headerSize + block.size).sum := by
  induction blocks with
  | nil => exact Nat.le_refl _
  | cons block rest inductionHypothesis =>
      rw [List.map_cons, List.sum_cons, List.length_cons, Nat.mul_succ]
      omega

theorem WellFormed.short {heap : Heap} (wf : WellFormed arena heap) :
    heap.blocks.length < walkLimit := by
  have total : (heap.blocks.map fun block => headerSize + block.size).sum = lunaUserHeapSize :=
    Nat.add_left_cancel wf.layout.sum
  have headers := (headers_le_sum heap.blocks).trans_eq total
  exact Nat.lt_succ_of_le ((Nat.le_div_iff_mul_le (by decide)).mpr
    (Nat.mul_comm _ _ ▸ headers))

/-- The bytes of a live block are none of a header. -/
theorem Simulates.store (simulates : Simulates arena heap state)
    {block : Block} (member : block ∈ used state.heap.blocks) {after : Memory}
    (differs : DiffersIn (fun address => block.payload ≤ address ∧
      address < block.payload + block.size) state.memory after) :
    Simulates arena { heap with memory := after } { state with memory := after } := by
  refine { simulates with memory := rfl, represents := ?_ }
  refine simulates.represents.frame differs fun other otherIn address inside payload => ?_
  exact simulates.wellFormed.layout.payload_unwritable member payload.1 payload.2
    ⟨other, otherIn, .inl inside⟩

theorem blit_differsIn (memory : Memory) (target : Block) (source : Nat) {length : Nat}
    (enough : length ≤ target.size) :
    DiffersIn (fun address => target.payload ≤ address ∧ address < target.payload + target.size)
      memory (blit memory target.payload memory source length) := by
  intro address outside
  unfold blit
  exact if_neg fun inside => outside ⟨inside.1, by omega⟩

theorem Simulates.malloc (linked : arena.Linked) (simulates : Simulates arena heap state)
    (size : Nat) : ∃ after, heap.malloc walkLimit size = some (after, (state.malloc size).2) ∧
      Simulates arena after (state.malloc size).1 := by
  have wf : WellFormed arena (state.malloc size).1.heap :=
    malloc_wellFormed simulates.wellFormed size
  have placed := simulates.wellFormed.placed linked
  unfold Statics.malloc
  unfold Contents.malloc lunaBbMalloc at wf ⊢
  by_cases refused : size = 0 ∨ sizeMax - (lunaUserAlignment - 1) < size
  · rw [if_pos refused]
    simp only [if_pos refused] at wf ⊢
    exact ⟨_, rfl, { simulates with wellFormed := wf, errno := rfl }⟩
  · simp only [if_neg refused] at wf ⊢
    rw [simulates.memory, simulates.head,
      mallocWalk_eq placed simulates.represents simulates.wellFormed.short]
    cases found : firstFit (roundUp size) state.heap.blocks with
    | none =>
        have same : firstFitStores (roundUp size) state.memory state.heap.blocks = state.memory :=
          firstFitStores_none found
        simp only [found] at wf ⊢
        rw [same]
        exact ⟨_, rfl, wf, rfl, rfl, simulates.represents, simulates.current, simulates.peak, rfl⟩
    | some result =>
        obtain ⟨blocks, taken⟩ := result
        obtain ⟨represents, first, member⟩ :=
          firstFit_represents placed simulates.represents found
        have grown : heap.current + getSize (firstFitStores (roundUp size) state.memory
            state.heap.blocks) taken.addr = state.heap.current + taken.size := by
          rw [represents.header member, simulates.current]
        simp only [found] at wf ⊢
        refine ⟨_, rfl, wf, rfl, first.symm, represents, grown, ?_, simulates.errno⟩
        exact congrArg₂ max simulates.peak grown

theorem Simulates.free (linked : arena.Linked) (simulates : Simulates arena heap state)
    (pointer : Nat) : ∃ after, heap.free walkLimit pointer = some after ∧
      Simulates arena after (state.free pointer) := by
  have wf : WellFormed arena (state.free pointer).heap :=
    free_wellFormed simulates.wellFormed pointer
  have placed := simulates.wellFormed.placed linked
  unfold Statics.free
  unfold Contents.free lunaBbFree at wf ⊢
  by_cases null : pointer = 0
  · rw [if_pos null]
    simp only [if_pos null] at wf ⊢
    exact ⟨_, rfl, simulates⟩
  · simp only [if_neg null] at wf ⊢
    obtain ⟨⟨previous, block⟩, walked, frees⟩ :=
      findWalk_release pointer none placed simulates.represents simulates.wellFormed.short
    have walked : findWalk pointer walkLimit heap.memory 0 heap.head = some (previous, block) := by
      rw [simulates.memory, simulates.head]
      exact walked
    rw [walked]
    cases released : release pointer none state.heap.blocks with
    | none =>
        rw [released] at frees
        obtain ⟨stays, same⟩ := frees
        rw [← simulates.memory] at stays
        simp only [if_pos stays, same]
        exact ⟨_, rfl, simulates⟩
    | some result =>
        obtain ⟨blocks, count⟩ := result
        rw [released] at frees
        obtain ⟨goes, size, stores, represents, first⟩ := frees
        rw [← simulates.memory] at goes
        simp only [released] at wf
        simp only [if_neg goes]
        refine ⟨_, rfl, wf, ?_, ?_, represents, ?_, simulates.peak, simulates.errno⟩
        · rw [simulates.memory]
          exact stores
        · exact simulates.head.trans first.symm
        · rw [simulates.memory, simulates.current]
          exact congrArg _ size

/-- `luna_bb_realloc` copies into a new block before it frees the old one. -/
theorem Simulates.realloc (linked : arena.Linked) (simulates : Simulates arena heap state)
    (pointer size : Nat) :
    ∃ after, heap.realloc walkLimit pointer size = some (after, (state.realloc pointer size).2) ∧
      Simulates arena after (state.realloc pointer size).1 := by
  have placed := simulates.wellFormed.placed linked
  unfold Statics.realloc Contents.realloc
  by_cases null : pointer = 0
  · rw [if_pos null, if_pos null]
    exact simulates.malloc linked size
  by_cases zero : size = 0
  · rw [if_neg null, if_neg null, if_pos zero, if_pos zero]
    obtain ⟨after, freed, simulatesAfter⟩ := simulates.free linked pointer
    exact ⟨after, by rw [freed]; rfl, simulatesAfter⟩
  rw [if_neg null, if_neg null, if_neg zero, if_neg zero]
  obtain ⟨⟨previous, block⟩, walked, finds⟩ :=
    findWalk_lookup pointer placed simulates.represents simulates.wellFormed.short 0
  rw [← simulates.memory, ← simulates.head] at walked
  rw [← simulates.memory] at finds
  have wf := realloc_wellFormed simulates.wellFormed pointer size
  rw [walked]
  cases found : lookup pointer state.heap.blocks with
  | none =>
      rw [found] at finds
      have refused : block = 0 ∨ getFree heap.memory block ≠ 0 := finds
      have heapIs : (lunaBbRealloc state.heap pointer size).1 =
          { state.heap with errno := some .einval } := by
        unfold lunaBbRealloc
        simp only [if_neg null, if_neg zero, found]
      rw [heapIs] at wf
      simp only [if_pos refused, heapIs]
      exact ⟨_, rfl, { simulates with wellFormed := wf, errno := rfl }⟩
  | some old =>
      rw [found] at finds
      obtain ⟨isFound, oldSize⟩ := finds
      simp only [if_neg isFound, oldSize]
      by_cases fits : size ≤ old.size
      · have heapIs : ∃ live, (lunaBbRealloc state.heap pointer size).1 =
            { state.heap with live := live } := by
          unfold lunaBbRealloc
          simp only [if_neg null, if_neg zero, found, if_pos fits]
          exact ⟨_, rfl⟩
        obtain ⟨live, heapIs⟩ := heapIs
        rw [heapIs] at wf
        simp only [if_pos fits, heapIs]
        exact ⟨_, rfl, { simulates with wellFormed := wf }⟩
      · simp only [if_neg fits]
        obtain ⟨after, allocated, simulatesAfter⟩ := simulates.malloc linked size
        rw [allocated]
        cases outcome : state.malloc size with
        | mk stateAfter result =>
            rw [outcome] at simulatesAfter
            cases result with
            | none => exact ⟨after, rfl, simulatesAfter⟩
            | some replacement =>
                have returned : (lunaBbMalloc state.heap size).2 = some replacement :=
                  congrArg Prod.snd outcome
                have heapAfter : (lunaBbMalloc state.heap size).1 = stateAfter.heap :=
                  congrArg (fun result => result.1.heap) outcome
                obtain ⟨target, used, rfl, enough⟩ := malloc_taken returned
                rw [heapAfter] at used
                have wide : old.size ≤ target.size :=
                  (Nat.le_of_lt (Nat.lt_of_not_le fits)).trans enough
                have copied := simulatesAfter.store used
                  (blit_differsIn stateAfter.memory target pointer wide)
                obtain ⟨final, freed, simulatesFinal⟩ := copied.free linked pointer
                refine ⟨final, ?_, simulatesFinal⟩
                dsimp only
                rw [simulatesAfter.memory, freed]
                rfl

end Calls

/-! ## Runs -/

/-- The blocks that the `next` pointers lead through from `block` on. -/
def chainFrom : Nat → Memory → Nat → Option (List Block)
  | 0, _, _ => none
  | fuel + 1, memory, block =>
      if block = 0 then some []
      else (chainFrom fuel memory (getNext memory block)).map fun rest =>
        ⟨block, getSize memory block, decide (getFree memory block ≠ 0)⟩ :: rest

/-- The calls among some requests. -/
def calls (requests : List Request) : List Operation :=
  requests.filterMap fun
    | .call operation => some operation
    | .store _ _ => none

/-- The arena holds the block list, and the counters and the error are the same. -/
structure Refines (heap : Statics) (state : Contents) : Prop where
  memory : heap.memory = state.memory
  chain : chainFrom walkLimit heap.memory heap.head = some state.heap.blocks
  current : heap.current = state.heap.current
  peak : heap.peak = state.heap.peak
  errno : heap.errno = state.heap.errno

theorem chainFrom_eq {memory : Memory} {blocks : List Block} {fuel : Nat} (placed : Placed blocks)
    (represents : Represents memory 0 blocks) (enough : blocks.length < fuel) :
    chainFrom fuel memory (nextOf blocks) = some blocks := by
  induction blocks generalizing fuel with
  | nil =>
      cases fuel with
      | zero => cases enough
      | succ fuel => rfl
  | cons block rest inductionHypothesis =>
      cases fuel with
      | zero => cases enough
      | succ fuel =>
          have header := represents.1
          have onward := inductionHypothesis placed.tail represents.2
            (Nat.lt_of_succ_lt_succ enough)
          have free : decide (getFree memory block.addr ≠ 0) = block.free := by
            rw [header.free]
            cases block.free <;> rfl
          rw [chainFrom, nextOf, if_neg (pointsTo_ne_zero placed), header.next, ← nextOf_eq, onward,
            header.size, free]
          rfl

section Runs

variable {arena : Arena} {heap : Statics} {state : Contents}

theorem Simulates.refines (linked : arena.Linked) (simulates : Simulates arena heap state) :
    Refines heap state where
  memory := simulates.memory
  chain := by
    rw [simulates.memory, simulates.head]
    exact chainFrom_eq (simulates.wellFormed.placed linked) simulates.represents
      simulates.wellFormed.short
  current := simulates.current
  peak := simulates.peak
  errno := simulates.errno

theorem reset_simulates (arena : Arena) (memory : Memory) :
    Simulates arena (Statics.reset arena memory) (Contents.reset arena memory) := by
  refine ⟨reset_wellFormed arena, rfl, rfl, ⟨⟨?_, ?_, getFree_setFree ..⟩, trivial⟩, rfl, rfl, rfl⟩
  · change getSize (taskUserHeapResetStores arena memory) arena.base = _
    unfold taskUserHeapResetStores
    rw [getSize_setFree, getSize_setNext, getSize_setSize]
    rfl
  · change getNext (taskUserHeapResetStores arena memory) arena.base = _
    unfold taskUserHeapResetStores
    rw [getNext_setFree, getNext_setNext]
    rfl

theorem Simulates.perform (linked : arena.Linked) (simulates : Simulates arena heap state)
    (request : Request) (inside : request.inside state.heap = true) :
    ∃ after, heap.perform walkLimit request = some (after, (state.perform request).2) ∧
      Simulates arena after (state.perform request).1 := by
  cases request with
  | call operation =>
      cases operation with
      | malloc size => exact simulates.malloc linked size
      | free pointer =>
          obtain ⟨after, freed, simulatesAfter⟩ := simulates.free linked pointer
          exact ⟨after, by rw [Statics.perform, freed]; rfl, simulatesAfter⟩
      | realloc pointer size => exact simulates.realloc linked pointer size
  | store address bytes =>
      obtain ⟨allocation, live, within⟩ := List.any_eq_true.mp inside
      obtain ⟨low, high⟩ := of_decide_eq_true within
      obtain ⟨block, used, payload, -⟩ := simulates.wellFormed.backed allocation live
      rw [← payload, simulates.wellFormed.reserved_eq used] at high
      rw [← payload] at low
      have differs : DiffersIn (fun address => block.payload ≤ address ∧
          address < block.payload + block.size) state.memory (write state.memory address bytes) := by
        intro other outside
        by_cases below : other < address
        · exact write_apply_of_lt below
        · exact write_apply_of_ge (by omega)
      refine ⟨_, rfl, ?_⟩
      rw [simulates.memory]
      exact simulates.store used differs

theorem Simulates.run (linked : arena.Linked) (requests : List Request) {heap : Statics}
    {state : Contents} (simulates : Simulates arena heap state)
    (inside : storesInside state requests = true) :
    ∃ after, heap.run walkLimit requests = some (after, (state.run requests).2) ∧
      Simulates arena after (state.run requests).1 := by
  induction requests generalizing heap state with
  | nil => exact ⟨heap, rfl, simulates⟩
  | cons request rest inductionHypothesis =>
      obtain ⟨first, later⟩ := Bool.and_eq_true_iff.mp inside
      obtain ⟨next, performed, simulatesNext⟩ := simulates.perform linked request first
      obtain ⟨after, ran, simulatesAfter⟩ := inductionHypothesis simulatesNext later
      refine ⟨after, ?_, simulatesAfter⟩
      rw [Statics.run, performed]
      dsimp only
      rw [ran]
      rfl

theorem perform_heap (state : Contents) (request : Request) :
    (state.perform request).1.heap = (calls [request]).foldl Heap.perform state.heap := by
  cases request with
  | call operation =>
      cases operation with
      | malloc size => rfl
      | free pointer => rfl
      | realloc pointer size => exact (state.realloc_heap pointer size).1
  | store address bytes => rfl

theorem run_heap (state : Contents) (requests : List Request) :
    (state.run requests).1.heap = (calls requests).foldl Heap.perform state.heap := by
  induction requests generalizing state with
  | nil => rfl
  | cons request rest inductionHypothesis =>
      have split : calls (request :: rest) = calls [request] ++ calls rest :=
        List.filterMap_append (l := [request])
      rw [split, List.foldl_append, ← perform_heap]
      exact inductionHypothesis _

/-- Whatever the calls are, also with pointers that were never handed out, and whatever is stored
into live blocks: no walk runs on, every call returns what the block list says, and the pointers
in the arena lead through that list. -/
theorem pointers_refine (linked : arena.Linked) (memory : Memory) (requests : List Request)
    (inside : storesInside (Contents.reset arena memory) requests = true) :
    ∃ heap, (Statics.reset arena memory).run walkLimit requests =
        some (heap, ((Contents.reset arena memory).run requests).2) ∧
      Refines heap ((Contents.reset arena memory).run requests).1 ∧
      ((Contents.reset arena memory).run requests).1.heap = Heap.after arena (calls requests) := by
  obtain ⟨heap, ran, simulates⟩ := (reset_simulates arena memory).run linked requests inside
  exact ⟨heap, ran, simulates.refines linked, run_heap _ requests⟩

end Runs

/-- A store into a block that then moves, with a double free. -/
theorem pointers_refine_moved : ∃ heap,
    (Statics.reset ⟨4096, ⟨256, rfl⟩⟩ fun _ => 7).run walkLimit
        [.call (.malloc 100), .store 4128 [1, 2, 3], .call (.malloc 50), .call (.realloc 4128 200),
          .call (.free 4272), .call (.free 4272)] =
      some (heap, [some 4128, none, some 4272, some 4368, none, none]) := by
  have linked : Arena.Linked ⟨4096, ⟨256, rfl⟩⟩ := ⟨by decide, by decide⟩
  obtain ⟨heap, ran, -⟩ := pointers_refine linked (fun _ => 7)
    [.call (.malloc 100), .store 4128 [1, 2, 3], .call (.malloc 50),
      .call (.realloc 4128 200), .call (.free 4272), .call (.free 4272)] (by decide)
  exact ⟨heap, ran⟩

end Luna.UserHeap
