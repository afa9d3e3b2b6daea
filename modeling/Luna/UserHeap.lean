import Mathlib.Algebra.BigOperators.Group.List.Basic
import Mathlib.Algebra.Order.Group.Nat
import Mathlib.Algebra.Ring.Nat
import Mathlib.Data.List.Basic
import Mathlib.Data.List.Induction
import Mathlib.Data.List.Perm.Basic

/-!
# The BusyBox heap

`luna_bb_malloc`, `luna_bb_free` and `luna_bb_realloc` over the 1 MiB arena.
The block list is the chain of `next` pointers from `task_user_heap_head`, each
block with the address of its header; that the chain tiles the arena is an
invariant (`Layout`), not part of the representation.  `live` is history: the
pointers handed out and not yet freed, with the size last asked for.
-/

namespace Luna.UserHeap

def lunaUserHeapSize : Nat := 1024 * 1024
def lunaUserAlignment : Nat := 16
def lunaUserMinSplit : Nat := 16

/-- `sizeof(struct task_user_block)`: size, next, free (padded) and reserved. -/
def headerSize : Nat := 32

def sizeMax : Nat := 2 ^ 64 - 1

/-- The static array `task_user_heap` with its `aligned(16)` attribute. -/
structure Arena where
  base : Nat
  aligned : 16 ∣ base

/-- One `struct task_user_block`; `addr` is the address of the header. -/
structure Block where
  addr : Nat
  size : Nat
  free : Bool
  deriving DecidableEq, Repr

/-- `block + 1`, the pointer handed to the user. -/
def Block.payload (block : Block) : Nat := block.addr + headerSize

inductive Errno where
  | enomem
  | einval
  deriving DecidableEq, Repr

structure Allocation where
  pointer : Nat
  requested : Nat
  deriving DecidableEq, Repr

structure Heap where
  blocks : List Block
  current : Nat
  peak : Nat
  errno : Option Errno
  live : List Allocation
  deriving DecidableEq, Repr

/-- `(size + 15) & ~15`. -/
def roundUp (size : Nat) : Nat := (size + lunaUserAlignment - 1) / lunaUserAlignment *
  lunaUserAlignment

/-- The loop of `luna_bb_malloc`: first fit, with a split when the remainder
holds a header and 16 bytes.  Returns the new list and the block taken. -/
def firstFit (aligned : Nat) : List Block → Option (List Block × Block)
  | [] => none
  | block :: rest =>
      if block.free = false ∨ block.size < aligned then
        (firstFit aligned rest).map fun (blocks, taken) => (block :: blocks, taken)
      else
        let remaining := block.size - aligned
        if headerSize + lunaUserMinSplit ≤ remaining then
          let split : Block := ⟨block.payload + aligned, remaining - headerSize, true⟩
          let taken : Block := ⟨block.addr, aligned, false⟩
          some (taken :: split :: rest, taken)
        else
          let taken : Block := { block with free := false }
          some (taken :: rest, taken)

def lunaBbMalloc (heap : Heap) (size : Nat) : Heap × Option Nat :=
  if size = 0 ∨ sizeMax - (lunaUserAlignment - 1) < size then
    ({ heap with errno := some .enomem }, none)
  else
    match firstFit (roundUp size) heap.blocks with
    | none => ({ heap with errno := some .enomem }, none)
    | some (blocks, taken) =>
        let current := heap.current + taken.size
        ({ heap with
            blocks, current
            peak := max heap.peak current
            live := heap.live ++ [⟨taken.payload, size⟩] },
          some taken.payload)

/-- Absorb the next block when it is free. -/
def joinNext (block : Block) : List Block → Block × List Block
  | [] => (block, [])
  | next :: rest =>
      if next.free then ({ block with size := block.size + (headerSize + next.size) }, rest)
      else (block, next :: rest)

/-- Put the freed block behind its predecessor, merging into a free one. -/
def joinPrevious (previous : Option Block) (block : Block) (rest : List Block) : List Block :=
  match previous with
  | none => block :: rest
  | some previous =>
      if previous.free then
        { previous with size := previous.size + (headerSize + block.size) } :: rest
      else previous :: block :: rest

/-- The walk of `luna_bb_free`; `none` when no allocated block has this payload.
The result starts at `previous` and comes with the number of bytes released. -/
def release (pointer : Nat) : Option Block → List Block → Option (List Block × Nat)
  | _, [] => none
  | previous, block :: rest =>
      if block.payload = pointer then
        if block.free then none
        else
          let (joined, after) := joinNext { block with free := true } rest
          some (joinPrevious previous joined after, block.size)
      else
        (release pointer (some block) rest).map fun (blocks, released) =>
          (previous.toList ++ blocks, released)

def lunaBbFree (heap : Heap) (pointer : Nat) : Heap :=
  if pointer = 0 then heap
  else
    match release pointer none heap.blocks with
    | none => heap
    | some (blocks, released) =>
        { heap with
          blocks
          current := heap.current - released
          live := heap.live.filter fun allocation => allocation.pointer != pointer }

/-- The allocated block a pointer belongs to, as `luna_bb_realloc` looks it up:
the first block with this payload, unless it is free. -/
def lookup (pointer : Nat) (blocks : List Block) : Option Block :=
  match blocks.find? fun block => block.payload == pointer with
  | some block => if block.free then none else some block
  | none => none

/-- The payload copy is not part of this model: it moves no block. -/
def lunaBbRealloc (heap : Heap) (pointer size : Nat) : Heap × Option Nat :=
  if pointer = 0 then lunaBbMalloc heap size
  else if size = 0 then (lunaBbFree heap pointer, none)
  else
    match lookup pointer heap.blocks with
    | none => ({ heap with errno := some .einval }, none)
    | some block =>
        if size ≤ block.size then
          ({ heap with live := heap.live.map fun allocation =>
              if allocation.pointer = pointer then { allocation with requested := size }
              else allocation },
            some pointer)
        else
          match lunaBbMalloc heap size with
          | (heap, none) => (heap, none)
          | (heap, some replacement) => (lunaBbFree heap pointer, some replacement)

/-- `task_user_heap_reset`. -/
def taskUserHeapReset (arena : Arena) : Heap :=
  ⟨[⟨arena.base, lunaUserHeapSize - headerSize, true⟩], 0, 0, none, []⟩

inductive Operation where
  | malloc (size : Nat)
  | free (pointer : Nat)
  | realloc (pointer size : Nat)
  deriving DecidableEq, Repr

def Heap.perform (heap : Heap) : Operation → Heap
  | .malloc size => (lunaBbMalloc heap size).1
  | .free pointer => lunaBbFree heap pointer
  | .realloc pointer size => (lunaBbRealloc heap pointer size).1

/-- The heap after a sequence of operations from reset. -/
def Heap.after (arena : Arena) (operations : List Operation) : Heap :=
  operations.foldl Heap.perform (taskUserHeapReset arena)

/-! ## Layout of the block list -/

/-- The blocks tile `[start, stop)`, sizes are multiples of 16, and no two
neighbours are free; `before` says whether the block in front is free. -/
def Layout : Bool → Nat → Nat → List Block → Prop
  | _, start, stop, [] => start = stop
  | before, start, stop, block :: rest =>
      block.addr = start ∧ 16 ∣ block.size ∧ ¬ (before = true ∧ block.free = true) ∧
        Layout block.free (block.payload + block.size) stop rest

theorem Layout.of_free {start stop : Nat} {blocks : List Block}
    (layout : Layout true start stop blocks) (before : Bool) :
    Layout before start stop blocks := by
  cases blocks with
  | nil => exact layout
  | cons block rest =>
      obtain ⟨addr, size, apart, tail⟩ := layout
      exact ⟨addr, size, fun both => apart ⟨rfl, both.2⟩, tail⟩

theorem sixteen_dvd_roundUp (size : Nat) : 16 ∣ roundUp size := Dvd.intro_left _ rfl

theorem le_roundUp (size : Nat) : size ≤ roundUp size := by
  unfold roundUp lunaUserAlignment
  omega

/-- First fit keeps the layout. -/
theorem firstFit_layout {aligned : Nat} (multiple : 16 ∣ aligned) {blocks after : List Block}
    {taken : Block} {before : Bool} {start stop : Nat}
    (layout : Layout before start stop blocks)
    (found : firstFit aligned blocks = some (after, taken)) :
    Layout before start stop after := by
  induction blocks generalizing before start after with
  | nil => simp [firstFit] at found
  | cons block rest inductionHypothesis =>
      obtain ⟨addr, size, apart, tail⟩ := layout
      unfold firstFit at found
      split at found
      next skipped =>
        obtain ⟨⟨blocks, _⟩, later, equal⟩ := Option.map_eq_some_iff.mp found
        cases equal
        exact ⟨addr, size, apart, inductionHypothesis tail later⟩
      next fits =>
        have isFree : block.free = true := by simpa using fun used => fits (.inl used)
        have enough : aligned ≤ block.size := Nat.le_of_not_lt fun small => fits (.inr small)
        rw [isFree] at tail
        dsimp only at found
        split at found
        next splits =>
          cases found
          have gap : block.payload + aligned + headerSize + (block.size - aligned - headerSize) =
              block.payload + block.size := by
            unfold headerSize at splits ⊢
            omega
          refine ⟨addr, multiple, by simp, rfl, ?_, by simp, ?_⟩
          · unfold headerSize
            exact (Nat.dvd_sub (Nat.dvd_sub size multiple) ⟨2, rfl⟩)
          · simp only [Block.payload] at gap ⊢
            rw [gap]
            exact tail
        next whole =>
          cases found
          exact ⟨addr, size, by simp, tail.of_free false⟩

@[simp] theorem joinNext_cons_free {block next : Block} {rest : List Block}
    (isFree : next.free = true) : joinNext block (next :: rest) =
      ({ block with size := block.size + (headerSize + next.size) }, rest) := by
  simp [joinNext, isFree]

@[simp] theorem joinNext_cons_used {block next : Block} {rest : List Block}
    (isUsed : next.free = false) : joinNext block (next :: rest) = (block, next :: rest) := by
  simp [joinNext, isUsed]

@[simp] theorem joinPrevious_free {previous block : Block} {rest : List Block}
    (isFree : previous.free = true) : joinPrevious (some previous) block rest =
      { previous with size := previous.size + (headerSize + block.size) } :: rest := by
  simp [joinPrevious, isFree]

@[simp] theorem joinPrevious_used {previous block : Block} {rest : List Block}
    (isUsed : previous.free = false) :
    joinPrevious (some previous) block rest = previous :: block :: rest := by
  simp [joinPrevious, isUsed]

/-- The freed block after it absorbed a free successor. -/
theorem joinNext_layout (block : Block) {rest : List Block} {stop : Nat}
    (isFree : block.free = true) (size : 16 ∣ block.size)
    (tail : Layout false (block.payload + block.size) stop rest) :
    (joinNext block rest).1.addr = block.addr ∧ (joinNext block rest).1.free = true ∧
      16 ∣ (joinNext block rest).1.size ∧
      Layout true ((joinNext block rest).1.payload + (joinNext block rest).1.size) stop
        (joinNext block rest).2 := by
  cases rest with
  | nil => exact ⟨rfl, isFree, size, tail⟩
  | cons next rest =>
      obtain ⟨nextAddr, nextSize, _, nextTail⟩ := tail
      cases nextFree : next.free with
      | true =>
          rw [joinNext_cons_free nextFree]
          refine ⟨rfl, isFree, Nat.dvd_add size (Nat.dvd_add ⟨2, rfl⟩ nextSize), ?_⟩
          have reach : block.payload + (block.size + (headerSize + next.size)) =
              next.payload + next.size := by
            simp only [Block.payload] at nextAddr ⊢
            omega
          rw [nextFree, ← reach] at nextTail
          exact nextTail
      | false =>
          rw [joinNext_cons_used nextFree]
          exact ⟨rfl, isFree, size, nextAddr, nextSize, by simp [nextFree], nextTail⟩

theorem release_some_layout {pointer : Nat} {previous : Block} {blocks after : List Block}
    {released : Nat} {before : Bool} {start stop : Nat}
    (layout : Layout before start stop (previous :: blocks))
    (found : release pointer (some previous) blocks = some (after, released)) :
    Layout before start stop after := by
  induction blocks generalizing previous before start after with
  | nil => simp [release] at found
  | cons block rest inductionHypothesis =>
      obtain ⟨addr, size, apart, tail⟩ := layout
      unfold release at found
      split at found
      next here =>
        split at found
        next isFree => cases found
        next used =>
          simp only [Option.some.injEq, Prod.mk.injEq] at found
          obtain ⟨rfl, rfl⟩ := found
          obtain ⟨blockAddr, blockSize, _, blockTail⟩ := tail
          have isUsed : block.free = false := by simpa using used
          rw [isUsed] at blockTail
          obtain ⟨joinedAddr, joinedFree, joinedSize, joinedTail⟩ :=
            joinNext_layout { block with free := true } rfl blockSize blockTail
          cases previousFree : previous.free with
          | true =>
              rw [joinPrevious_free previousFree]
              refine ⟨addr, Nat.dvd_add size (Nat.dvd_add ⟨2, rfl⟩ joinedSize), ?_, ?_⟩
              · simpa using apart
              · have reach : previous.payload + (previous.size + (headerSize +
                    (joinNext { block with free := true } rest).1.size)) =
                    (joinNext { block with free := true } rest).1.payload +
                      (joinNext { block with free := true } rest).1.size := by
                  simp only [Block.payload] at blockAddr joinedAddr ⊢
                  omega
                rw [← reach] at joinedTail
                simpa only [Block.payload, previousFree] using joinedTail
          | false =>
              rw [joinPrevious_used previousFree]
              refine ⟨addr, size, apart, joinedAddr.trans blockAddr, joinedSize,
                by simp [previousFree], ?_⟩
              rw [joinedFree]
              exact joinedTail
      next elsewhere =>
        obtain ⟨⟨blocks, _⟩, later, equal⟩ := Option.map_eq_some_iff.mp found
        cases equal
        exact ⟨addr, size, apart, inductionHypothesis tail later⟩

/-- Freeing keeps the layout, whether or not the neighbours are merged. -/
theorem release_layout {pointer : Nat} {blocks after : List Block} {released start stop : Nat}
    (layout : Layout false start stop blocks)
    (found : release pointer none blocks = some (after, released)) :
    Layout false start stop after := by
  cases blocks with
  | nil => simp [release] at found
  | cons block rest =>
      unfold release at found
      split at found
      next here =>
        split at found
        next isFree => cases found
        next used =>
          simp only [Option.some.injEq, Prod.mk.injEq] at found
          obtain ⟨rfl, rfl⟩ := found
          obtain ⟨addr, size, _, tail⟩ := layout
          have isUsed : block.free = false := by simpa using used
          rw [isUsed] at tail
          obtain ⟨joinedAddr, joinedFree, joinedSize, joinedTail⟩ :=
            joinNext_layout { block with free := true } rfl size tail
          refine ⟨joinedAddr.trans addr, joinedSize, by simp, ?_⟩
          rw [joinedFree]
          exact joinedTail
      next elsewhere =>
        obtain ⟨⟨blocks, _⟩, later, equal⟩ := Option.map_eq_some_iff.mp found
        cases equal
        exact release_some_layout layout later

/-! ## Allocated blocks -/

/-- The blocks that are allocated. -/
def used (blocks : List Block) : List Block := blocks.filter fun block => !block.free

@[simp] theorem mem_used {block : Block} {blocks : List Block} :
    block ∈ used blocks ↔ block ∈ blocks ∧ block.free = false := by simp [used]

theorem used_cons (block : Block) (blocks : List Block) :
    used (block :: blocks) = if block.free then used blocks else block :: used blocks := by
  cases isFree : block.free <;> simp [used, isFree]

@[simp] theorem used_append (first second : List Block) :
    used (first ++ second) = used first ++ used second := by simp [used]

/-- `malloc` allocates exactly the block it returns. -/
theorem firstFit_used {aligned : Nat} {blocks after : List Block} {taken : Block}
    (found : firstFit aligned blocks = some (after, taken)) :
    (used after).Perm (taken :: used blocks) ∧ aligned ≤ taken.size := by
  induction blocks generalizing after with
  | nil => simp [firstFit] at found
  | cons block rest inductionHypothesis =>
      unfold firstFit at found
      split at found
      next skipped =>
        obtain ⟨⟨blocks, _⟩, later, equal⟩ := Option.map_eq_some_iff.mp found
        cases equal
        obtain ⟨same, enough⟩ := inductionHypothesis later
        refine ⟨?_, enough⟩
        simp only [used_cons]
        split
        next isFree => exact same
        next isUsed => exact (same.cons block).trans (List.Perm.swap _ _ _)
      next fits =>
        have isFree : block.free = true := by simpa using fun used => fits (.inl used)
        have enough : aligned ≤ block.size := Nat.le_of_not_lt fun small => fits (.inr small)
        dsimp only at found
        split at found
        next splits =>
          cases found
          simp [used_cons, isFree]
        next whole =>
          cases found
          simp [used_cons, isFree, enough]

theorem joinNext_used (block : Block) (rest : List Block) (isFree : block.free = true) :
    (joinNext block rest).1.free = true ∧ used (joinNext block rest).2 = used rest := by
  cases rest with
  | nil => exact ⟨isFree, rfl⟩
  | cons next rest =>
      cases nextFree : next.free with
      | true => simp [joinNext_cons_free nextFree, isFree, used_cons, nextFree]
      | false => simp [joinNext_cons_used nextFree, isFree]

/-- `free` deallocates exactly the block with this payload. -/
theorem release_used {pointer : Nat} {previous : Option Block} {blocks after : List Block}
    {released : Nat} (found : release pointer previous blocks = some (after, released)) :
    ∃ block, block.payload = pointer ∧ block.size = released ∧
      (used (previous.toList ++ blocks)).Perm (block :: used after) := by
  induction blocks generalizing previous after with
  | nil => simp [release] at found
  | cons block rest inductionHypothesis =>
      unfold release at found
      split at found
      next here =>
        split at found
        next isFree => cases found
        next isUsed =>
          simp only [Option.some.injEq, Prod.mk.injEq] at found
          obtain ⟨rfl, rfl⟩ := found
          obtain ⟨joinedFree, afterUsed⟩ :=
            joinNext_used { block with free := true } rest rfl
          refine ⟨block, here, rfl, ?_⟩
          cases previous with
          | none => simp [joinPrevious, used_cons, joinedFree, afterUsed, isUsed]
          | some previous =>
              cases previousFree : previous.free with
              | true =>
                  simp [joinPrevious_free previousFree, used_cons, previousFree, afterUsed, isUsed]
              | false =>
                  simpa [joinPrevious_used previousFree, used_cons, previousFree, joinedFree,
                    afterUsed, isUsed] using List.Perm.swap _ _ _
      next elsewhere =>
        obtain ⟨⟨blocks, _⟩, later, equal⟩ := Option.map_eq_some_iff.mp found
        cases equal
        obtain ⟨freed, payload, size, same⟩ := inductionHypothesis later
        refine ⟨freed, payload, size, ?_⟩
        simp only [Option.toList_some, List.singleton_append] at same
        rw [used_append, used_append]
        exact (same.append_left _).trans List.perm_middle

theorem firstFit_eq_none_iff {aligned : Nat} {blocks : List Block} :
    firstFit aligned blocks = none ↔
      ∀ block ∈ blocks, block.free = true → block.size < aligned := by
  induction blocks with
  | nil => simp [firstFit]
  | cons block rest inductionHypothesis =>
      unfold firstFit
      split
      next skipped =>
        rw [Option.map_eq_none_iff, inductionHypothesis]
        constructor
        · rintro small other (_ | ⟨_, member⟩) isFree
          · rcases skipped with isUsed | below
            · simp [isUsed] at isFree
            · exact below
          · exact small other member isFree
        · intro small other member
          exact small other (List.mem_cons_of_mem _ member)
      next fits =>
        have isFree : block.free = true := by simpa using fun used => fits (.inl used)
        have enough : ¬ block.size < aligned := fun small => fits (.inr small)
        constructor
        · intro nothing
          dsimp only at nothing
          split at nothing <;> cases nothing
        · intro small
          exact absurd (small block (by simp) isFree) enough

/-! ## Geometry -/

theorem Layout.start_le {before : Bool} {start stop : Nat} {blocks : List Block}
    (layout : Layout before start stop blocks) : start ≤ stop := by
  induction blocks generalizing before start with
  | nil => exact Nat.le_of_eq layout
  | cons block rest inductionHypothesis =>
      obtain ⟨addr, _, _, tail⟩ := layout
      have bound := inductionHypothesis tail
      simp only [Block.payload] at bound
      omega

theorem Layout.inside {before : Bool} {start stop : Nat} {blocks : List Block}
    (layout : Layout before start stop blocks) {block : Block} (member : block ∈ blocks) :
    start ≤ block.addr ∧ block.payload + block.size ≤ stop := by
  induction blocks generalizing before start with
  | nil => cases member
  | cons first rest inductionHypothesis =>
      obtain ⟨addr, _, _, tail⟩ := layout
      rcases List.mem_cons.mp member with equal | later
      · subst equal
        exact ⟨Nat.le_of_eq addr.symm, tail.start_le⟩
      · have bounds := inductionHypothesis tail later
        simp only [Block.payload] at bounds
        exact ⟨by omega, bounds.2⟩

theorem Layout.aligned {before : Bool} {start stop : Nat} {blocks : List Block}
    (layout : Layout before start stop blocks) (startAligned : 16 ∣ start) {block : Block}
    (member : block ∈ blocks) : 16 ∣ block.size ∧ 16 ∣ block.payload := by
  induction blocks generalizing before start with
  | nil => cases member
  | cons first rest inductionHypothesis =>
      obtain ⟨addr, size, _, tail⟩ := layout
      have payload : 16 ∣ first.payload := by
        rw [Block.payload, addr]
        exact Nat.dvd_add startAligned ⟨2, rfl⟩
      rcases List.mem_cons.mp member with equal | later
      · subst equal
        exact ⟨size, payload⟩
      · exact inductionHypothesis tail (Nat.dvd_add payload size) later

/-- Earlier blocks end before later ones start. -/
theorem Layout.ordered {before : Bool} {start stop : Nat} {blocks : List Block}
    (layout : Layout before start stop blocks) :
    blocks.Pairwise fun first second => first.payload + first.size ≤ second.addr := by
  induction blocks generalizing before start with
  | nil => exact .nil
  | cons block rest inductionHypothesis =>
      obtain ⟨_, _, _, tail⟩ := layout
      refine .cons ?_ (inductionHypothesis tail)
      intro other member
      exact (tail.inside member).1

/-- Distinct allocated blocks have distinct payloads. -/
theorem Layout.used_nodup {before : Bool} {start stop : Nat} {blocks : List Block}
    (layout : Layout before start stop blocks) : ((used blocks).map Block.payload).Nodup := by
  refine List.Nodup.sublist (List.filter_sublist.map _) ?_
  rw [List.nodup_iff_pairwise_ne, List.pairwise_map]
  refine layout.ordered.imp ?_
  intro first second below equal
  simp only [Block.payload, headerSize] at below equal
  omega

/-- Headers and sizes add up to the whole range. -/
theorem Layout.sum {before : Bool} {start stop : Nat} {blocks : List Block}
    (layout : Layout before start stop blocks) :
    start + (blocks.map fun block => headerSize + block.size).sum = stop := by
  induction blocks generalizing before start with
  | nil => simpa [Layout] using layout
  | cons block rest inductionHypothesis =>
      obtain ⟨addr, _, _, tail⟩ := layout
      have total := inductionHypothesis tail
      simp only [Block.payload] at total
      simp only [List.map_cons, List.sum_cons]
      omega

/-- Each block starts where the one before it ends. -/
theorem Layout.tiles {before : Bool} {start stop : Nat} {blocks : List Block}
    (layout : Layout before start stop blocks) :
    blocks.IsChain fun first second => second.addr = first.payload + first.size := by
  induction blocks generalizing before start with
  | nil => exact .nil
  | cons block rest inductionHypothesis =>
      obtain ⟨_, _, _, tail⟩ := layout
      have chain := inductionHypothesis tail
      cases rest with
      | nil => exact .singleton _
      | cons next rest => exact .cons_cons tail.1 chain

theorem Layout.no_adjacent_free {before : Bool} {start stop : Nat} {blocks : List Block}
    (layout : Layout before start stop blocks) :
    blocks.IsChain fun first second => ¬ (first.free = true ∧ second.free = true) := by
  induction blocks generalizing before start with
  | nil => exact .nil
  | cons block rest inductionHypothesis =>
      obtain ⟨_, _, _, tail⟩ := layout
      have chain := inductionHypothesis tail
      cases rest with
      | nil => exact .singleton _
      | cons next rest => exact .cons_cons tail.2.2.1 chain

/-- With nothing allocated the whole range is one free block. -/
theorem Layout.single {start stop : Nat} {blocks : List Block}
    (layout : Layout false start stop blocks) (nonempty : start < stop)
    (idle : used blocks = []) : blocks = [⟨start, stop - start - headerSize, true⟩] := by
  have allFree : ∀ block ∈ blocks, block.free = true := by
    intro block member
    by_contra isUsed
    have present : block ∈ used blocks := mem_used.mpr ⟨member, by simpa using isUsed⟩
    simp [idle] at present
  cases blocks with
  | nil => exact absurd layout (Nat.ne_of_lt nonempty)
  | cons block rest =>
      obtain ⟨addr, _, _, tail⟩ := layout
      have blockFree := allFree block (by simp)
      cases rest with
      | nil =>
          have reach : block.payload + block.size = stop := tail
          obtain ⟨blockAddr, blockSize, isFree⟩ := block
          simp only [Block.payload] at reach addr blockFree
          subst addr blockFree
          simp only [List.cons.injEq, Block.mk.injEq, true_and, and_true]
          omega
      | cons next rest =>
          exact absurd ⟨blockFree, allFree next (by simp)⟩ tail.2.2.1

/-! ## The heap invariant -/

/-- The representation invariant of the heap. -/
structure WellFormed (arena : Arena) (heap : Heap) : Prop where
  layout : Layout false arena.base (arena.base + lunaUserHeapSize) heap.blocks
  current : heap.current = ((used heap.blocks).map Block.size).sum
  backed : ∀ allocation ∈ heap.live, ∃ block ∈ used heap.blocks,
    block.payload = allocation.pointer ∧ allocation.requested ≤ block.size
  known : ∀ block ∈ used heap.blocks, ∃ allocation ∈ heap.live,
    allocation.pointer = block.payload
  distinct : (heap.live.map Allocation.pointer).Nodup

theorem layout_singleton {start stop size : Nat} (multiple : 16 ∣ size)
    (reach : start + headerSize + size = stop) :
    Layout false start stop [⟨start, size, true⟩] :=
  ⟨rfl, multiple, by simp, reach⟩

theorem reset_wellFormed (arena : Arena) : WellFormed arena (taskUserHeapReset arena) := by
  have fits : headerSize ≤ lunaUserHeapSize := by simp [headerSize, lunaUserHeapSize]
  refine ⟨layout_singleton ?_ ?_, ?_, ?_, ?_, ?_⟩
  · exact ⟨65534, by simp [lunaUserHeapSize, headerSize]⟩
  · omega
  · simp [taskUserHeapReset, used]
  · simp [taskUserHeapReset]
  · simp [taskUserHeapReset, used]
  · simp [taskUserHeapReset]

theorem WellFormed.with_errno {arena : Arena} {heap : Heap} (wf : WellFormed arena heap)
    (errno : Option Errno) : WellFormed arena { heap with errno } :=
  ⟨wf.layout, wf.current, wf.backed, wf.known, wf.distinct⟩

theorem malloc_wellFormed {arena : Arena} {heap : Heap} (wf : WellFormed arena heap)
    (size : Nat) : WellFormed arena (lunaBbMalloc heap size).1 := by
  unfold lunaBbMalloc
  split
  next refused => exact wf.with_errno _
  next accepted =>
    split
    next exhausted => exact wf.with_errno _
    next blocks taken found =>
      obtain ⟨same, enough⟩ := firstFit_used found
      have layout := firstFit_layout (sixteen_dvd_roundUp size) wf.layout found
      have payloads : (taken.payload :: (used heap.blocks).map Block.payload).Nodup :=
        (same.map Block.payload).nodup_iff.mp layout.used_nodup
      refine ⟨layout, ?_, ?_, ?_, ?_⟩
      · simp only [(same.map Block.size).sum_eq, List.map_cons, List.sum_cons, wf.current]
        omega
      · intro allocation member
        rcases List.mem_append.mp member with earlier | latest
        · obtain ⟨block, present, backed⟩ := wf.backed allocation earlier
          exact ⟨block, same.mem_iff.mpr (List.mem_cons_of_mem _ present), backed⟩
        · simp only [List.mem_singleton] at latest
          subst latest
          exact ⟨taken, same.mem_iff.mpr (by simp), rfl, Nat.le_trans (le_roundUp size) enough⟩
      · intro block member
        rcases List.mem_cons.mp (same.mem_iff.mp member) with equal | earlier
        · exact ⟨⟨taken.payload, size⟩, by simp, by rw [equal]⟩
        · obtain ⟨allocation, present, pointer⟩ := wf.known block earlier
          exact ⟨allocation, List.mem_append_left _ present, pointer⟩
      · simp only [List.map_append, List.map_cons, List.map_nil]
        refine List.nodup_append.mpr ⟨wf.distinct, by simp, ?_⟩
        intro pointer member other isTaken equal
        simp only [List.mem_singleton] at isTaken
        obtain ⟨allocation, present, rfl⟩ := List.mem_map.mp member
        obtain ⟨block, blockUsed, payload, _⟩ := wf.backed allocation present
        apply (List.nodup_cons.mp payloads).1
        exact List.mem_map.mpr ⟨block, blockUsed, by rw [payload, equal, isTaken]⟩

theorem free_wellFormed {arena : Arena} {heap : Heap} (wf : WellFormed arena heap)
    (pointer : Nat) : WellFormed arena (lunaBbFree heap pointer) := by
  unfold lunaBbFree
  split
  next null => exact wf
  next notNull =>
    split
    next unknown => exact wf
    next blocks released found =>
      obtain ⟨freed, payload, size, same⟩ := release_used found
      simp only [Option.toList_none, List.nil_append] at same
      have payloads : (freed.payload :: (used blocks).map Block.payload).Nodup :=
        (same.map Block.payload).nodup_iff.mp wf.layout.used_nodup
      refine ⟨release_layout wf.layout found, ?_, ?_, ?_, ?_⟩
      · have total := wf.current
        rw [(same.map Block.size).sum_eq, List.map_cons, List.sum_cons, size] at total
        simp only
        omega
      · intro allocation member
        obtain ⟨present, kept⟩ := List.mem_filter.mp member
        obtain ⟨block, blockUsed, backed⟩ := wf.backed allocation present
        refine ⟨block, ?_, backed⟩
        rcases List.mem_cons.mp (same.mem_iff.mp blockUsed) with equal | remains
        · subst equal
          simp only [bne_iff_ne, ne_eq] at kept
          exact absurd (backed.1.symm.trans payload) kept
        · exact remains
      · intro block remains
        obtain ⟨allocation, present, isPayload⟩ :=
          wf.known block (same.mem_iff.mpr (List.mem_cons_of_mem _ remains))
        refine ⟨allocation, List.mem_filter.mpr ⟨present, ?_⟩, isPayload⟩
        simp only [bne_iff_ne, ne_eq]
        intro equal
        apply (List.nodup_cons.mp payloads).1
        exact List.mem_map.mpr ⟨block, remains, by rw [← isPayload, equal, payload]⟩
      · exact wf.distinct.sublist (List.filter_sublist.map _)

theorem lookup_some {pointer : Nat} {blocks : List Block} {block : Block}
    (found : lookup pointer blocks = some block) :
    block ∈ used blocks ∧ block.payload = pointer := by
  unfold lookup at found
  split at found
  next candidate first =>
    split at found
    next isFree => cases found
    next isUsed =>
      cases found
      exact ⟨mem_used.mpr ⟨List.mem_of_find?_eq_some first, by simpa using isUsed⟩,
        by simpa using List.find?_some first⟩
  next absent => cases found

theorem realloc_wellFormed {arena : Arena} {heap : Heap} (wf : WellFormed arena heap)
    (pointer size : Nat) : WellFormed arena (lunaBbRealloc heap pointer size).1 := by
  unfold lunaBbRealloc
  split
  next null => exact malloc_wellFormed wf size
  next notNull =>
    split
    next zero => exact free_wellFormed wf pointer
    next positive =>
      split
      next unknown => exact wf.with_errno _
      next block found =>
        split
        next fits =>
          obtain ⟨blockUsed, payload⟩ := lookup_some found
          have pointers : ((heap.live.map fun allocation =>
              if allocation.pointer = pointer then { allocation with requested := size }
              else allocation).map Allocation.pointer) = heap.live.map Allocation.pointer := by
            rw [List.map_map]
            apply List.map_congr_left
            intro allocation _
            simp only [Function.comp_apply]
            split <;> rfl
          refine ⟨wf.layout, wf.current, ?_, ?_, by simpa only [pointers] using wf.distinct⟩
          · intro allocation member
            obtain ⟨original, present, rfl⟩ := List.mem_map.mp member
            split
            next same => exact ⟨block, blockUsed, by simp [same, payload], fits⟩
            next other => exact wf.backed original present
          · intro other otherUsed
            obtain ⟨allocation, present, isPayload⟩ := wf.known other otherUsed
            refine ⟨_, List.mem_map.mpr ⟨allocation, present, rfl⟩, ?_⟩
            split <;> exact isPayload
        next grows =>
          have allocated := malloc_wellFormed wf size
          split
          next after failed =>
            rw [failed] at allocated
            exact allocated
          next after replacement succeeded =>
            rw [succeeded] at allocated
            exact free_wellFormed allocated pointer

theorem perform_wellFormed {arena : Arena} {heap : Heap} (wf : WellFormed arena heap)
    (operation : Operation) : WellFormed arena (heap.perform operation) := by
  cases operation with
  | malloc size => exact malloc_wellFormed wf size
  | free pointer => exact free_wellFormed wf pointer
  | realloc pointer size => exact realloc_wellFormed wf pointer size

/-- The run lemma: every history keeps the invariant. -/
theorem after_wellFormed (arena : Arena) (operations : List Operation) :
    WellFormed arena (Heap.after arena operations) := by
  unfold Heap.after
  induction operations using List.reverseRecOn with
  | nil => exact reset_wellFormed arena
  | append_singleton earlier operation inductionHypothesis =>
      rw [List.foldl_append]
      exact perform_wellFormed inductionHypothesis operation

/-! ## Which pointers the heap knows -/

/-- `free` and `realloc` walk to the same block. -/
theorem release_eq_none_iff {pointer : Nat} {previous : Option Block} {blocks : List Block} :
    release pointer previous blocks = none ↔ lookup pointer blocks = none := by
  induction blocks generalizing previous with
  | nil => simp [release, lookup]
  | cons block rest inductionHypothesis =>
      by_cases here : block.payload = pointer
      · cases isFree : block.free <;> simp [release, lookup, here, isFree]
      · have walked : lookup pointer (block :: rest) = lookup pointer rest := by
          simp [lookup, here]
        rw [walked, ← (inductionHypothesis : release pointer (some block) rest = none ↔ _)]
        simp [release, here]

theorem Layout.lookup_eq {before : Bool} {start stop : Nat} {blocks : List Block}
    (layout : Layout before start stop blocks) {block : Block} (member : block ∈ used blocks) :
    lookup block.payload blocks = some block := by
  induction blocks generalizing before start with
  | nil => simp [used] at member
  | cons first rest inductionHypothesis =>
      obtain ⟨_, _, _, tail⟩ := layout
      obtain ⟨present, isUsed⟩ := mem_used.mp member
      rcases List.mem_cons.mp present with equal | later
      · subst equal
        simp [lookup, isUsed]
      · have apart : first.payload ≠ block.payload := by
          have below := (tail.inside later).1
          simp only [Block.payload, headerSize] at below ⊢
          omega
        have found := inductionHypothesis tail (mem_used.mpr ⟨later, isUsed⟩)
        simpa [lookup, apart] using found

theorem WellFormed.lookup_live {arena : Arena} {heap : Heap} (wf : WellFormed arena heap)
    {allocation : Allocation} (member : allocation ∈ heap.live) :
    ∃ block ∈ used heap.blocks, block.payload = allocation.pointer ∧
      allocation.requested ≤ block.size ∧
      lookup allocation.pointer heap.blocks = some block := by
  obtain ⟨block, blockUsed, payload, enough⟩ := wf.backed allocation member
  exact ⟨block, blockUsed, payload, enough, payload ▸ wf.layout.lookup_eq blockUsed⟩

theorem WellFormed.lookup_foreign {arena : Arena} {heap : Heap} (wf : WellFormed arena heap)
    {pointer : Nat} (foreign : ∀ allocation ∈ heap.live, allocation.pointer ≠ pointer) :
    lookup pointer heap.blocks = none := by
  cases found : lookup pointer heap.blocks with
  | none => rfl
  | some block =>
      obtain ⟨blockUsed, payload⟩ := lookup_some found
      obtain ⟨allocation, member, same⟩ := wf.known block blockUsed
      exact absurd (same.trans payload) (foreign allocation member)

theorem free_foreign {arena : Arena} {heap : Heap} (wf : WellFormed arena heap) {pointer : Nat}
    (foreign : ∀ allocation ∈ heap.live, allocation.pointer ≠ pointer) :
    lunaBbFree heap pointer = heap := by
  have nowhere : release pointer none heap.blocks = none :=
    release_eq_none_iff.mpr (wf.lookup_foreign foreign)
  simp [lunaBbFree, nowhere]

theorem realloc_foreign {arena : Arena} {heap : Heap} (wf : WellFormed arena heap) {pointer : Nat}
    (foreign : ∀ allocation ∈ heap.live, allocation.pointer ≠ pointer) (notNull : pointer ≠ 0)
    (size : Nat) : lunaBbRealloc heap pointer size =
      ({ heap with errno := if size = 0 then heap.errno else some .einval }, none) := by
  unfold lunaBbRealloc
  rw [if_neg notNull]
  split
  next zero => simp [free_foreign wf foreign]
  next positive => simp [wf.lookup_foreign foreign]

/-- A freed pointer is no longer live, and no other pointer becomes live. -/
theorem free_live {arena : Arena} {heap : Heap} (wf : WellFormed arena heap) (pointer : Nat)
    {allocation : Allocation} (member : allocation ∈ (lunaBbFree heap pointer).live) :
    allocation ∈ heap.live ∧ allocation.pointer ≠ pointer := by
  by_cases foreign : ∀ allocation ∈ heap.live, allocation.pointer ≠ pointer
  · rw [free_foreign wf foreign] at member
    exact ⟨member, foreign allocation member⟩
  · simp only [not_forall, not_not] at foreign
    obtain ⟨target, present, rfl⟩ := foreign
    obtain ⟨block, _, payload, _, found⟩ := wf.lookup_live present
    have notNull : target.pointer ≠ 0 := by
      simp only [← payload, Block.payload, headerSize]
      omega
    unfold lunaBbFree at member
    rw [if_neg notNull] at member
    split at member
    next nowhere => simp [release_eq_none_iff.mp nowhere] at found
    next blocks released walked => simpa using member

theorem free_keeps_live {heap : Heap} {pointer : Nat} {allocation : Allocation}
    (member : allocation ∈ heap.live) (other : allocation.pointer ≠ pointer) :
    allocation ∈ (lunaBbFree heap pointer).live := by
  unfold lunaBbFree
  split
  next null => exact member
  next notNull =>
    split
    next nowhere => exact member
    next blocks released walked => simpa using ⟨member, other⟩

theorem malloc_live {heap : Heap} {size pointer : Nat}
    (succeeded : (lunaBbMalloc heap size).2 = some pointer) :
    (lunaBbMalloc heap size).1.live = heap.live ++ [⟨pointer, size⟩] := by
  unfold lunaBbMalloc at succeeded ⊢
  split at succeeded
  next refused => cases succeeded
  next accepted =>
    split at succeeded
    next exhausted => cases succeeded
    next blocks taken found =>
      cases succeeded
      simp [accepted]

/-- The pointer `realloc` returns is live with the new size. -/
theorem realloc_live {arena : Arena} {heap : Heap} (wf : WellFormed arena heap)
    {pointer size result : Nat} (succeeded : (lunaBbRealloc heap pointer size).2 = some result) :
    ⟨result, size⟩ ∈ (lunaBbRealloc heap pointer size).1.live := by
  unfold lunaBbRealloc at succeeded ⊢
  by_cases null : pointer = 0
  · rw [if_pos null] at succeeded ⊢
    simp [malloc_live succeeded]
  rw [if_neg null] at succeeded ⊢
  by_cases zero : size = 0
  · simp [zero] at succeeded
  rw [if_neg zero] at succeeded ⊢
  cases found : lookup pointer heap.blocks with
  | none => simp [found] at succeeded
  | some block =>
      obtain ⟨blockUsed, payload⟩ := lookup_some found
      obtain ⟨original, present, same⟩ := wf.known block blockUsed
      have live : original.pointer = pointer := same.trans payload
      simp only [found] at succeeded ⊢
      by_cases fits : size ≤ block.size
      · simp only [if_pos fits, Option.some.injEq] at succeeded ⊢
        exact List.mem_map.mpr ⟨original, present, by simp [live, succeeded]⟩
      · simp only [if_neg fits] at succeeded ⊢
        have allocated := malloc_wellFormed wf size
        cases outcome : lunaBbMalloc heap size with
        | mk after pointer' =>
            cases pointer' with
            | none => simp [outcome] at succeeded
            | some replacement =>
                simp only [outcome, Option.some.injEq] at succeeded ⊢
                subst succeeded
                have extended : after.live = heap.live ++ [⟨replacement, size⟩] := by
                  have succeeded : (lunaBbMalloc heap size).2 = some replacement := by
                    rw [outcome]
                  simpa [outcome] using malloc_live succeeded
                have distinct := allocated.distinct
                rw [outcome, extended, List.map_append] at distinct
                refine free_keeps_live (by simp [extended]) ?_
                intro equal
                exact (List.nodup_append.mp distinct).2.2 _ (List.mem_map_of_mem present)
                  replacement (by simp) (live.trans equal.symm)

theorem freeAll_live {arena : Arena} {heap : Heap} (wf : WellFormed arena heap)
    (pointers : List Nat) {allocation : Allocation}
    (member : allocation ∈ (pointers.foldl lunaBbFree heap).live) :
    allocation ∈ heap.live ∧ allocation.pointer ∉ pointers := by
  induction pointers generalizing heap with
  | nil => exact ⟨member, by simp⟩
  | cons pointer rest inductionHypothesis =>
      obtain ⟨later, absent⟩ := inductionHypothesis (free_wellFormed wf pointer) member
      obtain ⟨present, other⟩ := free_live wf pointer later
      exact ⟨present, by simp [other, absent]⟩

theorem freeAll_wellFormed {arena : Arena} {heap : Heap} (wf : WellFormed arena heap)
    (pointers : List Nat) : WellFormed arena (pointers.foldl lunaBbFree heap) := by
  induction pointers generalizing heap with
  | nil => exact wf
  | cons pointer rest inductionHypothesis =>
      exact inductionHypothesis (free_wellFormed wf pointer)

theorem WellFormed.idle {arena : Arena} {heap : Heap} (wf : WellFormed arena heap)
    (empty : heap.live = []) : heap.blocks = (taskUserHeapReset arena).blocks := by
  have idle : used heap.blocks = [] := by
    refine List.eq_nil_iff_forall_not_mem.mpr fun block member => ?_
    obtain ⟨allocation, present, _⟩ := wf.known block member
    simp [empty] at present
  rw [wf.layout.single (by simp [lunaUserHeapSize]) idle]
  simp [taskUserHeapReset]

theorem malloc_eq_none_iff {arena : Arena} {heap : Heap} (wf : WellFormed arena heap)
    (size : Nat) : (lunaBbMalloc heap size).2 = none ↔
      size = 0 ∨ ∀ block ∈ heap.blocks, block.free = true → block.size < roundUp size := by
  unfold lunaBbMalloc
  split
  next refused =>
    refine ⟨fun _ => ?_, fun _ => rfl⟩
    rcases refused with zero | huge
    · exact .inl zero
    · refine .inr fun block member _ => ?_
      have inside := wf.layout.inside member
      have rounded := le_roundUp size
      simp only [Block.payload, lunaUserHeapSize, sizeMax, lunaUserAlignment] at inside huge
      omega
  next accepted =>
    have positive : size ≠ 0 := fun zero => accepted (.inl zero)
    rw [← firstFit_eq_none_iff]
    cases firstFit (roundUp size) heap.blocks <;> simp [positive]

/-! ## What the heap promises -/

/-- The bytes reserved for a pointer: the size of its block. -/
def Heap.reserved (heap : Heap) (pointer : Nat) : Nat :=
  ((lookup pointer heap.blocks).map Block.size).getD 0

structure Consistent (arena : Arena) (heap : Heap) : Prop where
  starts : heap.blocks.head?.map Block.addr = some arena.base
  tiles : heap.blocks.IsChain fun first second => second.addr = first.payload + first.size
  total : (heap.blocks.map fun block => headerSize + block.size).sum = lunaUserHeapSize
  multiples : ∀ block ∈ heap.blocks, 16 ∣ block.size
  coalesced : heap.blocks.IsChain fun first second => ¬ (first.free = true ∧ second.free = true)
  current : heap.current = ((used heap.blocks).map Block.size).sum
  liveAligned : ∀ allocation ∈ heap.live, 16 ∣ allocation.pointer
  liveEnough : ∀ allocation ∈ heap.live, allocation.requested ≤ heap.reserved allocation.pointer
  liveInside : ∀ allocation ∈ heap.live, arena.base ≤ allocation.pointer ∧
    allocation.pointer + heap.reserved allocation.pointer ≤ arena.base + lunaUserHeapSize
  liveDisjoint : heap.live.Pairwise fun first second =>
    first.pointer + heap.reserved first.pointer ≤ second.pointer ∨
      second.pointer + heap.reserved second.pointer ≤ first.pointer
  foreignIgnored : ∀ pointer, (∀ allocation ∈ heap.live, allocation.pointer ≠ pointer) →
    lunaBbFree heap pointer = heap ∧
      ∀ size, pointer ≠ 0 → lunaBbRealloc heap pointer size =
        ({ heap with errno := if size = 0 then heap.errno else some .einval }, none)
  mallocFails : ∀ size, (lunaBbMalloc heap size).2 = none ↔
    size = 0 ∨ ∀ block ∈ heap.blocks, block.free = true → block.size < roundUp size
  handedOut : ∀ size pointer, (lunaBbMalloc heap size).2 = some pointer →
    ⟨pointer, size⟩ ∈ (lunaBbMalloc heap size).1.live
  resized : ∀ old size pointer, (lunaBbRealloc heap old size).2 = some pointer →
    ⟨pointer, size⟩ ∈ (lunaBbRealloc heap old size).1.live
  drained : ∀ pointers : List Nat,
    (∀ allocation ∈ heap.live, allocation.pointer ∈ pointers) →
      (pointers.foldl lunaBbFree heap).blocks = (taskUserHeapReset arena).blocks

theorem Layout.disjoint {before : Bool} {start stop : Nat} {blocks : List Block}
    (layout : Layout before start stop blocks) {first second : Block} (firstIn : first ∈ blocks)
    (secondIn : second ∈ blocks) (distinct : first.payload ≠ second.payload) :
    first.payload + first.size ≤ second.payload ∨
      second.payload + second.size ≤ first.payload := by
  induction blocks generalizing before start with
  | nil => cases firstIn
  | cons block rest inductionHypothesis =>
      obtain ⟨_, _, _, tail⟩ := layout
      rcases List.mem_cons.mp firstIn with rfl | firstLater
      · rcases List.mem_cons.mp secondIn with rfl | secondLater
        · exact absurd rfl distinct
        · have below := (tail.inside secondLater).1
          exact .inl (Nat.le_trans below (Nat.le_add_right _ _))
      · rcases List.mem_cons.mp secondIn with rfl | secondLater
        · have below := (tail.inside firstLater).1
          exact .inr (Nat.le_trans below (Nat.le_add_right _ _))
        · exact inductionHypothesis tail firstLater secondLater

theorem WellFormed.reserved {arena : Arena} {heap : Heap} (wf : WellFormed arena heap)
    {allocation : Allocation} (member : allocation ∈ heap.live) :
    ∃ block ∈ heap.blocks, block.payload = allocation.pointer ∧
      allocation.requested ≤ block.size ∧ heap.reserved allocation.pointer = block.size := by
  obtain ⟨block, blockUsed, payload, enough, found⟩ := wf.lookup_live member
  exact ⟨block, (mem_used.mp blockUsed).1, payload, enough, by simp [Heap.reserved, found]⟩

theorem WellFormed.live_disjoint {arena : Arena} {heap : Heap} (wf : WellFormed arena heap) :
    heap.live.Pairwise fun first second =>
      first.pointer + heap.reserved first.pointer ≤ second.pointer ∨
        second.pointer + heap.reserved second.pointer ≤ first.pointer := by
  have distinct := wf.distinct
  rw [List.nodup_iff_pairwise_ne, List.pairwise_map] at distinct
  refine distinct.imp_of_mem ?_
  intro first second firstLive secondLive apart
  obtain ⟨firstBlock, firstIn, firstPayload, _, firstSize⟩ := wf.reserved firstLive
  obtain ⟨secondBlock, secondIn, secondPayload, _, secondSize⟩ := wf.reserved secondLive
  rw [firstSize, secondSize, ← firstPayload, ← secondPayload]
  exact wf.layout.disjoint firstIn secondIn (by rwa [firstPayload, secondPayload])

theorem WellFormed.starts {arena : Arena} {heap : Heap} (wf : WellFormed arena heap) :
    heap.blocks.head?.map Block.addr = some arena.base := by
  have layout := wf.layout
  cases chain : heap.blocks with
  | nil =>
      rw [chain] at layout
      simp [Layout, lunaUserHeapSize] at layout
  | cons block rest =>
      rw [chain] at layout
      simp [layout.1]

theorem WellFormed.drained {arena : Arena} {heap : Heap} (wf : WellFormed arena heap)
    (pointers : List Nat) (covers : ∀ allocation ∈ heap.live, allocation.pointer ∈ pointers) :
    (pointers.foldl lunaBbFree heap).blocks = (taskUserHeapReset arena).blocks := by
  refine (freeAll_wellFormed wf pointers).idle ?_
  refine List.eq_nil_iff_forall_not_mem.mpr fun allocation member => ?_
  obtain ⟨present, absent⟩ := freeAll_live wf pointers member
  exact absent (covers allocation present)

theorem WellFormed.consistent {arena : Arena} {heap : Heap} (wf : WellFormed arena heap) :
    Consistent arena heap where
  starts := wf.starts
  tiles := wf.layout.tiles
  total := Nat.add_left_cancel wf.layout.sum
  multiples := fun _ member => (wf.layout.aligned arena.aligned member).1
  coalesced := wf.layout.no_adjacent_free
  current := wf.current
  liveAligned := by
    intro allocation member
    obtain ⟨block, present, payload, _⟩ := wf.reserved member
    exact payload ▸ (wf.layout.aligned arena.aligned present).2
  liveEnough := by
    intro allocation member
    obtain ⟨block, _, _, enough, size⟩ := wf.reserved member
    rwa [size]
  liveInside := by
    intro allocation member
    obtain ⟨block, present, payload, _, size⟩ := wf.reserved member
    obtain ⟨low, high⟩ := wf.layout.inside present
    rw [size, ← payload]
    exact ⟨Nat.le_trans low (Nat.le_add_right _ _), high⟩
  liveDisjoint := wf.live_disjoint
  foreignIgnored := fun _ foreign =>
    ⟨free_foreign wf foreign, fun size notNull => realloc_foreign wf foreign notNull size⟩
  mallocFails := malloc_eq_none_iff wf
  handedOut := fun size pointer succeeded => by simp [malloc_live succeeded]
  resized := fun _ _ _ succeeded => realloc_live wf succeeded
  drained := wf.drained

/-- After every history the heap is consistent. -/
theorem heap_consistent (arena : Arena) (operations : List Operation) :
    Consistent arena (Heap.after arena operations) :=
  (after_wellFormed arena operations).consistent

/-- A request for no bytes is refused on the fresh heap, whose free block would
hold the rounded size. -/
theorem malloc_zero_refused :
    ¬ ∀ (arena : Arena) (operations : List Operation) (size : Nat),
      (lunaBbMalloc (Heap.after arena operations) size).2 = none ↔
        ∀ block ∈ (Heap.after arena operations).blocks,
          block.free = true → block.size < roundUp size := by
  intro claim
  have tooSmall := (claim ⟨0, by decide⟩ [] 0).mp rfl ⟨0, lunaUserHeapSize - headerSize, true⟩
    (by simp [Heap.after, taskUserHeapReset]) rfl
  simp [roundUp, lunaUserAlignment] at tooSmall

end Luna.UserHeap
