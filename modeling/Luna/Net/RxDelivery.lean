import Luna.Lib.Interleaving
import Luna.Net.RxService

/-!
# Delivery on the receive path

Every accepted packet is in one place at a time: delivered, in the window, or
in the manager's ring.  With `accepted` as the history of the ring, its cursors
are `accepted.length` and `taken` modulo the ring size, and packet `i` sits in
slot `i % 32` until the main thread has moved it into the window.
-/

namespace Luna.Net

open Interleaving ByteMemory

/-- The packet in a slot of the window. -/
def RxState.bytesAt (state : RxState) (index : Nat) : List UInt8 :=
  read (state.window index) 0 (state.header.rxLengths index)

/-- Packets the main thread has copied into the window, before it stores the tail. -/
def RxMain.moved : RxMain → Nat
  | .rxLength _ _ _ count | .rxCopy _ _ _ count | .rxStoreLength _ _ _ count
  | .rxClear _ _ _ count | .rxCount _ count | .rxStoreTail _ count => count
  | _ => 0

/-- Packets of an answered batch the child has not been told about yet. -/
def RxMain.released : RxMain → Nat
  | .rxConsume count => count
  | .reply _ packets => packets
  | _ => 0

def RxMain.unconsumed : RxMain → Nat
  | .rxConsume count => count
  | _ => 0

def RxChild.fetched : RxChild → Nat
  | .answered _ packets => packets
  | _ => 0

/-- Packets in the window, from slot `rxIndex` on. -/
def RxState.staged (state : RxState) : Nat :=
  state.rxCount - state.rxIndex + state.main.moved + state.main.released + state.child.fetched

/-- The valid completion `receive_complete` works on, until its fate is decided. -/
def RxPoll.pending : RxPoll → List (List UInt8)
  | .loadHead completion | .loadTail completion _ =>
      if ValidCompletion completion then [payload completion] else []
  | .checkActive completion _ _ | .recheckActive completion | .copy completion _
  | .storeLength completion _ | .storeHead completion _ | .produce completion
  | .drop completion => [payload completion]
  | _ => []

/-- The packet that is in the ring and not counted in `rx_produced` yet. -/
def RxPoll.inserted : RxPoll → List (List UInt8)
  | .produce completion => [payload completion]
  | _ => []

section Fits

variable (state : RxState)

/-- The poll thread fills the slot at the head, and there is room for it. -/
def RxState.Filling (completion : Completion) (head : Nat) : Prop :=
  ValidCompletion completion ∧ head = state.accepted.length % lunaNetRxQueueCount ∧
    state.accepted.length + 1 < state.taken + lunaNetRxQueueCount

def RxPollFits : RxPoll → Prop
  | .loadTail _ head => head = state.accepted.length % lunaNetRxQueueCount
  | .checkActive completion head tail => ValidCompletion completion ∧
      head = state.accepted.length % lunaNetRxQueueCount ∧
      ∃ seen ≤ state.taken, tail = seen % lunaNetRxQueueCount ∧
        state.accepted.length < seen + lunaNetRxQueueCount
  | .copy completion head => state.Filling completion head
  | .storeLength completion head => state.Filling completion head ∧
      read (state.queue head).data 0 (payload completion).length = payload completion
  | .storeHead completion head => state.Filling completion head ∧
      (state.queue head).bytes = payload completion
  | _ => True

/-- The main thread moves the packet at its tail into slot `count` of the window. -/
def RxState.Moving (requested tail head count : Nat) : Prop :=
  state.child = .call ∧ count < requested ∧ requested ≤ lunaNetBatchSlots ∧
    tail = (state.taken + count) % lunaNetRxQueueCount ∧
    ∃ last ≤ state.accepted.length, head = last % lunaNetRxQueueCount ∧ state.taken + count < last

def RxMainFits : RxMain → Prop
  | .rxTail requested => state.child = .call ∧ 0 < requested ∧ requested ≤ lunaNetBatchSlots
  | .rxHead requested tail => state.child = .call ∧ 0 < requested ∧
      requested ≤ lunaNetBatchSlots ∧ tail = state.taken % lunaNetRxQueueCount
  | .rxEmpty => state.child = .call
  | .rxLength requested tail head count | .rxCopy requested tail head count =>
      state.Moving requested tail head count
  | .rxStoreLength requested tail head count => state.Moving requested tail head count ∧
      read (state.window count) 0 (state.queue tail).length = (state.queue tail).bytes
  | .rxClear requested tail head count => state.Moving requested tail head count ∧
      state.bytesAt count = (state.queue tail).bytes
  | .rxBadLength => False
  | .rxCount tail count | .rxStoreTail tail count => state.child = .call ∧
      count ≤ lunaNetBatchSlots ∧ tail = (state.taken + count) % lunaNetRxQueueCount
  | .rxConsume count => state.child = .call ∧ count ≤ lunaNetBatchSlots
  | .reply served packets => state.child = .call ∧ served = true ∧ packets ≤ lunaNetBatchSlots
  | .controlHead | .controlTail _ | .signalMasked | .signalActive | .signal =>
      state.masked = false
  | .idle | .controlMask _ => True

/-- Nothing is left of the last batch. -/
def RxState.Drained : Prop := state.rxIndex = 0 ∧ state.rxCount = 0

def RxChildFits : RxChild → Prop
  | .outside | .pollHup | .pollIndex => True
  | .answered served packets => state.Drained ∧ served = true ∧ packets ≤ lunaNetBatchSlots
  | .rxCopy iov capacity offset remaining copied => state.pendingRx ≠ 0 ∧
      offset + remaining = state.pendingRx ∧
      copied = read (state.window state.rxIndex) 0 offset ∧
      min state.pendingRx capacity = offset + min remaining (iovCapacity iov)
  | _ => state.Drained

end Fits

structure RxInv (state : RxState) : Prop where
  active : state.childActive = true
  head : state.head = state.accepted.length % lunaNetRxQueueCount
  tail : state.tail = state.taken % lunaNetRxQueueCount
  filled : state.taken + state.main.moved ≤ state.accepted.length
  room : state.accepted.length < state.taken + lunaNetRxQueueCount
  ring : ∀ index, state.taken + state.main.moved ≤ index → index < state.accepted.length →
    state.accepted[index]? = some (state.queue (index % lunaNetRxQueueCount)).bytes
  lengths : ∀ bytes ∈ state.accepted, validLength bytes.length = true
  held : state.delivered.length + state.staged = state.taken + state.main.moved
  window : ∀ index < state.staged, state.accepted[state.delivered.length + index]? =
    some (state.bytesAt (state.rxIndex + index))
  consumed : state.header.rxConsumed = (state.taken - state.main.unconsumed) % 2 ^ 64
  released : state.main.unconsumed ≤ state.taken
  pending : state.pendingRx = 0 ∨ state.rxIndex < state.rxCount ∧
    state.pendingRx = state.header.rxLengths state.rxIndex
  poll : RxPollFits state state.poll
  main : RxMainFits state state.main
  child : RxChildFits state state.child
  completions : state.completions = state.handled.map Prod.fst ++ state.poll.pending
  enqueued : state.accepted = (state.handled.filter Prod.snd).map Prod.fst ++ state.poll.inserted
  produced : state.header.rxProduced = state.handled.countP Prod.snd % 2 ^ 64
  drops : state.drops = state.handled.countP (fun entry => !entry.2) % 2 ^ 64
  delivered : ∀ (index : Nat) entry, state.delivered[index]? = some entry →
    ∃ bytes, state.accepted[index]? = some bytes ∧ entry.1 = bytes.take entry.2
  failures : state.failures = 0

/-! ## The poll thread -/

section Poll

variable {state : RxState} {poll : RxPoll}

/-- The loop agrees with the declarative notion of a valid completion. -/
theorem completionTotal_eq (completion : Completion) (start : Nat) :
    completionTotal completion start = (totalLength completion start).getD 0 := by
  induction completion generalizing start with
  | nil => rfl
  | cons buffer rest inductionHypothesis =>
      cases buffer with
      | none => rfl
      | some bytes =>
          unfold completionTotal totalLength
          split
          next tooLong => rfl
          next fits => exact inductionHypothesis _

theorem totalLength_of_valid {completion : Completion} {start : Nat}
    (present : ∀ buffer ∈ completion, buffer ≠ none)
    (small : start + (payload completion).length ≤ lunaNetPacketSize) :
    totalLength completion start = some (start + (payload completion).length) := by
  induction completion generalizing start with
  | nil => simp [totalLength, payload]
  | cons buffer rest inductionHypothesis =>
      cases buffer with
      | none => exact absurd rfl (present none (List.mem_cons_self ..))
      | some bytes =>
          have length : (payload (some bytes :: rest)).length =
              bytes.length + (payload rest).length := by simp [payload]
          rw [length] at small ⊢
          unfold totalLength
          rw [if_neg (by omega), inductionHypothesis
            (fun other member => present other (List.mem_cons_of_mem _ member)) (by omega)]
          congr 1
          omega

theorem present_of_totalLength {completion : Completion} {start total : Nat}
    (checked : totalLength completion start = some total) :
    ∀ buffer ∈ completion, buffer ≠ none := by
  induction completion generalizing start with
  | nil => simp
  | cons buffer rest inductionHypothesis =>
      cases buffer with
      | none => cases checked
      | some bytes =>
          unfold totalLength at checked
          split at checked
          next tooLong => cases checked
          next fits =>
            intro other member
            rcases List.mem_cons.mp member with rfl | later
            · simp
            · exact inductionHypothesis checked other later

theorem completionTotal_of_valid {completion : Completion} (valid : ValidCompletion completion) :
    completionTotal completion 0 = (payload completion).length := by
  have bounds := of_decide_eq_true valid.2
  rw [completionTotal_eq, totalLength_of_valid valid.1 (by omega), Option.getD_some, Nat.zero_add]

theorem validCompletion_iff (completion : Completion) :
    completionTotal completion 0 ≠ 0 ∧ completionTotal completion 0 ≤ lunaNetPacketSize ↔
      ValidCompletion completion := by
  constructor
  · rintro ⟨nonzero, small⟩
    rw [completionTotal_eq] at nonzero
    cases checked : totalLength completion 0 with
    | none => simp [checked] at nonzero
    | some total =>
        obtain ⟨sum, bound⟩ := totalLength_eq (Nat.zero_le _) checked
        rw [checked, Option.getD_some] at nonzero
        refine ⟨present_of_totalLength checked, decide_eq_true ?_⟩
        omega
  · intro valid
    have bounds := of_decide_eq_true valid.2
    rw [completionTotal_of_valid valid]
    omega

/-- A step of the poll thread outside ring and counters. -/
theorem goto_rxPoll (inv : RxInv state) {ntfn : Bool} {rxWaiting : Nat}
    (fits : RxPollFits state poll) (pending : poll.pending = state.poll.pending)
    (inserted : poll.inserted = state.poll.inserted) :
    RxInv { state with header := { state.header with rxWaiting }, poll, ntfn } := by
  exact { inv with
    poll := fits
    completions := by rw [pending]; exact inv.completions
    enqueued := by rw [inserted]; exact inv.enqueued }

/-- The slots of different packets in the ring differ. -/
theorem slot_ne {first second : Nat} (below : first < second)
    (near : second < first + lunaNetRxQueueCount) :
    first % lunaNetRxQueueCount ≠ second % lunaNetRxQueueCount := by
  simp only [lunaNetRxQueueCount] at *
  omega

/-- Storing into the slot at the head, which the main thread does not look at. -/
theorem fill_rxPoll (inv : RxInv state) {packet : Packet}
    (fits : RxPollFits { state with
      queue := Function.update state.queue (state.accepted.length % lunaNetRxQueueCount) packet } poll)
    (pending : poll.pending = state.poll.pending) (inserted : poll.inserted = state.poll.inserted) :
    RxInv { state with
      queue := Function.update state.queue (state.accepted.length % lunaNetRxQueueCount) packet
      poll } := by
  have filled := inv.filled
  have room := inv.room
  have main := inv.main
  have other : ∀ index, state.taken ≤ index → index < state.accepted.length →
      Function.update state.queue (state.accepted.length % lunaNetRxQueueCount) packet
        (index % lunaNetRxQueueCount) = state.queue (index % lunaNetRxQueueCount) := by
    intro index above below
    exact Function.update_of_ne (slot_ne below (by omega)) _ _
  refine { inv with
    poll := fits
    ring := ?_
    main := ?_
    completions := by rw [pending]; exact inv.completions
    enqueued := by rw [inserted]; exact inv.enqueued }
  · intro index above below
    exact (inv.ring index above below).trans (congrArg (fun packet => some packet.bytes)
      (other index (Nat.le_trans (Nat.le_add_right ..) above) below).symm)
  · cases at_ : state.main <;> simp only [at_] at main ⊢
    case rxStoreLength requested tail head count =>
      obtain ⟨moving, copied⟩ := main
      obtain ⟨_, _, _, isTail, last, _, _, _⟩ := id moving
      have same := other (state.taken + count) (by omega) (by omega)
      rw [← isTail] at same
      exact ⟨moving, by simpa only [RxState.bytesAt, same] using copied⟩
    case rxClear requested tail head count =>
      obtain ⟨moving, copied⟩ := main
      obtain ⟨_, _, _, isTail, last, _, _, _⟩ := id moving
      have same := other (state.taken + count) (by omega) (by omega)
      rw [← isTail] at same
      exact ⟨moving, by simpa only [RxState.bytesAt, same] using copied⟩
    all_goals exact main

theorem RxState.Moving.append {requested tail head count : Nat}
    (moving : state.Moving requested tail head count) (bytes : List UInt8) :
    RxState.Moving { state with accepted := state.accepted ++ [bytes] } requested tail head
      count := by
  obtain ⟨called, more, small, isTail, last, inside, isHead, below⟩ := moving
  refine ⟨called, more, small, isTail, last, ?_, isHead, below⟩
  simp only [List.length_append]
  omega

/-- Storing the head appends the packet. -/
theorem storeHead_rxPoll (inv : RxInv state) {completion : Completion} {head : Nat}
    (at_ : state.poll = .storeHead completion head) :
    RxInv { state with
      head := (head + 1) % lunaNetRxQueueCount
      accepted := state.accepted ++ [payload completion]
      poll := .produce completion } := by
  have fits := inv.poll
  have main := inv.main
  have filled := inv.filled
  have held := inv.held
  rw [at_] at fits
  obtain ⟨⟨valid, rfl, room⟩, bytes⟩ := fits
  have older : ∀ {index : Nat} {bytes : List UInt8}, state.accepted[index]? = some bytes →
      (state.accepted ++ [payload completion])[index]? = some bytes := by
    intro index bytes found
    rw [List.getElem?_append_left (List.getElem?_eq_some_iff.mp found).1]
    exact found
  refine { inv with
    head := ?_
    filled := ?_
    room := ?_
    ring := ?_
    lengths := ?_
    window := fun index below => older (inv.window index below)
    poll := trivial
    main := ?_
    completions := ?_
    enqueued := ?_
    delivered := ?_ }
  · simp
  · simp only [List.length_append, List.length_cons, List.length_nil]
    omega
  · simp only [List.length_append, List.length_cons, List.length_nil]
    omega
  · intro index above below
    simp only [List.length_append, List.length_cons, List.length_nil] at below
    rcases Nat.lt_or_eq_of_le (Nat.le_of_lt_succ below) with earlier | rfl
    · exact older (inv.ring index above earlier)
    · rw [bytes]
      simp
  · intro other member
    rcases List.mem_append.mp member with earlier | newest
    · exact inv.lengths other earlier
    · rw [List.mem_singleton.mp newest]
      exact valid.2
  · cases main_ : state.main <;> simp only [main_] at main ⊢
    case rxLength | rxCopy => exact main.append _
    case rxStoreLength | rxClear => exact ⟨main.1.append _, main.2⟩
    all_goals exact main
  · have completions := inv.completions
    rwa [at_] at completions
  · have accepted := inv.enqueued
    rw [at_] at accepted
    simp only [RxPoll.inserted, List.append_nil] at accepted ⊢
    rw [← accepted]
  · intro index entry found
    obtain ⟨bytes, same, copied⟩ := inv.delivered index entry found
    exact ⟨bytes, older same, copied⟩

theorem stepRxPoll_inv (inv : RxInv state) {target : RxState}
    (moved : stepRxPoll state = some target) : RxInv target := by
  have fits := inv.poll
  have room := inv.room
  unfold stepRxPoll at moved
  cases at_ : state.poll <;> simp only [at_, reduceCtorEq, Option.some.injEq] at moved fits <;>
    subst moved
  case loadHead completion => exact goto_rxPoll inv inv.head (by rw [at_]; rfl) (by rw [at_]; rfl)
  case loadTail completion head =>
    split
    next checked =>
      have valid := (validCompletion_iff completion).mp checked
      refine goto_rxPoll inv ⟨valid, fits, state.taken, Nat.le_refl _, inv.tail, room⟩ ?_ ?_
      · rw [at_]
        exact (if_pos valid).symm
      · rw [at_]
        rfl
    next failed =>
      have invalid := (validCompletion_iff completion).not.mp failed
      refine goto_rxPoll inv trivial ?_ ?_
      · rw [at_]
        exact (if_neg invalid).symm
      · rw [at_]
        rfl
  case checkActive completion head tail =>
    obtain ⟨valid, isHead, seen, older, isTail, near⟩ := fits
    split
    next accepts =>
      refine goto_rxPoll inv ⟨valid, isHead, ?_⟩ (by rw [at_]; rfl) (by rw [at_]; rfl)
      have notFull := accepts.2
      simp only [isHead, isTail, lunaNetRxQueueCount] at notFull near ⊢
      omega
    next refuses => exact goto_rxPoll inv trivial (by rw [at_]; rfl) (by rw [at_]; rfl)
  case recheckActive completion =>
    rw [if_pos inv.active]
    exact goto_rxPoll inv trivial (by rw [at_]; rfl) (by rw [at_]; rfl)
  case copy completion head =>
    obtain ⟨valid, rfl, near⟩ := fits
    refine fill_rxPoll inv ⟨⟨valid, rfl, near⟩, ?_⟩ (by rw [at_]; rfl) (by rw [at_]; rfl)
    simp only [Function.update_self, copyIovecs_eq]
    exact read_write_same
  case storeLength completion head =>
    obtain ⟨⟨valid, rfl, near⟩, copied⟩ := fits
    refine fill_rxPoll inv ⟨⟨valid, rfl, near⟩, ?_⟩ (by rw [at_]; rfl) (by rw [at_]; rfl)
    simp only [Function.update_self, Packet.bytes, completionTotal_of_valid valid]
    exact copied
  case storeHead completion head => exact storeHead_rxPoll inv at_
  case produce completion =>
    have completions := inv.completions
    have accepted := inv.enqueued
    have produced := inv.produced
    rw [at_] at completions accepted
    refine { inv with
      poll := trivial, completions := ?_, enqueued := ?_, produced := ?_, drops := ?_ }
    · simpa [RxPoll.pending] using completions
    · simpa [RxPoll.inserted] using accepted
    · simp only [produced, List.countP_append, List.countP_cons, List.countP_nil]
      simp
    · simpa using inv.drops
  case exchange =>
    refine goto_rxPoll inv ?_ ?_ ?_
    · split <;> trivial
    all_goals
      rw [at_]
      split <;> rfl
  case signalMasked =>
    refine goto_rxPoll inv ?_ ?_ ?_
    · split <;> trivial
    all_goals
      rw [at_]
      split <;> rfl
  case signalActive =>
    refine goto_rxPoll inv ?_ ?_ ?_
    · split <;> trivial
    all_goals
      rw [at_]
      split <;> rfl
  case signal => exact goto_rxPoll inv trivial (by rw [at_]; rfl) (by rw [at_]; rfl)
  case drop completion =>
    have completions := inv.completions
    have accepted := inv.enqueued
    have drops := inv.drops
    rw [at_] at completions accepted
    refine { inv with
      poll := trivial, completions := ?_, enqueued := ?_, produced := ?_, drops := ?_ }
    · simpa [RxPoll.pending] using completions
    · simpa [RxPoll.inserted] using accepted
    · simpa using inv.produced
    · simp only [drops, List.countP_append, List.countP_cons, List.countP_nil]
      simp

end Poll

/-! ## The main thread -/

section Main

variable {state : RxState} {main : RxMain}

/-- The poll thread only relies on the slot at the head and on enough room. -/
theorem RxPollFits.frame {later : RxState} {poll : RxPoll} (fits : RxPollFits state poll)
    (accepted : later.accepted = state.accepted) (taken : state.taken ≤ later.taken)
    (queue : later.queue (state.accepted.length % lunaNetRxQueueCount) =
      state.queue (state.accepted.length % lunaNetRxQueueCount)) : RxPollFits later poll := by
  have filling : ∀ {completion head}, state.Filling completion head →
      later.Filling completion head := by
    rintro completion head ⟨valid, isHead, room⟩
    refine ⟨valid, by rw [accepted]; exact isHead, ?_⟩
    rw [accepted]
    omega
  cases poll <;> simp only [RxPollFits] at fits ⊢
  case loadTail => rw [accepted]; exact fits
  case checkActive =>
    obtain ⟨valid, isHead, seen, older, isTail, near⟩ := fits
    rw [accepted]
    exact ⟨valid, isHead, seen, Nat.le_trans older taken, isTail, near⟩
  case copy => exact filling fits
  case storeLength | storeHead =>
    obtain ⟨fills, stored⟩ := fits
    refine ⟨filling fills, ?_⟩
    rw [fills.2.1, queue, ← fills.2.1]
    exact stored

/-- A step of the main thread that moves no packet. -/
theorem goto_rxMain (inv : RxInv state) {masked ntfn : Bool} {rxCount : Nat}
    (fits : RxMainFits { state with masked } main) (moved : main.moved = state.main.moved)
    (released : main.released = state.main.released)
    (unconsumed : main.unconsumed = state.main.unconsumed) :
    RxInv { state with header := { state.header with rxCount }, main, masked, ntfn } := by
  have staged : RxState.staged { state with main } = state.staged := by
    simp only [RxState.staged, moved, released]
  refine { inv with
    main := fits
    filled := by rw [moved]; exact inv.filled
    ring := by rw [moved]; exact inv.ring
    held := by rw [moved]; exact (congrArg (_ + ·) staged).trans inv.held
    window := fun index below => inv.window index (staged ▸ below)
    consumed := by rw [unconsumed]; exact inv.consumed
    released := by rw [unconsumed]; exact inv.released }

theorem RxInv.drained (inv : RxInv state) (called : state.child = .call) : state.Drained := by
  have fits := inv.child
  rwa [called] at fits

/-- While the main thread moves packets the window holds nothing else. -/
theorem RxInv.staged_moving (inv : RxInv state) (called : state.child = .call)
    (released : state.main.released = 0) :
    state.staged = state.main.moved ∧ state.rxIndex = 0 ∧
      state.delivered.length = state.taken := by
  obtain ⟨index, count⟩ := inv.drained called
  have held := inv.held
  have staged : state.staged = state.main.moved := by
    simp [RxState.staged, index, count, called, released, RxChild.fetched]
  exact ⟨staged, index, by omega⟩

theorem RxInv.no_pending (inv : RxInv state) (called : state.child = .call) :
    state.pendingRx = 0 := by
  obtain ⟨index, count⟩ := inv.drained called
  rcases inv.pending with none | ⟨below, _⟩
  · exact none
  · omega

/-- The packet at the main thread's tail. -/
theorem RxInv.at_tail (inv : RxInv state) {requested tail head count : Nat}
    (moving : state.Moving requested tail head count) (moved : state.main.moved = count) :
    state.accepted[state.taken + count]? = some (state.queue tail).bytes := by
  obtain ⟨_, _, _, isTail, last, inside, _, below⟩ := moving
  rw [isTail]
  exact inv.ring _ (by omega) (by omega)

/-- A store into the window past the packets already moved. -/
theorem stage_rxMain (inv : RxInv state) {window : Nat → Memory} {rxLengths : Nat → Nat}
    (called : state.child = .call)
    (fits : RxMainFits { state with header := { state.header with rxLengths }, window } main)
    (moved : main.moved = state.main.moved)
    (released : main.released = 0 ∧ state.main.released = 0)
    (unconsumed : main.unconsumed = 0 ∧ state.main.unconsumed = 0)
    (kept : ∀ index < state.main.moved,
      read (window index) 0 (rxLengths index) = state.bytesAt index) :
    RxInv { state with header := { state.header with rxLengths }, window, main } := by
  have consumed := inv.consumed
  have child := inv.child
  obtain ⟨staged, index, _⟩ := inv.staged_moving called released.2
  have same : RxState.staged { state with main } = state.staged := by
    simp only [RxState.staged, moved, released.1, released.2]
  rw [unconsumed.2] at consumed
  refine { inv with
    main := fits
    filled := by rw [moved]; exact inv.filled
    ring := by rw [moved]; exact inv.ring
    held := by rw [moved]; exact (congrArg (_ + ·) same).trans inv.held
    window := ?_
    consumed := by rw [unconsumed.1]; exact consumed
    released := by rw [unconsumed.1]; exact Nat.zero_le _
    pending := .inl (inv.no_pending called)
    child := by rw [called] at child ⊢; exact child }
  intro other below
  have below : other < state.staged := same ▸ below
  refine (inv.window other below).trans (congrArg some ?_)
  simp only [index, Nat.zero_add]
  exact (kept other (staged ▸ below)).symm

/-- The slot a packet leaves behind is not the one at the head. -/
theorem RxState.Moving.slot_ne {requested tail head count : Nat}
    (moving : state.Moving requested tail head count) (room : state.accepted.length <
      state.taken + lunaNetRxQueueCount) {index : Nat} (above : state.taken + count < index)
    (below : index ≤ state.accepted.length) : index % lunaNetRxQueueCount ≠ tail := by
  obtain ⟨_, _, _, isTail, _⟩ := moving
  rw [isTail]
  exact (Luna.Net.slot_ne above (by omega)).symm

/-- The packet is in the window now and no longer in the ring. -/
theorem rxClear_inv (inv : RxInv state) {requested tail head count : Nat}
    (at_ : state.main = .rxClear requested tail head count) :
    RxInv { state with
      queue := Function.update state.queue tail { state.queue tail with length := 0 }
      main := if (tail + 1) % lunaNetRxQueueCount ≠ head ∧ count + 1 < requested then
          .rxLength requested ((tail + 1) % lunaNetRxQueueCount) head (count + 1)
        else .rxCount ((tail + 1) % lunaNetRxQueueCount) (count + 1) } := by
  have fits := inv.main
  have consumed := inv.consumed
  have room := inv.room
  rw [at_] at fits consumed
  obtain ⟨moving, copied⟩ := fits
  obtain ⟨called, more, small, isTail, last, inside, isHead, below⟩ := id moving
  obtain ⟨staged, index, delivered⟩ := inv.staged_moving called (by rw [at_]; rfl)
  obtain ⟨noIndex, noCount⟩ := inv.drained called
  rw [at_] at staged
  have found := inv.at_tail moving (by rw [at_]; rfl)
  have next : (tail + 1) % lunaNetRxQueueCount =
      (state.taken + (count + 1)) % lunaNetRxQueueCount := by
    rw [isTail, Nat.mod_add_mod, Nat.add_assoc]
  generalize target : (if (tail + 1) % lunaNetRxQueueCount ≠ head ∧ count + 1 < requested then
      RxMain.rxLength requested ((tail + 1) % lunaNetRxQueueCount) head (count + 1)
    else .rxCount ((tail + 1) % lunaNetRxQueueCount) (count + 1)) = main
  have facts : main.moved = count + 1 ∧ main.released = 0 ∧ main.unconsumed = 0 ∧
      RxMainFits { state with
        queue := Function.update state.queue tail { state.queue tail with length := 0 } } main := by
    subst target
    split
    next again =>
      refine ⟨rfl, rfl, rfl, called, again.2, small, next, last, inside, isHead, ?_⟩
      have notLast := again.1
      rw [next, isHead] at notLast
      refine Nat.lt_of_le_of_ne below fun same => notLast ?_
      rw [← same]
    next done => exact ⟨rfl, rfl, rfl, called, by omega, next⟩
  obtain ⟨moved, released, unconsumed, mainFits⟩ := facts
  have longer : RxState.staged { state with main } = count + 1 := by
    simp [RxState.staged, noIndex, noCount, moved, released, called, RxChild.fetched]
  refine { inv with
    main := mainFits
    filled := by simp only [moved]; omega
    ring := ?_
    held := ?_
    window := ?_
    consumed := by rw [unconsumed]; exact consumed
    released := by rw [unconsumed]; exact Nat.zero_le _
    poll := ?_ }
  · intro other above inRing
    simp only [moved] at above
    have old := inv.ring other (by rw [at_]; exact Nat.le_of_succ_le above) inRing
    refine old.trans (congrArg (fun packet : Packet => some packet.bytes) ?_)
    exact (Function.update_of_ne (moving.slot_ne room above (Nat.le_of_lt inRing)) _ _).symm
  · simp only [moved, delivered]
    exact congrArg (_ + ·) longer
  · intro other inWindow
    have inWindow : other < count + 1 := longer ▸ inWindow
    simp only [index, Nat.zero_add]
    rcases Nat.lt_or_eq_of_le (Nat.le_of_lt_succ inWindow) with older | rfl
    · have old := inv.window other (by rw [staged]; exact older)
      rw [index, Nat.zero_add] at old
      exact old
    · rw [delivered]
      exact found.trans (congrArg some copied.symm)
  · refine inv.poll.frame rfl (Nat.le_refl _) (Function.update_of_ne ?_ _ _)
    exact moving.slot_ne room (by omega) (Nat.le_refl _)

/-- Storing the tail frees the slots of the batch. -/
theorem rxStoreTail_inv (inv : RxInv state) {tail count : Nat}
    (at_ : state.main = .rxStoreTail tail count) :
    RxInv { state with tail, taken := state.taken + count, main := .rxConsume count } := by
  have fits := inv.main
  have filled := inv.filled
  have ring := inv.ring
  have held := inv.held
  have consumed := inv.consumed
  rw [at_] at fits filled ring held consumed
  obtain ⟨called, small, isTail⟩ := fits
  have same : RxState.staged { state with main := .rxConsume count } = state.staged := by
    simp [RxState.staged, at_, RxMain.moved, RxMain.released]
  refine { inv with
    tail := isTail
    filled := filled
    room := Nat.lt_of_lt_of_le inv.room (by simp only; omega)
    ring := ring
    held := (congrArg (_ + ·) same).trans held
    window := fun index below => inv.window index (same ▸ below)
    consumed := ?_
    released := Nat.le_add_left ..
    poll := inv.poll.frame rfl (Nat.le_add_right ..) rfl
    main := ⟨called, small⟩ }
  simp only [RxMain.unconsumed, Nat.add_sub_cancel]
  exact consumed

theorem rxConsume_inv (inv : RxInv state) {count : Nat} (at_ : state.main = .rxConsume count) :
    RxInv { state with
      header := { state.header with rxConsumed := (state.header.rxConsumed + count) % 2 ^ 64 }
      main := .reply true count } := by
  have fits := inv.main
  have filled := inv.filled
  have ring := inv.ring
  have held := inv.held
  have consumed := inv.consumed
  have released := inv.released
  rw [at_] at fits filled ring held consumed released
  have same : RxState.staged { state with main := .reply true count } = state.staged := by
    simp [RxState.staged, at_, RxMain.moved, RxMain.released]
  refine { inv with
    filled := filled
    ring := ring
    held := (congrArg (_ + ·) same).trans held
    window := fun index below => inv.window index (same ▸ below)
    consumed := ?_
    released := Nat.zero_le _
    main := ⟨fits.1, rfl, fits.2⟩ }
  simp only [consumed, Nat.mod_add_mod]
  congr 1
  simp only [RxMain.unconsumed] at released ⊢
  omega

/-- The answer reaches the child. -/
theorem reply_inv (inv : RxInv state) {served : Bool} {packets : Nat}
    (at_ : state.main = .reply served packets) :
    RxInv { state with main := .idle, child := .answered served packets } := by
  have fits := inv.main
  have filled := inv.filled
  have ring := inv.ring
  have held := inv.held
  have consumed := inv.consumed
  rw [at_] at fits filled ring held consumed
  obtain ⟨called, done, small⟩ := fits
  have same : RxState.staged { state with main := .idle, child := .answered served packets } =
      state.staged := by
    simp [RxState.staged, at_, called, RxMain.moved, RxMain.released, RxChild.fetched]
  exact { inv with
    filled := filled
    ring := ring
    held := (congrArg (_ + ·) same).trans held
    window := fun index below => inv.window index (same ▸ below)
    consumed := consumed
    released := Nat.zero_le _
    main := trivial
    child := ⟨inv.drained called, done, small⟩ }

theorem stepRxMain_inv (inv : RxInv state) {target : RxState}
    (moved : stepRxMain state = some target) : RxInv target := by
  have fits := inv.main
  have room := inv.room
  unfold stepRxMain at moved
  cases at_ : state.main <;> simp only [at_] at moved fits
  case idle =>
    split at moved
    next called =>
      cases moved
      exact goto_rxMain inv ⟨called, by decide, Nat.le_refl _⟩ (by rw [at_]; rfl) (by rw [at_]; rfl)
        (by rw [at_]; rfl)
    next => cases moved
  case rxTail requested =>
    cases moved
    exact goto_rxMain inv ⟨fits.1, fits.2.1, fits.2.2, inv.tail⟩ (by rw [at_]; rfl)
      (by rw [at_]; rfl) (by rw [at_]; rfl)
  case rxHead requested tail =>
    cases moved
    obtain ⟨called, positive, small, isTail⟩ := fits
    have filled := inv.filled
    rw [at_] at filled
    split
    next empty =>
      exact goto_rxMain inv called (by rw [at_]; rfl) (by rw [at_]; rfl) (by rw [at_]; rfl)
    next some =>
      refine goto_rxMain inv ⟨called, positive, small, isTail, state.accepted.length,
        Nat.le_refl _, inv.head, ?_⟩ (by rw [at_]; rfl) (by rw [at_]; rfl) (by rw [at_]; rfl)
      refine Nat.lt_of_le_of_ne filled fun same => some ?_
      rw [isTail, inv.head]
      exact congrArg (· % _) same
  case rxEmpty =>
    cases moved
    exact goto_rxMain inv ⟨fits, rfl, Nat.zero_le _⟩ (by rw [at_]; rfl) (by rw [at_]; rfl)
      (by rw [at_]; rfl)
  case rxLength requested tail head count =>
    cases moved
    have found := inv.at_tail fits (by rw [at_]; rfl)
    have valid := inv.lengths _ (List.mem_of_getElem? found)
    rw [Packet.bytes, length_read] at valid
    rw [if_pos valid]
    exact goto_rxMain inv fits (by rw [at_]; rfl) (by rw [at_]; rfl) (by rw [at_]; rfl)
  case rxCopy requested tail head count =>
    cases moved
    refine stage_rxMain inv fits.1 ⟨fits, ?_⟩ (by rw [at_]; rfl) ⟨rfl, by rw [at_]; rfl⟩
      ⟨rfl, by rw [at_]; rfl⟩ fun index below => ?_
    · simp [Packet.bytes]
    · have older : index < count := by rwa [at_] at below
      rw [Function.update_of_ne (Nat.ne_of_lt older)]
      rfl
  case rxStoreLength requested tail head count =>
    cases moved
    refine stage_rxMain inv fits.1.1 ⟨fits.1, ?_⟩ (by rw [at_]; rfl) ⟨rfl, by rw [at_]; rfl⟩
      ⟨rfl, by rw [at_]; rfl⟩ fun index below => ?_
    · simp only [RxState.bytesAt, Function.update_self]
      exact fits.2
    · have older : index < count := by rwa [at_] at below
      rw [Function.update_of_ne (Nat.ne_of_lt older)]
      rfl
  case rxClear requested tail head count =>
    cases moved
    exact rxClear_inv inv at_
  case rxBadLength => exact fits.elim
  case rxCount tail count =>
    cases moved
    exact goto_rxMain inv fits (by rw [at_]; rfl) (by rw [at_]; rfl) (by rw [at_]; rfl)
  case rxStoreTail tail count =>
    cases moved
    exact rxStoreTail_inv inv at_
  case rxConsume count =>
    cases moved
    exact rxConsume_inv inv at_
  case reply served packets =>
    cases moved
    exact reply_inv inv at_
  case controlMask control =>
    cases moved
    refine goto_rxMain inv ?_ ?_ ?_ ?_
    · split
      next unmask => simp [RxMainFits, unmask]
      next mask => trivial
    all_goals
      rw [at_]
      split <;> rfl
  case controlHead =>
    cases moved
    exact goto_rxMain inv fits (by rw [at_]; rfl) (by rw [at_]; rfl) (by rw [at_]; rfl)
  case controlTail head =>
    cases moved
    refine goto_rxMain inv ?_ ?_ ?_ ?_
    · split
      next some => exact fits
      next none => trivial
    all_goals
      rw [at_]
      split <;> rfl
  case signalMasked =>
    cases moved
    refine goto_rxMain inv ?_ ?_ ?_ ?_
    · split
      next masked => trivial
      next unmasked => exact fits
    all_goals
      rw [at_]
      split <;> rfl
  case signalActive =>
    cases moved
    refine goto_rxMain inv ?_ ?_ ?_ ?_
    · split
      next active => exact fits
      next inactive => trivial
    all_goals
      rw [at_]
      split <;> rfl
  case signal =>
    cases moved
    exact goto_rxMain inv trivial (by rw [at_]; rfl) (by rw [at_]; rfl) (by rw [at_]; rfl)

end Main

/-! ## The child -/

section Child

variable {state : RxState} {child : RxChild}

/-- The main thread serves a batch only while the child waits for the answer. -/
theorem RxInv.not_serving (inv : RxInv state) (elsewhere : state.child ≠ .call) :
    state.main.moved = 0 ∧ state.main.released = 0 ∧ state.main.unconsumed = 0 := by
  have fits := inv.main
  cases at_ : state.main <;> simp only [at_] at fits
  case rxLength | rxCopy => exact absurd fits.1 elsewhere
  case rxStoreLength | rxClear => exact absurd fits.1.1 elsewhere
  case rxCount | rxStoreTail | rxConsume | reply => exact absurd fits.1 elsewhere
  all_goals exact ⟨rfl, rfl, rfl⟩

theorem RxMainFits.elsewhere {main : RxMain} (fits : RxMainFits state main)
    (outside : state.child ≠ .call) {later : RxState} (masked : later.masked = state.masked) :
    RxMainFits later main := by
  cases main <;> simp only [RxMainFits, masked] at fits ⊢
  case rxTail | rxHead | rxLength | rxCopy | rxCount | rxStoreTail | rxConsume | reply =>
    exact absurd fits.1 outside
  case rxStoreLength | rxClear => exact absurd fits.1.1 outside
  case rxEmpty => exact absurd fits outside
  all_goals exact fits

/-- A step of the child that takes no packet out of the window. -/
theorem goto_rxChild (inv : RxInv state) {ntfn : Bool} {rxWaiting : Nat}
    (elsewhere : state.child ≠ .call)
    (fits : RxChildFits state child) (fetched : child.fetched = state.child.fetched) :
    RxInv { state with header := { state.header with rxWaiting }, child, ntfn } := by
  have same : RxState.staged { state with child } = state.staged := by
    simp only [RxState.staged, fetched]
  exact { inv with
    held := (congrArg (_ + ·) same).trans inv.held
    window := fun index below => inv.window index (same ▸ below)
    main := inv.main.elsewhere elsewhere rfl
    child := fits }

/-- Outside a request the window holds what is left of the last batch. -/
theorem RxInv.staged_left (inv : RxInv state) (elsewhere : state.child ≠ .call)
    (fetched : state.child.fetched = 0) : state.staged = state.rxCount - state.rxIndex := by
  obtain ⟨moved, released, _⟩ := inv.not_serving elsewhere
  simp [RxState.staged, moved, released, fetched]

/-- The packet at `rx_index`. -/
theorem RxInv.current (inv : RxInv state) (elsewhere : state.child ≠ .call)
    (fetched : state.child.fetched = 0) (more : state.rxIndex < state.rxCount) :
    state.accepted[state.delivered.length]? = some (state.bytesAt state.rxIndex) ∧
      validLength (state.header.rxLengths state.rxIndex) = true := by
  have staged := inv.staged_left elsewhere fetched
  have found := inv.window 0 (by omega)
  rw [Nat.add_zero, Nat.add_zero] at found
  refine ⟨found, ?_⟩
  have valid := inv.lengths _ (List.mem_of_getElem? found)
  rwa [RxState.bytesAt, length_read] at valid

theorem finishRx_inv (inv : RxInv state) {iov : List (Option Nat)}
    {capacity offset remaining : Nat} {copied : List UInt8}
    (at_ : state.child = .rxCopy iov capacity offset remaining copied)
    (done : min remaining (iovCapacity iov) = 0) : RxInv (finishRx state capacity copied) := by
  have fits := inv.child
  have held := inv.held
  rw [at_] at fits
  obtain ⟨pending, total, isCopied, limit⟩ := fits
  have elsewhere : state.child ≠ .call := by simp [at_]
  have fetched : state.child.fetched = 0 := by rw [at_]; rfl
  obtain ⟨moved, released, _⟩ := inv.not_serving elsewhere
  obtain ⟨more, isLength⟩ := inv.pending.resolve_left pending
  have staged := inv.staged_left elsewhere fetched
  obtain ⟨found, _⟩ := inv.current elsewhere fetched more
  have shorter : (finishRx state capacity copied).staged = state.rxCount - (state.rxIndex + 1) := by
    simp [RxState.staged, finishRx, moved, released, RxChild.fetched]
  refine { inv with
    held := ?_
    window := ?_
    pending := .inl rfl
    main := inv.main.elsewhere elsewhere rfl
    child := trivial
    delivered := ?_ }
  · rw [shorter]
    simp only [finishRx, List.length_append, List.length_cons, List.length_nil]
    omega
  · intro index below
    rw [shorter] at below
    have next := inv.window (index + 1) (by omega)
    simp only [finishRx, List.length_append, List.length_cons, List.length_nil] at next ⊢
    rw [show state.delivered.length + 1 + index = state.delivered.length + (index + 1) by omega,
      show state.rxIndex + 1 + index = state.rxIndex + (index + 1) by omega]
    exact next
  · intro index entry atIndex
    rcases Nat.lt_or_ge index state.delivered.length with older | newest
    · refine inv.delivered index entry ?_
      rwa [finishRx, List.getElem?_append_left older] at atIndex
    · simp only [finishRx, List.getElem?_append_right newest] at atIndex
      obtain ⟨isLast, rfl⟩ : index = state.delivered.length ∧ (copied, capacity) = entry := by
        have inside := (List.getElem?_eq_some_iff.mp atIndex).1
        simp only [List.length_cons, List.length_nil] at inside
        have here : index - state.delivered.length = 0 := by omega
        rw [here] at atIndex
        exact ⟨by omega, by simpa using atIndex⟩
      refine ⟨state.bytesAt state.rxIndex, isLast ▸ found, ?_⟩
      simp only [RxState.bytesAt, take_read, ← isLength, isCopied]
      congr 1
      omega

theorem stepRxChild_inv (inv : RxInv state) {target : RxState}
    (moved : stepRxChild state = some target) : RxInv target := by
  have fits := inv.child
  unfold stepRxChild at moved
  cases at_ : state.child <;> simp only [at_] at moved fits
  case outside => cases moved
  case pollHup =>
    cases moved
    refine goto_rxChild inv (by simp [at_]) ?_ ?_
    · split <;> trivial
    · rw [at_]
      split <;> rfl
  case pollIndex =>
    have elsewhere : state.child ≠ .call := by simp [at_]
    have fetched : state.child.fetched = 0 := by rw [at_]; rfl
    have staged := inv.staged_left elsewhere fetched
    split at moved
    next more =>
      obtain ⟨_, valid⟩ := inv.current elsewhere fetched more
      rw [if_pos valid] at moved
      cases moved
      have kept : RxInv { state with
          header := { state.header with rxWaiting := state.header.rxWaiting }
          child := .outside
          ntfn := state.ntfn } :=
        goto_rxChild inv elsewhere trivial (by rw [at_]; rfl)
      exact { kept with
        pending := .inr ⟨more, rfl⟩
        main := inv.main.elsewhere elsewhere rfl }
    next empty =>
      cases moved
      obtain ⟨notMoved, released, _⟩ := inv.not_serving elsewhere
      have none : RxState.staged { state with rxCount := 0, rxIndex := 0, child := .setWaiting } =
          0 := by simp [RxState.staged, notMoved, released, RxChild.fetched]
      have held := inv.held
      refine { inv with
        held := ?_
        window := fun index below => absurd (none ▸ below) (Nat.not_lt_zero _)
        pending := ?_
        main := inv.main.elsewhere elsewhere rfl
        child := ⟨rfl, rfl⟩ }
      · rw [none]
        simp only
        omega
      · exact .inl (inv.pending.resolve_right fun both => empty both.1)
  case setWaiting | loadProduced | reloadProduced | reloadConsumed | clearWaiting =>
    cases moved
    exact goto_rxChild inv (by simp [at_]) fits (by rw [at_]; rfl)
  case loadConsumed produced =>
    cases moved
    refine goto_rxChild inv (by simp [at_]) ?_ ?_
    · split <;> exact fits
    · rw [at_]
      split <;> rfl
  case wait =>
    split at moved
    next signalled =>
      cases moved
      exact goto_rxChild inv (by simp [at_]) fits (by rw [at_]; rfl)
    next => cases moved
  case checkHup produced consumed =>
    cases moved
    refine goto_rxChild inv (by simp [at_]) ?_ ?_
    · split
      next => trivial
      next => split <;> first | exact fits | trivial
    · rw [at_]
      split
      next => rfl
      next => split <;> rfl
  case call => cases moved
  case answered served packets =>
    obtain ⟨⟨noIndex, noCount⟩, done, small⟩ := fits
    rw [if_neg (by simp [done]; omega)] at moved
    have elsewhere : state.child ≠ .call := by simp [at_]
    obtain ⟨notMoved, released, _⟩ := inv.not_serving elsewhere
    have staged : state.staged = packets := by
      simp [RxState.staged, at_, noIndex, noCount, notMoved, released, RxChild.fetched]
    split at moved
    next some =>
      cases moved
      have same : RxState.staged { state with rxCount := packets, rxIndex := 0, child := .pollHup } =
          state.staged := by
        rw [staged]
        simp [RxState.staged, notMoved, released, RxChild.fetched]
      refine { inv with
        held := (congrArg (_ + ·) same).trans inv.held
        window := ?_
        pending := ?_
        main := inv.main.elsewhere elsewhere rfl
        child := trivial }
      · intro index below
        have old := inv.window index (same ▸ below)
        rwa [noIndex] at old
      · exact .inl (inv.pending.resolve_right fun both => by omega)
    next none =>
      cases moved
      refine goto_rxChild inv elsewhere trivial ?_
      rw [at_]
      exact (not_not.mp none).symm
  case rxCopy iov capacity offset remaining copied =>
    cases iov with
    | nil =>
        cases moved
        exact finishRx_inv inv at_ (Nat.min_zero _)
    | cons base rest =>
        simp only at moved
        split at moved
        next none =>
          cases moved
          exact finishRx_inv inv at_ (by simp [none])
        next more =>
          cases base with
          | none =>
              cases moved
              exact goto_rxChild inv (by simp [at_]) trivial (by rw [at_]; rfl)
          | some room =>
              cases moved
              obtain ⟨pending, total, isCopied, limit⟩ := fits
              refine goto_rxChild inv (by simp [at_]) ⟨pending, by omega, ?_, ?_⟩ (by rw [at_]; rfl)
              · rw [read_add, Nat.zero_add, isCopied]
              · have capacity : iovCapacity (some room :: rest) = room + iovCapacity rest := by
                  simp [iovCapacity]
                omega

end Child

/-! ## Whole runs -/

/-- The receive path after the child has been started. -/
def RxInitial (state : RxState) : Prop :=
  state.head = 0 ∧ state.tail = 0 ∧ state.masked = false ∧ state.childActive = true ∧
    state.ntfn = false ∧ state.drops = 0 ∧ state.rxIndex = 0 ∧ state.rxCount = 0 ∧
    state.pendingRx = 0 ∧ state.header.rxProduced = 0 ∧ state.header.rxConsumed = 0 ∧
    state.header.rxWaiting = 0 ∧ state.poll = .idle ∧ state.main = .idle ∧
    state.child = .outside ∧ state.completions = [] ∧ state.handled = [] ∧
    state.accepted = [] ∧ state.taken = 0 ∧ state.delivered = [] ∧ state.failures = 0

def rxSystem : System RxState RxAction := ⟨RxInitial, rxNext⟩

section Runs

variable {state : RxState}

theorem rxInitial_inv (initial : RxInitial state) : RxInv state := by
  obtain ⟨head, tail, _, active, _, drops, rxIndex, rxCount, pendingRx, produced, consumed, _, poll,
    main, child, completions, handled, accepted, taken, delivered, failures⟩ := initial
  have empty : state.staged = 0 := by
    simp [RxState.staged, rxIndex, rxCount, main, child, RxMain.moved, RxMain.released,
      RxChild.fetched]
  constructor
  all_goals simp [completions, handled, produced, drops, RxPoll.pending, RxPoll.inserted, head,
    tail, active, pendingRx, consumed, poll, main, child, accepted, taken, delivered, failures,
    empty, RxMain.moved, RxMain.unconsumed, RxPollFits, RxMainFits, RxChildFits,
    lunaNetRxQueueCount]

theorem rxNext_inv {action : RxAction} {target : RxState} (inv : RxInv state)
    (moved : rxNext state action = some target) : RxInv target := by
  cases action with
  | completion completion =>
      simp only [rxNext] at moved
      split at moved
      next idle =>
        cases moved
        have completions := inv.completions
        have accepted := inv.enqueued
        rw [idle] at completions accepted
        refine { inv with
          poll := trivial, completions := ?_, enqueued := accepted }
        simp only [RxPoll.pending, List.append_nil] at completions ⊢
        split <;> simp [completions]
      next => cases moved
  | poll => exact stepRxPoll_inv inv moved
  | control control =>
      simp only [rxNext] at moved
      split at moved
      next free =>
        cases moved
        exact goto_rxMain inv trivial (by rw [free.1]; rfl) (by rw [free.1]; rfl)
          (by rw [free.1]; rfl)
      next => cases moved
  | main => exact stepRxMain_inv inv moved
  | taskNetPoll =>
      simp only [rxNext] at moved
      split at moved
      next outside =>
        cases moved
        exact goto_rxChild inv (by simp [outside]) trivial (by rw [outside]; rfl)
      next => cases moved
  | taskNetRx iov =>
      simp only [rxNext] at moved
      split at moved
      next ready =>
        cases moved
        exact goto_rxChild inv (by simp [ready.1]) ⟨ready.2, Nat.zero_add _, rfl,
          (Nat.zero_add _).symm⟩ (by rw [ready.1]; rfl)
      next => cases moved
  | child => exact stepRxChild_inv inv moved
  | hup =>
      cases moved
      exact { inv with }
  | wake =>
      simp only [rxNext] at moved
      split at moved
      next =>
        cases moved
        exact { inv with }
      next => cases moved

/-- What is accepted and not delivered is in the window or in the ring, in order. -/
theorem RxInv.kept (inv : RxInv state) (idle : state.main = .idle) :
    state.accepted.drop state.delivered.length =
      (List.range state.staged).map (fun index => state.bytesAt (state.rxIndex + index)) ++
      (CircularBuffer.contents lunaNetRxQueueCount state.queue state.head state.tail).map
        Packet.bytes := by
  have held := inv.held
  have filled := inv.filled
  have room := inv.room
  have window := inv.window
  have ring := inv.ring
  rw [idle] at held filled ring
  simp only [RxMain.moved, Nat.add_zero] at held filled ring
  have used : CircularBuffer.used lunaNetRxQueueCount state.head state.tail =
      state.accepted.length - state.taken := by
    rw [CircularBuffer.used, inv.head, inv.tail]
    simp only [lunaNetRxQueueCount] at room ⊢
    omega
  apply List.ext_getElem?
  intro index
  rw [List.getElem?_drop]
  rcases Nat.lt_or_ge index state.staged with staged | rest
  · rw [List.getElem?_append_left (by simpa using staged), window index staged]
    simp [staged]
  · rw [List.getElem?_append_right (by simpa using rest)]
    simp only [List.length_map, List.length_range, CircularBuffer.contents, used, List.map_map]
    rcases Nat.lt_or_ge (state.delivered.length + index) state.accepted.length with inside | past
    · rw [ring _ (by omega) inside, List.getElem?_map, List.getElem?_range (by omega)]
      simp only [Option.map_some, Function.comp_apply, inv.tail, Nat.mod_add_mod]
      congr 4
      omega
    · rw [List.getElem?_eq_none (by omega), List.getElem?_eq_none]
      simp only [List.length_map, List.length_range]
      omega

end Runs

end Luna.Net
