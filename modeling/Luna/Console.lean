import Luna.Lib.Interleaving
import Luna.Lib.CircularBuffer

/-!
# Console input

`task_console_service` polls COM1 and publishes bytes in a 256-entry ring; the
tty interrupt handler drains the ring with `task_console_take` until it returns
`-1`.  Each access to a word the other side writes is one step.  Reads of a
word only the reader itself writes are folded into the neighbouring step.

The producer raises the interrupt when it found the ring empty *before*
publishing.  The handler may drain the ring between that test and the
publication, so the trigger can be missed (`console_stalls`); `DrainGuard`
excludes exactly the draining test that falls into that window.
-/

namespace Luna.Console

open Interleaving

def taskConsoleRing : Nat := 256

/-- Program counter of `task_console_service`. -/
inductive Producer where
  /-- About to read the line status register. -/
  | status
  /-- The status had its data bit set; about to read the data port. -/
  | data
  /-- `next != task_console_tail`. -/
  | checkFull (byte : UInt8)
  /-- `was_empty = task_console_head == task_console_tail`. -/
  | checkEmpty (byte : UInt8) (next : Nat)
  /-- `task_console_ring[task_console_head] = input.result`. -/
  | store (byte : UInt8) (next : Nat) (wasEmpty : Bool)
  /-- `task_console_head = next`. -/
  | publish (byte : UInt8) (next : Nat) (wasEmpty : Bool)
  /-- `if (was_empty && task_console_irq) lkl_trigger_irq(...)`. -/
  | trigger (wasEmpty : Bool)
  /-- `seL4_Yield`, the end of the iteration. -/
  | yield
  deriving DecidableEq, Repr

/-- Program counter of `lkl_tty_irq_handler`, inside `task_console_take`. -/
inductive Handler where
  | idle
  /-- `task_console_head == task_console_tail`. -/
  | test
  /-- `value = task_console_ring[task_console_tail]`. -/
  | load
  /-- Advance the tail and return the value. -/
  | advance (value : UInt8)
  deriving DecidableEq, Repr

/-- A byte read from the data port, whether the ring took it, and how many
bytes the ring held when that was decided. -/
structure Arrival where
  byte : UInt8
  kept : Bool
  occupancy : Nat

structure State where
  ring : Nat → UInt8
  head : Nat
  tail : Nat
  irq : Nat
  /-- The interrupt was triggered and its handler has not started since. -/
  irqPending : Bool
  producer : Producer
  handler : Handler
  /-- History: every byte read from the data port. -/
  arrivals : List Arrival
  /-- History: every byte `task_console_take` returned. -/
  taken : List UInt8

inductive Action where
  /-- The line status read: did it succeed with the data bit set? -/
  | status (ready : Bool)
  /-- The data port read; `none` is a failed read. -/
  | input (byte : Option UInt8)
  | produce
  | handler
  deriving DecidableEq, Repr

/-- Bytes waiting in the ring, oldest first. -/
def State.queued (state : State) : List UInt8 :=
  CircularBuffer.contents taskConsoleRing state.ring state.head state.tail

/-- One step of `task_console_service` that does not touch the port. -/
def produce (state : State) : Option State :=
  match state.producer with
  | .status | .data => none
  | .checkFull byte =>
      let next := (state.head + 1) % taskConsoleRing
      let kept := decide (next ≠ state.tail)
      some { state with
        producer := if kept then .checkEmpty byte next else .yield
        arrivals := state.arrivals ++
          [⟨byte, kept, CircularBuffer.used taskConsoleRing state.head state.tail⟩] }
  | .checkEmpty byte next =>
      some { state with producer := .store byte next (decide (state.head = state.tail)) }
  | .store byte next wasEmpty =>
      some { state with
        ring := Function.update state.ring state.head byte
        producer := .publish byte next wasEmpty }
  | .publish _ next wasEmpty =>
      some { state with head := next, producer := .trigger wasEmpty }
  | .trigger wasEmpty =>
      some { state with
        irqPending := state.irqPending || (wasEmpty && state.irq != 0)
        producer := .yield }
  | .yield => some { state with producer := .status }

/-- One step of `lkl_tty_irq_handler`.  It starts when the interrupt is pending
and ends when `task_console_take` finds the ring empty. -/
def handle (state : State) : Option State :=
  match state.handler with
  | .idle =>
      if state.irqPending then
        some { state with irqPending := false, handler := .test }
      else none
  | .test =>
      some { state with handler := if state.head = state.tail then .idle else .load }
  | .load => some { state with handler := .advance (state.ring state.tail) }
  | .advance value =>
      some { state with
        tail := (state.tail + 1) % taskConsoleRing
        taken := state.taken ++ [value]
        handler := .test }

def next (state : State) : Action → Option State
  | .status ready =>
      if state.producer = .status then
        some { state with producer := if ready then .data else .yield }
      else none
  | .input byte =>
      if state.producer = .data then
        some { state with producer := match byte with
          | some value => .checkFull value
          | none => .yield }
      else none
  | .produce => produce state
  | .handler => handle state

/-- `task_console_start` leaves an empty ring and a positive interrupt number. -/
def Initial (state : State) : Prop :=
  state.head = 0 ∧ state.tail = 0 ∧ 0 < state.irq ∧ state.irqPending = false ∧
    state.producer = .status ∧ state.handler = .idle ∧ state.arrivals = [] ∧ state.taken = []

def system : System State Action := ⟨Initial, next⟩

/-! ## What the console promises -/

/-- The bytes the ring accepted, in arrival order. -/
def State.accepted (state : State) : List UInt8 :=
  (state.arrivals.filter (·.kept)).map (·.byte)

/-- A byte the producer has accepted and not yet published. -/
def State.inHand (state : State) : List UInt8 :=
  match state.producer with
  | .checkEmpty byte _ | .store byte _ _ | .publish byte _ _ => [byte]
  | _ => []

/-- Bytes are taken in arrival order, none lost and none twice. -/
def State.Ordered (state : State) : Prop :=
  state.taken ++ state.queued ++ state.inHand = state.accepted

/-- A byte is dropped only when 255 bytes are waiting. -/
def State.DropsWhenFull (state : State) : Prop :=
  ∀ arrival ∈ state.arrivals,
    arrival.kept = false ↔ arrival.occupancy = taskConsoleRing - 1

/-- Between iterations of the producer, with no handler running, a nonempty
ring still has its interrupt pending. -/
def State.NeverStalls (state : State) : Prop :=
  state.queued ≠ [] → state.producer = .status → state.handler = .idle →
    state.irqPending = true

/-- The producer has seen a nonempty ring and not yet published its byte, so it
will not trigger. -/
def State.Untriggered (state : State) : Prop :=
  match state.producer with
  | .store _ _ wasEmpty | .publish _ _ wasEmpty => wasEmpty = false
  | _ => False

instance (state : State) : Decidable state.Untriggered := by
  unfold State.Untriggered
  split <;> infer_instance

/-- The handler does not find the ring empty between the producer's emptiness
test (which saw bytes) and its publication, unless another trigger is pending. -/
def DrainGuard (state : State) (action : Action) : Prop :=
  action = .handler → state.handler = .test → state.head = state.tail →
    state.Untriggered → state.irqPending = true

instance (state : State) (action : Action) : Decidable (DrainGuard state action) := by
  unfold DrainGuard
  infer_instance

/-! ## The invariant -/

structure Bounded (state : State) : Prop where
  head_lt : state.head < taskConsoleRing
  tail_lt : state.tail < taskConsoleRing
  irq_pos : 0 < state.irq

/-- What the producer's locals say about the ring.  The consumer only makes
room, so an accepted byte keeps its slot. -/
def ProducerFits (state : State) : Prop :=
  match state.producer with
  | .checkEmpty _ next | .store _ next _ =>
      next = (state.head + 1) % taskConsoleRing ∧ next ≠ state.tail
  | .publish byte next _ =>
      next = (state.head + 1) % taskConsoleRing ∧ next ≠ state.tail ∧
        state.ring state.head = byte
  | _ => True

/-- The handler holds the oldest queued byte. -/
def HandlerFits (state : State) : Prop :=
  match state.handler with
  | .load => state.head ≠ state.tail
  | .advance value => state.head ≠ state.tail ∧ state.ring state.tail = value
  | _ => True

/-- A wake is on its way: pending, being served, or about to be triggered. -/
def State.Covered (state : State) : Prop :=
  state.irqPending = true ∨ state.handler ≠ .idle ∨ state.producer = .trigger true

/-- Every queued byte, and every byte that will be published without a
trigger, is covered by a wake. -/
def Woken (state : State) : Prop :=
  (state.queued ≠ [] ∨ state.Untriggered) → state.Covered

structure Inv (state : State) : Prop extends Bounded state where
  producerFits : ProducerFits state
  handlerFits : HandlerFits state
  ordered : state.Ordered
  drops : state.DropsWhenFull
  woken : Woken state

theorem queued_eq_nil_iff {state : State} (bounded : Bounded state) :
    state.queued = [] ↔ state.head = state.tail :=
  CircularBuffer.contents_eq_nil_iff bounded.head_lt bounded.tail_lt

theorem initial_inv (state : State) (initial : Initial state) : Inv state := by
  obtain ⟨head, tail, irq, pending, producer, handler, arrivals, taken⟩ := initial
  have empty : state.queued = [] := by simp [State.queued, head, tail]
  refine ⟨⟨?_, ?_, irq⟩, ?_, ?_, ?_, ?_, ?_⟩
  · simp [head, taskConsoleRing]
  · simp [tail, taskConsoleRing]
  · simp [ProducerFits, producer]
  · simp [HandlerFits, handler]
  · simp [State.Ordered, State.accepted, State.inHand, empty, taken, arrivals, producer]
  · simp [State.DropsWhenFull, arrivals]
  · simp [Woken, State.Untriggered, empty, producer]

/-- The byte is accepted exactly when fewer than 255 are waiting. -/
theorem checkFull_inv {state target : State} {byte : UInt8} (inv : Inv state)
    (at_ : state.producer = .checkFull byte) (moved : produce state = some target) :
    Inv target := by
  simp only [produce, at_, Option.some.injEq] at moved
  have ordered := inv.ordered
  have woken := inv.woken
  have full := CircularBuffer.succ_mod_eq_tail_iff inv.head_lt inv.tail_lt
  simp only [State.Ordered, State.inHand, at_, List.append_nil] at ordered
  simp only [Woken, State.Untriggered, State.Covered, at_, or_false, reduceCtorEq] at woken
  by_cases room : (state.head + 1) % taskConsoleRing = state.tail
  · simp only [room, ne_eq, not_true_eq_false, decide_false, Bool.false_eq_true, if_false] at moved
    subst moved
    refine ⟨⟨inv.head_lt, inv.tail_lt, inv.irq_pos⟩, trivial, inv.handlerFits, ?_, ?_, ?_⟩
    · simpa [State.Ordered, State.inHand, State.accepted, State.queued] using ordered
    · intro arrival member
      rcases List.mem_append.mp member with earlier | latest
      · exact inv.drops arrival earlier
      · simp only [List.mem_singleton] at latest
        subst latest
        simpa using full.mp room
    · simpa [Woken, State.Untriggered, State.Covered, State.queued] using woken
  · simp only [room, ne_eq, not_false_eq_true, decide_true, if_true] at moved
    subst moved
    refine ⟨⟨inv.head_lt, inv.tail_lt, inv.irq_pos⟩, ⟨rfl, room⟩, inv.handlerFits, ?_, ?_, ?_⟩
    · simp only [State.Ordered, State.inHand, State.accepted, State.queued] at ordered ⊢
      simp [ordered]
    · intro arrival member
      rcases List.mem_append.mp member with earlier | latest
      · exact inv.drops arrival earlier
      · simp only [List.mem_singleton] at latest
        subst latest
        simpa using fun filled => room (full.mpr filled)
    · simpa [Woken, State.Untriggered, State.Covered, State.queued] using woken

theorem produce_inv {state target : State} (inv : Inv state)
    (moved : produce state = some target) : Inv target := by
  have fits := inv.producerFits
  have ordered := inv.ordered
  have woken := inv.woken
  cases at_ : state.producer with
  | status => simp [produce, at_] at moved
  | data => simp [produce, at_] at moved
  | checkFull byte => exact checkFull_inv inv at_ moved
  | checkEmpty byte next =>
      simp only [produce, at_, Option.some.injEq] at moved
      subst moved
      simp only [ProducerFits, at_] at fits
      simp only [State.Ordered, State.inHand, at_] at ordered
      refine ⟨⟨inv.head_lt, inv.tail_lt, inv.irq_pos⟩, fits, inv.handlerFits, ordered,
        inv.drops, ?_⟩
      -- A ring found nonempty is covered already; the byte in hand relies on that wake.
      intro reason
      have nonempty : state.queued ≠ [] := by
        rcases reason with queued | untriggered
        · exact queued
        · simp only [State.Untriggered, decide_eq_false_iff_not] at untriggered
          exact fun empty => untriggered ((queued_eq_nil_iff inv.toBounded).mp empty)
      simpa [State.Covered, at_] using woken (.inl nonempty)
  | store byte next wasEmpty =>
      simp only [produce, at_, Option.some.injEq] at moved
      subst moved
      simp only [ProducerFits, at_] at fits
      have unchanged := CircularBuffer.contents_update_head state.ring
        inv.head_lt inv.tail_lt byte
      simp only [State.Ordered, State.inHand, at_] at ordered
      simp only [Woken, State.Untriggered, State.Covered, at_, reduceCtorEq] at woken
      refine ⟨⟨inv.head_lt, inv.tail_lt, inv.irq_pos⟩, ?_, ?_, ?_, inv.drops, ?_⟩
      · exact ⟨fits.1, fits.2, by simp⟩
      · have held := inv.handlerFits
        simp only [HandlerFits] at held ⊢
        cases handler : state.handler with
        | advance value =>
            simp only [handler] at held
            exact ⟨held.1, by simpa [Function.update_of_ne (Ne.symm held.1)] using held.2⟩
        | load => simpa [handler] using held
        | idle => trivial
        | test => trivial
      · simpa [State.Ordered, State.inHand, State.queued, unchanged, State.accepted] using ordered
      · simpa [Woken, State.Untriggered, State.Covered, State.queued, unchanged] using woken
  | publish byte next wasEmpty =>
      simp only [produce, at_, Option.some.injEq] at moved
      subst moved
      simp only [ProducerFits, at_] at fits
      obtain ⟨rfl, room, stored⟩ := fits
      have pushed := CircularBuffer.contents_push state.ring
        inv.head_lt inv.tail_lt room
      simp only [State.Ordered, State.inHand, State.queued, at_] at ordered
      refine ⟨⟨Nat.mod_lt _ (by decide), inv.tail_lt, inv.irq_pos⟩, trivial, ?_, ?_, inv.drops, ?_⟩
      · have held := inv.handlerFits
        simp only [HandlerFits] at held ⊢
        cases handler : state.handler with
        | advance value =>
            simp only [handler] at held
            exact ⟨room, held.2⟩
        | load => exact room
        | idle => trivial
        | test => trivial
      · simpa [State.Ordered, State.inHand, State.queued, pushed, stored, State.accepted]
          using ordered
      · intro _
        cases wasEmpty with
        | true => exact .inr (.inr rfl)
        | false =>
            have covered := woken (.inr (by simp [State.Untriggered, at_]))
            simpa [State.Covered, at_] using covered
  | trigger wasEmpty =>
      simp only [produce, at_, Option.some.injEq] at moved
      subst moved
      have numbered : state.irq ≠ 0 := Nat.pos_iff_ne_zero.mp inv.irq_pos
      simp only [State.Ordered, State.inHand, at_] at ordered
      simp only [Woken, State.Untriggered, State.Covered, at_, or_false] at woken
      refine ⟨⟨inv.head_lt, inv.tail_lt, inv.irq_pos⟩, trivial, inv.handlerFits, ordered,
        inv.drops, ?_⟩
      intro reason
      simp only [State.Untriggered, or_false] at reason
      rcases woken reason with pending | running | triggering
      · exact .inl (by simp [pending])
      · exact .inr (.inl running)
      · cases triggering
        exact .inl (by simp [numbered])
  | yield =>
      simp only [produce, at_, Option.some.injEq] at moved
      subst moved
      simp only [State.Ordered, State.inHand, at_] at ordered
      simp only [Woken, State.Untriggered, State.Covered, at_, reduceCtorEq] at woken
      refine ⟨⟨inv.head_lt, inv.tail_lt, inv.irq_pos⟩, trivial, inv.handlerFits, ordered,
        inv.drops, ?_⟩
      simpa [Woken, State.Untriggered, State.Covered, State.queued] using woken

theorem handle_inv {state target : State} (inv : Inv state)
    (guarded : DrainGuard state .handler) (moved : handle state = some target) :
    Inv target := by
  have held := inv.handlerFits
  have ordered := inv.ordered
  have woken := inv.woken
  cases at_ : state.handler with
  | idle =>
      simp only [handle, at_] at moved
      split at moved
      next pending =>
        cases moved
        exact ⟨⟨inv.head_lt, inv.tail_lt, inv.irq_pos⟩, inv.producerFits, trivial, ordered,
          inv.drops, fun _ => .inr (.inl (by simp))⟩
      next quiet => cases moved
  | test =>
      simp only [handle, at_, Option.some.injEq] at moved
      subst moved
      by_cases empty : state.head = state.tail
      · refine ⟨⟨inv.head_lt, inv.tail_lt, inv.irq_pos⟩, inv.producerFits,
          by simp [HandlerFits, empty], ordered, inv.drops, ?_⟩
        rintro (queued | untriggered)
        · exact absurd ((queued_eq_nil_iff inv.toBounded).mpr empty) queued
        · exact .inl (guarded rfl at_ empty untriggered)
      · exact ⟨⟨inv.head_lt, inv.tail_lt, inv.irq_pos⟩, inv.producerFits,
          by simp [HandlerFits, empty], ordered, inv.drops, fun _ => .inr (.inl (by simp [empty]))⟩
  | load =>
      simp only [handle, at_, Option.some.injEq] at moved
      subst moved
      simp only [HandlerFits, at_] at held
      exact ⟨⟨inv.head_lt, inv.tail_lt, inv.irq_pos⟩, inv.producerFits, ⟨held, rfl⟩, ordered,
        inv.drops, fun _ => .inr (.inl (by simp))⟩
  | advance value =>
      simp only [handle, at_, Option.some.injEq] at moved
      subst moved
      simp only [HandlerFits, at_] at held
      have popped := CircularBuffer.contents_pop state.ring
        inv.head_lt inv.tail_lt held.1
      have room : ∀ byte next wasEmpty, (state.producer = .checkEmpty byte next ∨
          state.producer = .store byte next wasEmpty ∨
          state.producer = .publish byte next wasEmpty) →
          next = (state.head + 1) % taskConsoleRing →
          next ≠ (state.tail + 1) % taskConsoleRing := by
        intro byte next wasEmpty _ equal meets
        have headLt := inv.head_lt
        have tailLt := inv.tail_lt
        rw [equal, CircularBuffer.succ_mod headLt, CircularBuffer.succ_mod tailLt] at meets
        have apart := held.1
        split at meets <;> split at meets <;> omega
      refine ⟨⟨inv.head_lt, Nat.mod_lt _ (by decide), inv.irq_pos⟩, ?_, trivial, ?_,
        inv.drops, fun _ => .inr (.inl (by simp))⟩
      · have fits := inv.producerFits
        simp only [ProducerFits] at fits ⊢
        cases producer : state.producer with
        | checkEmpty byte next =>
            simp only [producer] at fits
            exact ⟨fits.1, room byte next false (.inl producer) fits.1⟩
        | store byte next wasEmpty =>
            simp only [producer] at fits
            exact ⟨fits.1, room byte next wasEmpty (.inr (.inl producer)) fits.1⟩
        | publish byte next wasEmpty =>
            simp only [producer] at fits
            exact ⟨fits.1, room byte next wasEmpty (.inr (.inr producer)) fits.1, fits.2.2⟩
        | _ => trivial
      · simp only [State.Ordered, State.queued, popped, held.2] at ordered
        simpa [State.Ordered, State.queued, State.inHand, State.accepted] using ordered

theorem next_inv (state : State) (action : Action) (target : State) (inv : Inv state)
    (guarded : DrainGuard state action) (moved : next state action = some target) :
    Inv target := by
  cases action with
  | produce => exact produce_inv inv moved
  | handler => exact handle_inv inv guarded moved
  | status ready =>
      simp only [next] at moved
      split at moved
      next at_ =>
        cases moved
        have ordered := inv.ordered
        have woken := inv.woken
        simp only [State.Ordered, State.inHand, at_] at ordered
        simp only [Woken, State.Untriggered, State.Covered, at_, reduceCtorEq] at woken
        refine ⟨⟨inv.head_lt, inv.tail_lt, inv.irq_pos⟩, ?_, inv.handlerFits, ?_, inv.drops, ?_⟩
        · cases ready <;> trivial
        · cases ready <;> exact ordered
        · cases ready <;>
            simpa [Woken, State.Untriggered, State.Covered, State.queued] using woken
      next elsewhere => cases moved
  | input byte =>
      simp only [next] at moved
      split at moved
      next at_ =>
        cases moved
        have ordered := inv.ordered
        have woken := inv.woken
        simp only [State.Ordered, State.inHand, at_] at ordered
        simp only [Woken, State.Untriggered, State.Covered, at_, reduceCtorEq] at woken
        refine ⟨⟨inv.head_lt, inv.tail_lt, inv.irq_pos⟩, ?_, inv.handlerFits, ?_, inv.drops, ?_⟩
        · cases byte <;> trivial
        · cases byte <;> exact ordered
        · cases byte <;>
            simpa [Woken, State.Untriggered, State.Covered, State.queued] using woken
      next elsewhere => cases moved

/-! ## Results -/

/-- What the console promises in every reachable state. -/
def State.Correct (state : State) : Prop :=
  state.Ordered ∧ state.DropsWhenFull ∧ state.NeverStalls

instance (state : State) : Decidable state.NeverStalls := by
  unfold State.NeverStalls
  infer_instance

/-- In every run that keeps the handler's empty test out of the producer's
test-to-publish window, input is delivered in order and never stalls. -/
theorem console_correct_of_drainGuard (state : State)
    (reached : system.Reach DrainGuard state) : state.Correct := by
  have inv : Inv state := System.Reach.invariant _ initial_inv next_inv reached
  refine ⟨inv.ordered, inv.drops, ?_⟩
  intro queued producer handler
  rcases inv.woken (.inl queued) with pending | running | triggering
  · exact pending
  · exact absurd handler running
  · simp [producer] at triggering

/-- A freshly started console with interrupt number `1`. -/
def started : State :=
  ⟨fun _ => 0, 0, 0, 1, false, .status, .idle, [], []⟩

/-- The producer receives one byte and runs to the end of its iteration. -/
def oneByte (byte : UInt8) : List Action :=
  [.status true, .input (some byte), .produce, .produce, .produce, .produce, .produce, .produce]

/-- Two bytes, delivered by one handler run. -/
theorem console_correct_after_two_bytes :
    ∃ state, system.Reach DrainGuard state ∧ state.taken = [65, 66] ∧ state.Correct := by
  obtain ⟨state, reached, taken⟩ := System.exists_reach_of_exec system DrainGuard started
    (oneByte 65 ++ oneByte 66 ++ List.replicate 8 .handler)
    (fun state => state.taken == [65, 66]) (by simp [system, Initial, started])
    (by decide)
  exact ⟨state, reached, by simpa using taken, console_correct_of_drainGuard state reached⟩

/-- The second byte is tested against a ring holding the first one; the handler
drains that byte and finishes before the second is published, so no trigger
follows and the second byte waits with no interrupt pending. -/
theorem console_stalls : ¬ ∀ state, system.Reachable state → state.Correct := by
  intro always
  obtain ⟨state, reached, stalled⟩ := System.exists_reach_of_exec system
    (fun _ _ => True) started
    (oneByte 65 ++
      [.status true, .input (some 66), .produce, .produce,
        .handler, .handler, .handler, .handler, .handler,
        .produce, .produce, .produce, .produce])
    (fun state => !decide state.NeverStalls)
    (by simp [system, Initial, started]) (by decide)
  have stalls := (always state reached).2.2
  simp [stalls] at stalled

end Luna.Console
