import Mathlib.Algebra.BigOperators.Group.Finset.Piecewise
import Mathlib.Data.Finset.Card
import Luna.Net.TxDrain
import Luna.Net.TxHostile

/-!
# One producer

With the poll thread as the only producer the conditions of the ring's safety
hold by themselves: the lengths of a batch are the ones it has validated.  What
is left to the driver is to answer `FAILED` for buffers it has not completed.
-/

namespace Luna.Net

open Interleaving ByteMemory

/-! ## What is claimed -/

/-- The buffer whose transmission ends with a step: the one that is completed, or
the one the driver refuses. -/
def RingState.ending (state : RingState) : RingAction → Option TxDma
  | .stepPoll => match state.poll with
      | .complete cookie _ => if known : cookie < lunaNetTxDmaCount then some ⟨cookie, known⟩ else none
      | _ => none
  | .rawTx .failed => state.poll.transit
  | _ => none

/-- A step leaves alone the buffers in transmission, their slots, and the slots
that wait for transmission. -/
structure StepKeeps (state : RingState) (action : RingAction) (target : RingState) : Prop where
  buffers : ∀ buffer, (state.dma buffer).inUse = true → state.ending action ≠ some buffer →
    target.dma buffer = state.dma buffer ∧
      target.shared.queue (state.dma buffer).queueIndex =
        state.shared.queue (state.dma buffer).queueIndex
  waiting : ∀ offset < CircularBuffer.used lunaNetTxQueueCount state.shared.head state.submit,
    target.shared.queue ((state.submit + offset) % lunaNetTxQueueCount) =
      state.shared.queue ((state.submit + offset) % lunaNetTxQueueCount)

/-- The packets taken by the driver are the first ones accepted, and the three
cursors, the count and the buffers agree. -/
structure RingOrdered (state : RingState) : Prop where
  handed : state.handed = (state.shared.pushed.take state.handed.length).map Packet.bytes
  buffers : state.pending = Tally.total (fun entry : DmaBuffer => entry.inUse.toNat) state.dma
  slots : state.pending = state.uncompleted
  tailBehind : CircularBuffer.used lunaNetTxQueueCount state.submit state.shared.tail ≤
    CircularBuffer.used lunaNetTxQueueCount state.shared.head state.shared.tail
  empties : state.poll.completing = false → state.pending = 0 →
    state.submit = state.shared.head → state.shared.tail = state.shared.head

/-- The main thread takes no packets, and the child leaves a length alone from its
check to its copy. -/
def SingleProducer (state : RingState) : RingAction → Prop
  | .netTx _ | .netTxBatch _ => False
  | .child header _ => ∀ index < lunaNetBatchSlots, Awaits state.poll.thread index →
      header.txLengths index = state.shared.header.txLengths index
  | _ => True

instance (state : RingState) (action : RingAction) : Decidable (SingleProducer state action) := by
  unfold SingleProducer
  split <;> infer_instance

def OrderGuard (state : RingState) (action : RingAction) : Prop :=
  SingleProducer state action ∧ DriverHonest state action

instance (state : RingState) (action : RingAction) : Decidable (OrderGuard state action) := by
  unfold OrderGuard
  infer_instance

section Single

variable {state target : RingState} {action : RingAction} {tail : Nat}

/-! ## The conditions of the ring -/

structure Single (state : RingState) : Prop where
  main : state.main = .idle
  fits : Fits state.shared state.poll.thread

theorem Single.ringGuard (single : Single state) (guarded : OrderGuard state action) :
    RingGuard state action := by
  obtain ⟨alone, honest⟩ := guarded
  refine ⟨⟨?_, honest⟩, ?_⟩
  · cases action with
    | stepMain =>
        show lengthsHold state state.main = true
        rw [single.main]
        rfl
    | stepPoll =>
        show lengthsHold state state.poll.thread = true
        cases stands : state.poll.thread with
        | copyLength batch index =>
            have fits := single.fits
            rw [stands] at fits
            obtain ⟨length, checked, valid⟩ := fits.1.valid index fits.2
            have held := fits.1.held index (Nat.le_refl _) fits.2
            rw [checked, Option.some.injEq] at held
            show validLength (state.shared.header.txLengths index) = true
            rw [← held]
            exact valid
        | _ => rfl
    | _ => trivial
  · cases action with
    | stepMain =>
        intro loads
        rw [single.main] at loads
        cases loads
    | stepPoll =>
        intro _
        rw [single.main]
        rfl
    | _ => trivial

theorem Resume.thread_idle (resume : Resume) : resume.thread.thread = .idle := by
  cases resume <;> rfl

/-- A step of the poll thread outside the TX service ends outside it. -/
theorem pollStep_outside (moved : pollStep state state.poll = some target)
    (outside : ∀ thread, state.poll ≠ .service thread) :
    target.poll.thread = .idle ∧ target.main = state.main := by
  cases stands : state.poll with
  | service thread => exact absurd stands (outside thread)
  | driver submit buffer =>
      rw [stands] at moved
      cases moved
  | gate | packetLength _ _ | advance _ _ _ =>
      rw [stands] at moved
      cases moved
      refine ⟨?_, rfl⟩
      split <;> rfl
  | packetData _ _ _ | hand _ _ | loadHead _ =>
      rw [stands] at moved
      cases moved
      exact ⟨rfl, rfl⟩
  | storeTail cursor resume =>
      rw [stands] at moved
      cases moved
      exact ⟨resume.thread_idle, rfl⟩
  | scan =>
      rw [stands] at moved
      simp only [pollStep] at moved
      split at moved
      · cases moved
        exact ⟨rfl, rfl⟩
      · split at moved
        · cases moved
          exact ⟨rfl, rfl⟩
        · cases moved
          exact ⟨rfl, rfl⟩
  | complete cookie resume =>
      rw [stands] at moved
      simp only [pollStep] at moved
      split at moved
      · split at moved
        · cases moved
          exact ⟨rfl, rfl⟩
        · cases moved
          exact ⟨resume.thread_idle, rfl⟩
      · cases moved
        exact ⟨resume.thread_idle, rfl⟩

theorem Single.enterPoll {thread : PollThread} (single : Single state)
    (fits : Fits state.shared thread.thread) (moved : state.enterPoll thread = some target) :
    Single target := by
  unfold RingState.enterPoll at moved
  split at moved
  · cases moved
    exact ⟨single.main, fits⟩
  · cases moved

theorem Single.next (single : Single state) (guarded : OrderGuard state action)
    (moved : ringNext state action = some target) : Single target := by
  cases action with
  | child header window =>
      cases moved
      exact ⟨single.main, single.fits.transport (fun index below awaited =>
        guarded.1 index below awaited) List.prefix_rfl⟩
  | netTx length => exact guarded.1.elim
  | netTxBatch requested => exact guarded.1.elim
  | notification => exact single.enterPoll (show Fits _ .notifyActive from trivial) moved
  | timeoutRetry => exact single.enterPoll (show Fits _ .retryRequest from trivial) moved
  | processTxQueue => exact single.enterPoll (show Fits _ .idle from trivial) moved
  | completion cookie =>
      simp only [ringNext] at moved
      split at moved
      · cases moved
        exact ⟨single.main, trivial⟩
      · cases moved
        exact ⟨single.main, trivial⟩
      · cases moved
  | rawTx result =>
      simp only [ringNext] at moved
      split at moved
      · split at moved <;> cases moved <;> exact ⟨single.main, trivial⟩
      · cases moved
  | stepMain =>
      simp only [ringNext, single.main, txStep, Option.map_none] at moved
      cases moved
  | stepPoll =>
      cases stands : state.poll with
      | service thread =>
          have fits := single.fits
          rw [stands] at fits
          simp only [ringNext, stands, pollStep] at moved
          obtain ⟨⟨after, next⟩, stepped, rfl⟩ := Option.map_eq_some_iff.mp moved
          exact ⟨single.main, (txStep_spec fits stepped).fits⟩
      | _ =>
          obtain ⟨outside, same⟩ := pollStep_outside moved (by
            intro thread service
            rw [stands] at service
            cases service)
          refine ⟨same.trans single.main, ?_⟩
          rw [outside]
          trivial
  | environment stressGate childActive =>
      cases moved
      exact ⟨single.main, single.fits.transport (fun _ _ _ => rfl) List.prefix_rfl⟩

def OrderInv (state : RingState) : Prop := RingInv state ∧ Single state

theorem order_inv (reached : ringSystem.Reach OrderGuard state) : OrderInv state := by
  refine reached.invariant OrderInv ?_ ?_
  · intro state initial
    refine ⟨RingInitial.inv initial, initial.main, ?_⟩
    rw [initial.poll]
    trivial
  · intro state action target inv guarded moved
    exact ⟨ringNext_inv state action target inv.1 (inv.2.ringGuard guarded) moved,
      inv.2.next guarded moved⟩

/-! ## Counting -/

/-- The buffers in use are as many as the uncompleted slots. -/
theorem RingAt.uncompleted (at_ : RingAt tail state) : state.pending = state.uncompleted := by
  have room := at_.stretch.room
  have bound := at_.stretch.submittedLe
  have slotOf : ∀ offset, (state.shared.tail + offset) % lunaNetTxQueueCount =
      (tail + offset) % lunaNetTxQueueCount := by
    intro offset
    rw [at_.stretch.tailAt, Nat.mod_add_mod]
  have slots : ((Finset.univ.filter fun buffer => (state.dma buffer).inUse = true).image
      fun buffer => (state.dma buffer).queueIndex) =
      ((Finset.range (state.submitted - tail)).filter fun offset =>
        (state.shared.queue ((tail + offset) % lunaNetTxQueueCount)).length ≠ 0).image
        fun offset => (tail + offset) % lunaNetTxQueueCount := by
    ext slot
    simp only [Finset.mem_image, Finset.mem_filter, Finset.mem_univ, true_and, Finset.mem_range]
    constructor
    · rintro ⟨buffer, inUse, rfl⟩
      obtain ⟨position, above, below, slot, uncompleted⟩ := at_.flight.used buffer inUse
      have same : tail + (position - tail) = position := by omega
      exact ⟨position - tail, ⟨by omega, by rw [same]; exact uncompleted⟩, by rw [same, slot]⟩
    · rintro ⟨offset, ⟨below, uncompleted⟩, rfl⟩
      exact at_.flight.covered (tail + offset) (Nat.le_add_right _ _) (by omega) uncompleted
  have buffersCount := Finset.card_image_of_injOn (s := Finset.univ.filter fun buffer =>
    (state.dma buffer).inUse = true) (f := fun buffer => (state.dma buffer).queueIndex) (by
      intro first firstIn second secondIn same
      simp only [Finset.mem_coe, Finset.mem_filter] at firstIn secondIn
      exact at_.flight.distinct first second firstIn.2 secondIn.2 same)
  have slotsCount := Finset.card_image_of_injOn (s := (Finset.range (state.submitted - tail)).filter
    fun offset => (state.shared.queue ((tail + offset) % lunaNetTxQueueCount)).length ≠ 0)
    (f := fun offset => (tail + offset) % lunaNetTxQueueCount) (by
      intro first firstIn second secondIn same
      simp only [Finset.mem_coe, Finset.mem_filter, Finset.mem_range] at firstIn secondIn
      have equal := slot_inj (Nat.le_add_right tail first) (by omega) (Nat.le_add_right tail second)
        (by omega) same
      omega)
  rw [slots, slotsCount] at buffersCount
  have counted : state.pending =
      (Finset.univ.filter fun buffer => (state.dma buffer).inUse = true).card := by
    rw [at_.flight.pending, Tally.total, Finset.card_filter]
    exact Finset.sum_congr rfl fun buffer _ => by cases (state.dma buffer).inUse <;> rfl
  rw [counted, ← buffersCount]
  unfold RingState.uncompleted
  rw [at_.used_submit]
  simp only [slotOf]
  rfl

theorem RingAt.ordered (at_ : RingAt tail state) : RingOrdered state where
  handed := at_.handed
  buffers := at_.flight.pending
  slots := at_.uncompleted
  tailBehind := at_.sound.between
  empties calm none sent := at_.empty calm none sent

/-! ## What a step leaves alone -/

/-- Nothing is changed that the ring holds. -/
theorem StepKeeps.same (dma : target.dma = state.dma)
    (queue : target.shared.queue = state.shared.queue) : StepKeeps state action target :=
  ⟨fun buffer _ _ => ⟨by rw [dma], by rw [queue]⟩, fun offset _ => by rw [queue]⟩

/-- Only a buffer that is free is written. -/
theorem StepKeeps.free {chosen : TxDma} {entry : DmaBuffer}
    (dma : target.dma = Function.update state.dma chosen entry)
    (free : (state.dma chosen).inUse = false)
    (queue : target.shared.queue = state.shared.queue) : StepKeeps state action target := by
  refine ⟨fun buffer inUse _ => ⟨?_, by rw [queue]⟩, fun offset _ => by rw [queue]⟩
  rw [dma]
  refine Function.update_of_ne ?_ _ _
  rintro rfl
  rw [free] at inUse
  cases inUse

theorem RingAt.keeps_of_agree (at_ : RingAt tail state) (dma : target.dma = state.dma)
    (agree : ∀ position, tail ≤ position → position < state.shared.pushed.length →
      target.shared.queue (position % lunaNetTxQueueCount) =
        state.shared.queue (position % lunaNetTxQueueCount)) : StepKeeps state action target := by
  have ordered := at_.stretch.tailLe
  have bound := at_.stretch.submittedLe
  refine ⟨fun buffer inUse _ => ⟨by rw [dma], ?_⟩, fun offset inside => ?_⟩
  · obtain ⟨position, above, below, slot, -⟩ := at_.flight.used buffer inUse
    rw [slot]
    exact agree position above (by omega)
  · rw [at_.used_unsubmitted] at inside
    rw [at_.stretch.submitAt, Nat.mod_add_mod]
    exact agree (state.submitted + offset) (by omega) (by omega)

theorem RingAt.keeps_completed {buffer : TxDma} {resume : Resume} (at_ : RingAt tail state)
    (stands : state.poll = .complete buffer.val resume)
    (inUse : (state.dma buffer).inUse = true) :
    StepKeeps state .stepPoll { state.completed buffer with poll := .loadHead resume } := by
  have ends : state.ending .stepPoll = some buffer := by
    simp only [RingState.ending, stands]
    rw [dif_pos buffer.isLt]
  obtain ⟨position, above, below, slot, -⟩ := at_.flight.used buffer inUse
  refine ⟨fun other otherInUse otherEnds => ⟨?_, ?_⟩, fun offset inside => ?_⟩
  · refine Function.update_of_ne ?_ _ _
    rintro rfl
    exact otherEnds ends
  · refine Function.update_of_ne ?_ _ _
    intro same
    rw [at_.flight.distinct _ _ otherInUse inUse same] at otherEnds
    exact otherEnds ends
  · refine Function.update_of_ne ?_ _ _
    rw [at_.used_unsubmitted] at inside
    rw [slot, at_.stretch.submitAt, Nat.mod_add_mod]
    intro same
    have room := at_.stretch.room
    have equal := slot_inj (Nat.le_trans above (by omega)) (by omega) above (by omega) same
    omega

theorem RingAt.keeps_rollBack {submit : Nat} {buffer : TxDma}
    (stands : state.poll = .driver submit buffer) :
    StepKeeps state (.rawTx .failed) (state.rollBack submit buffer) := by
  refine ⟨fun other _ otherEnds => ⟨Function.update_of_ne ?_ _ _, rfl⟩, fun offset _ => rfl⟩
  rintro rfl
  exact otherEnds (by rw [RingState.ending, stands]; rfl)

theorem RingAt.keeps_pollStep (at_ : RingAt tail state)
    (lengths : lengthsHold state state.poll.thread = true)
    (moved : Net.pollStep state state.poll = some target) : StepKeeps state .stepPoll target := by
  have fits := at_.poll
  cases stands : state.poll with
  | service thread =>
      rw [stands] at moved lengths
      have producer := at_.producers.2
      rw [stands] at producer
      obtain ⟨⟨after, next⟩, stepped, rfl⟩ := Option.map_eq_some_iff.mp moved
      have move := txStep_move at_.stretch producer state rfl lengths stepped
      exact at_.keeps_of_agree rfl move.effect.agree
  | driver submit buffer =>
      rw [stands] at moved
      cases moved
  | gate | packetLength _ _ | loadHead _ | advance _ _ _ | storeTail _ _ =>
      rw [stands] at moved
      cases moved
      exact .same rfl rfl
  | packetData submit buffer length =>
      rw [stands] at moved fits
      cases moved
      exact .free rfl fits.1.free rfl
  | hand submit buffer =>
      rw [stands] at moved fits
      cases moved
      exact .free rfl fits.1.free rfl
  | scan =>
      rw [stands] at moved
      simp only [Net.pollStep] at moved
      split at moved
      · cases moved
        exact .same rfl rfl
      · split at moved <;> cases moved <;> exact .same rfl rfl
  | complete cookie resume =>
      rw [stands] at moved
      simp only [Net.pollStep] at moved
      split at moved
      · split at moved
        · next known found =>
            rw [Bool.and_eq_true] at found
            cases moved
            exact at_.keeps_completed (stands : state.poll =
              .complete (⟨cookie, known⟩ : TxDma).val resume) found.1
        · cases moved
          exact .same rfl rfl
      · cases moved
        exact .same rfl rfl

theorem OrderInv.keeps (inv : OrderInv state) (guarded : OrderGuard state action)
    (moved : ringNext state action = some target) : StepKeeps state action target := by
  have lengths := (inv.2.ringGuard guarded).1.1
  obtain ⟨⟨tail, at_⟩, single⟩ := inv
  cases action with
  | netTx length => exact guarded.1.elim
  | netTxBatch requested => exact guarded.1.elim
  | child header window =>
      cases moved
      exact .same rfl rfl
  | environment stressGate childActive =>
      cases moved
      exact .same rfl rfl
  | notification | timeoutRetry | processTxQueue =>
      simp only [ringNext, RingState.enterPoll] at moved
      split at moved
      · cases moved
        exact .same rfl rfl
      · cases moved
  | completion cookie =>
      simp only [ringNext] at moved
      split at moved
      · cases moved
        exact .same rfl rfl
      · cases moved
        exact .same rfl rfl
      · cases moved
  | rawTx result =>
      simp only [ringNext] at moved
      split at moved
      · next stands =>
          split at moved
          · cases moved
            exact RingAt.keeps_rollBack stands
          · cases moved
            exact .same rfl rfl
          · cases moved
            exact .same rfl rfl
      · cases moved
  | stepMain =>
      simp only [ringNext, single.main, txStep, Option.map_none] at moved
      cases moved
  | stepPoll => exact at_.keeps_pollStep lengths moved

end Single

/-! ## Results -/

/-- With one producer and a driver that does not refuse a buffer it has completed,
packets go to the driver in the order of acceptance, nothing in transmission is
touched, and the cursors, the count and the buffers agree. -/
theorem ring_ordered (state : RingState) (reached : ringSystem.Reach OrderGuard state) :
    RingOrdered state ∧ ∀ action target, OrderGuard state action →
      ringNext state action = some target → StepKeeps state action target := by
  have inv := order_inv reached
  refine ⟨?_, fun action target guarded moved => inv.keeps guarded moved⟩
  obtain ⟨⟨tail, at_⟩, -⟩ := inv
  exact at_.ordered

theorem ring_ordered_served : ∃ state, ringSystem.Reach OrderGuard state ∧ state.pending = 1 ∧
    RingOrdered state := by
  obtain ⟨state, reached, pending⟩ := System.exists_reach_of_exec ringSystem OrderGuard ringStart
    servedPacket (fun state => state.pending == 1) ringStart_initial (by decide +kernel)
  exact ⟨state, reached, by simpa using pending, (ring_ordered state reached).1⟩

/-- The driver completes the packet from inside `raw_tx` and then refuses it. -/
def refusedAfterCompletion : List RingAction :=
  (.notification :: List.replicate 18 .stepPoll) ++
    (.processTxQueue :: List.replicate 5 .stepPoll) ++
    (.completion 0 :: List.replicate 5 .stepPoll) ++ [.rawTx .failed]

/-- The tail stands past `tx_submit`, and the count has wrapped. -/
theorem ring_refused_after_completion : ¬ ∀ state, ringSystem.Reach SingleProducer state →
    RingOrdered state ∧ ∀ action target, SingleProducer state action →
      ringNext state action = some target → StepKeeps state action target := by
  intro always
  obtain ⟨state, reached, wrapped⟩ := System.exists_reach_of_exec ringSystem SingleProducer
    ringStart refusedAfterCompletion (fun state => state.pending == 2 ^ 32 - 1)
    ringStart_initial (by decide +kernel)
  have buffers := (always state reached).1.buffers
  have bound := pending_le state.dma
  simp only [beq_iff_eq] at wrapped
  omega

end Luna.Net
