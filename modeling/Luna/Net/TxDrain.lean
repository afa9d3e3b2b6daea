import Luna.Net.TxRingSafety

/-!
# Draining the TX ring

Under the ring invariant nothing stands in the way of the poll thread: from any
state in which it is at rest there is a run of driver completions and of
`process_tx_queue` after which the ring is empty and nothing is pending, which is
what `luna_network_deactivate_child` waits for.
-/

namespace Luna.Net

open Interleaving

section Drain

variable {state target : RingState} {tail : Nat}

/-- A run that keeps to the conditions. -/
abbrev Leads (state target : RingState) : Prop := ringSystem.Leads RingGuard state target

theorem Leads.inv (leads : Leads state target) (inv : RingInv state) : RingInv target :=
  System.Leads.invariant ringNext_inv leads inv

/-- Outside the TX service a step of the poll thread meets every condition. -/
theorem leads_pollStep (outside : state.poll.thread = .idle)
    (moved : pollStep state state.poll = some target) : Leads state target := by
  refine System.Leads.next .stepPoll ⟨⟨?_, trivial⟩, ?_⟩ moved
  · show lengthsHold state state.poll.thread = true
    rw [outside]
    rfl
  · intro loads
    rw [outside] at loads
    cases loads

/-- One turn of the loop of `transmit_complete`: it stops, or it steps over a slot
that was submitted. -/
theorem advance_cases {cursor limit : Nat} {resume : Resume}
    (at_ : RingAt tail { state with poll := .advance cursor limit resume }) (position : Nat)
    (cursorAt : cursor = position % lunaNetTxQueueCount) (above : tail ≤ position)
    (below : position ≤ ({ state with poll := .advance cursor limit resume } :
      RingState).submitted) :
    pollStep { state with poll := .advance cursor limit resume } (.advance cursor limit resume) =
      some { state with poll := .storeTail cursor resume } ∨
    (position < ({ state with poll := .advance cursor limit resume } : RingState).submitted ∧
      pollStep { state with poll := .advance cursor limit resume } (.advance cursor limit resume) =
        some { state with
          poll := .advance ((cursor + 1) % lunaNetTxQueueCount) limit resume }) := by
  by_cases goes : cursor ≠ limit ∧ (state.shared.queue cursor).length = 0
  · right
    refine ⟨?_, by simp only [pollStep]; rw [if_pos goes]⟩
    obtain ⟨-, current, last, currentAt, rfl, currentAbove, currentBelow, lastAbove, lastBelow,
      -⟩ := at_.poll
    have bound := at_.stretch.submittedLe
    have room := at_.stretch.room
    have same := slot_inj above (by omega) currentAbove (by omega)
      (cursorAt.symm.trans currentAt)
    rw [same]
    rw [currentAt] at goes
    exact at_.advance_inside currentBelow lastAbove lastBelow goes.1 goes.2
  · left
    simp only [pollStep]
    rw [if_neg goes]

/-- The loop of `transmit_complete` ends. -/
theorem leads_advance {cursor limit : Nat} {resume : Resume} (distance : Nat)
    (at_ : RingAt tail { state with poll := .advance cursor limit resume }) (position : Nat)
    (cursorAt : cursor = position % lunaNetTxQueueCount) (above : tail ≤ position)
    (below : position ≤ ({ state with poll := .advance cursor limit resume } : RingState).submitted)
    (near : ({ state with poll := .advance cursor limit resume } : RingState).submitted ≤
      position + distance) :
    ∃ last, Leads { state with poll := .advance cursor limit resume }
      { state with poll := .storeTail last resume } := by
  induction distance generalizing cursor position with
  | zero =>
      rcases advance_cases at_ position cursorAt above below with stops | ⟨inside, -⟩
      · exact ⟨cursor, leads_pollStep rfl stops⟩
      · omega
  | succ distance inductionHypothesis =>
      rcases advance_cases at_ position cursorAt above below with stops | ⟨inside, moved⟩
      · exact ⟨cursor, leads_pollStep rfl stops⟩
      · have nextAt : (cursor + 1) % lunaNetTxQueueCount = (position + 1) % lunaNetTxQueueCount := by
          rw [cursorAt, Nat.mod_add_mod]
        obtain ⟨last, leads⟩ := inductionHypothesis (at_.advance rfl moved) (position + 1) nextAt
          (Nat.le_succ_of_le above) inside (by
            have same : ({ state with
                poll := .advance ((cursor + 1) % lunaNetTxQueueCount) limit resume } :
                RingState).submitted =
                ({ state with poll := .advance cursor limit resume } : RingState).submitted := rfl
            omega)
        exact ⟨last, (leads_pollStep rfl moved).trans leads⟩

/-- `transmit_complete` from the loads to the store of the tail. -/
theorem leads_storeTail {resume : Resume}
    (at_ : RingAt tail { state with poll := .loadHead resume }) :
    ∃ last, Leads { state with poll := .loadHead resume } { state with
      shared := { state.shared with
        tail := last
        txNtfn := true }
      poll := resume.thread } := by
  have loaded : RingAt tail { state with
      poll := .advance state.shared.tail state.shared.head resume } := at_.loadHead rfl
  have first : Leads { state with poll := .loadHead resume } { state with
      poll := .advance state.shared.tail state.shared.head resume } := leads_pollStep rfl rfl
  have bound := loaded.stretch.submittedLe
  have room := loaded.stretch.room
  unfold lunaNetTxQueueCount at room
  obtain ⟨last, loop⟩ := leads_advance 64 loaded tail loaded.stretch.tailAt (Nat.le_refl _)
    loaded.stretch.tailLe (by dsimp only at bound room; omega)
  exact ⟨last, (first.trans loop).trans (leads_pollStep rfl rfl)⟩

/-- A completion of a buffer in use runs to its end: one fewer is pending, and
nothing else that the drain looks at changes. -/
theorem leads_complete {buffer : TxDma} {resume : Resume} (inv : RingInv state)
    (stands : state.poll = .complete buffer.val resume) (inUse : (state.dma buffer).inUse = true) :
    ∃ target, Leads state target ∧ target.poll = resume.thread ∧
      target.pending + 1 = state.pending ∧ target.shared.pushed = state.shared.pushed ∧
      target.handed = state.handed := by
  obtain ⟨tail, at_⟩ := inv
  have slot : (state.dma buffer).queueIndex < lunaNetTxQueueCount := by
    obtain ⟨position, -, -, slot, -⟩ := at_.flight.used buffer inUse
    rw [slot]
    exact Nat.mod_lt _ (by decide)
  have first : Leads state { state.completed buffer with poll := .loadHead resume } := by
    refine leads_pollStep (by rw [stands]; rfl) ?_
    rw [stands]
    simp only [pollStep]
    rw [dif_pos buffer.isLt]
    simp [inUse, slot]
  obtain ⟨last, rest⟩ := leads_storeTail (at_.completed stands inUse)
  refine ⟨_, first.trans rest, rfl, ?_, rfl, rfl⟩
  have counted := at_.flight.pending
  have bound := pending_le state.dma
  have positive := Tally.le_total (fun entry : DmaBuffer => entry.inUse.toNat) state.dma buffer
  simp only [inUse, Bool.toNat_true] at positive
  simp only [RingState.completed, RingState.setDma]
  omega

/-- The driver completes what is in flight. -/
theorem leads_landed (inv : RingInv state) (rests : state.poll = .service .idle) :
    ∃ target, Leads state target ∧ target.poll = .service .idle ∧ target.pending = 0 := by
  induction count : state.pending generalizing state with
  | zero => exact ⟨state, .refl, rests, count⟩
  | succ pending inductionHypothesis =>
      obtain ⟨tail, at_⟩ := inv
      obtain ⟨buffer, inUse⟩ : ∃ buffer, (state.dma buffer).inUse = true := by
        by_contra none
        have zero : Tally.total (fun entry : DmaBuffer => entry.inUse.toNat) state.dma = 0 := by
          refine (Tally.total_eq_zero_iff _ _).mpr fun buffer => ?_
          rw [Bool.not_eq_true _ |>.mp fun used => none ⟨buffer, used⟩]
          rfl
        rw [← at_.flight.pending, count] at zero
        cases zero
      have reported : Leads state { state with poll := .complete buffer.val .polled } := by
        refine System.Leads.next (.completion buffer.val) ⟨⟨trivial, trivial⟩, trivial⟩ ?_
        simp only [ringSystem, ringNext, rests]
      obtain ⟨landed, completed, landedRests, fewer, -, -⟩ :=
        leads_complete (reported.inv ⟨tail, at_⟩) rfl inUse
      obtain ⟨target, leads, targetRests, none⟩ :=
        inductionHypothesis (Leads.inv (reported.trans completed) ⟨tail, at_⟩) landedRests (by
          have same : ({ state with poll := .complete buffer.val .polled } : RingState).pending =
            state.pending := rfl
          omega)
      exact ⟨target, (reported.trans completed).trans leads, targetRests, none⟩

/-- With nothing pending every buffer is free. -/
theorem RingAt.free (at_ : RingAt tail state) (none : state.pending = 0) (buffer : TxDma) :
    (state.dma buffer).inUse = false := by
  have zero := at_.flight.pending.symm.trans none
  have weight := (Tally.total_eq_zero_iff _ _).mp zero buffer
  cases used : (state.dma buffer).inUse with
  | false => rfl
  | true =>
      simp only [used, Bool.toNat_true] at weight
      cases weight

/-- The packet is copied and handed to `raw_tx`. -/
theorem leads_driver {submit length : Nat} {buffer : TxDma} (none : state.pending = 0) :
    ∃ target, Leads { state with poll := .packetData submit buffer length } target ∧
      target.poll = .driver submit buffer ∧ target.shared = state.shared ∧
      target.handed = state.handed ∧ (target.dma buffer).inUse = true ∧ target.pending = 1 := by
  have copied : Leads { state with poll := .packetData submit buffer length }
      { state.setDma buffer { state.dma buffer with
          data := ByteMemory.read (state.shared.queue submit).data 0 length } with
        poll := .hand submit buffer } := leads_pollStep rfl rfl
  refine ⟨_, copied.trans (leads_pollStep rfl rfl), rfl, rfl, rfl, ?_, ?_⟩
  · simp [RingState.handOver, RingState.setDma]
  · simp [RingState.handOver, RingState.setDma, none]

/-- One packet goes through `process_tx_queue` and is completed at once. -/
theorem leads_sent (inv : RingInv state) (stands : state.poll = .scan) (none : state.pending = 0)
    (waiting : state.handed.length < state.shared.pushed.length) :
    ∃ target, Leads state target ∧ target.poll = .scan ∧ target.pending = 0 ∧
      target.shared.pushed = state.shared.pushed ∧
      target.handed.length = state.handed.length + 1 := by
  obtain ⟨tail, at_⟩ := inv
  have count : state.submitted = state.handed.length :=
    RingState.submitted_of_none (by rw [stands]; rfl)
  have unsent : state.submit ≠ state.shared.head := by
    rw [at_.stretch.submitAt, at_.stretch.headAt]
    intro same
    have ordered := at_.stretch.tailLe
    have room := at_.stretch.room
    have equal := slot_inj ordered (by omega) (by omega) room same
    omega
  obtain ⟨buffer, found⟩ : ∃ buffer, state.freeBuffer = some buffer := by
    refine Option.isSome_iff_exists.mp (List.find?_isSome.mpr ⟨⟨0, by decide⟩, ?_, ?_⟩)
    · exact List.mem_finRange _
    · rw [at_.free none]
      rfl
  have queued := at_.stretch.queued state.submitted (Nat.le_refl _) (count ▸ waiting)
  have valid : validLength (state.shared.queue state.submit).length = true := by
    rw [at_.stretch.submitAt]
    exact at_.stretch.valid _ (List.mem_of_getElem? queued)
  have chosen : Leads state { state with poll := .packetLength state.submit buffer } := by
    refine leads_pollStep (by rw [stands]; rfl) ?_
    rw [stands]
    simp only [pollStep]
    rw [if_neg unsent, found]
  have measured : Leads { state with poll := .packetLength state.submit buffer } { state with
      poll := .packetData state.submit buffer (state.shared.queue state.submit).length } := by
    refine leads_pollStep rfl ?_
    simp only [pollStep]
    rw [if_pos valid]
  obtain ⟨handing, copied, atDriver, sameShared, sameHanded, inUse, one⟩ :=
    (leads_driver none : ∃ target, Leads { state with
      poll := .packetData state.submit buffer (state.shared.queue state.submit).length } target ∧ _)
  have accepted : Leads handing { handing with
      handed := handing.handed ++ [(handing.dma buffer).data]
      poll := .complete buffer.val .loop } := by
    refine System.Leads.next (.rawTx .complete) ⟨⟨trivial, trivial⟩, trivial⟩ ?_
    simp only [ringSystem, ringNext, atDriver]
  have leads := ((chosen.trans measured).trans copied).trans accepted
  obtain ⟨target, completed, scans, fewer, samePushed, kept⟩ :=
    leads_complete (Leads.inv leads ⟨tail, at_⟩) rfl inUse
  refine ⟨target, leads.trans completed, scans, ?_, ?_, ?_⟩
  · dsimp only at fewer
    omega
  · rw [samePushed]
    exact congrArg TxShared.pushed sameShared
  · rw [kept, List.length_append, sameHanded]
    rfl

/-- `process_tx_queue` sends what is queued. -/
theorem leads_flushed (inv : RingInv state) (stands : state.poll = .scan)
    (none : state.pending = 0) (left : Nat)
    (count : state.shared.pushed.length = state.handed.length + left) :
    ∃ target, Leads state target ∧ target.poll = .service .idle ∧ target.pending = 0 ∧
      target.handed.length = target.shared.pushed.length := by
  induction left generalizing state with
  | zero =>
      obtain ⟨tail, at_⟩ := inv
      have sent : state.submitted = state.handed.length :=
        RingState.submitted_of_none (by rw [stands]; rfl)
      refine ⟨{ state with poll := .service .idle }, leads_pollStep (by rw [stands]; rfl) ?_, rfl,
        none, count.symm⟩
      rw [stands]
      simp only [pollStep]
      rw [if_pos]
      rw [at_.stretch.submitAt, at_.stretch.headAt, sent, count]
      rfl
  | succ left inductionHypothesis =>
      obtain ⟨middle, sent, scans, still, samePushed, more⟩ :=
        leads_sent inv stands none (by omega)
      obtain ⟨target, leads, rests, finished, all⟩ :=
        inductionHypothesis (Leads.inv sent inv) scans still (by rw [samePushed]; omega)
      exact ⟨target, sent.trans leads, rests, finished, all⟩

/-- A ring with nothing pending and nothing to submit is empty. -/
theorem RingAt.empty (at_ : RingAt tail state) (calm : state.poll.completing = false)
    (none : state.pending = 0) (sent : state.submit = state.shared.head) :
    state.shared.tail = state.shared.head := by
  rw [← sent, at_.stretch.tailAt, at_.stretch.submitAt]
  rcases at_.settled calm with equal | uncompleted
  · rw [equal]
  · rcases Nat.lt_or_ge tail state.submitted with inside | reached
    · obtain ⟨buffer, inUse, -⟩ := at_.flight.covered tail (Nat.le_refl _) inside uncompleted
      rw [at_.free none buffer] at inUse
      cases inUse
    · rw [Nat.le_antisymm at_.stretch.tailLe reached]

/-- From a state in which the poll thread is at rest the ring can be drained. -/
theorem leads_drained (inv : RingInv state) (rests : state.poll = .service .idle) :
    ∃ target, Leads state target ∧ target.poll = .service .idle ∧ target.pending = 0 ∧
      target.shared.tail = target.shared.head := by
  obtain ⟨landed, landing, landedRests, none⟩ := leads_landed inv rests
  have opened : Leads landed { landed with
      shared := { landed.shared with stressGate := false }
      poll := .scan } := by
    have gate : Leads landed { landed with
        shared := { landed.shared with stressGate := false } } :=
      System.Leads.next (.environment false landed.shared.childActive)
        ⟨⟨trivial, trivial⟩, trivial⟩ rfl
    have called : Leads { landed with
        shared := { landed.shared with stressGate := false } } { landed with
        shared := { landed.shared with stressGate := false }
        poll := .gate } := by
      refine System.Leads.next .processTxQueue ⟨⟨trivial, trivial⟩, trivial⟩ ?_
      simp only [ringSystem, ringNext, RingState.enterPoll, landedRests]
    exact (gate.trans called).trans (leads_pollStep rfl rfl)
  have flushing := Leads.inv (landing.trans opened) inv
  obtain ⟨left, count⟩ : ∃ left, landed.shared.pushed.length = landed.handed.length + left := by
    obtain ⟨tail, at_⟩ := flushing
    refine Nat.exists_eq_add_of_le ?_
    exact Nat.le_trans (Nat.le_add_right _ _) at_.stretch.submittedLe
  obtain ⟨target, leads, targetRests, finished, all⟩ := leads_flushed flushing rfl none left count
  have drained := (landing.trans opened).trans leads
  refine ⟨target, drained, targetRests, finished, ?_⟩
  obtain ⟨tail, at_⟩ := Leads.inv drained inv
  refine at_.empty (by rw [targetRests]; rfl) finished ?_
  rw [at_.stretch.submitAt, at_.stretch.headAt,
    RingState.submitted_of_none (by rw [targetRests]; rfl), all]

/-! ## Coming to rest -/

/-- Steps a thread needs at most until it leaves the TX service. -/
def TxThread.remaining : TxThread → Nat
  | .idle => 0
  | .signal => 1
  | .storeResponse _ => 2
  | .storeAccepted _ _ => 3
  | .cancelTimer _ _ => 4
  | .retryResponse _ => 5
  | .retryRequest => 6
  | .backpressure _ | .kick _ => 8
  | .publish _ => 9
  | .storeLength batch index _ => 10 + 3 * (batch.accepted - index)
  | .copyData batch index _ => 11 + 3 * (batch.accepted - index)
  | .copyLength batch index => 12 + 3 * (batch.accepted - index)
  | .validate batch index => 13 + 3 * batch.accepted + (batch.accepted - index)
  | .batchTail _ _ _ => 400
  | .batchHead _ _ => 401
  | .batchActive _ _ => 402
  | .batchCount _ _ => 403
  | .notifyCount _ | .singleLength _ => 404
  | .notifyResponse _ | .singleCount _ => 405
  | .notifyRequest => 406
  | .notifyActive => 407

theorem batchReturn_remaining (caller : TxCaller) (result : Option Nat) :
    (batchReturn caller result).remaining ≤ 4 := by
  unfold batchReturn
  split <;> simp [TxThread.remaining]

theorem serviceTxBatch_remaining (caller : TxCaller) (requested : Nat) :
    (serviceTxBatch caller requested).remaining ≤ 403 := by
  unfold serviceTxBatch
  split
  · exact Nat.le_trans (batchReturn_remaining _ _) (by decide)
  · exact Nat.le_refl _

/-- The service always moves, towards its end. -/
theorem txStep_remaining (shared : TxShared) {thread : TxThread} (inside : thread ≠ .idle) :
    ∃ after next, txStep shared thread = some (after, next) ∧
      next.remaining < thread.remaining := by
  have refused := fun caller => batchReturn_remaining caller none
  cases thread with
  | idle => exact absurd rfl inside
  | batchTail caller requested head =>
      refine ⟨_, _, rfl, ?_⟩
      split
      next full => simp [TxThread.remaining]
      next room =>
        simp only [TxThread.remaining, lunaNetTxQueueCount]
        omega
  | validate batch index =>
      simp only [txStep]
      split
      next valid =>
        refine ⟨_, _, rfl, ?_⟩
        split <;> simp only [TxThread.remaining] at * <;> omega
      next invalid =>
        refine ⟨_, _, rfl, Nat.lt_of_le_of_lt (refused _) ?_⟩
        simp only [TxThread.remaining]
        omega
  | storeLength batch index length =>
      refine ⟨_, _, rfl, ?_⟩
      split <;> simp only [TxThread.remaining] <;> omega
  | notifyCount sequence =>
      exact ⟨_, _, rfl, Nat.lt_succ_of_le (serviceTxBatch_remaining _ _)⟩
  | singleLength length =>
      exact ⟨_, _, rfl, Nat.lt_succ_of_le (serviceTxBatch_remaining _ _)⟩
  | batchCount caller requested =>
      refine ⟨_, _, rfl, ?_⟩
      split
      · simp [TxThread.remaining]
      · exact Nat.lt_of_le_of_lt (refused _) (by simp [TxThread.remaining])
  | batchActive caller requested =>
      refine ⟨_, _, rfl, ?_⟩
      split
      · simp [TxThread.remaining]
      · exact Nat.lt_of_le_of_lt (refused _) (by simp [TxThread.remaining])
  | backpressure caller =>
      have bound := batchReturn_remaining caller (some 0)
      exact ⟨_, _, rfl, Nat.lt_of_le_of_lt bound (by simp [TxThread.remaining])⟩
  | kick batch =>
      have bound := batchReturn_remaining batch.caller (some batch.accepted)
      exact ⟨_, _, rfl, Nat.lt_of_le_of_lt bound (by simp [TxThread.remaining])⟩
  | notifyActive | notifyRequest | notifyResponse _ | retryRequest | retryResponse _ =>
      refine ⟨_, _, rfl, ?_⟩
      split <;> simp [TxThread.remaining]
  | _ => exact ⟨_, _, rfl, by simp [TxThread.remaining]⟩

/-- The child may make every length it shows valid. -/
theorem leads_lengths (state : RingState) : ∃ target, Leads state target ∧
    target.main = state.main ∧ target.poll = state.poll ∧
    ∀ thread, lengthsHold target thread = true := by
  refine ⟨_, System.Leads.next (.child { state.shared.header with txLengths := fun _ => 1 }
    state.shared.window) ⟨⟨trivial, trivial⟩, trivial⟩ rfl, rfl, rfl, ?_⟩
  intro thread
  cases thread <;> rfl

/-- The main thread leaves the TX service while the poll thread fills no slot. -/
theorem leads_mainIdle (quiet : state.poll.thread.producing = false) :
    ∃ target, Leads state target ∧ target.main = .idle ∧ target.poll = state.poll := by
  induction left : state.main.remaining using Nat.strong_induction_on generalizing state with
  | h left inductionHypothesis =>
      by_cases inside : state.main = .idle
      · exact ⟨state, .refl, inside, rfl⟩
      · obtain ⟨ready, leads, sameMain, samePoll, lengths⟩ := leads_lengths state
        obtain ⟨after, next, stepped, fewer⟩ := txStep_remaining ready.shared (sameMain ▸ inside)
        have moved : Leads ready { ready with
            shared := after
            main := next } := by
          refine System.Leads.next .stepMain ⟨⟨lengths _, trivial⟩, fun _ => samePoll ▸ quiet⟩ ?_
          simp only [ringSystem, ringNext, stepped, Option.map_some]
        rw [sameMain, left] at fewer
        have stillQuiet : ({ ready with
            shared := after
            main := next } : RingState).poll.thread.producing = false := by
          rw [← quiet, ← samePoll]
        obtain ⟨target, rest, rests, same⟩ := inductionHypothesis _ fewer stillQuiet rfl
        exact ⟨target, (leads.trans moved).trans rest, rests, same.trans samePoll⟩

/-- The poll thread leaves the TX service while the main thread fills no slot. -/
theorem leads_serviceIdle {thread : TxThread} (stands : state.poll = .service thread)
    (quiet : state.main.producing = false) :
    ∃ target, Leads state target ∧ target.poll = .service .idle := by
  induction left : thread.remaining using Nat.strong_induction_on generalizing state thread with
  | h left inductionHypothesis =>
      by_cases inside : thread = .idle
      · exact ⟨state, .refl, inside ▸ stands⟩
      · obtain ⟨ready, leads, sameMain, samePoll, lengths⟩ := leads_lengths state
        obtain ⟨after, next, stepped, fewer⟩ := txStep_remaining ready.shared inside
        have moved : Leads ready { ready with
            shared := after
            poll := .service next } := by
          refine System.Leads.next .stepPoll ⟨⟨lengths _, trivial⟩, fun _ => sameMain ▸ quiet⟩ ?_
          simp only [ringSystem, ringNext, samePoll, stands, pollStep, stepped, Option.map_some]
        obtain ⟨target, rest, rests⟩ := inductionHypothesis _ (left ▸ fewer)
          (rfl : ({ ready with
            shared := after
            poll := .service next } : RingState).poll = .service next) (sameMain ▸ quiet) rfl
        exact ⟨target, (leads.trans moved).trans rest, rests⟩

/-- `process_tx_queue` ends when the driver refuses the packet it is handed. -/
theorem leads_refused {submit : Nat} {buffer : TxDma} (stands : state.poll = .hand submit buffer) :
    ∃ target, Leads state target ∧ target.poll = .service .idle := by
  have handed : Leads state (state.handOver submit buffer) :=
    leads_pollStep (by rw [stands]; rfl) (by rw [stands]; rfl)
  have refused : Leads (state.handOver submit buffer)
      ((state.handOver submit buffer).rollBack submit buffer) := by
    refine System.Leads.next (.rawTx .failed) ⟨⟨trivial, ?_⟩, trivial⟩ rfl
    intro other transit
    cases transit
    simp [RingState.handOver, RingState.setDma]
  exact ⟨_, handed.trans refused, rfl⟩

theorem leads_packetIdle {submit : Nat} {buffer : TxDma}
    (stands : state.poll = .packetLength submit buffer) :
    ∃ target, Leads state target ∧ target.poll = .service .idle := by
  have measured : Leads state { state with
      poll := if validLength (state.shared.queue submit).length then
        .packetData submit buffer (state.shared.queue submit).length else .service .idle } :=
    leads_pollStep (by rw [stands]; rfl) (by rw [stands]; rfl)
  split at measured
  next valid =>
    have copied : Leads { state with
        poll := .packetData submit buffer (state.shared.queue submit).length }
        { state.setDma buffer { state.dma buffer with
          data := ByteMemory.read (state.shared.queue submit).data 0
            (state.shared.queue submit).length } with
          poll := .hand submit buffer } := leads_pollStep rfl rfl
    obtain ⟨target, refused, rests⟩ := leads_refused
      (rfl : ({ state.setDma buffer { state.dma buffer with
          data := ByteMemory.read (state.shared.queue submit).data 0
            (state.shared.queue submit).length } with
          poll := .hand submit buffer } : RingState).poll = .hand submit buffer)
    exact ⟨target, (measured.trans copied).trans refused, rests⟩
  next invalid => exact ⟨_, measured, rfl⟩

theorem leads_scanIdle (stands : state.poll = .scan) :
    ∃ target, Leads state target ∧ target.poll = .service .idle := by
  have step : ∀ {target}, pollStep state .scan = some target → Leads state target :=
    fun moved => leads_pollStep (by rw [stands]; rfl) (stands ▸ moved)
  simp only [pollStep] at step
  split at step
  next sent => exact ⟨_, step rfl, rfl⟩
  next unsent =>
    split at step
    next none => exact ⟨_, step rfl, rfl⟩
    next buffer found =>
      obtain ⟨target, leads, rests⟩ := leads_packetIdle
        (rfl : ({ state with poll := .packetLength state.submit buffer } : RingState).poll = _)
      exact ⟨target, (step rfl).trans leads, rests⟩

/-- What `transmit_complete` returns to comes to rest. -/
theorem leads_resumeIdle {resume : Resume} (stands : state.poll = resume.thread) :
    ∃ target, Leads state target ∧ target.poll = .service .idle := by
  cases resume with
  | polled => exact ⟨state, .refl, stands⟩
  | loop => exact leads_scanIdle stands
  | driver submit buffer =>
      have accepted : Leads state { state with
          handed := state.handed ++ [(state.dma buffer).data]
          poll := .scan } := by
        refine System.Leads.next (.rawTx .enqueued) ⟨⟨trivial, trivial⟩, trivial⟩ ?_
        simp only [ringSystem, ringNext, stands, Resume.thread]
      obtain ⟨target, leads, rests⟩ := leads_scanIdle
        (rfl : ({ state with
          handed := state.handed ++ [(state.dma buffer).data]
          poll := .scan } : RingState).poll = _)
      exact ⟨target, accepted.trans leads, rests⟩

theorem Leads.andIdle {middle : RingState} (leads : Leads state middle)
    (rest : ∃ target, Leads middle target ∧ target.poll = .service .idle) :
    ∃ target, Leads state target ∧ target.poll = .service .idle := by
  obtain ⟨target, later, rests⟩ := rest
  exact ⟨target, leads.trans later, rests⟩

/-- `transmit_complete` past its first part comes to rest. -/
theorem leads_completingIdle {resume : Resume} (inv : RingInv state)
    (stands : state.poll = .loadHead resume) :
    ∃ target, Leads state target ∧ target.poll = .service .idle := by
  obtain ⟨tail, at_⟩ := inv
  have same : state = { state with poll := .loadHead resume } := by rw [← stands]
  rw [same] at at_ ⊢
  obtain ⟨last, leads⟩ := leads_storeTail at_
  exact leads.andIdle (leads_resumeIdle rfl)

/-- The poll thread comes to rest while the main thread fills no slot. -/
theorem leads_pollIdle (inv : RingInv state) (quiet : state.main.producing = false) :
    ∃ target, Leads state target ∧ target.poll = .service .idle := by
  have step : state.poll.thread = .idle → ∀ {target}, pollStep state state.poll = some target →
      Leads state target := fun outside _ moved => leads_pollStep outside moved
  cases stands : state.poll with
  | service thread => exact leads_serviceIdle stands quiet
  | gate =>
      have checked := step (by rw [stands]; rfl) (by rw [stands]; rfl)
      split at checked
      next closed => exact ⟨_, checked, rfl⟩
      next opened => exact checked.andIdle (leads_scanIdle rfl)
  | scan => exact leads_scanIdle stands
  | packetLength submit buffer => exact leads_packetIdle stands
  | packetData submit buffer length =>
      exact (step (by rw [stands]; rfl) (by rw [stands]; rfl)).andIdle (leads_refused rfl)
  | hand submit buffer => exact leads_refused stands
  | driver submit buffer =>
      have resumes : state.poll = (Resume.driver submit buffer).thread := stands
      exact leads_resumeIdle resumes
  | complete cookie resume =>
      have known : ∀ {target}, pollStep state (.complete cookie resume) = some target →
          Leads state target := fun moved => step (by rw [stands]; rfl) (stands ▸ moved)
      simp only [pollStep] at known
      split at known
      next inside =>
        split at known
        next inUse =>
          have completed := known rfl
          exact completed.andIdle (leads_completingIdle (completed.inv inv) rfl)
        next unused => exact (known rfl).andIdle (leads_resumeIdle rfl)
      next outside => exact (known rfl).andIdle (leads_resumeIdle rfl)
  | loadHead resume => exact leads_completingIdle inv stands
  | advance cursor limit resume =>
      obtain ⟨tail, at_⟩ := inv
      have same : state = { state with poll := .advance cursor limit resume } := by rw [← stands]
      rw [same] at at_ ⊢
      obtain ⟨-, position, last, cursorAt, -, above, below, -⟩ := at_.poll
      have bound := at_.stretch.submittedLe
      have room := at_.stretch.room
      obtain ⟨last, leads⟩ := leads_advance lunaNetTxQueueCount at_ position cursorAt above below
        (by omega)
      exact leads.andIdle ((leads_pollStep rfl rfl : Leads _ _).andIdle (leads_resumeIdle rfl))
  | storeTail cursor resume =>
      exact (step (by rw [stands]; rfl) (by rw [stands]; rfl)).andIdle (leads_resumeIdle rfl)

/-- From every state of the invariant the poll thread can come to rest. -/
theorem leads_rest (inv : RingInv state) :
    ∃ target, Leads state target ∧ target.poll = .service .idle := by
  cases filling : state.main.producing with
  | false => exact leads_pollIdle inv filling
  | true =>
      have quiet : state.poll.thread.producing = false := by
        obtain ⟨tail, at_⟩ := inv
        exact Bool.not_eq_true _ |>.mp fun producing => at_.apart ⟨filling, producing⟩
      obtain ⟨middle, leads, rests, -⟩ := leads_mainIdle quiet
      exact Leads.andIdle leads (leads_pollIdle (Leads.inv leads inv) (by rw [rests]; rfl))

end Drain

/-! ## Results -/

/-- The ring can be drained. -/
def Drainable (state : RingState) : Prop :=
  ∃ target, ringSystem.Leads RingGuard state target ∧ target.poll = .service .idle ∧
    target.pending = 0 ∧ target.shared.tail = target.shared.head

instance (state : RingState) (action : RingAction) : Decidable (RingGuard state action) := by
  unfold RingGuard
  infer_instance

/-- In every run in which the two producers stay apart, the lengths hold and the
driver is honest, the ring is sound and can be drained. -/
theorem ring_sound_of_producersApart (state : RingState)
    (reached : ringSystem.Reach RingGuard state) : RingSound state ∧ Drainable state := by
  have inv := ring_inv reached
  refine ⟨?_, ?_⟩
  · obtain ⟨tail, at_⟩ := inv
    exact at_.sound
  · obtain ⟨middle, coming, rests⟩ := leads_rest inv
    obtain ⟨target, leads, drained⟩ := leads_drained (Leads.inv coming inv) rests
    exact ⟨target, coming.trans leads, drained⟩

/-- One packet of 100 bytes under the given sequence number. -/
def onePacket (sequence : Nat) : BatchHeader :=
  ⟨1, 0, sequence, 0, 0, 0, 0, 0, fun _ => 100, fun _ => 0⟩

/-- An empty ring, and one packet submitted through the window. -/
def ringStart : RingState where
  shared := ⟨onePacket 1, fun _ _ => 0, fun _ => ⟨0, fun _ => 0⟩, 0, 0, false, true, false, false,
    [], [], []⟩
  submit := 0
  pending := 0
  dma := fun _ => ⟨false, 0, []⟩
  main := .idle
  poll := .service .idle
  handed := []

theorem ringStart_initial : RingInitial ringStart :=
  ⟨rfl, rfl, rfl, rfl, fun _ => rfl, rfl, rfl, rfl, rfl⟩

/-- The poll thread takes a submitted packet and hands it to the driver. -/
def servedPacket : List RingAction :=
  (.notification :: List.replicate 18 .stepPoll) ++
    (.processTxQueue :: List.replicate 5 .stepPoll) ++ [.rawTx .enqueued, .stepPoll]

theorem ring_sound_served : ∃ state, ringSystem.Reach RingGuard state ∧ state.handed.length = 1 ∧
    RingSound state ∧ Drainable state := by
  obtain ⟨state, reached, handed⟩ := System.exists_reach_of_exec ringSystem RingGuard ringStart
    servedPacket (fun state => state.handed.length == 1) ringStart_initial (by decide +kernel)
  exact ⟨state, reached, by simpa using handed, ring_sound_of_producersApart state reached⟩

/-- The main thread has loaded `tx_head` for a `NET_TX_BATCH` request; the poll
thread takes and hands over two packets; then the main thread publishes its one. -/
def overtaken : List RingAction :=
  (.netTxBatch 1 :: List.replicate 3 .stepMain) ++ servedPacket ++
    [.child (onePacket 2) (fun _ _ => 0)] ++ servedPacket ++ List.replicate 6 .stepMain

/-- `tx_head` falls back to 1, behind `tx_submit`. -/
theorem ring_head_regresses : ¬ ∀ state,
    ringSystem.Reach (fun state action => LengthsHold state action ∧ DriverHonest state action)
      state → RingSound state ∧ Drainable state := by
  intro always
  obtain ⟨state, reached, cursors⟩ := System.exists_reach_of_exec ringSystem
    (fun state action => LengthsHold state action ∧ DriverHonest state action) ringStart overtaken
    (fun state => (state.shared.head, state.shared.tail, state.submit) == (1, 0, 2))
    ringStart_initial (by decide +kernel)
  have between := (always state reached).1.between
  simp only [beq_iff_eq, Prod.mk.injEq] at cursors
  rw [cursors.1, cursors.2.1, cursors.2.2] at between
  revert between
  decide

end Luna.Net
