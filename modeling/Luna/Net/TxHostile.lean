import Mathlib.Data.Fintype.Defs
import Mathlib.Data.Finset.Insert
import Luna.Lib.Interleaving
import Luna.Net.TxService

/-!
# The TX service against a hostile child

The child may replace the whole shared header and window between any two steps
of the manager's threads.  `service_tx_batch` validates each length in one loop
and reads it again in the next, so a length changed in between is copied
unchecked (`txCopies_unsafe`).  When nobody changes a length that is validated
and not yet copied (`LengthsHeld`), every copy is safe.
-/

namespace Luna.Net

open Interleaving ByteMemory

/-- The manager threads that run the TX service. -/
inductive Agent where
  | main
  | poll
  deriving DecidableEq, Repr

instance : Fintype Agent := ⟨{.main, .poll}, by rintro (_ | _) <;> simp⟩

structure HostileState where
  shared : TxShared
  threads : Agent → TxThread

inductive HostileAction where
  /-- The child writes anything into the header and the packet slots. -/
  | child (header : BatchHeader) (window : Nat → Memory)
  /-- The main thread receives `NET_TX` or `NET_TX_BATCH` with any length word. -/
  | netTx (length : Nat)
  | netTxBatch (requested : Nat)
  /-- The poll thread enters one of its two TX routines. -/
  | notification
  | timeoutRetry
  | step (agent : Agent)
  /-- The rest of the manager: completions move the tail, children come and go. -/
  | environment (tail : Nat) (stressGate childActive : Bool)

def HostileState.enter (state : HostileState) (agent : Agent) (thread : TxThread) :
    Option HostileState :=
  if state.threads agent = .idle then
    some { state with threads := Function.update state.threads agent thread }
  else none

def hostileNext (state : HostileState) : HostileAction → Option HostileState
  | .child header window => some { state with shared := { state.shared with header, window } }
  | .netTx length => state.enter .main (serviceTx length)
  | .netTxBatch requested => state.enter .main (serviceTxBatch .endpoint requested)
  | .notification => state.enter .poll .notifyActive
  | .timeoutRetry => state.enter .poll .retryRequest
  | .step agent =>
      (txStep state.shared (state.threads agent)).map fun (shared, thread) =>
        ⟨shared, Function.update state.threads agent thread⟩
  | .environment tail stressGate childActive =>
      some { state with shared := { state.shared with tail, stressGate, childActive } }

def HostileInitial (state : HostileState) : Prop :=
  (∀ agent, state.threads agent = .idle) ∧ state.shared.copies = [] ∧ state.shared.stores = []

def hostileSystem : System HostileState HostileAction := ⟨HostileInitial, hostileNext⟩

/-- A copy of a validated length, in range, from a slot of the window. -/
def TxCopy.Safe (copy : TxCopy) : Prop :=
  copy.source < lunaNetBatchSlots ∧ validLength copy.length = true ∧
    copy.validated = some copy.length

/-- The copy was made before its length was stored, into the same slot. -/
def TxShared.Copied (shared : TxShared) (serial slot length : Nat) : Prop :=
  ∃ copy, shared.copies[serial]? = some copy ∧ copy.slot = slot ∧ copy.length = length

/-- Every copy is safe, and every length stored in a slot is that of its own copy. -/
def TxShared.SafeCopies (shared : TxShared) : Prop :=
  (∀ copy ∈ shared.copies, copy.Safe) ∧
    ∀ stored ∈ shared.stores, shared.Copied stored.copy stored.slot stored.length

/-- The thread has validated the length at `index` and will read it again. -/
def Awaits : TxThread → Nat → Prop
  | .validate _ position, index => index < position
  | .copyLength batch position, index => position ≤ index ∧ index < batch.accepted
  | .copyData batch position _, index | .storeLength batch position _, index =>
      position < index ∧ index < batch.accepted
  | _, _ => False

instance (thread : TxThread) (index : Nat) : Decidable (Awaits thread index) := by
  unfold Awaits
  split <;> infer_instance

/-- A write of the shared lengths leaves the ones that are awaited as they are:
the child's writes, and the one store `service_tx` itself makes. -/
def LengthsHeld (state : HostileState) : HostileAction → Prop
  | .child header _ => ∀ agent, ∀ index < lunaNetBatchSlots,
      Awaits (state.threads agent) index →
        header.txLengths index = state.shared.header.txLengths index
  | .step agent => match state.threads agent with
      | .singleLength length => ∀ other, Awaits (state.threads other) 0 →
          length = state.shared.header.txLengths 0
      | _ => True
  | _ => True

instance (state : HostileState) (action : HostileAction) :
    Decidable (LengthsHeld state action) := by
  unfold LengthsHeld
  split
  · infer_instance
  · split <;> infer_instance
  · infer_instance

/-! ## The invariant -/

/-- The first `checked` lengths of the batch were validated, and from
`position` on the header still holds them. -/
structure BatchFits (header : BatchHeader) (batch : TxBatch) (checked position : Nat) : Prop where
  small : batch.accepted ≤ lunaNetBatchSlots
  count : batch.validated.length = checked
  valid : ∀ index < checked, ∃ length, batch.validated[index]? = some length ∧
    validLength length = true
  held : ∀ index, position ≤ index → index < checked →
    batch.validated[index]? = some (header.txLengths index)

def Fits (shared : TxShared) : TxThread → Prop
  | .batchCount _ requested | .batchActive _ requested | .batchHead _ requested
  | .batchTail _ requested _ => requested ≤ lunaNetBatchSlots
  | .validate batch index => BatchFits shared.header batch index 0 ∧ index < batch.accepted
  | .copyLength batch index =>
      BatchFits shared.header batch batch.accepted index ∧ index < batch.accepted
  | .copyData batch index length =>
      BatchFits shared.header batch batch.accepted (index + 1) ∧ index < batch.accepted ∧
        batch.validated[index]? = some length
  | .storeLength batch index length =>
      (BatchFits shared.header batch batch.accepted (index + 1) ∧ index < batch.accepted ∧
        batch.validated[index]? = some length) ∧
      shared.Copied batch.copied (batch.slot index) length
  | _ => True

theorem TxShared.Copied.grows {shared other : TxShared} {serial slot length : Nat}
    (copied : shared.Copied serial slot length) (grows : shared.copies <+: other.copies) :
    other.Copied serial slot length := by
  obtain ⟨copy, found, same⟩ := copied
  obtain ⟨rest, isCopies⟩ := grows
  obtain ⟨below, -⟩ := List.getElem?_eq_some_iff.mp found
  refine ⟨copy, ?_, same⟩
  rw [← isCopies, List.getElem?_append_left below, found]

theorem BatchFits.transport {header other : BatchHeader} {batch : TxBatch}
    {checked position : Nat} (fits : BatchFits header batch checked position)
    (same : ∀ index, position ≤ index → index < checked →
      other.txLengths index = header.txLengths index) :
    BatchFits other batch checked position := by
  refine ⟨fits.small, fits.count, fits.valid, ?_⟩
  intro index above below
  rw [fits.held index above below, same index above below]

/-- A thread does not notice changes to lengths it does not await. -/
theorem Fits.transport {shared other : TxShared} {thread : TxThread} (fits : Fits shared thread)
    (same : ∀ index < lunaNetBatchSlots, Awaits thread index →
      other.header.txLengths index = shared.header.txLengths index)
    (grows : shared.copies <+: other.copies) : Fits other thread := by
  cases thread with
  | validate batch position =>
      refine ⟨fits.1.transport ?_, fits.2⟩
      intro index _ below
      exact same index (by have := fits.1.small; have := fits.2; omega) below
  | copyLength batch position =>
      refine ⟨fits.1.transport ?_, fits.2⟩
      intro index above below
      exact same index (by have := fits.1.small; omega) ⟨above, below⟩
  | copyData batch position length =>
      refine ⟨fits.1.transport ?_, fits.2⟩
      intro index above below
      exact same index (by have := fits.1.small; omega) ⟨above, below⟩
  | storeLength batch position length =>
      obtain ⟨⟨batchFits, inside, value⟩, copied⟩ := fits
      refine ⟨⟨batchFits.transport ?_, inside, value⟩, copied.grows grows⟩
      intro index above below
      exact same index (by have := batchFits.small; omega) ⟨above, below⟩
  | _ => exact fits

theorem fits_batchReturn (shared : TxShared) (caller : TxCaller) (result : Option Nat) :
    Fits shared (batchReturn caller result) := by
  unfold batchReturn
  split <;> trivial

theorem fits_serviceTxBatch (shared : TxShared) (caller : TxCaller) (requested : Nat) :
    Fits shared (serviceTxBatch caller requested) := by
  unfold serviceTxBatch
  split
  next refused => exact fits_batchReturn _ _ _
  next accepted => exact Nat.le_of_not_lt fun above => accepted (.inr above)

theorem fits_serviceTx (shared : TxShared) (length : Nat) : Fits shared (serviceTx length) := by
  unfold serviceTx
  split <;> trivial

/-- What one step of a TX thread does to everything the invariant speaks about. -/
structure StepSpec (shared : TxShared) (thread : TxThread) (after : TxShared) (next : TxThread) :
    Prop where
  fits : Fits after next
  lengths : after.header.txLengths = shared.header.txLengths ∨
    ∃ length, thread = .singleLength length ∧
      after.header.txLengths = Function.update shared.header.txLengths 0 length
  grows : shared.copies <+: after.copies
  safe : shared.SafeCopies → after.SafeCopies

theorem StepSpec.unchanged {shared : TxShared} {thread next : TxThread}
    (fits : Fits shared next) : StepSpec shared thread shared next :=
  ⟨fits, .inl rfl, List.prefix_rfl, id⟩

theorem validate_spec {shared after : TxShared} {batch : TxBatch} {index : Nat} {next : TxThread}
    (fits : Fits shared (.validate batch index))
    (moved : txStep shared (.validate batch index) = some (after, next)) :
    StepSpec shared (.validate batch index) after next := by
  simp only [txStep] at moved
  obtain ⟨batchFits, inside⟩ := fits
  split at moved
  next valid =>
    cases moved
    apply StepSpec.unchanged
    have extended : BatchFits shared.header
        { batch with validated := batch.validated ++ [shared.header.txLengths index] }
        (index + 1) 0 := by
      have count := batchFits.count
      refine ⟨batchFits.small, by simp [count], ?_, ?_⟩
      · intro position below
        by_cases earlier : position < index
        · simpa [List.getElem?_append_left (by omega : position < batch.validated.length)]
            using batchFits.valid position earlier
        · have here : position = index := by omega
          subst here
          exact ⟨_, by simp [← count], valid⟩
      · intro position _ below
        by_cases earlier : position < index
        · simpa [List.getElem?_append_left (by omega : position < batch.validated.length)]
            using batchFits.held position (Nat.zero_le _) earlier
        · have here : position = index := by omega
          subst here
          simp [← count]
    split
    next more => exact ⟨extended, more⟩
    next last =>
      have finished : index + 1 = batch.accepted := by omega
      rw [finished] at extended
      exact ⟨extended, by simp only; omega⟩
  next invalid =>
    cases moved
    exact .unchanged (fits_batchReturn _ _ _)

theorem copyData_spec {shared after : TxShared} {batch : TxBatch} {index length : Nat}
    {next : TxThread} (fits : Fits shared (.copyData batch index length))
    (moved : txStep shared (.copyData batch index length) = some (after, next)) :
    StepSpec shared (.copyData batch index length) after next := by
  simp only [txStep, Option.some.injEq, Prod.mk.injEq] at moved
  obtain ⟨rfl, rfl⟩ := moved
  obtain ⟨batchFits, inside, value⟩ := fits
  refine ⟨⟨⟨⟨batchFits.small, batchFits.count, batchFits.valid, batchFits.held⟩, inside, value⟩,
      ⟨index, batch.slot index, length, batch.validated[index]?⟩, List.getElem?_concat_length,
        rfl, rfl⟩, .inl rfl, List.prefix_append _ _, ?_⟩
  rintro ⟨copied, stored⟩
  refine ⟨?_, ?_⟩
  · intro copy member
    rcases List.mem_append.mp member with earlier | latest
    · exact copied copy earlier
    · obtain ⟨checked, isChecked, valid⟩ := batchFits.valid index inside
      have same : length = checked := by
        rw [value] at isChecked
        exact Option.some.inj isChecked
      simp only [List.mem_singleton] at latest
      subst latest
      have bound := batchFits.small
      exact ⟨by simp only; omega, by simpa [same] using valid, value⟩
  · intro entry member
    exact (stored entry member).grows (List.prefix_append _ _)

theorem storeLength_spec {shared after : TxShared} {batch : TxBatch} {index length : Nat}
    {next : TxThread} (fits : Fits shared (.storeLength batch index length))
    (moved : txStep shared (.storeLength batch index length) = some (after, next)) :
    StepSpec shared (.storeLength batch index length) after next := by
  simp only [txStep, Option.some.injEq, Prod.mk.injEq] at moved
  obtain ⟨rfl, rfl⟩ := moved
  obtain ⟨⟨batchFits, inside, value⟩, copied⟩ := fits
  refine ⟨?_, .inl rfl, List.prefix_rfl, ?_⟩
  · split
    next more => exact ⟨batchFits, more⟩
    next last => trivial
  · rintro ⟨safe, stored⟩
    refine ⟨safe, ?_⟩
    intro entry member
    rcases List.mem_append.mp member with earlier | latest
    · exact stored entry earlier
    · simp only [List.mem_singleton] at latest
      subst latest
      exact copied

theorem txStep_spec {shared after : TxShared} {thread next : TxThread}
    (fits : Fits shared thread) (moved : txStep shared thread = some (after, next)) :
    StepSpec shared thread after next := by
  cases thread with
  | validate batch index => exact validate_spec fits moved
  | copyData batch index length => exact copyData_spec fits moved
  | storeLength batch index length => exact storeLength_spec fits moved
  | copyLength batch index =>
      simp only [txStep, Option.some.injEq, Prod.mk.injEq] at moved
      obtain ⟨rfl, rfl⟩ := moved
      obtain ⟨batchFits, inside⟩ := fits
      refine .unchanged ⟨⟨batchFits.small, batchFits.count, batchFits.valid, ?_⟩, inside,
        batchFits.held index (Nat.le_refl _) inside⟩
      intro position above below
      exact batchFits.held position (by omega) below
  | batchTail caller requested head =>
      simp only [txStep, Option.some.injEq, Prod.mk.injEq] at moved
      obtain ⟨rfl, rfl⟩ := moved
      apply StepSpec.unchanged
      split
      next none => trivial
      next some =>
        have requestedSmall : requested ≤ lunaNetBatchSlots := fits
        refine ⟨⟨?_, rfl, by simp, by simp⟩, Nat.pos_of_ne_zero some⟩
        exact Nat.le_trans (Nat.min_le_left _ _) requestedSmall
  | singleLength length =>
      simp only [txStep, Option.some.injEq, Prod.mk.injEq] at moved
      obtain ⟨rfl, rfl⟩ := moved
      exact ⟨fits_serviceTxBatch _ _ _, .inr ⟨length, rfl, rfl⟩, List.prefix_rfl, id⟩
  | idle => simp [txStep] at moved
  | _ =>
      simp only [txStep, Option.some.injEq, Prod.mk.injEq] at moved
      obtain ⟨rfl, rfl⟩ := moved
      refine ⟨?_, .inl rfl, List.prefix_rfl, id⟩
      first
        | trivial
        | exact fits
        | exact fits_batchReturn _ _ _
        | exact fits_serviceTxBatch _ _ _
        | (split <;> first | trivial | exact fits | exact fits_batchReturn _ _ _)

structure HostileInv (state : HostileState) : Prop where
  fits : ∀ agent, Fits state.shared (state.threads agent)
  safe : state.shared.SafeCopies

theorem enter_inv {state target : HostileState} {agent : Agent} {thread : TxThread}
    (inv : HostileInv state) (fits : Fits state.shared thread)
    (entered : state.enter agent thread = some target) : HostileInv target := by
  unfold HostileState.enter at entered
  split at entered
  next idle =>
    cases entered
    refine ⟨fun other => ?_, inv.safe⟩
    by_cases same : other = agent
    · subst same
      simpa using fits
    · simpa [Function.update_of_ne same] using inv.fits other
  next busy => cases entered

theorem hostileNext_inv (state : HostileState) (action : HostileAction) (target : HostileState)
    (inv : HostileInv state) (held : LengthsHeld state action)
    (moved : hostileNext state action = some target) : HostileInv target := by
  cases action with
  | child header window =>
      cases moved
      exact ⟨fun agent => (inv.fits agent).transport
        (fun index below awaited => held agent index below awaited) List.prefix_rfl, inv.safe⟩
  | netTx length => exact enter_inv inv (fits_serviceTx _ _) moved
  | netTxBatch requested => exact enter_inv inv (fits_serviceTxBatch _ _ _) moved
  | notification => exact enter_inv inv (show Fits _ .notifyActive from trivial) moved
  | timeoutRetry => exact enter_inv inv (show Fits _ .retryRequest from trivial) moved
  | environment tail stressGate childActive =>
      cases moved
      exact ⟨fun agent => (inv.fits agent).transport (fun _ _ _ => rfl) List.prefix_rfl,
        inv.safe⟩
  | step agent =>
      obtain ⟨⟨after, next⟩, stepped, rfl⟩ := Option.map_eq_some_iff.mp moved
      have spec := txStep_spec (inv.fits agent) stepped
      refine ⟨fun other => ?_, spec.safe inv.safe⟩
      by_cases same : other = agent
      · subst same
        simpa using spec.fits
      · simp only [Function.update_of_ne same]
        refine (inv.fits other).transport ?_ spec.grows
        intro index _ awaited
        rcases spec.lengths with unchanged | ⟨length, at_, updated⟩
        · rw [unchanged]
        · simp only [LengthsHeld, at_] at held
          rw [updated]
          by_cases first : index = 0
          · subst first
            simpa using held other awaited
          · exact Function.update_of_ne first _ _

/-! ## Results -/

/-- In every run in which no awaited length is changed, the manager copies only
validated lengths from slots of the window, and stores the length it copied. -/
theorem txCopies_safe_of_lengthsHeld (state : HostileState)
    (reached : hostileSystem.Reach LengthsHeld state) : state.shared.SafeCopies := by
  have inv : HostileInv state := by
    refine System.Reach.invariant _ ?_ hostileNext_inv reached
    rintro start ⟨idle, copies, stores⟩
    refine ⟨fun agent => ?_, ?_, ?_⟩
    · simp [idle agent, Fits]
    · simp [copies]
    · simp [stores]
  exact inv.safe

/-- A header that asks for one packet of the given length. -/
def onePacketHeader (length : Nat) : BatchHeader :=
  ⟨1, 0, 1, 0, 0, 0, 0, 0, fun _ => length, fun _ => 0⟩

/-- The manager with an empty ring and one 100-byte packet submitted. -/
def hostileStart : HostileState :=
  ⟨⟨onePacketHeader 100, fun _ _ => 0, fun _ => ⟨0, fun _ => 0⟩, 0, 0, false, true, false, false,
    [], [], []⟩, fun _ => .idle⟩

theorem txCopies_safe_honest :
    ∃ state, hostileSystem.Reach LengthsHeld state ∧
      state.shared.stores = [⟨0, 0, 100⟩] ∧ state.shared.SafeCopies := by
  obtain ⟨state, reached, stores⟩ := System.exists_reach_of_exec hostileSystem LengthsHeld
    hostileStart (.notification :: List.replicate 12 (.step .poll))
    (fun state => state.shared.stores == [⟨0, 0, 100⟩])
    ⟨fun _ => rfl, rfl, rfl⟩ (by decide)
  exact ⟨state, reached, by simpa using stores, txCopies_safe_of_lengthsHeld state reached⟩

/-- The child raises the length of packet 0 from 100 to 4096 after it was
validated; the copy loop reads it again and copies 4096 bytes into a 2048-byte
slot. -/
theorem txCopies_unsafe :
    ¬ ∀ state, hostileSystem.Reachable state → state.shared.SafeCopies := by
  intro always
  obtain ⟨state, reached, overrun⟩ := System.exists_reach_of_exec hostileSystem
    (fun _ _ => True) hostileStart
    (.notification :: List.replicate 9 (.step .poll) ++
      [.child (onePacketHeader 4096) (fun _ _ => 0), .step .poll, .step .poll])
    (fun state => state.shared.copies == [⟨0, 0, 4096, some 100⟩])
    ⟨fun _ => rfl, rfl, rfl⟩ (by decide)
  have copies : state.shared.copies = [⟨0, 0, 4096, some 100⟩] := by simpa using overrun
  have safe := (always state reached).1 ⟨0, 0, 4096, some 100⟩ (by simp [copies])
  simp [TxCopy.Safe] at safe

end Luna.Net
