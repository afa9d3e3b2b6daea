import Luna.Disk.Pipeline

/-!
# What a flush acknowledges

A WRITE leaves its chunks in the stream, marked with its number.  A FLUSH or
READ passes the gate only when every batch published before its exchange has
been answered without an error, so what it acknowledges contains all chunks of
the WRITEs that had returned when it started.
-/

namespace Luna.Disk

/-! ## Chunks of a write -/

/-- The slots are the chunks, in order, of a write of `bytes` at `offset`. -/
def Splits : Nat → List UInt8 → List Slot → Prop
  | _, bytes, [] => bytes = []
  | offset, bytes, slot :: rest => slot.event = .write ∧ slot.offset = offset ∧
      ∃ later, bytes = slot.data ++ later ∧ Splits (offset + slot.data.length) later rest

def slotsOf (writer : Nat) (slots : List Slot) : List Slot :=
  slots.filter fun slot => slot.writer = writer

theorem Splits.append {offset : Nat} {bytes : List UInt8} {slots : List Slot}
    (splits : Splits offset bytes slots) (slot : Slot) (event : slot.event = .write)
    (next : slot.offset = offset + bytes.length) :
    Splits offset (bytes ++ slot.data) (slots ++ [slot]) := by
  induction slots generalizing offset bytes with
  | nil =>
      cases splits
      exact ⟨event, by simpa using next, [], by simp, rfl⟩
  | cons first rest inductionHypothesis =>
      obtain ⟨isWrite, starts, later, rfl, splits⟩ := splits
      refine ⟨isWrite, starts, later ++ slot.data, by simp, inductionHypothesis splits ?_⟩
      simp only [List.length_append] at next
      omega

theorem slotsOf_append_other {writer : Nat} {slots tail : List Slot}
    (other : ∀ slot ∈ tail, slot.writer ≠ writer) :
    slotsOf writer (slots ++ tail) = slotsOf writer slots := by
  have none : tail.filter (fun slot => slot.writer = writer) = [] := by
    simpa [List.filter_eq_nil_iff] using other
  simp [slotsOf, none]

/-- All chunks of the writes are in batches at the front of the answered ones,
and each of these succeeded. -/
def Durable (done : List (List Slot × Bool)) (before : List (Nat × Nat × List UInt8)) : Prop :=
  ∃ front, front <+: done ∧ (∀ entry ∈ front, entry.2 = true) ∧
    ∀ write ∈ before, Splits write.2.1 write.2.2 (slotsOf write.1 (front.flatMap Prod.fst))

theorem Durable.mono {done later : List (List Slot × Bool)}
    {before : List (Nat × Nat × List UInt8)} (durable : Durable done before)
    (grows : done <+: later) : Durable later before := by
  obtain ⟨front, isPrefix, succeeded, written⟩ := durable
  exact ⟨front, isPrefix.trans grows, succeeded, written⟩

/-! ## Progress of a request -/

/-- What is left to write are the buffers, from `offset` on. -/
def Filled (ticket : Ticket) (stream : List Slot) (offset : Nat) (buf : List (List UInt8)) : Prop :=
  ∃ written, ticket.request.buffers.flatten = written ++ buf.flatten ∧
    offset = ticket.request.offset + written.length ∧
    Splits ticket.request.offset written (slotsOf ticket.writer stream)

def Complete (ticket : Ticket) (stream : List Slot) : Prop :=
  Splits ticket.request.offset ticket.request.buffers.flatten (slotsOf ticket.writer stream)

/-- The batches a flush waits for hold every write it has to acknowledge. -/
def Snapped (ticket : Ticket) (covered : List Slot) : Prop :=
  ∀ write ∈ ticket.before, Splits write.2.1 write.2.2 (slotsOf write.1 covered)

def Cleared (ticket : Ticket) (done : List (List Slot × Bool)) : Prop :=
  ticket.late = false ∧ Durable done ticket.before

/-- What a request has achieved when it stands at a call; `covered` are the
slots of the batches that flushes have exchanged so far. -/
def Progress (ticket : Ticket) (stream : List Slot) (done : List (List Slot × Bool))
    (covered : List Slot) : DiskCall → Prop
  | .idle => True
  | .gateDown _ | .flushLock _ | .flushTake _ | .exchange _ => ticket.request.type ≠ .write
  | .flushUnlock _ _ | .flushWait _ _ => ticket.request.type ≠ .write ∧ Snapped ticket covered
  | .gateUp _ failed => ticket.request.type ≠ .write ∧ (failed = false → Cleared ticket done)
  | .publishSequence _ user | .publishReady _ user | .publishSignal _ user =>
      match user with
      | .flush _ => ticket.request.type ≠ .write
      | .write offset buf => ticket.request.type = .write ∧ Filled ticket stream offset buf
      | .submit => ticket.request.type ≠ .write ∧ Cleared ticket done
  | .claimDown user | .claimScan user _ =>
      match user with
      | .flush => ticket.request.type ≠ .write ∧ Cleared ticket done
      | .write offset buf => ticket.request.type = .write ∧ Filled ticket stream offset buf
  | .build _ | .submitDown _ | .submitCheck _ | .submitFree _ | .submitUp _ | .readLock _ _ _
  | .readServe _ _ _ | .readCopy _ _ _ | .readUnlock _ _ _ _ =>
      ticket.request.type ≠ .write ∧ Cleared ticket done
  | .writeLock offset buf | .fill offset buf =>
      ticket.request.type = .write ∧ Filled ticket stream offset buf
  | .writeUnlock failed => ticket.request.type = .write ∧
      (failed = false → Complete ticket stream)
  | .writeError => ticket.request.type = .write ∧ Complete ticket stream
  | .finish status _ => (status = .unsup → ticket.request.type = .other) ∧ (status = .ok →
      (ticket.request.type = .write → Complete ticket stream) ∧
      (ticket.request.type ≠ .write → Cleared ticket done))

/-- Waiting for the completions it took at its exchange. -/
def DiskCall.exchanged : DiskCall → Bool
  | .flushUnlock _ _ | .flushWait _ _ => true
  | _ => false

theorem DiskCall.exchanged_gated {call : DiskCall} (waiting : call.exchanged = true) :
    call.gated = true := by
  cases call <;> simp_all [DiskCall.exchanged, DiskCall.gated]

theorem Progress.frame {ticket : Ticket} {stream later : List Slot}
    {done answered : List (List Slot × Bool)} {covered covers : List Slot} {call : DiskCall}
    (progress : Progress ticket stream done covered call)
    (own : slotsOf ticket.writer later = slotsOf ticket.writer stream) (grows : done <+: answered)
    (same : call.exchanged = true → covers = covered) :
    Progress ticket later answered covers call := by
  have filled : ∀ {offset buf}, Filled ticket stream offset buf →
      Filled ticket later offset buf := by
    rintro offset buf ⟨written, rest, starts, splits⟩
    exact ⟨written, rest, starts, own ▸ splits⟩
  have complete : Complete ticket stream → Complete ticket later := by
    intro splits
    unfold Complete at splits ⊢
    rwa [own]
  have cleared : Cleared ticket done → Cleared ticket answered :=
    fun ⟨onTime, durable⟩ => ⟨onTime, durable.mono grows⟩
  cases call <;> simp only [Progress] at progress ⊢
  case gateDown | flushLock | flushTake | exchange => exact progress
  case flushUnlock | flushWait =>
    rw [same rfl]
    exact progress
  case gateUp => exact ⟨progress.1, fun passed => cleared (progress.2 passed)⟩
  case publishSequence index user | publishReady index user | publishSignal index user =>
    cases user with
    | flush user => exact progress
    | write offset buf => exact ⟨progress.1, filled progress.2⟩
    | submit => exact ⟨progress.1, cleared progress.2⟩
  case claimDown user | claimScan user _ =>
    cases user with
    | flush => exact ⟨progress.1, cleared progress.2⟩
    | write offset buf => exact ⟨progress.1, filled progress.2⟩
  case writeLock | fill => exact ⟨progress.1, filled progress.2⟩
  case writeUnlock => exact ⟨progress.1, fun done => complete (progress.2 done)⟩
  case writeError => exact ⟨progress.1, complete progress.2⟩
  case finish =>
    refine ⟨progress.1, fun ok => ?_⟩
    exact ⟨fun isWrite => complete ((progress.2 ok).1 isWrite),
      fun notWrite => cleared ((progress.2 ok).2 notWrite)⟩
  all_goals exact ⟨progress.1, cleared progress.2⟩

/-! ## The invariant -/

variable {Thread : Type}

/-- The slots of the batches that flushes have exchanged so far. -/
def DiskState.covered [Fintype Thread] (state : DiskState Thread) : List Slot :=
  (state.pipe.published.take state.exchanged).flatten

structure Tracked [Fintype Thread] (state : DiskState Thread) : Prop where
  fresh : ∀ slot ∈ state.stream, slot.writer < state.writes
  writers : ∀ thread, state.calls thread ≠ .idle → (state.tickets thread).writer < state.writes
  distinct : ∀ thread other, thread ≠ other → state.calls thread ≠ .idle →
    state.calls other ≠ .idle → (state.tickets thread).writer ≠ (state.tickets other).writer
  old : ∀ write ∈ state.returned, write.1 < state.writes ∧
    ∀ thread, state.calls thread ≠ .idle → write.1 ≠ (state.tickets thread).writer
  returned : ∀ write ∈ state.returned, Splits write.2.1 write.2.2 (slotsOf write.1 state.stream)
  before : ∀ thread, state.calls thread ≠ .idle →
    ∀ write ∈ (state.tickets thread).before, write ∈ state.returned
  late : ∀ thread, state.calls thread ≠ .idle → (state.tickets thread).late = true →
    state.asyncError = true
  progress : ∀ thread, Progress (state.tickets thread) state.stream state.done state.covered
    (state.calls thread)
  acknowledged : ∀ entry ∈ state.acknowledged, entry.2 = false ∧ Durable state.done entry.1
  log : ∀ entry ∈ state.log, entry.status = .unsup → entry.request.type = .other

/-! ## Published batches -/

theorem published_store (pipe : Pipe Thread) (index : BatchIndex) (batch : Batch Thread)
    (same : index ∈ pipe.queue → batch.slots = (pipe.batches index).slots) :
    Pipe.published { pipe with batches := Function.update pipe.batches index batch } =
      pipe.published := by
  unfold Pipe.published
  congr 1
  refine List.map_congr_left fun other member => ?_
  by_cases here : other = index
  · subst here
    simpa using same member
  · simp [Function.update_of_ne here]

section Steps

variable [Fintype Thread] [DecidableEq Thread] {size : Nat} {state target : DiskState Thread}
  {thread : Thread}

/-- What a step of a request leaves alone: published batches stay published,
and only chunks of its own are added to the stream. -/
structure Quiet (state target : DiskState Thread) (thread : Thread) : Prop where
  others : ∀ other, other ≠ thread → target.calls other = state.calls other
  tickets : target.tickets = state.tickets
  writes : target.writes = state.writes
  returned : target.returned = state.returned
  acknowledged : target.acknowledged = state.acknowledged
  log : target.log = state.log
  asyncError : target.asyncError = state.asyncError
  done : target.done = state.done
  stream : ∃ tail, target.stream = state.stream ++ tail ∧
    ∀ slot ∈ tail, slot.writer = (state.tickets thread).writer
  published : state.pipe.published <+: target.pipe.published

theorem Quiet.enter {call : DiskCall} (same : target.calls = Function.update state.calls thread call)
    (tickets : target.tickets = state.tickets) (writes : target.writes = state.writes)
    (returned : target.returned = state.returned)
    (acknowledged : target.acknowledged = state.acknowledged) (log : target.log = state.log)
    (asyncError : target.asyncError = state.asyncError) (done : target.done = state.done)
    (stream : target.stream = state.stream)
    (published : state.pipe.published = target.pipe.published) : Quiet state target thread where
  others other different := by rw [same, Function.update_of_ne different]
  tickets := tickets
  writes := writes
  returned := returned
  acknowledged := acknowledged
  log := log
  asyncError := asyncError
  done := done
  stream := ⟨[], by simpa using stream, by simp⟩
  published := published ▸ List.prefix_rfl

theorem publish_quiet (index : BatchIndex) (user : PublishUser) :
    Quiet state (state.publish thread index user) thread := by
  unfold DiskState.publish
  cases auto : user.auto with
  | true =>
      rw [if_pos rfl]
      refine {
        others := fun other different => Function.update_of_ne different _ _
        tickets := rfl
        writes := rfl
        returned := rfl
        acknowledged := rfl
        log := rfl
        asyncError := rfl
        done := rfl
        stream := ⟨[], by simp [DiskState.setBatch, DiskState.enter], by simp⟩
        published := ?_ }
      have stored := published_store state.pipe index
        { state.batches index with
          sequence := state.sequence, failed := true, autoRelease := true, role := .queued }
        (fun _ => rfl)
      refine ⟨[(state.batches index).slots], ?_⟩
      rw [← stored]
      simp [Pipe.published, DiskState.pipe, DiskState.setBatch, DiskState.enter]
  | false =>
      rw [if_neg Bool.false_ne_true]
      exact Quiet.enter rfl rfl rfl rfl rfl rfl rfl rfl rfl
        (published_store state.pipe _ _ (by intro; rfl)).symm

theorem stepCall_quiet (owned : Owned state.holdings)
    (running : ∀ status data, state.calls thread ≠ .finish status data)
    (moved : stepCall size state thread = some target) : Quiet state target thread := by
  have fits := owned.calls thread
  simp only [DiskState.holdings] at fits
  unfold stepCall at moved
  cases at_ : state.calls thread <;> simp only [at_] at moved fits
  case idle => cases moved
  case finish status data => exact absurd at_ (running status data)
  case publishSequence index user =>
    cases moved
    exact publish_quiet index user
  case publishReady index user =>
    cases moved
    exact Quiet.enter rfl rfl rfl rfl rfl rfl rfl rfl rfl
      (published_store state.pipe _ _ (by intro; rfl)).symm
  case claimScan user position =>
    split at moved
    next inside =>
      split at moved
      next free =>
        cases moved
        have outside : (⟨position, inside⟩ : BatchIndex) ∉ state.queue :=
          owned.not_queued ((owned.roles _).free free) (by simp)
        cases user <;> exact Quiet.enter rfl rfl rfl rfl rfl rfl rfl rfl rfl
          (published_store state.pipe _ _ fun member => absurd member outside).symm
      next => cases moved; exact Quiet.enter rfl rfl rfl rfl rfl rfl rfl rfl rfl rfl
    next => cases moved; exact Quiet.enter rfl rfl rfl rfl rfl rfl rfl rfl rfl rfl
  case build index =>
    cases moved
    exact Quiet.enter rfl rfl rfl rfl rfl rfl rfl rfl rfl (published_store state.pipe _ _
      fun member => absurd member (owned.not_queued fits (by simp))).symm
  case submitDown index =>
    split at moved
    next => cases moved
    next =>
      cases moved
      exact Quiet.enter rfl rfl rfl rfl rfl rfl rfl rfl rfl
        (published_store state.pipe _ _ (by intro; rfl)).symm
  case submitFree index =>
    cases moved
    exact Quiet.enter rfl rfl rfl rfl rfl rfl rfl rfl rfl (published_store state.pipe _ _
      fun member => absurd member (owned.not_queued fits.1 (by simp))).symm
  case fill offset buf =>
    split at moved
    next => cases moved; exact Quiet.enter rfl rfl rfl rfl rfl rfl rfl rfl rfl rfl
    next => cases moved; exact Quiet.enter rfl rfl rfl rfl rfl rfl rfl rfl rfl rfl
    next byte bytes rest =>
      split at moved
      next => cases moved; exact Quiet.enter rfl rfl rfl rfl rfl rfl rfl rfl rfl rfl
      next index pending =>
        cases moved
        have outside : index ∉ state.queue :=
          owned.not_queued (owned.pending index pending) (by simp)
        refine {
          others := fun other different => Function.update_of_ne different _ _
          tickets := rfl
          writes := rfl
          returned := rfl
          acknowledged := rfl
          log := rfl
          asyncError := rfl
          done := rfl
          stream := ⟨_, rfl, by simp⟩
          published := ?_ }
        have stored := published_store state.pipe index
          { state.batches index with
            slots := (state.batches index).slots ++ [⟨.write, offset,
              (byte :: bytes).take lunaDiskBatchSlotSize, (state.tickets thread).writer⟩] }
          fun member => absurd member outside
        rw [← stored]
        exact List.prefix_rfl
  case flushWait user remaining =>
    cases remaining with
    | zero => cases moved; exact Quiet.enter rfl rfl rfl rfl rfl rfl rfl rfl rfl rfl
    | succ remaining =>
        simp only at moved
        split at moved
        next => cases moved
        next => cases moved; exact Quiet.enter rfl rfl rfl rfl rfl rfl rfl rfl rfl rfl
  case flushTake user =>
    split at moved
    next => cases moved; exact Quiet.enter rfl rfl rfl rfl rfl rfl rfl rfl rfl rfl
    next =>
      split at moved <;> cases moved <;> exact Quiet.enter rfl rfl rfl rfl rfl rfl rfl rfl rfl rfl
  case gateDown | claimDown =>
    split at moved
    next => cases moved
    next => cases moved; exact Quiet.enter rfl rfl rfl rfl rfl rfl rfl rfl rfl rfl
  case flushLock | writeLock | readLock =>
    split at moved
    next => cases moved; exact Quiet.enter rfl rfl rfl rfl rfl rfl rfl rfl rfl rfl
    next => cases moved
  all_goals
    cases moved
    exact Quiet.enter rfl rfl rfl rfl rfl rfl rfl rfl rfl rfl

omit [DecidableEq Thread] in
/-- Flushes have exchanged published batches only. -/
theorem Flow.exchanged_le (flow : Flow state.pipe) :
    state.exchanged ≤ state.pipe.published.length := by
  have counts := flow.counted.counts
  simp only [DiskState.pipe] at counts
  simp only [Pipe.published, DiskState.pipe, List.length_append, List.length_map]
  omega

omit [DecidableEq Thread] in
theorem covered_eq (flow : Flow state.pipe)
    (published : state.pipe.published <+: target.pipe.published)
    (exchanged : target.exchanged = state.exchanged) : target.covered = state.covered := by
  obtain ⟨tail, grown⟩ := published
  unfold DiskState.covered
  rw [exchanged, ← grown, List.take_append_of_le_length flow.exchanged_le]

theorem Tracked.move (inv : Tracked state) (flow : Flow state.pipe)
    (quiet : Quiet state target thread) (active : state.calls thread ≠ .idle)
    (exchanged : ∀ other, other ≠ thread → (state.calls other).exchanged = true →
      target.exchanged = state.exchanged)
    (progress : Progress (state.tickets thread) target.stream target.done target.covered
      (target.calls thread)) : Tracked target := by
  obtain ⟨tail, stream, own⟩ := quiet.stream
  have running : ∀ other, target.calls other ≠ .idle → state.calls other ≠ .idle := by
    intro other busy
    by_cases here : other = thread
    · rwa [here]
    · rwa [← quiet.others other here]
  have apart : ∀ other, other ≠ thread → state.calls other ≠ .idle →
      slotsOf (state.tickets other).writer target.stream =
        slotsOf (state.tickets other).writer state.stream := by
    intro other different busy
    rw [stream]
    refine slotsOf_append_other fun slot member => ?_
    rw [own slot member]
    exact inv.distinct thread other (Ne.symm different) active busy
  exact {
    fresh := by
      rw [stream, quiet.writes]
      intro slot member
      rcases List.mem_append.mp member with member | member
      · exact inv.fresh slot member
      · rw [own slot member]
        exact inv.writers thread active
    writers := fun other busy => by
      rw [quiet.tickets, quiet.writes]
      exact inv.writers other (running other busy)
    distinct := fun first second different firstBusy secondBusy => by
      rw [quiet.tickets]
      exact inv.distinct first second different (running first firstBusy) (running second secondBusy)
    old := by
      rw [quiet.returned, quiet.writes, quiet.tickets]
      exact fun write member => ⟨(inv.old write member).1,
        fun other busy => (inv.old write member).2 other (running other busy)⟩
    returned := by
      rw [quiet.returned, stream]
      intro write member
      rw [slotsOf_append_other]
      · exact inv.returned write member
      · intro slot isNew
        rw [own slot isNew]
        exact ((inv.old write member).2 thread active).symm
    before := fun other busy => by
      rw [quiet.tickets, quiet.returned]
      exact inv.before other (running other busy)
    late := fun other busy => by
      rw [quiet.tickets, quiet.asyncError]
      exact inv.late other (running other busy)
    progress := fun other => by
      rw [quiet.tickets]
      by_cases here : other = thread
      · rwa [here]
      · rw [quiet.others other here]
        by_cases idle : state.calls other = .idle
        · rw [idle]
          trivial
        · refine (inv.progress other).frame (apart other here idle)
            (quiet.done ▸ List.prefix_rfl) fun waiting => ?_
          exact covered_eq flow quiet.published (exchanged other here waiting)
    acknowledged := by
      rw [quiet.acknowledged, quiet.done]
      exact inv.acknowledged
    log := by
      rw [quiet.log]
      exact inv.log }

omit [DecidableEq Thread] [Fintype Thread] in
theorem readNext_progress {ticket : Ticket} {stream : List Slot} {done : List (List Slot × Bool)}
    {covered : List Slot} (kind : ticket.request.type ≠ .write) (cleared : Cleared ticket done)
    (offset : Nat) (lengths : List Nat) (data : List UInt8) :
    Progress ticket stream done covered (readNext offset lengths data) := by
  induction lengths with
  | nil => exact ⟨by simp, fun _ => ⟨fun isWrite => absurd isWrite kind, fun _ => cleared⟩⟩
  | cons length rest inductionHypothesis =>
      cases length with
      | zero => exact inductionHypothesis
      | succ length => exact ⟨kind, cleared⟩

omit [DecidableEq Thread] in
/-- Nobody waits for a completion besides the holder of the flush gate. -/
theorem Owned.no_waits (owned : Owned state.holdings) {user : FlushUser}
    (at_ : state.calls thread = .flushWait user 0) :
    Tally.total DiskCall.waits state.calls = 0 := by
  have ours : state.gateHolder = some thread :=
    owned.gated thread (by simp [DiskState.holdings, at_, DiskCall.gated])
  rw [Tally.total_eq_zero_iff]
  intro other
  by_cases here : other = thread
  · rw [here, at_]
    rfl
  · by_contra waits
    have gated : (state.calls other).gated = true := by
      cases call : state.calls other <;> simp [call, DiskCall.waits] at waits <;> rfl
    have theirs : state.gateHolder = some other := owned.gated other gated
    rw [ours] at theirs
    exact here (Option.some.inj theirs).symm

omit [DecidableEq Thread] in
/-- The last completion has arrived: everything exchanged so far is answered,
and answered without an error unless the flag says otherwise. -/
theorem wait_over (owned : Owned state.holdings) (flow : Flow state.pipe) (inv : Tracked state)
    {user : FlushUser} (at_ : state.calls thread = .flushWait user 0)
    (noError : state.asyncError = false) : Cleared (state.tickets thread) state.done := by
  have progress := inv.progress thread
  simp only [at_, Progress] at progress
  have busy : state.calls thread ≠ .idle := by simp [at_]
  have noWaits := owned.no_waits at_
  have waiting := flow.counted.waiting
  have completions := flow.counted.completions
  have answered := flow.counted.answered
  have errors := flow.counted.errors
  simp only [DiskState.pipe, noWaits] at waiting completions answered errors
  have reported : state.exchanged ≤ state.ups := by omega
  refine ⟨?_, state.done.take state.exchanged, List.take_prefix _ _, fun entry member => ?_,
    fun write member => ?_⟩
  · by_contra isLate
    simp only [Bool.not_eq_false] at isLate
    simpa [noError] using inv.late thread busy isLate
  · by_contra failed
    have early : entry ∈ state.done.take state.ups :=
      (List.take_prefix_take_left reported).subset member
    simpa [noError] using errors entry early (by simpa using failed)
  · have covered : state.covered = (state.done.take state.exchanged).flatMap Prod.fst := by
      unfold DiskState.covered Pipe.published
      rw [List.take_append_of_le_length (by simp [DiskState.pipe]; omega), ← List.map_take,
        List.flatMap_def]
      rfl
    rw [← covered]
    exact progress.2 write member

variable (target) in
omit [DecidableEq Thread] in
theorem exchange_covered (owned : Owned state.holdings) (flow : Flow state.pipe)
    (inv : Tracked state) {user : FlushUser} (at_ : state.calls thread = .exchange user)
    (published : target.pipe.published = state.pipe.published)
    (exchanged : target.exchanged = state.exchanged + state.asyncPending) :
    Snapped (state.tickets thread) target.covered := by
  have pending : state.pendingWrite = none := by
    have fits := owned.calls thread
    simpa only [DiskState.holdings, at_, CallFits] using fits
  have streamed := flow.streamed
  simp only [Streamed, Pipe.pending] at streamed
  have all : target.covered = state.stream := by
    have counts := flow.counted.counts
    unfold DiskState.covered
    rw [published, exchanged, List.take_of_length_le]
    · simpa [DiskState.pipe, pending] using streamed.symm
    · simp only [DiskState.pipe] at counts
      simp only [Pipe.published, DiskState.pipe, List.length_append, List.length_map]
      omega
  intro write member
  rw [all]
  exact inv.returned write (inv.before thread (by simp [at_]) write member)

omit [Fintype Thread] [DecidableEq Thread] in
theorem Filled.chunk {ticket : Ticket} {stream : List Slot} {offset : Nat} {bytes : List UInt8}
    {rest : List (List UInt8)} (filled : Filled ticket stream offset (bytes :: rest)) :
    Filled ticket (stream ++ [⟨.write, offset, bytes.take lunaDiskBatchSlotSize, ticket.writer⟩])
      (offset + (bytes.take lunaDiskBatchSlotSize).length)
      (bytes.drop lunaDiskBatchSlotSize :: rest) := by
  obtain ⟨written, whole, starts, splits⟩ := filled
  refine ⟨written ++ bytes.take lunaDiskBatchSlotSize, ?_, ?_, ?_⟩
  · rw [whole, List.flatten_cons, List.flatten_cons, List.append_assoc,
      ← List.append_assoc (bytes.take _), List.take_append_drop]
  · rw [List.length_append, starts, Nat.add_assoc]
  · have grown := splits.append ⟨.write, offset, bytes.take lunaDiskBatchSlotSize,
      ticket.writer⟩ rfl starts
    simpa [slotsOf] using grown

theorem stepCall_progress (owned : Owned state.holdings) (flow : Flow state.pipe)
    (inv : Tracked state) (running : ∀ status data, state.calls thread ≠ .finish status data)
    (moved : stepCall size state thread = some target) :
    Progress (state.tickets thread) target.stream target.done target.covered
      (target.calls thread) := by
  have progress := inv.progress thread
  have quiet := stepCall_quiet owned running moved
  unfold stepCall at moved
  cases at_ : state.calls thread <;> simp only [at_, Progress] at moved progress
  case idle => cases moved
  case finish status data => exact absurd at_ (running status data)
  case gateDown user =>
    split at moved
    next => cases moved
    next =>
      cases moved
      simpa [DiskState.enter, Progress] using progress
  case flushLock user =>
    split at moved
    next =>
      cases moved
      simpa [DiskState.enter, Progress] using progress
    next => cases moved
  case flushTake user =>
    split at moved
    next =>
      cases moved
      simpa [DiskState.enter, Progress] using progress
    next =>
      split at moved <;> cases moved <;> simpa [DiskState.enter, Progress] using progress
  case publishSequence index user =>
    cases moved
    unfold DiskState.publish
    cases user <;>
      simpa [DiskState.enter, DiskState.setBatch, Progress, PublishUser.auto] using progress
  case publishReady index user =>
    cases moved
    cases user <;> simpa [DiskState.enter, DiskState.setBatch, Progress] using progress
  case publishSignal index user =>
    cases moved
    cases user <;> simpa [DiskState.enter, Progress, PublishUser.resume] using progress
  case exchange user =>
    cases moved
    have covered := exchange_covered { state.enter thread
      (.flushUnlock user state.asyncPending) with
      asyncPending := 0, exchanged := state.exchanged + state.asyncPending }
      owned flow inv at_ rfl rfl
    simpa [DiskState.enter, Progress] using And.intro progress covered
  case flushUnlock user pending =>
    have covered := covered_eq flow quiet.published (by cases moved; rfl)
    cases moved
    rw [covered]
    simpa [DiskState.enter, Progress] using progress
  case flushWait user remaining =>
    have covered := covered_eq flow quiet.published (by
      cases remaining with
      | zero => cases moved; rfl
      | succ remaining =>
          simp only at moved
          split at moved
          next => cases moved
          next => cases moved; rfl)
    cases remaining with
    | zero =>
        cases moved
        refine (by simpa [DiskState.enter, Progress] using
          And.intro progress.1 fun noError => wait_over owned flow inv at_ noError)
    | succ remaining =>
        simp only at moved
        split at moved
        next => cases moved
        next =>
          cases moved
          rw [covered]
          simpa [DiskState.enter, Progress] using progress
  case gateUp user failed =>
    cases moved
    simp only [DiskState.enter, Function.update_self]
    cases failed with
    | true => simp [Progress]
    | false =>
        have cleared := progress.2 rfl
        cases user with
        | flush => exact ⟨progress.1, cleared⟩
        | read offset lengths => exact readNext_progress progress.1 cleared offset lengths []
  case claimDown user =>
    split at moved
    next => cases moved
    next =>
      cases moved
      simpa [DiskState.enter, Progress] using progress
  case claimScan user position =>
    split at moved
    next inside =>
      split at moved
      next =>
        cases moved
        cases user <;> simpa [DiskState.claimed, DiskState.enter, DiskState.setBatch, Progress]
          using progress
      next =>
        cases moved
        simpa [DiskState.enter, Progress] using progress
    next =>
      cases moved
      cases user with
      | flush => simp [DiskState.enter, Progress]
      | write offset buf => simpa [DiskState.enter, Progress] using progress.1
  case build index =>
    cases moved
    simpa [DiskState.enter, DiskState.setBatch, Progress] using progress
  case submitDown index =>
    split at moved
    next => cases moved
    next =>
      cases moved
      simpa [DiskState.enter, DiskState.setBatch, Progress] using progress
  case submitCheck index =>
    cases moved
    simp only [DiskState.enter, Function.update_self]
    split
    next => exact progress
    next => simp [Progress]
  case submitFree index =>
    cases moved
    simpa [DiskState.enter, DiskState.setBatch, Progress] using progress
  case submitUp failed =>
    cases moved
    simp only [DiskState.enter, Function.update_self, Progress]
    refine ⟨?_, fun _ => ⟨fun isWrite => absurd isWrite progress.1, fun _ => progress.2⟩⟩
    split <;> simp
  case writeLock offset buf =>
    split at moved
    next =>
      cases moved
      simpa [DiskState.enter, Progress] using progress
    next => cases moved
  case fill offset buf =>
    split at moved
    next =>
      cases moved
      simp only [DiskState.enter, Function.update_self, Progress, true_implies]
      refine ⟨progress.1, ?_⟩
      obtain ⟨written, whole, _, splits⟩ := progress.2
      unfold Complete
      rw [whole]
      simpa using splits
    next rest =>
      cases moved
      simpa [DiskState.enter, Progress, Filled] using progress
    next byte bytes rest =>
      split at moved
      next =>
        cases moved
        simpa [DiskState.enter, Progress] using progress
      next index pending =>
        cases moved
        have chunk := progress.2.chunk
        simp only [DiskState.fillSlot, DiskState.enter, DiskState.setBatch, Function.update_self]
        split
        next => exact ⟨progress.1, chunk⟩
        next => exact ⟨progress.1, chunk⟩
  case writeUnlock failed =>
    cases moved
    cases failed with
    | true => simp [DiskState.enter, Progress]
    | false => simpa [DiskState.enter, Progress] using progress
  case writeError =>
    cases moved
    simp only [DiskState.enter, Function.update_self, Progress]
    refine ⟨?_, fun _ => ⟨fun _ => progress.2, fun notWrite => absurd progress.1 notWrite⟩⟩
    split <;> simp
  case readLock offset lengths data =>
    split at moved
    next =>
      cases moved
      simpa [DiskState.enter, Progress] using progress
    next => cases moved
  case readServe offset lengths data =>
    cases moved
    simp only [DiskState.enter, Function.update_self]
    split <;> exact progress
  case readCopy offset lengths data =>
    cases moved
    simpa [DiskState.enter, Progress] using progress
  case readUnlock offset lengths data failed =>
    cases moved
    simp only [DiskState.enter, Function.update_self]
    cases failed with
    | true => simp [Progress]
    | false => exact readNext_progress progress.1 progress.2 offset lengths data

/-- A request returns: what it wrote joins the returned writes, what it
acknowledges is durable. -/
theorem finishCall_tracked (inv : Tracked state) {status : BlkStatus} {data : List UInt8}
    (at_ : state.calls thread = .finish status data) :
    Tracked (state.finishCall thread status data) := by
  have busy : state.calls thread ≠ .idle := by simp [at_]
  have progress := inv.progress thread
  simp only [at_, Progress] at progress
  have running : ∀ other, Function.update state.calls thread .idle other ≠ .idle →
      other ≠ thread ∧ state.calls other ≠ .idle := by
    intro other active
    by_cases here : other = thread
    · rw [here, Function.update_self] at active
      exact absurd rfl active
    · rw [Function.update_of_ne here] at active
      exact ⟨here, active⟩
  have returned : ∀ write ∈ (state.finishCall thread status data).returned,
      write ∈ state.returned ∨ write.1 = (state.tickets thread).writer ∧
        Splits write.2.1 write.2.2 (slotsOf write.1 state.stream) := by
    intro write member
    simp only [DiskState.finishCall] at member
    split at member
    next isWrite =>
      rcases List.mem_append.mp member with member | member
      · exact .inl member
      · rw [List.mem_singleton.mp member]
        exact .inr ⟨rfl, (progress.2 isWrite.2).1 isWrite.1⟩
    next => exact .inl member
  have grown : ∀ write ∈ state.returned, write ∈ (state.finishCall thread status data).returned := by
    intro write member
    simp only [DiskState.finishCall]
    split
    next => exact List.mem_append_left _ member
    next => exact member
  exact {
    fresh := inv.fresh
    writers := fun other active => inv.writers other (running other active).2
    distinct := fun first second different firstActive secondActive =>
      inv.distinct first second different (running first firstActive).2
        (running second secondActive).2
    old := fun write member => by
      rcases returned write member with member | ⟨isOurs, _⟩
      · exact ⟨(inv.old write member).1,
          fun other active => (inv.old write member).2 other (running other active).2⟩
      · rw [isOurs]
        exact ⟨inv.writers thread busy, fun other active =>
          inv.distinct thread other (Ne.symm (running other active).1) busy
            (running other active).2⟩
    returned := fun write member => by
      rcases returned write member with member | ⟨_, splits⟩
      · exact inv.returned write member
      · exact splits
    before := fun other active write member =>
      grown write (inv.before other (running other active).2 write member)
    late := fun other active => inv.late other (running other active).2
    progress := fun other => by
      by_cases here : other = thread
      · simp [DiskState.finishCall, DiskState.enter, here, Progress]
      · simp only [DiskState.finishCall, DiskState.enter, Function.update_of_ne here]
        exact inv.progress other
    acknowledged := fun entry member => by
      simp only [DiskState.finishCall] at member
      split at member
      next notWrite =>
        rcases List.mem_append.mp member with member | member
        · exact inv.acknowledged entry member
        · rw [List.mem_singleton.mp member]
          exact (progress.2 notWrite.2).2 notWrite.1
      next => exact inv.acknowledged entry member
    log := fun entry member => by
      rcases List.mem_append.mp member with member | member
      · exact inv.log entry member
      · rw [List.mem_singleton.mp member]
        exact progress.1 }

theorem stepCall_tracked (owned : Owned state.holdings) (flow : Flow state.pipe)
    (inv : Tracked state) (moved : stepCall size state thread = some target) : Tracked target := by
  by_cases finished : ∃ status data, state.calls thread = .finish status data
  · obtain ⟨status, data, at_⟩ := finished
    simp only [stepCall, at_] at moved
    cases moved
    exact finishCall_tracked inv at_
  · have running : ∀ status data, state.calls thread ≠ .finish status data :=
      fun status data at_ => finished ⟨status, data, at_⟩
    have active : state.calls thread ≠ .idle := by
      intro idle
      simp [stepCall, idle] at moved
    refine inv.move flow (stepCall_quiet owned running moved) active ?_
      (stepCall_progress owned flow inv running moved)
    -- only the holder of the gate exchanges, and nobody else waits then
    intro other different waiting
    have theirs : state.gateHolder = some other :=
      owned.gated other (DiskCall.exchanged_gated waiting)
    have notExchange : ∀ user, state.calls thread ≠ .exchange user := by
      intro user at_
      have ours : state.gateHolder = some thread :=
        owned.gated thread (by simp [DiskState.holdings, at_, DiskCall.gated])
      rw [ours] at theirs
      exact different (Option.some.inj theirs).symm
    unfold stepCall at moved
    cases at_ : state.calls thread <;> simp only [at_] at moved
    case exchange user => exact absurd at_ (notExchange user)
    case publishSequence index user =>
      cases moved
      unfold DiskState.publish
      split <;> rfl
    case claimScan user position =>
      split at moved
      next =>
        split at moved
        next => cases moved; cases user <;> rfl
        next => cases moved; rfl
      next => cases moved; rfl
    case flushWait user remaining =>
      cases remaining with
      | zero => cases moved; rfl
      | succ remaining =>
          simp only at moved
          split at moved
          next => cases moved
          next => cases moved; rfl
    case fill offset buf =>
      split at moved
      next => cases moved; rfl
      next => cases moved; rfl
      next => split at moved <;> cases moved <;> rfl
    case flushTake user =>
      split at moved
      next => cases moved; rfl
      next => split at moved <;> cases moved <;> rfl
    case gateDown | claimDown | submitDown =>
      split at moved
      next => cases moved
      next => cases moved; rfl
    case flushLock | writeLock | readLock =>
      split at moved
      next => cases moved; rfl
      next => cases moved
    all_goals
      cases moved
      try rfl

omit [Fintype Thread] [DecidableEq Thread] in
theorem taskDiskRequest_progress (ticket : Ticket) {stream : List Slot}
    {done : List (List Slot × Bool)} {covered : List Slot}
    (fresh : ∀ slot ∈ stream, slot.writer ≠ ticket.writer) :
    Progress ticket stream done covered (taskDiskRequest size ticket.request) := by
  have none : slotsOf ticket.writer stream = [] := by
    simpa [slotsOf, List.filter_eq_nil_iff] using fresh
  unfold taskDiskRequest
  split
  next isFlush => simp [Progress, isFlush]
  next isFlush => simp [Progress, isFlush]
  next isOther => simp [Progress, isOther]
  next type notFlush notFlushOut notOther =>
    split
    next => simp [Progress]
    next =>
      split
      next => simp [Progress]
      next total _ =>
        split
        next => simp [Progress]
        next =>
          split
          next isWrite => exact ⟨isWrite, [], by simp, by simp, by rw [none]; rfl⟩
          next notWrite => exact notWrite

theorem start_tracked (inv : Tracked state) {request : BlkReq}
    (idle : state.calls thread = .idle) :
    Tracked { state.enter thread (taskDiskRequest size request) with
      tickets := Function.update state.tickets thread
        ⟨request, state.writes, state.returned, state.asyncError⟩
      writes := state.writes + 1 } := by
  have either : ∀ other,
      Function.update state.calls thread (taskDiskRequest size request) other ≠ .idle →
      other = thread ∨ other ≠ thread ∧ state.calls other ≠ .idle := by
    intro other active
    by_cases same : other = thread
    · exact .inl same
    · rw [Function.update_of_ne same] at active
      exact .inr ⟨same, active⟩
  have new : ∀ other, other ≠ thread → state.calls other ≠ .idle →
      (state.tickets other).writer ≠ state.writes :=
    fun other _ active => (inv.writers other active).ne
  exact {
    fresh := fun slot member => (inv.fresh slot member).trans (Nat.lt_succ_self _)
    writers := fun other active => by
      rcases either other active with rfl | ⟨different, active⟩
      · simp
      · simp only [Function.update_of_ne different]
        exact (inv.writers other active).trans (Nat.lt_succ_self _)
    distinct := fun first second different firstActive secondActive => by
      rcases either first firstActive with rfl | ⟨firstOther, firstBusy⟩
      · rcases either second secondActive with rfl | ⟨secondOther, secondBusy⟩
        · exact absurd rfl different
        · simp only [Function.update_self, Function.update_of_ne secondOther]
          exact (new second secondOther secondBusy).symm
      · rcases either second secondActive with rfl | ⟨secondOther, secondBusy⟩
        · simp only [Function.update_self, Function.update_of_ne firstOther]
          exact new first firstOther firstBusy
        · simp only [Function.update_of_ne firstOther, Function.update_of_ne secondOther]
          exact inv.distinct first second different firstBusy secondBusy
    old := fun write member => by
      refine ⟨(inv.old write member).1.trans (Nat.lt_succ_self _), fun other active => ?_⟩
      rcases either other active with rfl | ⟨different, active⟩
      · simp only [Function.update_self]
        exact (inv.old write member).1.ne
      · simp only [Function.update_of_ne different]
        exact (inv.old write member).2 other active
    returned := inv.returned
    before := fun other active => by
      rcases either other active with rfl | ⟨different, active⟩
      · simp only [Function.update_self]
        exact fun write member => member
      · simp only [Function.update_of_ne different]
        exact inv.before other active
    late := fun other active => by
      rcases either other active with rfl | ⟨different, active⟩
      · simp only [Function.update_self]
        exact id
      · simp only [Function.update_of_ne different]
        exact inv.late other active
    progress := fun other => by
      by_cases same : other = thread
      · subst same
        simp only [DiskState.enter, Function.update_self]
        exact taskDiskRequest_progress ⟨request, state.writes, state.returned,
          state.asyncError⟩ fun slot member => (inv.fresh slot member).ne
      · simp only [DiskState.enter, Function.update_of_ne same]
        exact inv.progress other
    acknowledged := inv.acknowledged
    log := inv.log }

/-- What a step of the worker leaves alone. -/
structure Answers (state target : DiskState Thread) : Prop where
  calls : target.calls = state.calls
  tickets : target.tickets = state.tickets
  writes : target.writes = state.writes
  returned : target.returned = state.returned
  acknowledged : target.acknowledged = state.acknowledged
  log : target.log = state.log
  stream : target.stream = state.stream
  exchanged : target.exchanged = state.exchanged
  asyncError : state.asyncError = true → target.asyncError = true
  done : state.done <+: target.done
  published : target.pipe.published = state.pipe.published

omit [DecidableEq Thread] in
theorem Answers.silent {batches : BatchIndex → Batch Thread} {workerSem queueFreeSem
    asyncCompletionSem ups : Nat} {managerLock : Option (Option Thread)} {window : Window}
    {backing : ByteMemory.Memory} {transfers : List (List UInt8 × List UInt8)}
    {worker : DiskWorker} {asyncError : Bool}
    (slots : ∀ index ∈ state.queue, (batches index).slots = (state.batches index).slots)
    (kept : state.asyncError = true → asyncError = true) :
    Answers state { state with
      batches, workerSem, queueFreeSem, asyncCompletionSem, ups, managerLock, window, backing,
      transfers, worker, asyncError } where
  calls := rfl
  tickets := rfl
  writes := rfl
  returned := rfl
  acknowledged := rfl
  log := rfl
  stream := rfl
  exchanged := rfl
  asyncError := kept
  done := List.prefix_rfl
  published := by
    unfold Pipe.published
    congr 1
    exact List.map_congr_left slots

omit [DecidableEq Thread] in
theorem submit_answers (owned : Owned state.holdings) (flow : Flow state.pipe)
    {index : BatchIndex} {fault : Option Nat} (at_ : state.worker = .submit index) :
    Answers state (state.submit size index fault) := by
  unfold DiskState.submit
  by_cases auto : (state.batches index).autoRelease = true
  · have fits := owned.worker
    simp only [DiskState.holdings, at_, WorkerFits] at fits
    have role : (state.batches index).role = .queued := by
      rcases (owned.roles index).processing fits.1 with ⟨role, _⟩ | ⟨_, sync⟩ | ⟨role, _⟩
      · exact role
      · simp only [DiskState.holdings] at sync
        simp [sync] at auto
      · exact absurd role fits.2
    have member : index ∈ state.queue := (owned.queued index).mpr role
    have first := flow.ordered.worker
    simp only [DiskState.pipe, at_, Selecting] at first
    have isFirst := first member
    simp only [auto, if_true]
    refine {
      calls := rfl
      tickets := rfl
      writes := rfl
      returned := rfl
      acknowledged := rfl
      log := rfl
      stream := rfl
      exchanged := rfl
      asyncError := id
      done := List.prefix_append _ _
      published := ?_ }
    have stored := published_store state.pipe index
      { state.batches index with role := .leaving } (fun _ => rfl)
    rw [← stored]
    cases queue : state.queue with
    | nil => simp [queue] at member
    | cons head rest =>
        rw [queue, List.head?_cons, Option.some.injEq] at isFirst
        subst isFirst
        simp [Pipe.published, DiskState.pipe, DiskState.setBatch, queue, auto]
  · simp only [auto, Bool.false_eq_true, if_false]
    exact Answers.silent (fun _ _ => rfl) id

omit [DecidableEq Thread] in
theorem stepWorker_answers (owned : Owned state.holdings) (flow : Flow state.pipe)
    {fault : Option Nat} (moved : stepWorker size state fault = some target) :
    Answers state target := by
  have fits := owned.worker
  simp only [DiskState.holdings] at fits
  have touched : ∀ {index : BatchIndex} {batch : Batch Thread},
      (index ∈ state.queue → batch.slots = (state.batches index).slots) →
      ∀ other ∈ state.queue, (Function.update state.batches index batch other).slots =
        (state.batches other).slots := by
    intro index batch same other member
    by_cases here : other = index
    · subst here
      simpa using same member
    · simp [Function.update_of_ne here]
  unfold stepWorker at moved
  cases at_ : state.worker <;> simp only [at_] at moved fits
  case submit index =>
    cases moved
    exact submit_answers owned flow at_
  case semDown =>
    split at moved
    next => cases moved
    next => cases moved; exact Answers.silent (fun _ _ => rfl) id
  case scan position selected best ready limit =>
    split at moved
    next => cases moved; exact Answers.silent (fun _ _ => rfl) id
    next => cases selected <;> cases moved <;> exact Answers.silent (fun _ _ => rfl) id
  case claim selected =>
    split at moved
    next => cases moved; exact Answers.silent (touched fun _ => rfl) id
    next => cases moved; exact Answers.silent (fun _ _ => rfl) id
  case stage index position =>
    split at moved <;> cases moved <;> exact Answers.silent (fun _ _ => rfl) id
  case lock index =>
    split at moved
    next => cases moved; exact Answers.silent (fun _ _ => rfl) id
    next => cases moved
  case check index failed =>
    cases moved
    exact Answers.silent (touched fun _ => rfl) id
  case storeError index =>
    cases moved
    exact Answers.silent (fun _ _ => rfl) fun _ => rfl
  case release index =>
    cases moved
    exact Answers.silent (touched fun member =>
      absurd member (owned.not_queued fits (by simp))) id
  case storeDone index | doneUp index =>
    cases moved
    exact Answers.silent (touched fun _ => rfl) id
  all_goals
    cases moved
    exact Answers.silent (fun _ _ => rfl) id

omit [DecidableEq Thread] in
theorem Tracked.answer (inv : Tracked state) (answers : Answers state target) :
    Tracked target := by
  have covered : target.covered = state.covered := by
    unfold DiskState.covered
    rw [answers.published, answers.exchanged]
  exact {
    fresh := by rw [answers.stream, answers.writes]; exact inv.fresh
    writers := by rw [answers.calls, answers.tickets, answers.writes]; exact inv.writers
    distinct := by rw [answers.calls, answers.tickets]; exact inv.distinct
    old := by
      rw [answers.returned, answers.calls, answers.tickets, answers.writes]
      exact inv.old
    returned := by rw [answers.returned, answers.stream]; exact inv.returned
    before := by rw [answers.calls, answers.tickets, answers.returned]; exact inv.before
    late := by
      rw [answers.calls, answers.tickets]
      exact fun thread active isLate => answers.asyncError (inv.late thread active isLate)
    progress := fun thread => by
      rw [answers.calls, answers.tickets, covered]
      exact (inv.progress thread).frame (by rw [answers.stream]) answers.done fun _ => rfl
    acknowledged := by
      rw [answers.acknowledged]
      exact fun entry member => ⟨(inv.acknowledged entry member).1,
        (inv.acknowledged entry member).2.mono answers.done⟩
    log := by rw [answers.log]; exact inv.log }

end Steps

/-! ## Whole runs -/

section Runs

variable [Fintype Thread] [DecidableEq Thread] {size : Nat} {state : DiskState Thread}

omit [DecidableEq Thread] in
theorem DiskInitial.tracked (initial : DiskInitial state) : Tracked state := by
  obtain ⟨_, queue, stream, _, _, _, _, _, returned, acknowledged, log⟩ := initial.history
  constructor
  all_goals simp [initial.calls, stream, returned, acknowledged, log, Progress]

structure Sound (state : DiskState Thread) : Prop where
  owned : Owned state.holdings
  flow : Flow state.pipe
  tracked : Tracked state

theorem Sound.next {target : DiskState Thread} {action : DiskAction Thread} (inv : Sound state)
    (room : RoomToPublish state action) (moved : diskNext size state action = some target) :
    Sound target where
  owned := diskNext_owned inv.owned moved
  flow := diskNext_flow inv.owned inv.flow room moved
  tracked := by
    cases action with
    | start thread request =>
        simp only [diskNext] at moved
        split at moved
        next idle =>
          cases moved
          exact start_tracked inv.tracked idle
        next => cases moved
    | call thread => exact stepCall_tracked inv.owned inv.flow inv.tracked moved
    | worker fault => exact inv.tracked.answer (stepWorker_answers inv.owned inv.flow moved)

theorem reach_sound (reached : (diskSystem size).Reach RoomToPublish state) : Sound state :=
  Interleaving.System.Reach.invariant Sound
    (fun _ initial => ⟨DiskInitial.owned initial, DiskInitial.flow initial,
      DiskInitial.tracked initial⟩)
    (fun _ _ _ inv room moved => Sound.next inv room moved) reached

/-- A FLUSH or READ that returned OK had found no error when it started and
leaves every write that had returned by then durable; none returns anything
but OK or IOERR. -/
def AcknowledgesDurable (state : DiskState Thread) : Prop :=
  (∀ entry ∈ state.acknowledged, entry.2 = false ∧ Durable state.done entry.1) ∧
    ∀ entry ∈ state.log, entry.status = .unsup → entry.request.type = .other

theorem acknowledges_durable_of_room
    (reached : (diskSystem size).Reach RoomToPublish state) : AcknowledgesDurable state :=
  ⟨(reach_sound reached).tracked.acknowledged, (reach_sound reached).tracked.log⟩

end Runs

/-- A write of one byte, and a read that waits for it. -/
theorem acknowledges_durable_read : ∃ state : DiskState Unit,
    (diskSystem 1024).Reach RoomToPublish state ∧
      state.acknowledged = [([(0, 0, [7])], false)] ∧ AcknowledgesDurable state := by
  obtain ⟨state, reached, ends⟩ := Interleaving.System.exists_reach_of_exec (diskSystem 1024)
    RoomToPublish (configuredDisk : DiskState Unit)
    ([.start () ⟨.write, 0, [some [7]]⟩] ++ List.replicate 10 (.call ()) ++
      [.start () ⟨.read, 0, [some [0]]⟩] ++ List.replicate 8 (.call ()) ++
      List.replicate 21 (.worker none) ++ List.replicate 8 (.call ()))
    (fun state => decide (state.acknowledged = [([(0, 0, [7])], false)]))
    configuredDisk_initial (by decide +kernel)
  exact ⟨state, reached, of_decide_eq_true ends, acknowledges_durable_of_room reached⟩

end Luna.Disk
