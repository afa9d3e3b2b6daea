import Luna.ThreadsSafety

/-!
# What `task_thread_create` returns

The creator reads the tid back from the slot after it has started the thread and without the
table lock.  By then the thread may have detached itself and exited, and another create may
have reaped its slot and given it to a thread of its own.
-/

namespace Luna.Threads

open Interleaving

/-- A create that took a slot: which one, counted from 0, and the tid it assigned. -/
structure Made where
  serial : Nat
  assigned : Nat
deriving DecidableEq

/-- A create that has started its thread and returned. -/
structure CreateReturn extends Made where
  value : Nat
deriving DecidableEq

/-- The table, the latest create of each thread and the creates that have returned. -/
structure CreateState (External : Type) where
  table : TableState External
  made : Actor External → Made
  returned : List CreateReturn

section Model

variable {External : Type} [DecidableEq External]

/-- What the lock section of a create has assigned. -/
def TableState.assigned (table : TableState External) (actor : Actor External) (before : Made) :
    Made :=
  match table.calls actor with
  | .createStart slot _ => ⟨(table.slots slot).serial, (table.slots slot).tid⟩
  | _ => before

def createNext (state : CreateState External) (action : TableAction External) :
    Option (CreateState External) :=
  (tableNext state.table action).map fun table =>
    match action with
    | .step actor _ =>
      match state.table.calls actor with
      | .createTable =>
        { state with
          table
          made := Function.update state.made actor (table.assigned actor (state.made actor)) }
      | .createReturn slot =>
        { state with
          table
          returned := state.returned ++ [⟨state.made actor, (state.table.slots slot).tid⟩] }
      | _ => { state with table }
    | _ => { state with table }

structure CreateInitial (state : CreateState External) : Prop where
  table : TableInitial state.table
  returned : state.returned = []

def createSystem (External : Type) [DecidableEq External] :
    System (CreateState External) (TableAction External) where
  init := CreateInitial
  next := createNext

/-- The slot a create is about to read the tid from. -/
def Call.readsBack : Call → Option ThreadSlot
  | .createReturn slot => some slot
  | _ => none

/-- When a create reads the tid back, the slot still belongs to the thread it has started. -/
def SlotKept (state : CreateState External) : TableAction External → Prop
  | .step actor _ => ∀ slot ∈ (state.table.calls actor).readsBack,
      (state.table.slots slot).used = true ∧
        (state.table.slots slot).serial = (state.made actor).serial
  | _ => True

instance (state : CreateState External) (action : TableAction External) :
    Decidable (SlotKept state action) :=
  match action with
  | .step actor _ =>
      inferInstanceAs (Decidable (∀ slot ∈ (state.table.calls actor).readsBack,
        (state.table.slots slot).used = true ∧
          (state.table.slots slot).serial = (state.made actor).serial))
  | .create _ | .join _ _ | .detach _ | .exit _ | .returns _ => isTrue trivial

/-- `task_next_tid` has not wrapped, and the slots read are kept. -/
def CreateGuard (state : CreateState External) (action : TableAction External) : Prop :=
  TidsFresh state.table action ∧ SlotKept state action

instance (state : CreateState External) (action : TableAction External) :
    Decidable (CreateGuard state action) :=
  inferInstanceAs (Decidable (_ ∧ _))

end Model

/-- Each create that has started its thread returns the tid it has assigned to it, and no two
return the same. -/
structure ReturnsOwn {External : Type} (state : CreateState External) : Prop where
  own : ∀ entry ∈ state.returned, entry.value = entry.assigned
  distinct : (state.returned.map CreateReturn.value).Nodup

/-- The thread has taken a slot and not returned yet. -/
def Call.making : Call → Bool
  | .createStart _ _ | .createFailed _ _ | .createReturn _ => true
  | _ => false

section Making

variable {External : Type} [DecidableEq External] {state target : TableState External}
  {actor : Actor External}

/-- A step of `actor` leaves the creates of the others alone and takes no slot. -/
structure Undisturbed (state target : TableState External) (actor : Actor External) : Prop where
  others : ∀ other, other ≠ actor → (target.calls other).making = true →
    target.calls other = state.calls other
  making : (target.calls actor).making = true → (state.calls actor).making = true
  creates : target.creates = state.creates

theorem TableState.suspend_calls (state : TableState External) (slot : ThreadSlot) :
    (state.suspend slot).calls = state.calls ∧ (state.suspend slot).creates = state.creates := by
  unfold TableState.suspend
  dsimp only
  split <;> exact ⟨rfl, rfl⟩

/-- Most steps only move `actor` on, and not into a create. -/
theorem undisturbed_update {call : Call}
    (moves : target.calls = Function.update state.calls actor call)
    (outside : call.making = false) (creates : target.creates = state.creates) :
    Undisturbed state target actor where
  others := by
    intro other different _
    rw [moves, Function.update_of_ne different]
  making := by
    intro making
    rw [moves, Function.update_self, outside] at making
    cases making
  creates := creates

/-- Program points outside a create. -/
abbrev Outside : Type := { call : Call // call.making = false }

theorem undisturbed_perform {request : Notification.Request Outside} {slot : ThreadSlot}
    (moves : target.calls = ((state.slots slot).joinNtfn.perform Call.resume state.calls actor
      (request.map Subtype.val)).2)
    (creates : target.creates = state.creates) : Undisturbed state target actor := by
  have kept : ∀ other, (target.calls other).making = true →
      other ≠ actor ∧ target.calls other = state.calls other := by
    rw [moves]
    apply Notification.perform_forall
      (fun other (call : Call) => call.making = true →
        other ≠ actor ∧ call = state.calls other)
    · intro other different _
      exact ⟨different, rfl⟩
    · intro value making
      rw [value.property] at making
      cases making
    · intro other _ call holds making
      cases call <;> first | exact holds making | cases making
  refine ⟨?_, ?_, creates⟩
  · intro other _ making
    exact (kept other making).2
  · intro making
    exact absurd rfl (kept actor making).1

theorem undisturbed_start {slot : ThreadSlot} {serial : Nat}
    (at_ : state.calls actor = .createStart slot serial)
    (moves : target.calls = Function.update
      (Function.update state.calls actor (.createReturn slot)) (.inr slot) .trampoline)
    (creates : target.creates = state.creates) : Undisturbed state target actor where
  others := by
    intro other different making
    rw [moves] at making ⊢
    by_cases home : other = .inr slot
    · subst home
      rw [Function.update_self] at making
      cases making
    · rw [Function.update_of_ne home, Function.update_of_ne different]
  making := by
    intro _
    rw [at_]
    rfl
  creates := creates

theorem undisturbed_failed {slot : ThreadSlot} {serial : Nat}
    (at_ : state.calls actor = .createStart slot serial) :
    Undisturbed state (state.goto actor (.createFailed slot serial)) actor where
  others := by
    intro other different _
    exact Function.update_of_ne different ..
  making := by
    intro _
    rw [at_]
    rfl
  creates := rfl

theorem tableStep_undisturbed {started : Bool} (notTable : state.calls actor ≠ .createTable)
    (moved : tableStep actor started state = some target) : Undisturbed state target actor := by
  cases at_ : state.calls actor with
  | idle => simp [tableStep, at_] at moved
  | createTable => exact absurd at_ notTable
  | createStart slot serial =>
    simp only [tableStep, at_] at moved
    split at moved
    · cases moved
      exact undisturbed_start at_ rfl rfl
    · cases moved
      exact undisturbed_failed at_
  | createFailed slot serial =>
    simp only [tableStep, at_, Option.some.injEq] at moved
    exact moved ▸ undisturbed_update rfl rfl rfl
  | createReturn slot =>
    simp only [tableStep, at_, Option.some.injEq] at moved
    exact moved ▸ undisturbed_update rfl rfl rfl
  | trampoline =>
    cases actor with
    | inl external => simp [tableStep, at_] at moved
    | inr slot =>
      simp only [tableStep, at_, Option.some.injEq] at moved
      exact moved ▸ undisturbed_update rfl rfl rfl
  | exitLookup =>
    simp only [tableStep, at_] at moved
    split at moved <;> cases moved <;> exact undisturbed_update rfl rfl rfl
  | cleanup slot =>
    simp only [tableStep, at_, Option.some.injEq] at moved
    exact moved ▸ undisturbed_update rfl rfl rfl
  | setExited slot =>
    simp only [tableStep, at_, Option.some.injEq] at moved
    exact moved ▸ undisturbed_update rfl rfl rfl
  | signalJoin slot =>
    simp only [tableStep, at_, Option.some.injEq] at moved
    have request : (.signal (.suspendSelf slot) : Notification.Request Call) =
        (.signal ⟨.suspendSelf slot, rfl⟩ : Notification.Request Outside).map Subtype.val := rfl
    rw [request] at moved
    exact moved ▸ undisturbed_perform rfl rfl
  | suspendSelf slot =>
    simp only [tableStep, at_, Option.some.injEq] at moved
    subst moved
    obtain ⟨calls, creates⟩ := (state.goto actor .spin).suspend_calls slot
    exact undisturbed_update calls rfl creates
  | spin => simp [tableStep, at_] at moved
  | detach =>
    simp only [tableStep, at_] at moved
    split at moved <;> cases moved <;> exact undisturbed_update rfl rfl rfl
  | joinClaim tid =>
    simp only [tableStep, at_] at moved
    split at moved
    · cases moved
      exact undisturbed_update rfl rfl rfl
    · cases moved
      unfold TableState.claimSection
      split
      · exact undisturbed_update rfl rfl rfl
      next slot found =>
        dsimp only
        split <;> exact undisturbed_update rfl rfl rfl
  | joinExited tid slot serial =>
    simp only [tableStep, at_] at moved
    split at moved <;> cases moved <;> exact undisturbed_update rfl rfl rfl
  | joinWait tid slot serial =>
    simp only [tableStep, at_, Option.some.injEq] at moved
    have request : (.wait (.joinBlocked tid slot serial) (.joinRelease tid slot serial) :
        Notification.Request Call) =
        (.wait ⟨.joinBlocked tid slot serial, rfl⟩ ⟨.joinRelease tid slot serial, rfl⟩ :
          Notification.Request Outside).map Subtype.val := rfl
    rw [request] at moved
    exact moved ▸ undisturbed_perform rfl rfl
  | joinBlocked tid slot serial => simp [tableStep, at_] at moved
  | joinPoll tid slot serial =>
    simp only [tableStep, at_, Option.some.injEq] at moved
    exact moved ▸ undisturbed_update rfl rfl rfl
  | joinRelease tid slot serial =>
    simp only [tableStep, at_, Option.some.injEq] at moved
    subst moved
    obtain ⟨calls, creates⟩ := state.suspend_calls slot
    unfold TableState.joinSection
    dsimp only
    split
    · exact undisturbed_update rfl rfl rfl
    · have moves : Function.update (state.suspend slot).calls actor Call.idle =
          Function.update state.calls actor Call.idle := by rw [calls]
      exact undisturbed_update moves rfl creates

theorem TableState.reapAll_creates (slots : List ThreadSlot) (state : TableState External) :
    (slots.foldl TableState.reap state).creates = state.creates := by
  induction slots generalizing state with
  | nil => rfl
  | cons slot rest inductionHypothesis =>
    rw [List.foldl_cons, inductionHypothesis]
    dsimp only [TableState.reap]
    split
    · rfl
    · exact (state.suspend_calls slot).2

/-- The lock section of a create takes no slot, or one under the next serial. -/
theorem createSection_cases (actor : Actor External) (inv : TableInv state) :
    (∀ other, other ≠ actor →
      (state.createSection actor).calls other = state.calls other) ∧
    (((state.createSection actor).calls actor = .idle ∧
        (state.createSection actor).creates = state.creates) ∨
      ∃ slot, (state.createSection actor).calls actor = .createStart slot state.creates ∧
        (state.createSection actor).creates = state.creates + 1) := by
  obtain ⟨_, calls, _⟩ := inv.reapAll (List.finRange lunaLklThreadSlots)
  have creates := state.reapAll_creates (List.finRange lunaLklThreadSlots)
  unfold TableState.createSection
  generalize (List.finRange lunaLklThreadSlots).foldl TableState.reap state = cleared at *
  dsimp only
  split
  · refine ⟨?_, .inl ⟨Function.update_self .., creates⟩⟩
    intro other different
    rw [← calls]
    exact Function.update_of_ne different ..
  next slot found =>
    refine ⟨?_, .inr ⟨slot, ?_, ?_⟩⟩
    · intro other different
      rw [← calls]
      exact Function.update_of_ne different ..
    · rw [← creates]
      exact Function.update_self ..
    · rw [← creates]
      rfl

end Making

section Returns

variable {External : Type} [DecidableEq External] {state target : CreateState External}

/-- A create under way has a serial of its own, and the tid that goes with it. -/
structure CreateInv (state : CreateState External) : Prop where
  table : TableInv state.table
  made : ∀ actor, (state.table.calls actor).making = true →
    (state.made actor).serial < state.table.creates ∧
      (state.made actor).assigned = (state.made actor).serial + 2 ∧
      ∀ entry ∈ state.returned, entry.serial ≠ (state.made actor).serial
  apart : ∀ first second, (state.table.calls first).making = true →
    (state.table.calls second).making = true →
    (state.made first).serial = (state.made second).serial → first = second
  returned : ∀ entry ∈ state.returned, entry.serial < state.table.creates ∧
    entry.assigned = entry.serial + 2 ∧ entry.value = entry.assigned
  distinct : (state.returned.map fun entry => entry.serial).Nodup

omit [DecidableEq External] in
/-- A step that takes no slot and returns nothing. -/
theorem CreateInv.keep (inv : CreateInv state) {table : TableState External}
    (tableInv : TableInv table)
    (making : ∀ actor, (table.calls actor).making = true →
      (state.table.calls actor).making = true)
    (creates : table.creates = state.table.creates) :
    CreateInv { state with table } where
  table := tableInv
  made := by
    intro actor isMaking
    rw [creates]
    exact inv.made actor (making actor isMaking)
  apart := fun first second firstMaking secondMaking =>
    inv.apart first second (making first firstMaking) (making second secondMaking)
  returned := by
    rw [creates]
    exact inv.returned
  distinct := inv.distinct

theorem Undisturbed.keeps {table : TableState External} {actor other : Actor External}
    (undisturbed : Undisturbed state.table table actor)
    (making : (table.calls other).making = true) : (state.table.calls other).making = true := by
  by_cases same : other = actor
  · subst same
    exact undisturbed.making making
  · rw [← undisturbed.others other same making]
    exact making

theorem CreateInv.createSection (inv : CreateInv state) {actor : Actor External}
    {table : TableState External} (moves : table = state.table.createSection actor)
    (tableInv : TableInv table) :
    CreateInv
      { state with
        table
        made := Function.update state.made actor (table.assigned actor (state.made actor)) } := by
  obtain ⟨others, taken⟩ := createSection_cases actor inv.table
  rw [← moves] at others taken
  clear moves
  have fits := tableInv.scene.fits actor
  have entries := tableInv.ledger.entries
  rcases taken with ⟨idle, creates⟩ | ⟨slot, starts, creates⟩
  · have same : table.assigned actor (state.made actor) = state.made actor := by
      unfold TableState.assigned
      rw [idle]
    rw [same, Function.update_eq_self]
    apply inv.keep tableInv _ creates
    intro other making
    by_cases this : other = actor
    · subst this
      rw [idle] at making
      cases making
    · rw [← others other this]
      exact making
  · rw [starts] at fits
    obtain ⟨used, serial, _⟩ := fits
    have tid := (entries slot used).1
    have made : table.assigned actor (state.made actor) =
        ⟨state.table.creates, state.table.creates + 2⟩ := by
      unfold TableState.assigned
      rw [starts]
      dsimp only
      rw [tid, serial]
    rw [made]
    have before : ∀ other, other ≠ actor → (table.calls other).making = true →
        (state.table.calls other).making = true := by
      intro other different making
      rw [← others other different]
      exact making
    refine ⟨tableInv, ?_, ?_, ?_, inv.distinct⟩
    · intro other making
      dsimp only at making ⊢
      by_cases this : other = actor
      · subst this
        rw [Function.update_self, creates]
        refine ⟨Nat.lt_succ_self _, rfl, ?_⟩
        intro entry member
        exact Nat.ne_of_lt (inv.returned entry member).1
      · rw [Function.update_of_ne this, creates]
        obtain ⟨bound, assigned, fresh⟩ := inv.made other (before other this making)
        exact ⟨Nat.lt_succ_of_lt bound, assigned, fresh⟩
    · intro first second firstMaking secondMaking same
      dsimp only at firstMaking secondMaking same
      by_cases firstActor : first = actor <;> by_cases secondActor : second = actor
      · rw [firstActor, secondActor]
      · subst firstActor
        rw [Function.update_self, Function.update_of_ne secondActor] at same
        have bound := (inv.made second (before second secondActor secondMaking)).1
        rw [← same] at bound
        exact absurd bound (Nat.lt_irrefl _)
      · subst secondActor
        rw [Function.update_self, Function.update_of_ne firstActor] at same
        have bound := (inv.made first (before first firstActor firstMaking)).1
        rw [same] at bound
        exact absurd bound (Nat.lt_irrefl _)
      · rw [Function.update_of_ne firstActor, Function.update_of_ne secondActor] at same
        exact inv.apart first second (before first firstActor firstMaking)
          (before second secondActor secondMaking) same
    · intro entry member
      dsimp only
      rw [creates]
      obtain ⟨bound, right⟩ := inv.returned entry member
      exact ⟨Nat.lt_succ_of_lt bound, right⟩

omit [DecidableEq External] in
/-- A slot that still belongs to the thread has the tid assigned to it. -/
theorem CreateInv.reads (inv : CreateInv state) {actor : Actor External} {slot : ThreadSlot}
    (making : (state.table.calls actor).making = true)
    (used : (state.table.slots slot).used = true)
    (own : (state.table.slots slot).serial = (state.made actor).serial) :
    (state.table.slots slot).tid = (state.made actor).assigned := by
  rw [(inv.table.ledger.entries slot used).1, own, (inv.made actor making).2.1]

theorem CreateInv.readBack (inv : CreateInv state) {actor : Actor External} {slot : ThreadSlot}
    {table : TableState External} (at_ : state.table.calls actor = .createReturn slot)
    (used : (state.table.slots slot).used = true)
    (own : (state.table.slots slot).serial = (state.made actor).serial)
    (tableInv : TableInv table)
    (moves : table.calls = Function.update state.table.calls actor .idle)
    (creates : table.creates = state.table.creates) :
    CreateInv
      { state with
        table
        returned := state.returned ++ [⟨state.made actor, (state.table.slots slot).tid⟩] } := by
  have actorMaking : (state.table.calls actor).making = true := by
    rw [at_]
    rfl
  obtain ⟨bound, assigned, fresh⟩ := inv.made actor actorMaking
  have before : ∀ other, (table.calls other).making = true →
      other ≠ actor ∧ (state.table.calls other).making = true := by
    intro other making
    rw [moves] at making
    by_cases this : other = actor
    · subst this
      rw [Function.update_self] at making
      cases making
    · rw [Function.update_of_ne this] at making
      exact ⟨this, making⟩
  refine ⟨tableInv, ?_, ?_, ?_, ?_⟩
  · intro other making
    obtain ⟨different, otherMaking⟩ := before other making
    obtain ⟨otherBound, otherAssigned, otherFresh⟩ := inv.made other otherMaking
    dsimp only
    rw [creates]
    refine ⟨otherBound, otherAssigned, ?_⟩
    intro entry member
    rcases List.mem_append.mp member with earlier | now
    · exact otherFresh entry earlier
    · rw [List.mem_singleton.mp now]
      intro same
      exact different (inv.apart other actor otherMaking actorMaking same.symm)
  · intro first second firstMaking secondMaking
    exact inv.apart first second (before first firstMaking).2 (before second secondMaking).2
  · intro entry member
    dsimp only
    rw [creates]
    rcases List.mem_append.mp member with earlier | now
    · exact inv.returned entry earlier
    · rw [List.mem_singleton.mp now]
      exact ⟨bound, assigned, inv.reads actorMaking used own⟩
  · dsimp only
    rw [List.map_append]
    apply List.nodup_append.mpr
    refine ⟨inv.distinct, List.nodup_singleton _, ?_⟩
    intro serial earlier other now
    obtain ⟨entry, member, rfl⟩ := List.mem_map.mp earlier
    rw [List.mem_singleton.mp now]
    exact fresh entry member

theorem undisturbed_begin {before after : TableState External}
    {actor : Actor External} {call : Call} (outside : call.making = false)
    (started : before.start actor call = some after) : Undisturbed before after actor := by
  simp only [TableState.start, Option.ite_none_right_eq_some, Option.some.injEq] at started
  obtain ⟨_, rfl⟩ := started
  exact undisturbed_update rfl outside rfl

theorem createNext_inv {action : TableAction External} (inv : CreateInv state)
    (meets : CreateGuard state action) (moved : createNext state action = some target) :
    CreateInv target := by
  obtain ⟨fresh, kept⟩ := meets
  obtain ⟨table, tableMoved, rfl⟩ := Option.map_eq_some_iff.mp moved
  have tableInv := tableNext_inv inv.table fresh tableMoved
  have keep : ∀ actor, Undisturbed state.table table actor → CreateInv { state with table } :=
    fun actor undisturbed =>
      inv.keep tableInv (fun _ => undisturbed.keeps) undisturbed.creates
  cases action with
  | create actor => exact keep actor (undisturbed_begin rfl tableMoved)
  | join actor tid =>
    have undisturbed : Undisturbed (state.table.ask actor tid) table actor :=
      undisturbed_begin rfl (show _ = some table from tableMoved)
    exact keep actor ⟨undisturbed.others, undisturbed.making, undisturbed.creates⟩
  | detach actor => exact keep actor (undisturbed_begin rfl tableMoved)
  | exit actor => exact keep actor (undisturbed_begin rfl tableMoved)
  | returns slot => exact keep (.inr slot) (undisturbed_begin rfl tableMoved)
  | step actor started =>
    simp only [tableNext, Option.ite_none_right_eq_some] at tableMoved
    have stepped := tableMoved.2
    dsimp only
    split
    next at_ =>
      simp only [tableStep, at_, Option.some.injEq] at stepped
      exact inv.createSection stepped.symm tableInv
    next slot at_ =>
      obtain ⟨used, serial⟩ := kept slot (by rw [at_]; rfl)
      simp only [tableStep, at_, Option.some.injEq] at stepped
      subst stepped
      exact inv.readBack at_ used serial tableInv rfl rfl
    next notTable notReturn => exact keep actor (tableStep_undisturbed notTable stepped)

omit [DecidableEq External] in
theorem CreateInitial.inv (initial : CreateInitial state) :
    CreateInv state where
  table := initial.table.inv
  made := by
    intro actor making
    rw [initial.table.calls] at making
    cases making
  apart := by
    intro first second making
    rw [initial.table.calls] at making
    cases making
  returned := by
    intro entry member
    rw [initial.returned] at member
    cases member
  distinct := by
    rw [initial.returned]
    exact List.nodup_nil

omit [DecidableEq External] in
theorem CreateInv.returnsOwn (inv : CreateInv state) : ReturnsOwn state where
  own := fun entry member => (inv.returned entry member).2.2
  distinct := by
    have values : state.returned.map CreateReturn.value =
        (state.returned.map fun entry => entry.serial).map (· + 2) := by
      rw [List.map_map]
      apply List.map_congr_left
      intro entry member
      obtain ⟨_, assigned, own⟩ := inv.returned entry member
      rw [own, assigned]
      rfl
    rw [values]
    exact List.Nodup.map (add_left_injective 2) inv.distinct

end Returns

section Reaped

def freshCreates : CreateState Bool := ⟨freshTable, fun _ => ⟨0, 0⟩, []⟩

/-- One create to its end. -/
def createRun : List (TableAction Bool) :=
  .create (.inl false) :: List.replicate 3 (.step (.inl false) true)

/-- The thread of the first create detaches itself and returns before its creator reads the
tid back; the second create reaps its slot. -/
def reapedRun : List (TableAction Bool) := List.flatten [
  .create (.inl false) :: List.replicate 2 (.step (.inl false) true),
  [.step (.inr firstSlot) true, .detach (.inr firstSlot), .step (.inr firstSlot) true],
  .returns firstSlot :: List.replicate 4 (.step (.inr firstSlot) true),
  .create (.inl true) :: List.replicate 3 (.step (.inl true) true),
  [.step (.inl false) true]]

end Reaped

end Luna.Threads
