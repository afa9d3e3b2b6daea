import Mathlib.Algebra.Ring.Nat
import Mathlib.Data.List.FinRange
import Mathlib.Logic.Function.Basic

/-!
# Destructors of thread-local values

`task_tls_cleanup` of an exiting thread scans the keys up to
`TASK_TLS_DESTRUCTOR_ITERATIONS` times.  A destructor may set values of the same thread while
the scan runs: a later key is met again in the same pass, an earlier one or its own in the
next.
-/

namespace Luna.Tls

def taskTlsKeys : Nat := 16

def taskTlsDestructorIterations : Nat := 4

def lunaResourceSlots : Nat := 49

abbrev KeyIndex := Fin taskTlsKeys

/-- `struct lkl_tls_key`; `none` is `NULL`. -/
structure TlsKey (Value Destructor : Type) where
  used : Bool
  data : Nat → Option Value
  destructor : Option Destructor

abbrev Table (Value Destructor : Type) := KeyIndex → TlsKey Value Destructor

/-- What happens to the values of the exiting thread, with the pass it happens in. -/
inductive Event (Value Destructor : Type) where
  /-- The scan reads a key and clears it. -/
  | visited (pass : Nat) (key : KeyIndex) (value : Option Value)
  | called (pass : Nat) (key : KeyIndex) (destructor : Destructor) (value : Value)
  /-- The destructor of `caller` replaces the previous value of a key. -/
  | set (pass : Nat) (caller key : KeyIndex) (value previous : Option Value)
  /-- The loop after the passes clears a key. -/
  | wiped (key : KeyIndex) (value : Option Value)
  deriving DecidableEq, Repr

/-- The table, the memory of the destructors and what has happened. -/
structure Cleanup (Value Destructor World : Type) where
  table : Table Value Destructor
  world : World
  log : List (Event Value Destructor)

/-- The calls of `task_tls_set` that a destructor makes. -/
abbrev Behaviour (Value Destructor World : Type) :=
  World → Table Value Destructor → Destructor → Value → World × List (KeyIndex × Option Value)

variable {Value Destructor World : Type}

def Table.put (table : Table Value Destructor) (key : KeyIndex) (index : Nat)
    (value : Option Value) : Table Value Destructor :=
  Function.update table key
    { table key with data := Function.update (table key).data index value }

/-- `task_tls_set` of the thread with the index; `none` is -1. -/
def taskTlsSet (table : Table Value Destructor) (index : Nat) (key : KeyIndex)
    (value : Option Value) : Option (Table Value Destructor) :=
  if !(table key).used || decide (index ≥ lunaResourceSlots + 2) then none
  else some (table.put key index value)

section Scan

variable (behave : Behaviour Value Destructor World) (index : Nat)

def setCall (pass : Nat) (caller : KeyIndex) (state : Cleanup Value Destructor World)
    (call : KeyIndex × Option Value) : Cleanup Value Destructor World :=
  match taskTlsSet state.table index call.1 call.2 with
  | none => state
  | some table =>
    { state with
      table
      log := state.log ++ [.set pass caller call.1 call.2 ((state.table call.1).data index)] }

/-- The read of a key and the store of `NULL`. -/
def clear (pass : Nat) (key : KeyIndex) (state : Cleanup Value Destructor World) :
    Cleanup Value Destructor World :=
  { state with
    table := state.table.put key index none
    log := state.log ++ [.visited pass key ((state.table key).data index)] }

/-- The call of a destructor, to its return. -/
def runDestructor (pass : Nat) (key : KeyIndex) (destructor : Destructor) (value : Value)
    (state : Cleanup Value Destructor World) : Cleanup Value Destructor World :=
  let answer := behave state.world state.table destructor value
  answer.2.foldl (setCall index pass key)
    { state with world := answer.1, log := state.log ++ [.called pass key destructor value] }

/-- The body of the scan; the flag is `called`. -/
def visit (pass : Nat) (scanned : Cleanup Value Destructor World × Bool) (key : KeyIndex) :
    Cleanup Value Destructor World × Bool :=
  let cleared := clear index pass key scanned.1
  match (scanned.1.table key).data index, (cleared.table key).used,
    (cleared.table key).destructor with
  | some value, true, some destructor =>
    (runDestructor behave index pass key destructor value cleared, true)
  | _, _, _ => (cleared, scanned.2)

def scan (pass : Nat) (state : Cleanup Value Destructor World) :
    Cleanup Value Destructor World × Bool :=
  (List.finRange taskTlsKeys).foldl (visit behave index pass) (state, false)

/-- The passes from `pass` on, at most `remaining`. -/
def passes : Nat → Nat → Cleanup Value Destructor World → Cleanup Value Destructor World
  | 0, _, state => state
  | remaining + 1, pass, state =>
    match scan behave index pass state with
    | (scanned, true) => passes remaining (pass + 1) scanned
    | (scanned, false) => scanned

def wipe (state : Cleanup Value Destructor World) (key : KeyIndex) :
    Cleanup Value Destructor World :=
  { state with
    table := state.table.put key index none
    log := state.log ++ [.wiped key ((state.table key).data index)] }

def taskTlsCleanup (state : Cleanup Value Destructor World) : Cleanup Value Destructor World :=
  if index ≥ lunaResourceSlots + 2 then state
  else (List.finRange taskTlsKeys).foldl (wipe index)
    (passes behave index taskTlsDestructorIterations 0 state)

end Scan

/-- The key has a destructor that the scan would call. -/
def TlsKey.Live (key : TlsKey Value Destructor) : Prop :=
  key.used = true ∧ key.destructor.isSome = true

instance (key : TlsKey Value Destructor) : Decidable key.Live :=
  inferInstanceAs (Decidable (_ ∧ _))

/-- Two tables that differ in the values at the index only. -/
structure SameElsewhere (index : Nat) (before after : Table Value Destructor) : Prop where
  used : ∀ key, (after key).used = (before key).used
  destructor : ∀ key, (after key).destructor = (before key).destructor
  data : ∀ key other, other ≠ index → (after key).data other = (before key).data other

section Counting

/-- A visit of the key in the pass. -/
def Event.visits (pass : Nat) (key : KeyIndex) : Event Value Destructor → Bool
  | .visited visitPass visitKey _ => decide (visitPass = pass ∧ visitKey = key)
  | _ => false

/-- A call of the key's destructor. -/
def Event.runs (key : KeyIndex) : Event Value Destructor → Bool
  | .called _ callKey _ _ => decide (callKey = key)
  | _ => false

/-- A key cleared after the passes. -/
def Event.wipes : Event Value Destructor → Bool
  | .wiped _ _ => true
  | _ => false

/-- A destructor sets a value where the scan of the pass will not come again. -/
def Event.rearms (table : Table Value Destructor) (pass : Nat) : Event Value Destructor → Bool
  | .set setPass caller key (some _) _ =>
      decide (setPass = pass ∧ key ≤ caller ∧ (table key).Live)
  | _ => false

variable [DecidableEq Value]

/-- A visit of the key in the pass that finds the value. -/
def Event.finds (pass : Nat) (key : KeyIndex) (value : Value) : Event Value Destructor → Bool
  | .visited visitPass visitKey (some found) =>
      decide (visitPass = pass ∧ visitKey = key ∧ found = value)
  | _ => false

/-- A call of the destructor for the key in the pass with the value. -/
def Event.calls [DecidableEq Destructor] (pass : Nat) (key : KeyIndex) (destructor : Destructor)
    (value : Value) : Event Value Destructor → Bool
  | .called callPass callKey given passed =>
      decide (callPass = pass ∧ callKey = key ∧ given = destructor ∧ passed = value)
  | _ => false

def holding (value : Value) (held : Option Value) : Nat := if held = some value then 1 else 0

/-- How often the value comes to the key. -/
def Event.gained (key : KeyIndex) (value : Value) : Event Value Destructor → Nat
  | .set _ _ setKey new _ => if setKey = key then holding value new else 0
  | _ => 0

/-- How often the value leaves the key: read by a visit, overwritten or wiped. -/
def Event.lost (key : KeyIndex) (value : Value) : Event Value Destructor → Nat
  | .visited _ visitKey held => if visitKey = key then holding value held else 0
  | .set _ _ setKey _ previous => if setKey = key then holding value previous else 0
  | .wiped wipeKey held => if wipeKey = key then holding value held else 0
  | .called _ _ _ _ => 0

end Counting

section Framing

variable {index : Nat} {before after later : Table Value Destructor}

@[simp] theorem Table.put_self (key : KeyIndex) (value : Option Value) :
    (before.put key index value key).data index = value := by
  simp [Table.put]

theorem Table.put_of_ne {key other : KeyIndex} (different : other ≠ key) (value : Option Value) :
    before.put key index value other = before other := by
  simp [Table.put, different]

theorem SameElsewhere.refl (table : Table Value Destructor) : SameElsewhere index table table :=
  ⟨fun _ => rfl, fun _ => rfl, fun _ _ _ => rfl⟩

theorem SameElsewhere.put (same : SameElsewhere index before after) (key : KeyIndex)
    (value : Option Value) : SameElsewhere index before (after.put key index value) where
  used := by
    intro other
    rw [← same.used other]
    by_cases different : other = key
    · subst different
      simp [Table.put]
    · rw [Table.put_of_ne different]
  destructor := by
    intro other
    rw [← same.destructor other]
    by_cases different : other = key
    · subst different
      simp [Table.put]
    · rw [Table.put_of_ne different]
  data := by
    intro other position elsewhere
    rw [← same.data other position elsewhere]
    by_cases different : other = key
    · subst different
      simp [Table.put, elsewhere]
    · rw [Table.put_of_ne different]

theorem SameElsewhere.live (same : SameElsewhere index before after) (key : KeyIndex) :
    (after key).Live ↔ (before key).Live := by
  unfold TlsKey.Live
  rw [same.used, same.destructor]

end Framing

/-- A loop over all indices, with what holds before each of them. -/
theorem foldl_finRange {State : Type} {count : Nat} {body : State → Fin count → State}
    {motive : Nat → State → Prop}
    (advance : ∀ (index : Fin count) state, motive index state →
      motive (index + 1) (body state index))
    {start : State} (initial : motive 0 start) :
    motive count ((List.finRange count).foldl body start) := by
  induction count generalizing start motive with
  | zero => exact initial
  | succ count inductionHypothesis =>
    rw [List.finRange_succ, List.foldl_cons, List.foldl_map]
    apply inductionHypothesis (motive := fun position => motive (position + 1))
    · intro position state holds
      exact advance position.succ state holds
    · exact advance 0 start initial

section Accounting

variable [DecidableEq Value] {index : Nat} {initial table : Table Value Destructor}
  {log : List (Event Value Destructor)}

/-- Every value that a key held or was given left it again or is still there. -/
def Ledger (index : Nat) (initial table : Table Value Destructor)
    (log : List (Event Value Destructor)) : Prop :=
  ∀ key value,
    holding value ((initial key).data index) + (log.map (Event.gained key value)).sum =
      holding value ((table key).data index) + (log.map (Event.lost key value)).sum

theorem Ledger.put {event : Event Value Destructor} {key : KeyIndex} {new : Option Value}
    (ledger : Ledger index initial table log)
    (gains : ∀ other value, event.gained other value =
      if key = other then holding value new else 0)
    (loses : ∀ other value, event.lost other value =
      if key = other then holding value ((table key).data index) else 0) :
    Ledger index initial (table.put key index new) (log ++ [event]) := by
  intro other value
  have before := ledger other value
  rw [List.map_append, List.map_append, List.sum_append, List.sum_append]
  simp only [List.map_cons, List.map_nil, List.sum_cons, List.sum_nil, gains, loses]
  by_cases same : key = other
  · subst same
    rw [if_pos rfl, if_pos rfl, Table.put_self]
    omega
  · rw [if_neg same, if_neg same, Table.put_of_ne (Ne.symm same)]
    omega

theorem Ledger.note {event : Event Value Destructor} (ledger : Ledger index initial table log)
    (gains : ∀ key value, event.gained key value = 0)
    (loses : ∀ key value, event.lost key value = 0) :
    Ledger index initial table (log ++ [event]) := by
  intro key value
  have before := ledger key value
  rw [List.map_append, List.map_append, List.sum_append, List.sum_append]
  simp only [List.map_cons, List.map_nil, List.sum_cons, List.sum_nil, gains, loses]
  omega

end Accounting

section Steps

variable {behave : Behaviour Value Destructor World} {index pass : Nat} {key : KeyIndex}
  {state : Cleanup Value Destructor World}

/-- What the calls of `task_tls_set` in a destructor keep, each accepted call keeps. -/
theorem setCalls_keep {motive : Cleanup Value Destructor World → Prop}
    (advance : ∀ (state : Cleanup Value Destructor World) (call : KeyIndex × Option Value),
      motive state →
      motive
        { state with
          table := state.table.put call.1 index call.2
          log := state.log ++
            [.set pass key call.1 call.2 ((state.table call.1).data index)] })
    (calls : List (KeyIndex × Option Value)) (start : motive state) :
    motive (calls.foldl (setCall index pass key) state) := by
  induction calls generalizing state with
  | nil => exact start
  | cons call rest inductionHypothesis =>
    apply inductionHypothesis
    unfold setCall taskTlsSet
    by_cases refused : (!(state.table call.1).used || decide (index ≥ lunaResourceSlots + 2)) = true
    · rw [if_pos refused]
      exact start
    · rw [if_neg refused]
      exact advance state call start

theorem runDestructor_keeps {motive : Cleanup Value Destructor World → Prop}
    {destructor : Destructor} {value : Value}
    (advance : ∀ (state : Cleanup Value Destructor World) (call : KeyIndex × Option Value),
      motive state →
      motive
        { state with
          table := state.table.put call.1 index call.2
          log := state.log ++
            [.set pass key call.1 call.2 ((state.table call.1).data index)] })
    (start : ∀ world, motive
      { state with world, log := state.log ++ [.called pass key destructor value] }) :
    motive (runDestructor behave index pass key destructor value state) :=
  setCalls_keep advance _ (start _)

/-- A visit either clears the key and goes on, or finds a value and runs the destructor. -/
inductive Visited (behave : Behaviour Value Destructor World) (index pass : Nat)
    (key : KeyIndex) (state : Cleanup Value Destructor World) (called : Bool) :
    Cleanup Value Destructor World × Bool → Prop
  | silent : ((state.table key).data index = none ∨ ¬ (state.table key).Live) →
      Visited behave index pass key state called (clear index pass key state, called)
  | ran (value : Value) (destructor : Destructor) :
      (state.table key).data index = some value → (state.table key).used = true →
      (state.table key).destructor = some destructor →
      Visited behave index pass key state called
        (runDestructor behave index pass key destructor value (clear index pass key state), true)

theorem visit_visited (behave : Behaviour Value Destructor World) (index pass : Nat)
    (key : KeyIndex) (state : Cleanup Value Destructor World) (called : Bool) :
    Visited behave index pass key state called (visit behave index pass (state, called) key) := by
  have used : ((clear index pass key state).table key).used = (state.table key).used :=
    ((SameElsewhere.refl state.table).put key none).used key
  have destructor : ((clear index pass key state).table key).destructor =
      (state.table key).destructor :=
    ((SameElsewhere.refl state.table).put key none).destructor key
  unfold visit
  dsimp only
  rw [used, destructor]
  split
  next value given found isUsed isGiven => exact .ran value given found isUsed isGiven
  next notRun =>
    apply Visited.silent
    rcases held : (state.table key).data index with _ | value
    · exact .inl rfl
    · right
      rintro ⟨isUsed, isGiven⟩
      obtain ⟨given, isGiven⟩ := Option.isSome_iff_exists.mp isGiven
      exact notRun value given held isUsed isGiven

/-- Events that a destructor's calls of `task_tls_set` do not count for. -/
theorem countP_runDestructor (counts : Event Value Destructor → Bool) {destructor : Destructor}
    {value : Value} (silent : ∀ caller target new previous,
      counts (.set pass caller target new previous) = false) :
    (runDestructor behave index pass key destructor value state).log.countP counts =
      state.log.countP counts + (counts (.called pass key destructor value)).toNat := by
  apply runDestructor_keeps (motive := fun after => after.log.countP counts = _)
  · intro after call counted
    rw [List.countP_append, counted]
    simp [silent]
  · intro world
    rw [List.countP_append, List.countP_singleton]
    cases counts (.called pass key destructor value) <;> rfl

theorem countP_clear (counts : Event Value Destructor → Bool) :
    (clear index pass key state).log.countP counts =
      state.log.countP counts +
        (counts (.visited pass key ((state.table key).data index))).toNat := by
  unfold clear
  dsimp only
  rw [List.countP_append, List.countP_singleton]
  cases counts (.visited pass key ((state.table key).data index)) <;> rfl

end Steps

section Keeping

variable {behave : Behaviour Value Destructor World} {index pass : Nat} {key : KeyIndex}
  {initial : Table Value Destructor} {state : Cleanup Value Destructor World}

theorem clear_same (same : SameElsewhere index initial state.table) :
    SameElsewhere index initial (clear index pass key state).table :=
  same.put key none

theorem runDestructor_same {destructor : Destructor} {value : Value}
    (same : SameElsewhere index initial state.table) :
    SameElsewhere index initial
      (runDestructor behave index pass key destructor value state).table := by
  apply runDestructor_keeps (motive := fun after => SameElsewhere index initial after.table)
  · intro after call kept
    exact kept.put call.1 call.2
  · intro world
    exact same

variable [DecidableEq Value]

theorem clear_ledger (ledger : Ledger index initial state.table state.log) :
    Ledger index initial (clear index pass key state).table (clear index pass key state).log := by
  apply ledger.put
  · intro other value
    by_cases same : key = other <;> simp [Event.gained, holding, same]
  · intro other value
    rfl

theorem set_ledger {caller target : KeyIndex} {new : Option Value}
    (ledger : Ledger index initial state.table state.log) :
    Ledger index initial (state.table.put target index new)
      (state.log ++ [.set pass caller target new ((state.table target).data index)]) :=
  ledger.put (fun _ _ => rfl) fun _ _ => rfl

theorem runDestructor_ledger {destructor : Destructor} {value : Value}
    (ledger : Ledger index initial state.table state.log) :
    Ledger index initial (runDestructor behave index pass key destructor value state).table
      (runDestructor behave index pass key destructor value state).log := by
  apply runDestructor_keeps (motive := fun after => Ledger index initial after.table after.log)
  · intro after call kept
    exact set_ledger kept
  · intro world
    exact ledger.note (fun _ _ => rfl) fun _ _ => rfl

end Keeping

section Accounts

variable [DecidableEq Value] [DecidableEq Destructor]
  {behave : Behaviour Value Destructor World} {index pass : Nat} {key : KeyIndex}
  {initial : Table Value Destructor} {state : Cleanup Value Destructor World}

/-- Each time the scan finds a value on a key with a destructor, the destructor is called. -/
def CalledOnce (initial : Table Value Destructor) (log : List (Event Value Destructor)) : Prop :=
  ∀ pass key destructor value, log.countP (Event.calls pass key destructor value) =
    if (initial key).used = true ∧ (initial key).destructor = some destructor then
      log.countP (Event.finds pass key value)
    else 0

structure Accounts (index : Nat) (initial : Table Value Destructor)
    (state : Cleanup Value Destructor World) : Prop where
  same : SameElsewhere index initial state.table
  ledger : Ledger index initial state.table state.log
  called : CalledOnce initial state.log

theorem calledOnce_silent (same : SameElsewhere index initial state.table)
    (called : CalledOnce initial state.log)
    (silent : (state.table key).data index = none ∨ ¬ (state.table key).Live) :
    CalledOnce initial (clear index pass key state).log := by
  intro otherPass other destructor value
  rw [countP_clear, countP_clear, called otherPass other destructor value]
  have noCall : Event.calls otherPass other destructor value
      (.visited pass key ((state.table key).data index)) = false := rfl
  rw [noCall]
  by_cases live : (initial other).used = true ∧ (initial other).destructor = some destructor
  · rw [if_pos live, if_pos live]
    have notFound : Event.finds otherPass other value
        (.visited pass key ((state.table key).data index) : Event Value Destructor) = false := by
      rcases silent with empty | notLive
      · rw [empty]
        rfl
      · rcases (state.table key).data index with _ | found
        · rfl
        · apply decide_eq_false
          rintro ⟨_, rfl, _⟩
          apply notLive
          rw [same.live]
          exact ⟨live.1, by rw [live.2]; rfl⟩
    rw [notFound]
  · rw [if_neg live, if_neg live]
    rfl

theorem calledOnce_ran (same : SameElsewhere index initial state.table)
    (called : CalledOnce initial state.log) {value : Value} {destructor : Destructor}
    (found : (state.table key).data index = some value) (used : (state.table key).used = true)
    (given : (state.table key).destructor = some destructor) :
    CalledOnce initial
      (runDestructor behave index pass key destructor value (clear index pass key state)).log := by
  intro otherPass other otherDestructor otherValue
  rw [countP_runDestructor _ fun _ _ _ _ => rfl, countP_runDestructor _ fun _ _ _ _ => rfl,
    countP_clear, countP_clear, called otherPass other otherDestructor otherValue, found]
  rw [same.used] at used
  rw [same.destructor] at given
  simp only [Event.calls, Event.finds]
  by_cases live : (initial other).used = true ∧ (initial other).destructor = some otherDestructor
  · rw [if_pos live, if_pos live]
    by_cases this : key = other
    · subst this
      have sameDestructor : destructor = otherDestructor :=
        Option.some.inj (given.symm.trans live.2)
      simp [sameDestructor]
    · simp [this]
  · rw [if_neg live, if_neg live]
    have notThis : ¬ (pass = otherPass ∧ key = other ∧ destructor = otherDestructor ∧
        value = otherValue) := by
      rintro ⟨_, rfl, rfl, _⟩
      exact live ⟨used, given⟩
    simp [notThis]

theorem visit_accounts (called : Bool) (accounts : Accounts index initial state) :
    Accounts index initial (visit behave index pass (state, called) key).1 := by
  have visited := visit_visited behave index pass key state called
  generalize visit behave index pass (state, called) key = after at visited ⊢
  cases visited with
  | silent skipped =>
    exact ⟨clear_same accounts.same, clear_ledger accounts.ledger,
      calledOnce_silent accounts.same accounts.called skipped⟩
  | ran value destructor found used given =>
    exact ⟨runDestructor_same (clear_same accounts.same),
      runDestructor_ledger (clear_ledger accounts.ledger),
      calledOnce_ran accounts.same accounts.called found used given⟩

end Accounts

section Passes

variable {behave : Behaviour Value Destructor World} {index pass : Nat} {key : KeyIndex}
  {initial : Table Value Destructor} {state : Cleanup Value Destructor World} {called : Bool}

theorem countP_visit (counts : Event Value Destructor → Bool)
    (silentSet : ∀ setPass caller target new previous,
      counts (.set setPass caller target new previous) = false)
    (silentCall : ∀ callPass target destructor value,
      counts (.called callPass target destructor value) = false) :
    (visit behave index pass (state, called) key).1.log.countP counts =
      state.log.countP counts +
        (counts (.visited pass key ((state.table key).data index))).toNat := by
  have visited := visit_visited behave index pass key state called
  generalize visit behave index pass (state, called) key = after at visited ⊢
  cases visited with
  | silent skipped => exact countP_clear counts
  | ran value destructor found used given =>
    rw [countP_runDestructor counts fun _ _ _ _ => silentSet _ _ _ _ _, countP_clear, silentCall]
    rfl

theorem runs_visit (behave : Behaviour Value Destructor World) (index pass : Nat)
    (key : KeyIndex) (state : Cleanup Value Destructor World) (called : Bool)
    (other : KeyIndex) :
    (visit behave index pass (state, called) key).1.log.countP (Event.runs other) ≤
      state.log.countP (Event.runs other) + if key = other then 1 else 0 := by
  have visited := visit_visited behave index pass key state called
  generalize visit behave index pass (state, called) key = after at visited ⊢
  have noRun : Event.runs other
      (.visited pass key ((state.table key).data index) : Event Value Destructor) = false := rfl
  cases visited with
  | silent skipped =>
    rw [countP_clear, noRun]
    exact Nat.le_add_right _ _
  | ran value destructor found used given =>
    rw [countP_runDestructor _ fun _ _ _ _ => rfl, countP_clear, noRun]
    by_cases same : key = other <;> simp [Event.runs, same]

/-- A key that the pass has left behind with a value was armed again in the pass. -/
def Settled (index : Nat) (initial : Table Value Destructor) (pass done : Nat)
    (state : Cleanup Value Destructor World) : Prop :=
  ∀ key : KeyIndex, key.val < done → (initial key).Live →
    ((state.table key).data index).isSome = true →
      ∃ event ∈ state.log, event.rearms initial pass = true

theorem clear_settled (settled : Settled index initial pass key state) :
    Settled index initial pass (key + 1) (clear index pass key state) := by
  intro other within live held
  unfold clear at held
  dsimp only at held
  by_cases same : other = key
  · subst same
    rw [Table.put_self] at held
    cases held
  · rw [Table.put_of_ne same] at held
    have before : other.val < key.val := by
      have different : other.val ≠ key.val := fun equal => same (Fin.ext equal)
      omega
    obtain ⟨event, member, rearms⟩ := settled other before live held
    exact ⟨event, List.mem_append_left _ member, rearms⟩

theorem runDestructor_settled {destructor : Destructor} {value : Value}
    (settled : Settled index initial pass (key + 1) state) :
    Settled index initial pass (key + 1)
      (runDestructor behave index pass key destructor value state) := by
  apply runDestructor_keeps (motive := Settled index initial pass (key + 1))
  · intro after call kept other within live held
    by_cases same : other = call.1
    · subst same
      dsimp only at held
      rw [Table.put_self] at held
      obtain ⟨new, isNew⟩ := Option.isSome_iff_exists.mp held
      refine ⟨_, List.mem_append_right _ (List.mem_singleton_self _), ?_⟩
      rw [isNew]
      apply decide_eq_true
      exact ⟨rfl, Nat.le_of_lt_succ within, live⟩
    · dsimp only at held
      rw [Table.put_of_ne same] at held
      obtain ⟨event, member, rearms⟩ := kept other within live held
      exact ⟨event, List.mem_append_left _ member, rearms⟩
  · intro world other within live held
    obtain ⟨event, member, rearms⟩ := settled other within live held
    exact ⟨event, List.mem_append_left _ member, rearms⟩

/-- While no destructor has run, the keys visited are empty. -/
def Untouched (index done : Nat) (scanned : Cleanup Value Destructor World × Bool) : Prop :=
  scanned.2 = false → ∀ key : KeyIndex, key.val < done →
    (scanned.1.table key).data index = none

theorem visit_settled (settled : Settled index initial pass key state)
    (untouched : Untouched index key (state, called)) :
    Settled index initial pass (key + 1) (visit behave index pass (state, called) key).1 ∧
      Untouched index (key + 1) (visit behave index pass (state, called) key) := by
  have visited := visit_visited behave index pass key state called
  generalize visit behave index pass (state, called) key = after at visited ⊢
  cases visited with
  | silent skipped =>
    refine ⟨clear_settled settled, ?_⟩
    intro notCalled other within
    by_cases same : other = key
    · subst same
      exact Table.put_self other none
    · have before : other.val < key.val := by
        have different : other.val ≠ key.val := fun equal => same (Fin.ext equal)
        omega
      have empty := untouched notCalled other before
      dsimp only [clear]
      rw [Table.put_of_ne same]
      exact empty
  | ran value destructor found used given =>
    refine ⟨runDestructor_settled (clear_settled settled), ?_⟩
    intro notCalled
    cases notCalled

/-- How often a pass that has come to position `done` has visited the key. -/
def passedBy (pass done visitPass : Nat) (key : KeyIndex) : Nat :=
  if visitPass = pass ∧ key.val < done then 1 else 0

variable [DecidableEq Value] [DecidableEq Destructor]

/-- What a pass over the first `done` keys does. -/
structure Pass (index : Nat) (initial : Table Value Destructor) (pass : Nat)
    (before : Cleanup Value Destructor World) (done : Nat)
    (scanned : Cleanup Value Destructor World × Bool) : Prop where
  accounts : Accounts index initial scanned.1
  visits : ∀ visitPass key, scanned.1.log.countP (Event.visits visitPass key) =
    before.log.countP (Event.visits visitPass key) + passedBy pass done visitPass key
  runs : ∀ key : KeyIndex, scanned.1.log.countP (Event.runs key) ≤
    before.log.countP (Event.runs key) + if key.val < done then 1 else 0
  wipes : scanned.1.log.countP Event.wipes = before.log.countP Event.wipes
  settled : Settled index initial pass done scanned.1
  untouched : Untouched index done scanned

theorem visit_pass {before : Cleanup Value Destructor World}
    (begun : Pass index initial pass before key (state, called)) :
    Pass index initial pass before (key + 1) (visit behave index pass (state, called) key) where
  accounts := visit_accounts called begun.accounts
  visits := by
    intro visitPass other
    rw [countP_visit _ (fun _ _ _ _ _ => rfl) fun _ _ _ _ => rfl, begun.visits]
    have position : other.val < key.val + 1 ↔ other.val < key.val ∨ key = other := by
      rw [Fin.ext_iff]
      omega
    unfold passedBy
    simp only [Event.visits, position]
    by_cases now : pass = visitPass ∧ key = other
    · obtain ⟨rfl, rfl⟩ := now
      simp
    · rw [decide_eq_false now]
      by_cases same : visitPass = pass
      · have different : key ≠ other := fun equal => now ⟨same.symm, equal⟩
        simp [different]
      · simp [same]
  runs := by
    intro other
    have more := runs_visit behave index pass key state called other
    have soFar := begun.runs other
    by_cases same : key = other
    · subst same
      simp only [lt_irrefl, if_false, if_true, Nat.lt_succ_self] at soFar more ⊢
      omega
    · have different : key.val ≠ other.val := fun equal => same (Fin.ext equal)
      have position : other.val < key.val + 1 ↔ other.val < key.val := by omega
      rw [if_neg same] at more
      simp only [position]
      exact more.trans soFar
  wipes := by
    rw [countP_visit _ (fun _ _ _ _ _ => rfl) fun _ _ _ _ => rfl]
    exact begun.wipes
  settled := (visit_settled begun.settled begun.untouched).1
  untouched := (visit_settled begun.settled begun.untouched).2

theorem scan_pass (behave : Behaviour Value Destructor World) (pass : Nat)
    (accounts : Accounts index initial state) :
    Pass index initial pass state taskTlsKeys (scan behave index pass state) := by
  apply foldl_finRange (motive := Pass index initial pass state)
  · intro key scanned begun
    exact visit_pass begun
  · refine ⟨accounts, ?_, ?_, rfl, ?_, ?_⟩
    · intro visitPass key
      simp [passedBy]
    · intro key
      simp
    · intro key within
      cases within
    · intro _ key within
      cases within

/-- What the passes from `first` on, at most `remaining`, do. -/
structure Passes (index : Nat) (initial : Table Value Destructor) (first remaining : Nat)
    (before after : Cleanup Value Destructor World) : Prop where
  accounts : Accounts index initial after
  visits : ∀ visitPass key, after.log.countP (Event.visits visitPass key) ≤
    before.log.countP (Event.visits visitPass key) +
      if first ≤ visitPass ∧ visitPass < first + remaining then 1 else 0
  runs : ∀ key : KeyIndex, after.log.countP (Event.runs key) ≤
    before.log.countP (Event.runs key) + remaining
  wipes : after.log.countP Event.wipes = before.log.countP Event.wipes
  settled : 0 < remaining → Settled index initial (first + remaining - 1) taskTlsKeys after

theorem Pass.last {after : Cleanup Value Destructor World} {remaining : Nat}
    (done : Pass index initial pass state taskTlsKeys (after, called))
    (final : called = false ∨ remaining = 0) :
    Passes index initial pass (remaining + 1) state after where
  accounts := done.accounts
  visits := by
    intro visitPass key
    have counted : after.log.countP (Event.visits visitPass key) = _ := done.visits visitPass key
    have within : passedBy pass taskTlsKeys visitPass key ≤
        if pass ≤ visitPass ∧ visitPass < pass + (remaining + 1) then 1 else 0 := by
      unfold passedBy
      split <;> split <;> omega
    omega
  runs := by
    intro key
    have more : after.log.countP (Event.runs key) ≤ _ := done.runs key
    rw [if_pos key.isLt] at more
    omega
  wipes := done.wipes
  settled := by
    intro _ key within live held
    rcases final with notCalled | noMore
    · have empty : (after.table key).data index = none := done.untouched notCalled key within
      rw [empty] at held
      cases held
    · subst noMore
      exact done.settled key within live held

/-- A pass that ran a destructor, and the passes after it. -/
theorem Pass.before {scanned after : Cleanup Value Destructor World} {remaining : Nat}
    (done : Pass index initial pass state taskTlsKeys (scanned, called))
    (rest : Passes index initial (pass + 1) remaining scanned after) (more : 0 < remaining) :
    Passes index initial pass (remaining + 1) state after where
  accounts := rest.accounts
  visits := by
    intro visitPass key
    have first : scanned.log.countP (Event.visits visitPass key) = _ := done.visits visitPass key
    have later := rest.visits visitPass key
    rw [first] at later
    have apart : passedBy pass taskTlsKeys visitPass key +
        (if pass + 1 ≤ visitPass ∧ visitPass < pass + 1 + remaining then 1 else 0) ≤
          if pass ≤ visitPass ∧ visitPass < pass + (remaining + 1) then 1 else 0 := by
      unfold passedBy
      split <;> split <;> split <;> omega
    omega
  runs := by
    intro key
    have first : scanned.log.countP (Event.runs key) ≤ _ := done.runs key
    have later := rest.runs key
    rw [if_pos key.isLt] at first
    omega
  wipes := rest.wipes.trans done.wipes
  settled := by
    intro _
    have same : pass + (remaining + 1) - 1 = pass + 1 + remaining - 1 := by omega
    rw [same]
    exact rest.settled more

theorem passes_passes (behave : Behaviour Value Destructor World) (remaining pass : Nat)
    (state : Cleanup Value Destructor World) (accounts : Accounts index initial state) :
    Passes index initial pass remaining state (passes behave index remaining pass state) := by
  induction remaining generalizing pass state with
  | zero =>
    refine ⟨accounts, ?_, ?_, rfl, ?_⟩
    · intro visitPass key
      exact Nat.le_add_right _ _
    · intro key
      exact Nat.le_refl _
    · intro positive
      cases positive
  | succ remaining inductionHypothesis =>
    have scanned := scan_pass behave pass accounts
    -- `unfold` would look into the loop over the keys
    change Passes index initial pass (remaining + 1) state
      (match scan behave index pass state with
      | (scanned, true) => passes behave index remaining (pass + 1) scanned
      | (scanned, false) => scanned)
    generalize scan behave index pass state = result at scanned ⊢
    obtain ⟨after, called⟩ := result
    cases called with
    | false => exact scanned.last (.inl rfl)
    | true =>
      cases remaining with
      | zero => exact scanned.last (.inr rfl)
      | succ remaining =>
        have rest := inductionHypothesis (pass + 1) after scanned.accounts
        exact scanned.before rest (Nat.succ_pos _)

end Passes

section Result

variable [DecidableEq Value] [DecidableEq Destructor] {index : Nat}
  {behave : Behaviour Value Destructor World} {initial : Table Value Destructor}

/-- The last loop has cleared the first `done` keys. -/
structure Wiped (index : Nat) (initial : Table Value Destructor)
    (scanned : Cleanup Value Destructor World) (done : Nat)
    (state : Cleanup Value Destructor World) : Prop where
  accounts : Accounts index initial state
  visits : ∀ pass key, state.log.countP (Event.visits pass key) =
    scanned.log.countP (Event.visits pass key)
  runs : ∀ key, state.log.countP (Event.runs key) = scanned.log.countP (Event.runs key)
  earlier : ∀ event ∈ scanned.log, event ∈ state.log
  cleared : ∀ key : KeyIndex, key.val < done → (state.table key).data index = none
  kept : ∀ key : KeyIndex, done ≤ key.val → state.table key = scanned.table key
  wiped : ∀ key value, .wiped key value ∈ state.log → value = (scanned.table key).data index

omit [DecidableEq Value] [DecidableEq Destructor] in
theorem countP_wipe {state : Cleanup Value Destructor World} {key : KeyIndex}
    (counts : Event Value Destructor → Bool)
    (silent : ∀ target value, counts (.wiped target value) = false) :
    (wipe index state key).log.countP counts = state.log.countP counts := by
  unfold wipe
  dsimp only
  rw [List.countP_append, List.countP_singleton, silent]
  rfl

theorem wipe_wiped {scanned state : Cleanup Value Destructor World} {key : KeyIndex}
    (begun : Wiped index initial scanned key state) :
    Wiped index initial scanned (key + 1) (wipe index state key) where
  accounts := by
    refine ⟨begun.accounts.same.put key none, ?_, ?_⟩
    · apply begun.accounts.ledger.put
      · intro other value
        by_cases same : key = other <;> simp [Event.gained, holding, same]
      · intro other value
        rfl
    · intro pass other destructor value
      rw [countP_wipe _ fun _ _ => rfl, countP_wipe _ fun _ _ => rfl]
      exact begun.accounts.called pass other destructor value
  visits := by
    intro pass other
    rw [countP_wipe _ fun _ _ => rfl]
    exact begun.visits pass other
  runs := by
    intro other
    rw [countP_wipe _ fun _ _ => rfl]
    exact begun.runs other
  earlier := by
    intro event member
    exact List.mem_append_left _ (begun.earlier event member)
  cleared := by
    intro other within
    dsimp only [wipe]
    by_cases same : other = key
    · subst same
      exact Table.put_self other none
    · rw [Table.put_of_ne same]
      apply begun.cleared
      have different : other.val ≠ key.val := fun equal => same (Fin.ext equal)
      omega
  kept := by
    intro other beyond
    have different : other ≠ key := by
      rintro rfl
      omega
    dsimp only [wipe]
    rw [Table.put_of_ne different]
    exact begun.kept other (by omega)
  wiped := by
    intro other value member
    rcases List.mem_append.mp member with before | now
    · exact begun.wiped other value before
    · cases List.mem_singleton.mp now
      rw [begun.kept key (Nat.le_refl _)]

/-- What `task_tls_cleanup` guarantees of the values at the index. -/
structure Cleaned (index : Nat) (before after : Cleanup Value Destructor World) : Prop where
  passes : ∀ pass key, taskTlsDestructorIterations ≤ pass →
    after.log.countP (Event.visits pass key) = 0
  visitedOnce : ∀ pass key, after.log.countP (Event.visits pass key) ≤ 1
  calledOnce : CalledOnce before.table after.log
  runs : ∀ key, after.log.countP (Event.runs key) ≤ taskTlsDestructorIterations
  accounted : ∀ key value,
    holding value ((before.table key).data index) + (after.log.map (Event.gained key value)).sum =
      (after.log.map (Event.lost key value)).sum
  complete : (∀ event ∈ after.log,
      event.rearms before.table (taskTlsDestructorIterations - 1) = false) →
    ∀ key value, .wiped key (some value) ∈ after.log → ¬ (before.table key).Live
  cleared : ∀ key, (after.table key).data index = none
  same : SameElsewhere index before.table after.table

/-- However its destructors set values, the cleanup ends after at most four passes, calls the
destructor once for each value it finds, and drops none unless the last pass is armed again. -/
theorem taskTlsCleanup_cleaned (before : Cleanup Value Destructor World)
    (started : before.log = []) (inside : index < lunaResourceSlots + 2) :
    Cleaned index before (taskTlsCleanup behave index before) := by
  have accounts : Accounts index before.table before := by
    refine ⟨SameElsewhere.refl _, ?_, ?_⟩
    · intro key value
      rw [started]
      rfl
    · intro pass key destructor value
      rw [started]
      simp
  have passed := passes_passes behave taskTlsDestructorIterations 0 before accounts
  obtain ⟨scanned, scannedEq⟩ :
      ∃ scanned, scanned = passes behave index taskTlsDestructorIterations 0 before := ⟨_, rfl⟩
  rw [← scannedEq] at passed
  have result : taskTlsCleanup behave index before =
      (List.finRange taskTlsKeys).foldl (wipe index) scanned := by
    rw [taskTlsCleanup, if_neg (Nat.not_le_of_lt inside), scannedEq]
  have noWipes : ∀ key value, Event.wiped key value ∉ scanned.log := by
    have none : scanned.log.countP Event.wipes = 0 := by
      rw [passed.wipes, started]
      rfl
    intro key value member
    exact List.countP_eq_zero.mp none _ member rfl
  have wiped : Wiped index before.table scanned taskTlsKeys
      ((List.finRange taskTlsKeys).foldl (wipe index) scanned) := by
    apply foldl_finRange (motive := Wiped index before.table scanned)
    · intro key state begun
      exact wipe_wiped begun
    · refine ⟨passed.accounts, fun _ _ => rfl, fun _ => rfl, fun _ member => member, ?_,
        fun _ _ => rfl, ?_⟩
      · intro key within
        cases within
      · intro key value member
        exact absurd member (noWipes key value)
  rw [← result] at wiped
  have visits := passed.visits
  have runs := passed.runs
  rw [started] at visits runs
  refine ⟨?passes, ?visitedOnce, wiped.accounts.called, ?runs, ?accounted, ?complete, ?cleared,
    wiped.accounts.same⟩
  case passes =>
    intro pass key late
    have bound := visits pass key
    rw [wiped.visits]
    simp only [List.countP_nil, Nat.zero_add, Nat.zero_le, true_and, Nat.not_lt_of_le late,
      if_false] at bound
    omega
  case visitedOnce =>
    intro pass key
    have bound := visits pass key
    rw [wiped.visits]
    rw [List.countP_nil] at bound
    split at bound <;> omega
  case runs =>
    intro key
    have bound := runs key
    rw [List.countP_nil] at bound
    rw [wiped.runs]
    omega
  case accounted =>
    intro key value
    have balance := wiped.accounts.ledger key value
    rw [wiped.cleared key key.isLt] at balance
    simpa [holding] using balance
  case complete =>
    intro notRearmed key value member live
    have held := wiped.wiped key (some value) member
    have settled := passed.settled (by decide) key key.isLt live (by rw [← held]; rfl)
    obtain ⟨event, rearming, rearms⟩ := settled
    have silent := notRearmed event (wiped.earlier event rearming)
    rw [show 0 + taskTlsDestructorIterations - 1 = taskTlsDestructorIterations - 1 from rfl,
      silent] at rearms
    cases rearms
  case cleared =>
    intro key
    exact wiped.cleared key key.isLt

end Result

section Reentry

def reentryKey : KeyIndex := ⟨3, by decide⟩

/-- `task_tls_reentrant_destructor` with a limit; the memory counts its calls. -/
def taskTlsReentrantDestructor (rearmLimit : Nat) : Behaviour Nat Unit Nat :=
  fun calls _ _ _ =>
    (calls + 1, if calls + 1 < rearmLimit then [(reentryKey, some (calls + 2))] else [])

/-- One key is in use, and the thread of slot 0 has set it. -/
def reentryStart : Cleanup Nat Unit Nat where
  table := fun key =>
    if key = reentryKey then ⟨true, fun index => if index = 2 then some 1 else none, some ()⟩
    else ⟨false, fun _ => none, none⟩
  world := 0
  log := []

theorem taskTlsCleanup_cleaned_reentry :
    (2 < lunaResourceSlots + 2) ∧
      Cleaned 2 reentryStart
        (taskTlsCleanup (taskTlsReentrantDestructor 6) 2 reentryStart) ∧
      (taskTlsCleanup (taskTlsReentrantDestructor 6) 2 reentryStart).log.countP
        (Event.runs reentryKey) = 4 :=
  ⟨by decide, taskTlsCleanup_cleaned reentryStart rfl (by decide), by decide⟩

end Reentry

end Luna.Tls
