import Luna.Lib.Interleaving
import Luna.Tls.Cleanup

/-!
# Reuse of thread-local keys

`task_tls_alloc`, `task_tls_free`, `task_tls_set` and `task_tls_get` by any threads, one
access of the table a step.  `task_tls_free` gives the key back with its first store and
clears the row and the destructor after that, so a `task_tls_alloc` may take the key in
between and lose what it has stored.
-/

namespace Luna.Tls

open Interleaving

variable {Thread Value Destructor : Type}

/-- Where a thread stands.  `seen` is history: the allocation of the key that was live when
the call found it used. -/
inductive Call (Value Destructor : Type) where
  | idle
  | allocProbe (destructor : Option Destructor) (position : Nat)
  | allocClear (destructor : Option Destructor) (key : KeyIndex) (position : Nat)
  | allocStore (destructor : Option Destructor) (key : KeyIndex)
  | allocReturn (destructor : Option Destructor) (key : KeyIndex)
  | freeStore (key : KeyIndex)
  | freeClear (key : KeyIndex) (position : Nat)
  | freeDestructor (key : KeyIndex)
  | setCheck (key : KeyIndex) (value : Option Value)
  | setStore (key : KeyIndex) (value : Option Value) (seen : Option Nat)
  | getCheck (key : KeyIndex)
  | getRead (key : KeyIndex)
  deriving DecidableEq

/-- Who has a key: `taken` by a `task_tls_alloc` that has not returned, or `live` between its
return and the free. -/
inductive Holder (Thread Destructor : Type) where
  | free
  | taken (thread : Thread)
  | live (owner : Thread) (destructor : Option Destructor)
  deriving DecidableEq

/-- History of a key: the number of its allocations, the holder, and the last value each
thread has set under the live one. -/
structure Allocation (Thread Value Destructor : Type) where
  epoch : Nat
  holder : Holder Thread Destructor
  lastSet : Thread → Option Value

/-- A `task_tls_get` of a live key: what it returned and what was to be expected. -/
structure Got (Thread Value : Type) where
  thread : Thread
  key : KeyIndex
  value : Option Value
  expected : Option Value
  deriving DecidableEq

structure TlsState (Thread Value Destructor : Type) where
  table : Table Value Destructor
  calls : Thread → Call Value Destructor
  allocations : KeyIndex → Allocation Thread Value Destructor
  gets : List (Got Thread Value)

inductive TlsAction (Thread Value Destructor : Type) where
  | alloc (thread : Thread) (destructor : Option Destructor)
  | free (thread : Thread) (key : KeyIndex)
  | set (thread : Thread) (key : KeyIndex) (value : Option Value)
  | get (thread : Thread) (key : KeyIndex)
  | step (thread : Thread)
  deriving DecidableEq

/-- `current_tls_index` of each thread. -/
structure Indices (Thread : Type) where
  index : Thread → Nat
  injective : Function.Injective index

def Holder.isLive : Holder Thread Destructor → Bool
  | .live _ _ => true
  | _ => false

/-- The allocation that is live. -/
def Allocation.seen (allocation : Allocation Thread Value Destructor) : Option Nat :=
  if allocation.holder.isLive then some allocation.epoch else none

namespace TlsState

def goto [DecidableEq Thread] (state : TlsState Thread Value Destructor) (thread : Thread)
    (call : Call Value Destructor) : TlsState Thread Value Destructor :=
  { state with calls := Function.update state.calls thread call }

def setKey (state : TlsState Thread Value Destructor) (key : KeyIndex)
    (entry : TlsKey Value Destructor) : TlsState Thread Value Destructor :=
  { state with table := Function.update state.table key entry }

def setAllocation (state : TlsState Thread Value Destructor) (key : KeyIndex)
    (allocation : Allocation Thread Value Destructor) : TlsState Thread Value Destructor :=
  { state with allocations := Function.update state.allocations key allocation }

/-- A `task_tls_get` returns; it counts when the key is live. -/
def returnGet (state : TlsState Thread Value Destructor) (thread : Thread) (key : KeyIndex)
    (value : Option Value) : TlsState Thread Value Destructor :=
  if (state.allocations key).holder.isLive then
    { state with
      gets := state.gets ++ [⟨thread, key, value, (state.allocations key).lastSet thread⟩] }
  else state

end TlsState

section Model

variable [DecidableEq Thread]

def stepAlloc (state : TlsState Thread Value Destructor) (thread : Thread)
    (destructor : Option Destructor) (position : Nat) : TlsState Thread Value Destructor :=
  if inside : position < taskTlsKeys then
    let key : KeyIndex := ⟨position, inside⟩
    if (state.table key).used then state.goto thread (.allocProbe destructor (position + 1))
    else
      let taken := state.setKey key { state.table key with used := true }
      let counted := taken.setAllocation key
        ⟨(state.allocations key).epoch + 1, .taken thread, fun _ => none⟩
      counted.goto thread (.allocClear destructor key 0)
  else state.goto thread .idle

/-- The next access of a call. -/
def stepTls (indices : Indices Thread) (state : TlsState Thread Value Destructor)
    (thread : Thread) : Option (TlsState Thread Value Destructor) :=
  match state.calls thread with
  | .idle => none
  | .allocProbe destructor position => some (stepAlloc state thread destructor position)
  | .allocClear destructor key position =>
    if position < lunaResourceSlots + 2 then
      some ({ state with table := state.table.put key position none }.goto thread
        (.allocClear destructor key (position + 1)))
    else some (state.goto thread (.allocStore destructor key))
  | .allocStore destructor key =>
    some ((state.setKey key { state.table key with destructor }).goto thread
      (.allocReturn destructor key))
  | .allocReturn destructor key =>
    some ((state.setAllocation key
      { state.allocations key with holder := .live thread destructor }).goto thread .idle)
  | .freeStore key =>
    let given := state.setKey key { state.table key with used := false }
    let counted := given.setAllocation key { state.allocations key with holder := .free }
    some (counted.goto thread (.freeClear key 0))
  | .freeClear key position =>
    if position < lunaResourceSlots + 2 then
      some ({ state with table := state.table.put key position none }.goto thread
        (.freeClear key (position + 1)))
    else some (state.goto thread (.freeDestructor key))
  | .freeDestructor key =>
    some ((state.setKey key { state.table key with destructor := none }).goto thread .idle)
  | .setCheck key value =>
    if !(state.table key).used || decide (indices.index thread ≥ lunaResourceSlots + 2) then
      some (state.goto thread .idle)
    else some (state.goto thread (.setStore key value (state.allocations key).seen))
  | .setStore key value seen =>
    let stored := { state with table := state.table.put key (indices.index thread) value }
    let allocation := state.allocations key
    let counted :=
      if allocation.holder.isLive && decide (seen = some allocation.epoch) then
        stored.setAllocation key
          { allocation with lastSet := Function.update allocation.lastSet thread value }
      else stored
    some (counted.goto thread .idle)
  | .getCheck key =>
    if !(state.table key).used || decide (indices.index thread ≥ lunaResourceSlots + 2) then
      some ((state.returnGet thread key none).goto thread .idle)
    else some (state.goto thread (.getRead key))
  | .getRead key =>
    some ((state.returnGet thread key ((state.table key).data (indices.index thread))).goto
      thread .idle)

/-- A thread that is in no call begins one. -/
def TlsState.begin (state : TlsState Thread Value Destructor) (thread : Thread)
    (call : Call Value Destructor) : Option (TlsState Thread Value Destructor) :=
  match state.calls thread with
  | .idle => some (state.goto thread call)
  | _ => none

/-- Only the owner frees a key. -/
def Holder.ownedBy (thread : Thread) : Holder Thread Destructor → Bool
  | .live owner _ => decide (owner = thread)
  | _ => false

def nextTls (indices : Indices Thread) (state : TlsState Thread Value Destructor) :
    TlsAction Thread Value Destructor → Option (TlsState Thread Value Destructor)
  | .alloc thread destructor => state.begin thread (.allocProbe destructor 0)
  | .free thread key =>
    if (state.allocations key).holder.ownedBy thread then state.begin thread (.freeStore key)
    else none
  | .set thread key value => state.begin thread (.setCheck key value)
  | .get thread key => state.begin thread (.getCheck key)
  | .step thread => stepTls indices state thread

structure TlsInitial (state : TlsState Thread Value Destructor) : Prop where
  table : ∀ key, state.table key = ⟨false, fun _ => none, none⟩
  calls : ∀ thread, state.calls thread = .idle
  allocations : ∀ key, state.allocations key = ⟨0, .free, fun _ => none⟩
  gets : state.gets = []

def tlsSystem (indices : Indices Thread) :
    System (TlsState Thread Value Destructor) (TlsAction Thread Value Destructor) :=
  ⟨TlsInitial, nextTls indices⟩

/-- A store to a key does not meet an allocation it does not belong to: what a free clears
has not been taken again, and what a set stores belongs to the allocation that the set
found live. -/
def NoOverlap (state : TlsState Thread Value Destructor) :
    TlsAction Thread Value Destructor → Prop
  | .step thread =>
    match state.calls thread with
    | .freeClear key _ | .freeDestructor key => (state.table key).used = false
    | .setStore key _ seen =>
        (state.table key).used = false ∨
          ((state.allocations key).holder.isLive = true ∧
            seen = some (state.allocations key).epoch)
    | _ => True
  | _ => True

instance (state : TlsState Thread Value Destructor) (action : TlsAction Thread Value Destructor) :
    Decidable (NoOverlap state action) := by
  unfold NoOverlap
  split
  · split <;> infer_instance
  · infer_instance

end Model

/-- Keys are isolated: what a live key has is what was given to it. -/
structure Isolated (state : TlsState Thread Value Destructor) : Prop where
  used : ∀ key owner destructor, (state.allocations key).holder = .live owner destructor →
    (state.table key).used = true
  destructor : ∀ key owner destructor, (state.allocations key).holder = .live owner destructor →
    (state.table key).destructor = destructor
  values : ∀ got ∈ state.gets, got.value = got.expected

/-- Who a key belongs to. -/
def Holder.thread? : Holder Thread Destructor → Option Thread
  | .free => none
  | .taken thread | .live thread _ => some thread

theorem Holder.live_of_isLive {holder : Holder Thread Destructor} (live : holder.isLive = true) :
    ∃ owner destructor, holder = .live owner destructor := by
  cases holder with
  | free => cases live
  | taken thread => cases live
  | live owner destructor => exact ⟨owner, destructor, rfl⟩

/-- The key a call has a right to. -/
def Call.claim : Call Value Destructor → Option KeyIndex
  | .allocClear _ key _ | .allocStore _ key | .allocReturn _ key | .freeStore key => some key
  | _ => none

section Invariant

/-- A key and its history. -/
structure KeyFits (indices : Indices Thread) (entry : TlsKey Value Destructor)
    (allocation : Allocation Thread Value Destructor) : Prop where
  used : entry.used = true ↔ allocation.holder ≠ .free
  fresh : ∀ thread, allocation.holder = .taken thread → allocation.lastSet = fun _ => none
  destructor : ∀ owner destructor, allocation.holder = .live owner destructor →
    entry.destructor = destructor
  data : ∀ owner destructor, allocation.holder = .live owner destructor →
    ∀ thread, indices.index thread < lunaResourceSlots + 2 →
      entry.data (indices.index thread) = allocation.lastSet thread
  outside : ∀ thread, lunaResourceSlots + 2 ≤ indices.index thread →
    allocation.lastSet thread = none

def Call.Fits (indices : Indices Thread) (table : Table Value Destructor)
    (holder : KeyIndex → Holder Thread Destructor) (thread : Thread) :
    Call Value Destructor → Prop
  | .allocClear _ key position =>
      holder key = .taken thread ∧ ∀ index < position, (table key).data index = none
  | .allocStore _ key =>
      holder key = .taken thread ∧
        ∀ index < lunaResourceSlots + 2, (table key).data index = none
  | .allocReturn destructor key =>
      holder key = .taken thread ∧
        (∀ index < lunaResourceSlots + 2, (table key).data index = none) ∧
        (table key).destructor = destructor
  | .freeStore key => ∃ destructor, holder key = .live thread destructor
  | .setStore _ _ _ | .getRead _ => indices.index thread < lunaResourceSlots + 2
  | _ => True

structure TlsInv (indices : Indices Thread) (state : TlsState Thread Value Destructor) : Prop where
  keys : ∀ key, KeyFits indices (state.table key) (state.allocations key)
  calls : ∀ thread, (state.calls thread).Fits indices state.table
    (fun key => (state.allocations key).holder) thread
  values : ∀ got ∈ state.gets, got.value = got.expected

variable {indices : Indices Thread} {state : TlsState Thread Value Destructor}
  {table : Table Value Destructor} {holder : KeyIndex → Holder Thread Destructor}
  {thread : Thread} {key : KeyIndex}

theorem Call.Fits.holds {call : Call Value Destructor} (fits : call.Fits indices table holder thread)
    (claims : call.claim = some key) : (holder key).thread? = some thread := by
  cases call <;> cases claims
  case allocClear => rw [fits.1]; rfl
  case allocStore => rw [fits.1]; rfl
  case allocReturn => rw [fits.1]; rfl
  case freeStore =>
    obtain ⟨destructor, live⟩ := fits
    rw [live]
    rfl

/-- A call depends on the key it claims only. -/
theorem Call.Fits.congr {call : Call Value Destructor} {table' : Table Value Destructor}
    {holder' : KeyIndex → Holder Thread Destructor} (fits : call.Fits indices table holder thread)
    (sameTable : ∀ key, call.claim = some key → table' key = table key)
    (sameHolder : ∀ key, call.claim = some key → holder' key = holder key) :
    call.Fits indices table' holder' thread := by
  cases call with
  | allocClear destructor key position =>
    simpa only [Call.Fits, sameTable key rfl, sameHolder key rfl] using fits
  | allocStore destructor key =>
    simpa only [Call.Fits, sameTable key rfl, sameHolder key rfl] using fits
  | allocReturn destructor key =>
    simpa only [Call.Fits, sameTable key rfl, sameHolder key rfl] using fits
  | freeStore key => simpa only [Call.Fits, sameHolder key rfl] using fits
  | _ => exact fits

variable [DecidableEq Thread]

/-- A step of the key's holder, or on a key that nobody holds, disturbs no other call. -/
theorem TlsInv.update (inv : TlsInv indices state) {entry : TlsKey Value Destructor}
    {allocation : Allocation Thread Value Destructor} {call : Call Value Destructor}
    (own : (state.allocations key).holder.thread? = none ∨
      (state.allocations key).holder.thread? = some thread)
    (keyFits : KeyFits indices entry allocation)
    (callFits : call.Fits indices (Function.update state.table key entry)
      (fun other => (Function.update state.allocations key allocation other).holder) thread) :
    TlsInv indices
      { state with
        table := Function.update state.table key entry
        allocations := Function.update state.allocations key allocation
        calls := Function.update state.calls thread call } where
  keys := by
    intro other
    by_cases same : other = key
    · subst same
      simpa using keyFits
    · simpa [same] using inv.keys other
  calls := by
    intro other
    by_cases same : other = thread
    · subst same
      simpa using callFits
    · dsimp only
      rw [Function.update_of_ne same]
      have fits := inv.calls other
      have elsewhere : ∀ claimed, (state.calls other).claim = some claimed → claimed ≠ key := by
        rintro claimed claims rfl
        have holds := fits.holds claims
        rcases own with nobody | mine
        · rw [nobody] at holds
          cases holds
        · exact same (Option.some.inj (holds.symm.trans mine))
      apply fits.congr
      · intro claimed claims
        rw [Function.update_of_ne (elsewhere claimed claims)]
      · intro claimed claims
        rw [Function.update_of_ne (elsewhere claimed claims)]
  values := inv.values

theorem TlsInv.goto (inv : TlsInv indices state) {call : Call Value Destructor}
    (callFits : call.Fits indices state.table (fun key => (state.allocations key).holder) thread) :
    TlsInv indices (state.goto thread call) where
  keys := inv.keys
  calls := by
    intro other
    unfold TlsState.goto
    dsimp only
    by_cases same : other = thread
    · subst same
      rw [Function.update_self]
      exact callFits
    · rw [Function.update_of_ne same]
      exact inv.calls other
  values := inv.values

omit [DecidableEq Thread] in
theorem TlsInv.returnGet (inv : TlsInv indices state) {value : Option Value}
    (right : (state.allocations key).holder.isLive = true →
      value = (state.allocations key).lastSet thread) :
    TlsInv indices (state.returnGet thread key value) := by
  unfold TlsState.returnGet
  split
  next live =>
    refine ⟨inv.keys, inv.calls, ?_⟩
    intro got member
    rcases List.mem_append.mp member with before | now
    · exact inv.values got before
    · rw [List.mem_singleton.mp now]
      exact right live
  next => exact inv

/-- A store to the row of a live key, of a set that found it live. -/
theorem TlsInv.setLive (inv : TlsInv indices state) {value : Option Value}
    (live : (state.allocations key).holder.isLive = true)
    (inside : indices.index thread < lunaResourceSlots + 2) :
    TlsInv indices
      { state with
        table := state.table.put key (indices.index thread) value
        allocations := Function.update state.allocations key
          { state.allocations key with
            lastSet := Function.update (state.allocations key).lastSet thread value }
        calls := Function.update state.calls thread .idle } where
  keys := by
    intro other
    by_cases same : other = key
    · subst same
      have fits := inv.keys other
      refine ⟨by simpa [Table.put] using fits.used, ?_, ?_, ?_, ?_⟩
      · intro taker taken
        simp only [Function.update_self] at taken
        rw [taken] at live
        cases live
      · intro owner destructor held
        simp only [Function.update_self] at held
        simpa [Table.put] using fits.destructor owner destructor held
      · intro owner destructor held setter within
        simp only [Function.update_self] at held
        have before := fits.data owner destructor held setter within
        by_cases self : setter = thread
        · subst self
          simp [Table.put]
        · have apart : indices.index setter ≠ indices.index thread :=
            fun equal => self (indices.injective equal)
          simpa [Table.put, self, apart] using before
      · intro setter beyond
        have other' : setter ≠ thread := by
          rintro rfl
          omega
        simpa [other'] using fits.outside setter beyond
    · dsimp only
      rw [Table.put_of_ne same, Function.update_of_ne same]
      exact inv.keys other
  calls := by
    intro other
    by_cases same : other = thread
    · subst same
      dsimp only
      rw [Function.update_self]
      trivial
    · dsimp only
      rw [Function.update_of_ne same]
      have fits := inv.calls other
      have sameHolder : ∀ claimed, (Function.update state.allocations key
          { state.allocations key with
            lastSet := Function.update (state.allocations key).lastSet thread value }
              claimed).holder = (state.allocations claimed).holder := by
        intro claimed
        by_cases this : claimed = key
        · subst this
          rw [Function.update_self]
        · rw [Function.update_of_ne this]
      have notTaken : ∀ claimed, (state.allocations claimed).holder = .taken other →
          claimed ≠ key := by
        rintro claimed taken rfl
        rw [taken] at live
        cases live
      revert fits
      cases state.calls other with
      | allocClear destructor claimed position =>
        intro fits
        have apart : state.table.put key (indices.index thread) value claimed =
            state.table claimed := Table.put_of_ne (notTaken claimed fits.1) value
        simpa only [Call.Fits, sameHolder, apart] using fits
      | allocStore destructor claimed =>
        intro fits
        have apart : state.table.put key (indices.index thread) value claimed =
            state.table claimed := Table.put_of_ne (notTaken claimed fits.1) value
        simpa only [Call.Fits, sameHolder, apart] using fits
      | allocReturn destructor claimed =>
        intro fits
        have apart : state.table.put key (indices.index thread) value claimed =
            state.table claimed := Table.put_of_ne (notTaken claimed fits.1) value
        simpa only [Call.Fits, sameHolder, apart] using fits
      | freeStore claimed =>
        intro fits
        simpa only [Call.Fits, sameHolder] using fits
      | _ =>
        intro fits
        exact fits
  values := inv.values

/-- A step that leaves the history of the key alone. -/
theorem TlsInv.updateTable (inv : TlsInv indices state) {entry : TlsKey Value Destructor}
    {call : Call Value Destructor}
    (own : (state.allocations key).holder.thread? = none ∨
      (state.allocations key).holder.thread? = some thread)
    (keyFits : KeyFits indices entry (state.allocations key))
    (callFits : call.Fits indices (Function.update state.table key entry)
      (fun other => (state.allocations other).holder) thread) :
    TlsInv indices
      { state with
        table := Function.update state.table key entry
        calls := Function.update state.calls thread call } := by
  have updated : TlsInv indices
      { state with
        table := Function.update state.table key entry
        allocations := Function.update state.allocations key (state.allocations key)
        calls := Function.update state.calls thread call } := by
    apply inv.update own keyFits
    rw [Function.update_eq_self]
    exact callFits
  rwa [Function.update_eq_self] at updated

omit [DecidableEq Thread] in
/-- Nobody relies on the row and the destructor of a key that is not live. -/
theorem KeyFits.notLive {entry changed : TlsKey Value Destructor}
    {allocation : Allocation Thread Value Destructor} (fits : KeyFits indices entry allocation)
    (sameUsed : changed.used = entry.used)
    (notLive : allocation.holder.isLive = false) : KeyFits indices changed allocation where
  used := by
    rw [sameUsed]
    exact fits.used
  fresh := fits.fresh
  destructor := by
    intro owner destructor live
    rw [live] at notLive
    cases notLive
  data := by
    intro owner destructor live
    rw [live] at notLive
    cases notLive
  outside := fits.outside

omit [DecidableEq Thread] in
theorem TlsInv.free_of_unused (inv : TlsInv indices state)
    (unused : (state.table key).used = false) : (state.allocations key).holder = .free := by
  by_contra held
  have used := (inv.keys key).used.mpr held
  rw [unused] at used
  cases used

theorem stepAlloc_inv (inv : TlsInv indices state) {given : Option Destructor} {position : Nat} :
    TlsInv indices (stepAlloc state thread given position) := by
  unfold stepAlloc
  split
  next inside =>
    dsimp only
    split
    next => exact inv.goto trivial
    next unused =>
      have unused := Bool.eq_false_iff.mpr unused
      have free := inv.free_of_unused unused
      refine inv.update (.inl ?_) ⟨?_, ?_, ?_, ?_, ?_⟩ ⟨?_, ?_⟩
      · rw [free]
        rfl
      · simp
      · intro other taken
        rfl
      · intro owner destructor live
        cases live
      · intro owner destructor live
        cases live
      · intro other outside
        rfl
      · simp
      · intro index before
        cases before
  next => exact inv.goto trivial

theorem stepTls_inv {target : TlsState Thread Value Destructor} (inv : TlsInv indices state)
    (apart : NoOverlap state (.step thread)) (moved : stepTls indices state thread = some target) :
    TlsInv indices target := by
  have fits := inv.calls thread
  unfold NoOverlap at apart
  dsimp only at apart
  unfold stepTls at moved
  cases at_ : state.calls thread <;> rw [at_] at moved fits apart <;> dsimp only at moved apart
  case idle => cases moved
  case allocProbe given position =>
    cases moved
    exact stepAlloc_inv inv
  case allocClear given key position =>
    have taken : (state.allocations key).holder = .taken thread := fits.1
    have cleared := fits.2
    have notLive : (state.allocations key).holder.isLive = false := by
      rw [taken]
      rfl
    split at moved
    next within =>
      cases moved
      refine inv.updateTable (.inr (by rw [taken]; rfl)) ?_ ⟨taken, ?_⟩
      · exact (inv.keys key).notLive rfl notLive
      · intro index before
        rw [Function.update_self]
        by_cases this : index = position
        · subst this
          simp
        · simpa [this] using cleared index (by omega)
    next finished =>
      cases moved
      refine inv.goto ⟨taken, ?_⟩
      intro index within
      exact cleared index (by omega)
  case allocStore given key =>
    have taken : (state.allocations key).holder = .taken thread := fits.1
    have cleared := fits.2
    have notLive : (state.allocations key).holder.isLive = false := by
      rw [taken]
      rfl
    cases moved
    refine inv.updateTable (.inr (by rw [taken]; rfl)) ?_ ⟨taken, ?_, ?_⟩
    · exact (inv.keys key).notLive rfl notLive
    · intro index within
      rw [Function.update_self]
      exact cleared index within
    · rw [Function.update_self]
  case allocReturn given key =>
    have taken : (state.allocations key).holder = .taken thread := fits.1
    obtain ⟨cleared, stored⟩ := fits.2
    cases moved
    have keyFits := inv.keys key
    have updated : TlsInv indices
        { state with
          table := Function.update state.table key (state.table key)
          allocations := Function.update state.allocations key
            { state.allocations key with holder := .live thread given }
          calls := Function.update state.calls thread .idle } := by
      refine inv.update (.inr (by rw [taken]; rfl)) ⟨?_, ?_, ?_, ?_, ?_⟩ trivial
      · rw [keyFits.used, taken]
        simp
      · intro other isTaken
        cases isTaken
      · intro owner destructor live
        cases live
        exact stored
      · intro owner destructor live other within
        rw [keyFits.fresh thread taken]
        exact cleared _ within
      · exact keyFits.outside
    rwa [Function.update_eq_self] at updated
  case freeStore key =>
    obtain ⟨destructor, live⟩ : ∃ destructor,
        (state.allocations key).holder = .live thread destructor := fits
    cases moved
    have keyFits := inv.keys key
    refine inv.update (.inr (by rw [live]; rfl)) ⟨?_, ?_, ?_, ?_, ?_⟩ trivial
    · simp
    · intro other taken
      cases taken
    · intro owner given isLive
      cases isLive
    · intro owner given isLive
      cases isLive
    · exact keyFits.outside
  case freeClear key position =>
    have free := inv.free_of_unused apart
    have notLive : (state.allocations key).holder.isLive = false := by
      rw [free]
      rfl
    split at moved
    next within =>
      cases moved
      exact inv.updateTable (.inl (by rw [free]; rfl)) ((inv.keys key).notLive rfl notLive) trivial
    next finished =>
      cases moved
      exact inv.goto trivial
  case freeDestructor key =>
    have free := inv.free_of_unused apart
    have notLive : (state.allocations key).holder.isLive = false := by
      rw [free]
      rfl
    cases moved
    exact inv.updateTable (.inl (by rw [free]; rfl)) ((inv.keys key).notLive rfl notLive) trivial
  case setCheck key value =>
    split at moved
    next refused =>
      cases moved
      exact inv.goto trivial
    next accepted =>
      cases moved
      apply inv.goto
      simp only [Bool.or_eq_true, decide_eq_true_eq, not_or] at accepted
      exact Nat.lt_of_not_le accepted.2
  case setStore key value seen =>
    cases moved
    have inside : indices.index thread < lunaResourceSlots + 2 := fits
    rcases apart with unused | ⟨live, current⟩
    · have free := inv.free_of_unused unused
      have notLive : (state.allocations key).holder.isLive = false := by
        rw [free]
        rfl
      rw [notLive]
      exact inv.updateTable (.inl (by rw [free]; rfl)) ((inv.keys key).notLive rfl notLive) trivial
    · rw [live, decide_eq_true current]
      exact inv.setLive live inside
  case getCheck key =>
    split at moved
    next refused =>
      cases moved
      refine (inv.returnGet ?_).goto trivial
      intro live
      obtain ⟨owner, destructor, holds⟩ := Holder.live_of_isLive live
      have used : (state.table key).used = true := by
        rw [(inv.keys key).used, holds]
        simp
      rw [used] at refused
      exact ((inv.keys key).outside thread (by simpa using refused)).symm
    next accepted =>
      cases moved
      apply inv.goto
      simp only [Bool.or_eq_true, decide_eq_true_eq, not_or] at accepted
      exact Nat.lt_of_not_le accepted.2
  case getRead key =>
    cases moved
    have inside : indices.index thread < lunaResourceSlots + 2 := fits
    refine (inv.returnGet ?_).goto trivial
    intro live
    obtain ⟨owner, destructor, holds⟩ := Holder.live_of_isLive live
    exact (inv.keys key).data owner destructor holds thread inside

theorem TlsInv.begin (inv : TlsInv indices state) {call : Call Value Destructor}
    {target : TlsState Thread Value Destructor}
    (moved : state.begin thread call = some target)
    (callFits : call.Fits indices state.table (fun key => (state.allocations key).holder) thread) :
    TlsInv indices target := by
  unfold TlsState.begin at moved
  split at moved
  · cases moved
    exact inv.goto callFits
  · cases moved

theorem nextTls_inv {action : TlsAction Thread Value Destructor}
    {target : TlsState Thread Value Destructor} (inv : TlsInv indices state)
    (apart : NoOverlap state action) (moved : nextTls indices state action = some target) :
    TlsInv indices target := by
  cases action with
  | alloc thread destructor => exact inv.begin moved trivial
  | free thread key =>
    unfold nextTls at moved
    dsimp only at moved
    split at moved
    next owned =>
      refine inv.begin moved ?_
      cases holds : (state.allocations key).holder with
      | free => simp [holds, Holder.ownedBy] at owned
      | taken other => simp [holds, Holder.ownedBy] at owned
      | live owner destructor =>
        have same : owner = thread := by simpa [holds, Holder.ownedBy] using owned
        subst same
        exact ⟨destructor, holds⟩
    next => cases moved
  | set thread key value => exact inv.begin moved trivial
  | get thread key => exact inv.begin moved trivial
  | step thread => exact stepTls_inv inv apart moved

omit [DecidableEq Thread] in
theorem TlsInitial.inv (initial : TlsInitial state) : TlsInv indices state where
  keys := by
    intro key
    rw [initial.table, initial.allocations]
    refine ⟨by simp, fun _ _ => rfl, ?_, ?_, fun _ _ => rfl⟩
    · intro owner destructor live
      cases live
    · intro owner destructor live
      cases live
  calls := by
    intro thread
    rw [initial.calls]
    trivial
  values := by
    intro got member
    rw [initial.gets] at member
    cases member

/-- Keys are isolated in every run in which no store meets an allocation it does not belong
to. -/
theorem keys_isolated (indices : Indices Thread) (state : TlsState Thread Value Destructor)
    (reached : (tlsSystem indices).Reach NoOverlap state) : Isolated state := by
  have inv : TlsInv indices state := by
    apply reached.invariant (TlsInv indices)
    · intro start initial
      exact initial.inv
    · intro before action after inv apart moved
      exact nextTls_inv inv apart moved
  refine ⟨?_, ?_, inv.values⟩
  · intro key owner destructor live
    rw [(inv.keys key).used, live]
    simp
  · intro key owner destructor live
    exact (inv.keys key).destructor owner destructor live

end Invariant

section Overlap

/-- Two threads with the indices of the main thread and of slot 0. -/
def twoThreads : Indices Bool where
  index thread := if thread then 1 else 2
  injective := by
    intro first second same
    cases first <;> cases second <;> first | rfl | cases same

def freshTls : TlsState Bool Nat Nat where
  table := fun _ => ⟨false, fun _ => none, none⟩
  calls := fun _ => .idle
  allocations := fun _ => ⟨0, .free, fun _ => none⟩
  gets := []

def firstKey : KeyIndex := ⟨0, by decide⟩

/-- A call with its steps to the end of `task_tls_alloc`. -/
def allocRun (thread : Bool) (destructor : Nat) : List (TlsAction Bool Nat Nat) :=
  .alloc thread (some destructor) :: List.replicate (lunaResourceSlots + 6) (.step thread)

def setRun (thread : Bool) (value : Nat) : List (TlsAction Bool Nat Nat) :=
  .set thread firstKey (some value) :: List.replicate 2 (.step thread)

def getRun (thread : Bool) : List (TlsAction Bool Nat Nat) :=
  .get thread firstKey :: List.replicate 2 (.step thread)

theorem keys_isolated_after_set : ∃ state : TlsState Bool Nat Nat,
    (tlsSystem twoThreads).Reach NoOverlap state ∧ Isolated state ∧
      state.gets = [⟨true, firstKey, some 7, some 7⟩] := by
  obtain ⟨state, reached, got⟩ := System.exists_reach_of_exec (tlsSystem twoThreads) NoOverlap
    freshTls (allocRun true 5 ++ setRun true 7 ++ getRun true)
    (fun state => decide (state.gets = [⟨true, firstKey, some 7, some 7⟩]))
    ⟨fun _ => rfl, fun _ => rfl, fun _ => rfl, rfl⟩ (by decide +kernel)
  exact ⟨state, reached, keys_isolated twoThreads state reached, of_decide_eq_true got⟩

/-- The owner has freed the key and has yet to clear it; another thread allocates it, sets a
value and loses it to the clearing. -/
theorem keys_overlap : ¬ ∀ state : TlsState Bool Nat Nat,
    (tlsSystem twoThreads).Reachable state → Isolated state := by
  intro isolated
  obtain ⟨state, reached, got⟩ := System.exists_reach_of_exec (tlsSystem twoThreads)
    (fun _ _ => True) freshTls
    (allocRun false 5 ++ [.free false firstKey, .step false] ++ allocRun true 6 ++
      setRun true 7 ++ List.replicate 2 (.step false) ++ getRun true)
    (fun state => decide (⟨true, firstKey, none, some 7⟩ ∈ state.gets))
    ⟨fun _ => rfl, fun _ => rfl, fun _ => rfl, rfl⟩ (by decide +kernel)
  have lost := (isolated state reached).values _ (of_decide_eq_true got)
  cases lost

end Overlap

end Luna.Tls
