import Luna.Sync.Semaphore

/-!
# Host mutexes

A mutex of `lkl_task_host.c` is one token in a notification.  `owner` and
`count` are plain fields that only the thread with the token stores to, but
every thread reads them: the recursive fast path of `task_mutex_lock` and the
owner check of `task_mutex_unlock_checked` run without the token.  They are
right because no thread but the holder ever finds its own tid in `owner`.
-/

namespace Luna.Sync

open Interleaving Notification

/-- The fields of `struct lkl_mutex`; `owner` 0 means none. -/
structure Mutex where
  owner : Nat
  count : Int
  recursive : Bool
deriving DecidableEq

/-- Where a thread stands in `task_mutex_lock` or `task_mutex_unlock_checked`. -/
inductive MutexCall where
  | idle
  -- task_mutex_lock
  | lockTest
  | lockLoad
  | lockStore (count : Int)
  | wait
  | blocked
  | setOwner
  | setCount
  -- task_mutex_unlock_checked
  | unlockOwner
  | unlockCount
  | unlockLoad
  | unlockStore (count : Int)
  | clearOwner
  | clearCount
  | signal
deriving DecidableEq

inductive MutexEvent where
  | locked
  | unlocked (result : Int)
deriving DecidableEq

abbrev MutexMove : Type := Mutex × Request MutexCall × List MutexEvent

/-- One access to a field, or one call of the kernel, by the thread `tid`.
`count` is an `int`: C does not say what `count++` does at `INT_MAX`, so there
is no step there. -/
def mutexStep (tid : Nat) (mutex : Mutex) : MutexCall → Option MutexMove
  | .idle => none
  | .lockTest =>
      if mutex.recursive = true ∧ mutex.owner = tid then some (mutex, .goto .lockLoad, [])
      else some (mutex, .goto .wait, [])
  | .lockLoad => some (mutex, .goto (.lockStore mutex.count), [])
  | .lockStore count =>
      if count = intMax then none
      else some ({ mutex with count := count + 1 }, .goto .idle, [.locked])
  | .wait => some (mutex, .wait .blocked .setOwner, [])
  | .blocked => none
  | .setOwner => some ({ mutex with owner := tid }, .goto .setCount, [])
  | .setCount => some ({ mutex with count := 1 }, .goto .idle, [.locked])
  | .unlockOwner =>
      if mutex.owner = tid then some (mutex, .goto .unlockCount, [])
      else some (mutex, .goto .idle, [.unlocked (-1)])
  | .unlockCount =>
      if 0 < mutex.count then
        some (mutex, .goto (if mutex.recursive then .unlockLoad else .clearOwner), [])
      else some (mutex, .goto .idle, [.unlocked (-1)])
  | .unlockLoad => some (mutex, .goto (.unlockStore mutex.count), [])
  | .unlockStore count =>
      if 0 < count - 1 then
        some ({ mutex with count := count - 1 }, .goto .idle, [.unlocked 0])
      else some ({ mutex with count := count - 1 }, .goto .clearOwner, [])
  | .clearOwner => some ({ mutex with owner := 0 }, .goto .clearCount, [])
  | .clearCount => some ({ mutex with count := 0 }, .goto .signal, [])
  | .signal => some (mutex, .signal .idle, [.unlocked 0])

/-- A thread's program point and its history: `depth` counts the returns of
`task_mutex_lock` less those of `task_mutex_unlock_checked` with 0, `entered`
is the depth at its latest call of `task_mutex_unlock_checked`. -/
structure MutexThread where
  call : MutexCall
  depth : Nat
  entered : Nat
deriving DecidableEq

/-- A woken thread has the token. -/
def MutexThread.resume (thread : MutexThread) : MutexThread := { thread with call := .setOwner }

def MutexEvent.depth (depth : Nat) : MutexEvent → Nat
  | .locked => depth + 1
  | .unlocked result => if result = 0 then depth - 1 else depth

def MutexEvent.unlock? (entered : Nat) : MutexEvent → Option (Nat × Int)
  | .locked => none
  | .unlocked result => some (entered, result)

/-- One mutex and its threads; `unlocks` lists the results of
`task_mutex_unlock_checked`, each with the depth its caller had. -/
structure MutexState (Thread : Type) where
  mutex : Mutex
  ntfn : Notification Thread
  threads : Thread → MutexThread
  unlocks : List (Nat × Int)

inductive MutexAction (Thread : Type) where
  | lock (thread : Thread)
  | unlock (thread : Thread)
  | step (thread : Thread)

/-- `current_tid` of each thread: distinct, and 0 is no tid. -/
structure Tids (Thread : Type) where
  tid : Thread → Nat
  distinct : Function.Injective tid
  nonzero : ∀ thread, tid thread ≠ 0

section Model

variable {Thread : Type} [DecidableEq Thread]

def MutexState.advance (state : MutexState Thread) (thread : Thread) (move : MutexMove) :
    MutexState Thread :=
  let before := state.threads thread
  let performed := state.ntfn.perform MutexThread.resume state.threads thread
    (move.2.1.map fun call =>
      { before with
        call
        depth := move.2.2.foldl MutexEvent.depth before.depth })
  { mutex := move.1
    ntfn := performed.1
    threads := performed.2
    unlocks := state.unlocks ++ move.2.2.filterMap (MutexEvent.unlock? before.entered) }

/-- Any thread may call any function when it is in none, except that a thread
does not lock a non-recursive mutex it holds. -/
def mutexNext (tids : Tids Thread) (state : MutexState Thread) :
    MutexAction Thread → Option (MutexState Thread)
  | .lock thread =>
      let before := state.threads thread
      if before.call = .idle ∧ (state.mutex.recursive = true ∨ before.depth = 0) then
        some { state with
          threads := Function.update state.threads thread { before with call := .lockTest } }
      else none
  | .unlock thread =>
      let before := state.threads thread
      if before.call = .idle then
        some { state with
          threads := Function.update state.threads thread
            { before with
              call := .unlockOwner
              entered := before.depth } }
      else none
  | .step thread =>
      (mutexStep (tids.tid thread) state.mutex (state.threads thread).call).map
        (state.advance thread)

/-- `task_mutex_alloc` has signalled the token. -/
structure MutexInitial (state : MutexState Thread) : Prop where
  owner : state.mutex.owner = 0
  count : state.mutex.count = 0
  ntfn : state.ntfn = .active
  threads : ∀ thread, (state.threads thread).call = .idle ∧ (state.threads thread).depth = 0
  unlocks : state.unlocks = []

def mutexSystem (tids : Tids Thread) : System (MutexState Thread) (MutexAction Thread) where
  init := MutexInitial
  next := mutexNext tids

end Model

/-- The thread is in `task_mutex_unlock_checked`. -/
def MutexCall.unlocking : MutexCall → Bool
  | .unlockOwner | .unlockCount | .unlockLoad | .unlockStore _ | .clearOwner | .clearCount
  | .signal => true
  | _ => false

/-- The last `task_mutex_unlock_checked` has counted down and gives the token
back. -/
def MutexCall.releasing : MutexCall → Nat
  | .clearOwner | .clearCount | .signal => 1
  | _ => 0

def MutexCall.isBlocked : MutexCall → Bool
  | .blocked => true
  | _ => false

/-- The thread has the token: from the return of its `seL4_Wait` to its
`seL4_Signal`. -/
def MutexThread.holding (thread : MutexThread) : Nat :=
  match thread.call with
  | .setOwner | .setCount => 1
  | _ => if 0 < thread.depth then 1 else 0

/-- The tokens that a notification keeps. -/
def tokens {Thread : Type} : Notification Thread → Nat
  | .active => 1
  | .waiting _ => 0

/-- What the mutex promises in a state.  `depth` is positive from the return of
a lock to the return of the last unlock. -/
structure MutexCorrect {Thread : Type} [Fintype Thread] [DecidableEq Thread]
    (tids : Tids Thread) (state : MutexState Thread) : Prop where
  exclusive : ∀ first second, 0 < (state.threads first).depth →
    0 < (state.threads second).depth → first = second
  token : tokens state.ntfn + Tally.total MutexThread.holding state.threads = 1
  nesting : state.mutex.recursive = true → ∀ thread, 0 < (state.threads thread).depth →
    state.mutex.count + (state.threads thread).call.releasing = (state.threads thread).depth
  unlocks : ∀ entry ∈ state.unlocks, entry.2 = if entry.1 = 0 then -1 else 0
  unchanged : ∀ thread target, (state.threads thread).call.unlocking = true →
    (state.threads thread).entered = 0 → mutexNext tids state (.step thread) = some target →
    target.mutex = state.mutex ∧ target.ntfn = state.ntfn ∧
      target.unlocks = state.unlocks ++ [(0, -1)]

/-- What a thread's own history says about its program point. -/
def MutexThread.Fits (recursive : Bool) (thread : MutexThread) : Prop :=
  (recursive = true ∨ thread.depth ≤ 1) ∧
  match thread.call with
  | .idle => True
  | .lockTest => recursive = true ∨ thread.depth = 0
  | .lockLoad | .lockStore _ => recursive = true ∧ 0 < thread.depth
  | .wait | .blocked | .setOwner | .setCount => thread.depth = 0
  | .unlockOwner => thread.entered = thread.depth
  | .unlockCount => thread.entered = thread.depth ∧ 0 < thread.depth
  | .unlockLoad | .unlockStore _ =>
      thread.entered = thread.depth ∧ 0 < thread.depth ∧ recursive = true
  | .clearOwner | .clearCount | .signal => thread.entered = thread.depth ∧ thread.depth = 1

/-- What the fields hold while the thread has the token. -/
def MutexThread.Owned (mutex : Mutex) (tid : Nat) (thread : MutexThread) : Prop :=
  match thread.call with
  | .setOwner | .signal => mutex.owner = 0 ∧ mutex.count = 0
  | .setCount => mutex.owner = tid ∧ mutex.count = 0
  | .lockStore count | .unlockStore count =>
      mutex.owner = tid ∧ mutex.count = thread.depth ∧ count = mutex.count
  | .clearOwner => mutex.owner = tid ∧ (mutex.recursive = true → mutex.count = 0)
  | .clearCount => mutex.owner = 0 ∧ (mutex.recursive = true → mutex.count = 0)
  | _ => mutex.owner = tid ∧ mutex.count = thread.depth

theorem MutexThread.holding_of_depth (thread : MutexThread) (deep : 0 < thread.depth) :
    0 < thread.holding := by
  unfold MutexThread.holding
  split <;> simp [deep]

theorem MutexThread.depth_pos_of_holding {depth entered : Nat} {call : MutexCall}
    (holding : 0 < MutexThread.holding ⟨call, depth, entered⟩)
    (woken : call ≠ .setOwner ∧ call ≠ .setCount) : 0 < depth := by
  unfold MutexThread.holding at holding
  split at holding <;> simp_all
  by_contra shallow
  simp [shallow] at holding

theorem MutexThread.eq_blocked {recursive : Bool} {thread : MutexThread}
    (blocked : thread.call.isBlocked = true) (fits : thread.Fits recursive) :
    thread = ⟨.blocked, 0, thread.entered⟩ := by
  obtain ⟨call, depth, entered⟩ := thread
  cases call <;> simp only [MutexCall.isBlocked, Bool.false_eq_true] at blocked
  obtain ⟨-, outside⟩ := fits
  cases outside
  rfl

section Invariant

variable {Thread : Type} [Fintype Thread]

structure MutexInv (tids : Tids Thread) (state : MutexState Thread) : Prop where
  token : tokens state.ntfn + Tally.total MutexThread.holding state.threads = 1
  free : state.ntfn = .active → state.mutex.owner = 0 ∧ state.mutex.count = 0
  fits : ∀ thread, (state.threads thread).Fits state.mutex.recursive
  owned : ∀ thread, 0 < (state.threads thread).holding →
    (state.threads thread).Owned state.mutex (tids.tid thread)
  queued : state.ntfn.Queued (fun thread => thread.call.isBlocked) state.threads
  unlocks : ∀ entry ∈ state.unlocks, entry.2 = if entry.1 = 0 then -1 else 0

variable [DecidableEq Thread] {tids : Tids Thread} {state target : MutexState Thread}
  {thread : Thread} {before after : MutexThread}

theorem MutexInv.holder_unique (inv : MutexInv tids state) {first second : Thread}
    (firstHolds : 0 < (state.threads first).holding)
    (secondHolds : 0 < (state.threads second).holding) : first = second :=
  Tally.eq_of_total_le_one (by have token := inv.token; omega) firstHolds secondHolds

omit [DecidableEq Thread] in
/-- Only the holder finds its own tid in `owner`. -/
theorem MutexInv.holding_of_owner (inv : MutexInv tids state)
    (owner : state.mutex.owner = tids.tid thread) : 0 < (state.threads thread).holding := by
  cases at_ : state.ntfn with
  | active =>
      have free := (inv.free at_).1
      exact absurd (owner.symm.trans free) (tids.nonzero thread)
  | waiting queue =>
      have token := inv.token
      rw [at_, tokens] at token
      have someone : ∃ holder, 0 < (state.threads holder).holding := by
        by_contra nobody
        push Not at nobody
        have zero := (Tally.total_eq_zero_iff MutexThread.holding state.threads).mpr
          fun other => Nat.le_zero.mp (nobody other)
        omega
      obtain ⟨holder, holds⟩ := someone
      have owned := inv.owned holder holds
      have names : state.mutex.owner = 0 ∨ state.mutex.owner = tids.tid holder := by
        unfold MutexThread.Owned at owned
        split at owned <;> simp [owned.1]
      rcases names with none | same
      · exact absurd (owner.symm.trans none) (tids.nonzero thread)
      · rwa [tids.distinct (owner.symm.trans same)]

/-- A step of one thread that moves no token.  Who has no token stores
nothing. -/
theorem MutexInv.change (inv : MutexInv tids state) (at_ : state.threads thread = before)
    (threads : target.threads = Function.update state.threads thread after)
    (ntfn : target.ntfn = state.ntfn)
    (recursive : target.mutex.recursive = state.mutex.recursive)
    (holding : after.holding = before.holding) (fits : after.Fits state.mutex.recursive)
    (owned : 0 < before.holding → after.Owned target.mutex (tids.tid thread))
    (frame : before.holding = 0 → target.mutex = state.mutex)
    (blocked : after.call.isBlocked = before.call.isBlocked)
    (unlocks : ∀ entry ∈ target.unlocks, entry ∈ state.unlocks ∨
      entry.2 = if entry.1 = 0 then -1 else 0) : MutexInv tids target where
  token := by
    have token := inv.token
    have change := Tally.total_update MutexThread.holding state.threads thread after
    rw [at_] at change
    rw [threads, ntfn]
    omega
  free active := by
    rw [ntfn] at active
    have token := inv.token
    rw [active, tokens] at token
    have nobody := (Tally.total_eq_zero_iff MutexThread.holding state.threads).mp (by omega) thread
    rw [at_] at nobody
    rw [frame nobody]
    exact inv.free active
  fits other := by
    rw [threads, recursive]
    by_cases equal : other = thread
    · subst equal
      rw [Function.update_self]
      exact fits
    · rw [Function.update_of_ne equal]
      exact inv.fits other
  owned other holds := by
    rw [threads] at holds ⊢
    by_cases equal : other = thread
    · subst equal
      rw [Function.update_self] at holds ⊢
      exact owned (holding ▸ holds)
    · rw [Function.update_of_ne equal] at holds ⊢
      have nothing : before.holding = 0 := by
        by_contra something
        rw [← at_] at something
        exact equal (inv.holder_unique holds (Nat.pos_of_ne_zero something))
      rw [frame nothing]
      exact inv.owned other holds
  queued := by
    rw [threads, ntfn]
    exact inv.queued.update (at_ ▸ blocked)
  unlocks entry member := by
    rcases unlocks entry member with earlier | now
    · exact inv.unlocks entry earlier
    · exact now

/-- A step that goes on without touching the notification. -/
theorem MutexInv.goto {mutex : Mutex} {call : MutexCall} {events : List MutexEvent}
    (inv : MutexInv tids state) (at_ : state.threads thread = before)
    (after_ : after = ⟨call, events.foldl MutexEvent.depth before.depth, before.entered⟩)
    (recursive : mutex.recursive = state.mutex.recursive)
    (holding : after.holding = before.holding) (fits : after.Fits state.mutex.recursive)
    (owned : 0 < before.holding → after.Owned mutex (tids.tid thread))
    (frame : before.holding = 0 → mutex = state.mutex)
    (blocked : call.isBlocked = before.call.isBlocked)
    (unlocks : ∀ entry ∈ events.filterMap (MutexEvent.unlock? before.entered),
      entry.2 = if entry.1 = 0 then -1 else 0) :
    MutexInv tids (state.advance thread (mutex, .goto call, events)) := by
  subst at_
  have threads : (state.advance thread (mutex, .goto call, events)).threads =
      Function.update state.threads thread after := by
    rw [after_]
    rfl
  refine inv.change rfl threads rfl recursive holding fits owned frame
    (by rw [after_]; exact blocked) fun entry member => ?_
  rcases List.mem_append.mp member with earlier | now
  · exact .inl earlier
  · exact .inr (unlocks entry now)

theorem MutexInv.lockTest {depth entered : Nat} {move : MutexMove} (inv : MutexInv tids state)
    (at_ : state.threads thread = ⟨.lockTest, depth, entered⟩)
    (stepped : mutexStep (tids.tid thread) state.mutex .lockTest = some move) :
    MutexInv tids (state.advance thread move) := by
  have fits := inv.fits thread
  have owned := inv.owned thread
  rw [at_] at fits owned
  obtain ⟨shallow, mayLock⟩ := fits
  simp only [mutexStep] at stepped
  split at stepped
  next fast =>
    cases stepped
    have holds := inv.holding_of_owner fast.2
    rw [at_] at holds
    have deep := MutexThread.depth_pos_of_holding holds ⟨by simp, by simp⟩
    exact inv.goto at_ rfl rfl rfl ⟨shallow, fast.1, deep⟩ owned (fun _ => rfl) rfl
      (fun _ member => by cases member)
  next slow =>
    cases stepped
    have outside : depth = 0 := by
      by_contra inside
      have holds := MutexThread.holding_of_depth ⟨.lockTest, depth, entered⟩
        (Nat.pos_of_ne_zero inside)
      exact slow ⟨mayLock.resolve_right inside, (owned holds).1⟩
    exact inv.goto at_ rfl rfl rfl ⟨shallow, outside⟩ owned (fun _ => rfl) rfl
      (fun _ member => by cases member)

theorem MutexInv.unlockOwner {depth entered : Nat} {move : MutexMove} (inv : MutexInv tids state)
    (at_ : state.threads thread = ⟨.unlockOwner, depth, entered⟩)
    (stepped : mutexStep (tids.tid thread) state.mutex .unlockOwner = some move) :
    MutexInv tids (state.advance thread move) := by
  have fits := inv.fits thread
  have owned := inv.owned thread
  rw [at_] at fits owned
  obtain ⟨shallow, same⟩ := fits
  simp only [mutexStep] at stepped
  split at stepped
  next owner =>
    cases stepped
    have holds := inv.holding_of_owner owner
    rw [at_] at holds
    have deep := MutexThread.depth_pos_of_holding holds ⟨by simp, by simp⟩
    exact inv.goto at_ rfl rfl rfl ⟨shallow, same, deep⟩ owned (fun _ => rfl) rfl
      (fun _ member => by cases member)
  next other =>
    cases stepped
    have outside : depth = 0 := by
      by_contra inside
      have holds := MutexThread.holding_of_depth ⟨.unlockOwner, depth, entered⟩
        (Nat.pos_of_ne_zero inside)
      exact other (owned holds).1
    refine inv.goto at_ rfl rfl rfl ⟨shallow, trivial⟩ owned (fun _ => rfl) rfl ?_
    intro entry member
    cases List.mem_singleton.mp member
    exact (if_pos (same.trans outside)).symm

theorem MutexInv.unlockCount {depth entered : Nat} {move : MutexMove} (inv : MutexInv tids state)
    (at_ : state.threads thread = ⟨.unlockCount, depth, entered⟩)
    (stepped : mutexStep (tids.tid thread) state.mutex .unlockCount = some move) :
    MutexInv tids (state.advance thread move) := by
  have fits := inv.fits thread
  have owned := inv.owned thread
  rw [at_] at fits owned
  obtain ⟨shallow, same, deep⟩ := fits
  dsimp only at shallow same deep
  obtain ⟨owner, count⟩ :=
    owned (MutexThread.holding_of_depth ⟨.unlockCount, depth, entered⟩ deep)
  have positive : 0 < state.mutex.count := by
    dsimp only at count
    omega
  simp only [mutexStep, if_pos positive, Option.some.injEq] at stepped
  subst stepped
  split
  next recursive =>
    exact inv.goto at_ rfl rfl rfl ⟨shallow, same, deep, recursive⟩ owned (fun _ => rfl) rfl
      (fun _ member => by cases member)
  next plain =>
    have once : depth = 1 := by
      have most := shallow.resolve_left plain
      omega
    exact inv.goto at_ rfl rfl rfl ⟨shallow, same, once⟩
      (fun _ => ⟨owner, fun recursive => absurd recursive plain⟩) (fun _ => rfl) rfl
      (fun _ member => by cases member)

theorem MutexInv.unlockStore {depth entered : Nat} {count : Int} {move : MutexMove}
    (inv : MutexInv tids state)
    (at_ : state.threads thread = ⟨.unlockStore count, depth, entered⟩)
    (stepped : mutexStep (tids.tid thread) state.mutex (.unlockStore count) = some move) :
    MutexInv tids (state.advance thread move) := by
  have fits := inv.fits thread
  have owned := inv.owned thread
  rw [at_] at fits owned
  obtain ⟨shallow, same, deep, recursive⟩ := fits
  have holds := MutexThread.holding_of_depth ⟨.unlockStore count, depth, entered⟩ deep
  obtain ⟨owner, counts, read⟩ := owned holds
  dsimp only at shallow same deep counts
  simp only [mutexStep] at stepped
  split at stepped
  next nested =>
    cases stepped
    have inside : 0 < depth - 1 := by omega
    refine inv.goto at_ rfl rfl ?_ ⟨.inl recursive, trivial⟩ (fun _ => ⟨owner, ?_⟩)
      (fun nothing => absurd holds (by omega)) rfl ?_
    · simp [MutexThread.holding, MutexEvent.depth, inside, deep]
    · simp only [List.foldl, MutexEvent.depth, if_true]
      omega
    · intro entry member
      cases List.mem_singleton.mp member
      have held : entered ≠ 0 := by omega
      exact (if_neg held).symm
  next last =>
    cases stepped
    have once : depth = 1 := by omega
    exact inv.goto at_ rfl rfl rfl ⟨shallow, same, once⟩
      (fun _ => ⟨owner, fun _ => by dsimp only; omega⟩)
      (fun nothing => absurd holds (by omega)) rfl (fun _ member => by cases member)

/-- The other steps store or read one field and go on. -/
theorem MutexInv.storeStep {call : MutexCall} {depth entered : Nat} {move : MutexMove}
    (inv : MutexInv tids state) (at_ : state.threads thread = ⟨call, depth, entered⟩)
    (kind : call = .lockLoad ∨ (∃ count, call = .lockStore count) ∨ call = .setOwner ∨
      call = .setCount ∨ call = .unlockLoad ∨ call = .clearOwner ∨ call = .clearCount)
    (stepped : mutexStep (tids.tid thread) state.mutex call = some move) :
    MutexInv tids (state.advance thread move) := by
  have fits := inv.fits thread
  have owned := inv.owned thread
  rw [at_] at fits owned
  rcases kind with rfl | ⟨count, rfl⟩ | rfl | rfl | rfl | rfl | rfl
  · cases stepped
    obtain ⟨shallow, recursive, deep⟩ := fits
    exact inv.goto at_ rfl rfl rfl ⟨shallow, recursive, deep⟩
      (fun holds => ⟨(owned holds).1, (owned holds).2, rfl⟩) (fun _ => rfl) rfl
      (fun _ member => by cases member)
  · simp only [mutexStep, Option.ite_none_left_eq_some, Option.some.injEq] at stepped
    obtain ⟨-, rfl⟩ := stepped
    obtain ⟨shallow, recursive, deep⟩ := fits
    have holds := MutexThread.holding_of_depth ⟨.lockStore count, depth, entered⟩ deep
    obtain ⟨owner, counts, read⟩ := owned holds
    refine inv.goto at_ rfl rfl ?_ ⟨.inl recursive, trivial⟩ (fun _ => ⟨owner, ?_⟩)
      (fun nothing => absurd holds (by omega)) rfl (fun _ member => by cases member)
    · simp_all [MutexThread.holding, MutexEvent.depth]
    · simp_all [MutexEvent.depth]
  · cases stepped
    obtain ⟨owner, counts⟩ := owned Nat.one_pos
    exact inv.goto at_ rfl rfl rfl fits (fun _ => ⟨rfl, counts⟩) (fun nothing => by cases nothing)
      rfl (fun _ member => by cases member)
  · cases stepped
    obtain ⟨shallow, outside⟩ := fits
    obtain ⟨owner, counts⟩ := owned Nat.one_pos
    dsimp only at outside
    subst outside
    exact inv.goto at_ rfl rfl rfl ⟨.inr le_rfl, trivial⟩ (fun _ => ⟨owner, rfl⟩)
      (fun nothing => by cases nothing) rfl (fun _ member => by cases member)
  · cases stepped
    exact inv.goto at_ rfl rfl rfl fits (fun holds => ⟨(owned holds).1, (owned holds).2, rfl⟩)
      (fun _ => rfl) rfl (fun _ member => by cases member)
  · cases stepped
    obtain ⟨shallow, same, once⟩ := fits
    dsimp only at once
    subst once
    exact inv.goto at_ rfl rfl rfl ⟨shallow, same, rfl⟩ (fun holds => ⟨rfl, (owned holds).2⟩)
      (fun nothing => by cases nothing) rfl (fun _ member => by cases member)
  · cases stepped
    obtain ⟨shallow, same, once⟩ := fits
    dsimp only at once
    subst once
    exact inv.goto at_ rfl rfl rfl ⟨shallow, same, rfl⟩ (fun holds => ⟨(owned holds).1, rfl⟩)
      (fun nothing => by cases nothing) rfl (fun _ member => by cases member)

omit [Fintype Thread] in
theorem fits_after {recursive : Bool} {threads : Thread → MutexThread}
    (fits : ∀ thread, (threads thread).Fits recursive) (fitsNew : after.Fits recursive)
    (other : Thread) : (Function.update threads thread after other).Fits recursive := by
  by_cases equal : other = thread
  · subst equal
    rw [Function.update_self]
    exact fitsNew
  · rw [Function.update_of_ne equal]
    exact fits other

/-- Without a token in the notification, nobody else is a holder. -/
theorem owned_after {mutex : Mutex} {threads : Thread → MutexThread}
    (total : Tally.total MutexThread.holding threads = 0)
    (owned : after.Owned mutex (tids.tid thread)) (other : Thread)
    (holds : 0 < (Function.update threads thread after other).holding) :
    (Function.update threads thread after other).Owned mutex (tids.tid other) := by
  by_cases equal : other = thread
  · subst equal
    rw [Function.update_self]
    exact owned
  · rw [Function.update_of_ne equal] at holds
    have nobody := (Tally.total_eq_zero_iff MutexThread.holding threads).mp total other
    omega

/-- A thread takes the only token. -/
theorem MutexInv.taken {entered : Nat} {mutex : Mutex} {threads : Thread → MutexThread}
    {queue : List Thread} {unlocks : List (Nat × Int)}
    (total : Tally.total MutexThread.holding threads = 0)
    (fits : ∀ other, (threads other).Fits mutex.recursive)
    (after_ : after = ⟨.setOwner, 0, entered⟩) (free : mutex.owner = 0 ∧ mutex.count = 0)
    (queued : (Notification.waiting queue).Queued (fun thread => thread.call.isBlocked)
      (Function.update threads thread after))
    (results : ∀ entry ∈ unlocks, entry.2 = if entry.1 = 0 then -1 else 0) :
    MutexInv tids ⟨mutex, .waiting queue, Function.update threads thread after, unlocks⟩ where
  token := by
    have change := Tally.total_update MutexThread.holding threads thread after
    have nothing := (Tally.total_eq_zero_iff MutexThread.holding threads).mp total thread
    have holds : after.holding = 1 := by
      rw [after_]
      rfl
    simp only [tokens]
    omega
  free := by
    intro active
    cases active
  fits := by
    refine fits_after fits ?_
    rw [after_]
    exact ⟨.inr (Nat.zero_le 1), rfl⟩
  owned := by
    refine owned_after total ?_
    rw [after_]
    exact free
  queued := queued
  unlocks := results

theorem MutexInv.wait {depth entered : Nat} (inv : MutexInv tids state)
    (at_ : state.threads thread = ⟨.wait, depth, entered⟩) :
    MutexInv tids (state.advance thread (state.mutex, .wait .blocked .setOwner, [])) := by
  have fits := inv.fits thread
  rw [at_] at fits
  obtain ⟨shallow, outside⟩ := fits
  dsimp only at outside
  subst outside
  have token := inv.token
  unfold MutexState.advance perform
  simp only [Request.map, List.foldl_nil, List.filterMap_nil, List.append_nil, at_]
  rcases inv.queued.wait_cases thread (by rw [at_]; rfl) with
    ⟨active, taken, queued⟩ | ⟨others, waiting, joins, queued⟩
  · simp only [taken]
    rw [active, tokens] at token
    exact .taken (by omega) inv.fits rfl (inv.free active)
      (queued.update (by rw [at_]; rfl)) inv.unlocks
  · simp only [joins]
    rw [waiting, tokens] at token
    have change := Tally.total_update MutexThread.holding state.threads thread
      ⟨.blocked, 0, entered⟩
    rw [at_] at change
    have same : MutexThread.holding ⟨.blocked, 0, entered⟩ =
      MutexThread.holding ⟨.wait, 0, entered⟩ := rfl
    refine ⟨?_, ?_, fits_after inv.fits ⟨shallow, rfl⟩, ?_, queued _ rfl, inv.unlocks⟩
    · simp only [tokens]
      omega
    · intro active
      cases active
    · intro other holds
      dsimp only at holds ⊢
      by_cases equal : other = thread
      · subst equal
        rw [Function.update_self] at holds
        cases holds
      · rw [Function.update_of_ne equal] at holds ⊢
        exact inv.owned other holds

/-- The last unlock gives the token to the first waiting thread, or back to the
notification. -/
theorem MutexInv.signal {depth entered : Nat} (inv : MutexInv tids state)
    (at_ : state.threads thread = ⟨.signal, depth, entered⟩) :
    MutexInv tids (state.advance thread (state.mutex, .signal .idle, [.unlocked 0])) := by
  have fits := inv.fits thread
  have owned := inv.owned thread
  rw [at_] at fits owned
  obtain ⟨shallow, same, once⟩ := fits
  dsimp only at same once
  subst same once
  have free := owned Nat.one_pos
  have token := inv.token
  have change := Tally.total_update MutexThread.holding state.threads thread ⟨.idle, 0, 1⟩
  rw [at_] at change
  have gives : MutexThread.holding ⟨.signal, 1, 1⟩ = 1 ∧ MutexThread.holding ⟨.idle, 0, 1⟩ = 0 :=
    ⟨rfl, rfl⟩
  have nobody : Tally.total MutexThread.holding
      (Function.update state.threads thread ⟨.idle, 0, 1⟩) = 0 := by omega
  have fits : ∀ other, (Function.update state.threads thread ⟨.idle, 0, 1⟩ other).Fits
      state.mutex.recursive :=
    fits_after inv.fits ⟨.inr (Nat.zero_le 1), trivial⟩
  have queued : state.ntfn.Queued (fun thread => thread.call.isBlocked)
      (Function.update state.threads thread ⟨.idle, 0, 1⟩) :=
    inv.queued.update (by rw [at_]; rfl)
  have unlocks : ∀ entry ∈ state.unlocks ++ [((1 : Nat), (0 : Int))],
      entry.2 = if entry.1 = 0 then -1 else 0 := by
    intro entry member
    rcases List.mem_append.mp member with earlier | now
    · exact inv.unlocks entry earlier
    · cases List.mem_singleton.mp now
      rfl
  unfold MutexState.advance perform
  simp only [Request.map, List.foldl_cons, List.foldl_nil, MutexEvent.depth, if_true, at_,
    List.filterMap_cons, List.filterMap_nil, MutexEvent.unlock?, Nat.sub_self]
  rcases queued.signal_cases with ⟨sets, -, unblocked⟩ |
    ⟨head, rest, -, wakesHead, blocked, remaining⟩
  · simp only [sets]
    refine ⟨?_, fun _ => free, fits, ?_, unblocked, unlocks⟩
    · simp only [tokens, nobody]
    · intro other holds
      have nothing := (Tally.total_eq_zero_iff ..).mp nobody other
      dsimp only at holds
      omega
  · simp only [wakesHead]
    have asleep := MutexThread.eq_blocked blocked (fits head)
    exact .taken nobody fits (by rw [asleep]; rfl) free (remaining _ rfl) unlocks

theorem mutexStep_inv {move : MutexMove} (inv : MutexInv tids state)
    (stepped : mutexStep (tids.tid thread) state.mutex (state.threads thread).call = some move) :
    MutexInv tids (state.advance thread move) := by
  cases at_ : state.threads thread with
  | mk call depth entered =>
      rw [at_] at stepped
      cases call with
      | idle => cases stepped
      | blocked => cases stepped
      | lockTest => exact inv.lockTest at_ stepped
      | lockLoad => exact inv.storeStep at_ (.inl rfl) stepped
      | lockStore count => exact inv.storeStep at_ (.inr (.inl ⟨count, rfl⟩)) stepped
      | wait => cases stepped; exact inv.wait at_
      | setOwner => exact inv.storeStep at_ (by simp) stepped
      | setCount => exact inv.storeStep at_ (by simp) stepped
      | unlockOwner => exact inv.unlockOwner at_ stepped
      | unlockCount => exact inv.unlockCount at_ stepped
      | unlockLoad => exact inv.storeStep at_ (by simp) stepped
      | unlockStore count => exact inv.unlockStore at_ stepped
      | clearOwner => exact inv.storeStep at_ (by simp) stepped
      | clearCount => exact inv.storeStep at_ (by simp) stepped
      | signal => cases stepped; exact inv.signal at_

theorem mutexNext_inv {action : MutexAction Thread} (inv : MutexInv tids state)
    (moved : mutexNext tids state action = some target) : MutexInv tids target := by
  cases action with
  | step thread =>
      obtain ⟨move, stepped, rfl⟩ := Option.map_eq_some_iff.mp moved
      exact mutexStep_inv inv stepped
  | lock thread =>
      simp only [mutexNext, Option.ite_none_right_eq_some, Option.some.injEq] at moved
      obtain ⟨⟨idle, mayLock⟩, rfl⟩ := moved
      have fits := inv.fits thread
      have owned := inv.owned thread
      cases at_ : state.threads thread with
      | mk call depth entered =>
          rw [at_] at idle mayLock fits owned
          dsimp only at idle
          subst idle
          exact inv.change at_ rfl rfl rfl rfl ⟨fits.1, mayLock⟩ owned (fun _ => rfl) rfl
            (fun _ member => .inl member)
  | unlock thread =>
      simp only [mutexNext, Option.ite_none_right_eq_some, Option.some.injEq] at moved
      obtain ⟨idle, rfl⟩ := moved
      have fits := inv.fits thread
      have owned := inv.owned thread
      cases at_ : state.threads thread with
      | mk call depth entered =>
          rw [at_] at idle fits owned
          dsimp only at idle
          subst idle
          exact inv.change at_ rfl rfl rfl rfl ⟨fits.1, rfl⟩ owned (fun _ => rfl) rfl
            (fun _ member => .inl member)

omit [DecidableEq Thread] in
theorem MutexInitial.inv (initial : MutexInitial state) : MutexInv tids state where
  token := by
    have nobody : Tally.total MutexThread.holding state.threads = 0 := by
      rw [Tally.total_eq_zero_iff]
      intro thread
      obtain ⟨idle, outside⟩ := initial.threads thread
      simp [MutexThread.holding, idle, outside]
    rw [initial.ntfn, nobody, tokens]
  free _ := ⟨initial.owner, initial.count⟩
  fits thread := by
    obtain ⟨idle, outside⟩ := initial.threads thread
    simp [MutexThread.Fits, idle, outside]
  owned thread holds := by
    obtain ⟨idle, outside⟩ := initial.threads thread
    simp [MutexThread.holding, idle, outside] at holds
  queued := by
    refine ⟨?_, fun thread => ?_⟩
    · rw [initial.ntfn]
      exact List.nodup_nil
    · simp [initial.ntfn, queue, (initial.threads thread).1, MutexCall.isBlocked]
  unlocks := by simp [initial.unlocks]

/-- A thread that did not hold the mutex when it called
`task_mutex_unlock_checked` stands before the owner check, and fails it. -/
theorem MutexInv.refuses (inv : MutexInv tids state)
    (unlocking : (state.threads thread).call.unlocking = true)
    (outside : (state.threads thread).entered = 0)
    (moved : mutexNext tids state (.step thread) = some target) :
    target.mutex = state.mutex ∧ target.ntfn = state.ntfn ∧
      target.unlocks = state.unlocks ++ [(0, -1)] := by
  have fits := inv.fits thread
  obtain ⟨move, stepped, rfl⟩ := Option.map_eq_some_iff.mp moved
  have at_ : (state.threads thread).call = .unlockOwner ∧ (state.threads thread).depth = 0 := by
    unfold MutexThread.Fits at fits
    cases call : (state.threads thread).call <;>
      simp only [call, MutexCall.unlocking, Bool.false_eq_true] at unlocking fits <;>
      simp only [reduceCtorEq, true_and, false_and] <;> omega
  have other : state.mutex.owner ≠ tids.tid thread := by
    intro owner
    have holds := inv.holding_of_owner owner
    simp [MutexThread.holding, at_] at holds
  simp only [at_.1, mutexStep, if_neg other, Option.some.injEq] at stepped
  subst stepped
  refine ⟨rfl, rfl, ?_⟩
  simp [MutexState.advance, MutexEvent.unlock?, outside]

theorem MutexInv.correct (inv : MutexInv tids state) : MutexCorrect tids state where
  exclusive first second firstDeep secondDeep :=
    inv.holder_unique (MutexThread.holding_of_depth _ firstDeep)
      (MutexThread.holding_of_depth _ secondDeep)
  token := inv.token
  nesting recursive thread deep := by
    have fits := inv.fits thread
    have owned := inv.owned thread (MutexThread.holding_of_depth _ deep)
    unfold MutexThread.Fits at fits
    unfold MutexThread.Owned at owned
    cases call : (state.threads thread).call <;> rw [call] at fits owned <;>
      simp only [MutexCall.releasing] <;> simp_all
  unlocks := inv.unlocks
  unchanged _ _ unlocking outside moved := inv.refuses unlocking outside moved

/-- Mutexes of both kinds exclude and count, in every interleaving of any
number of threads. -/
theorem mutex_correct (reached : (mutexSystem tids).Reachable state) : MutexCorrect tids state :=
  (reached.invariant (MutexInv tids) (fun _ initial => MutexInitial.inv initial)
    fun _ _ _ inv moved => mutexNext_inv inv moved).correct

end Invariant

/-- Two threads with the tids 1 and 2. -/
def twoTids : Tids Bool where
  tid thread := if thread then 2 else 1
  distinct := by decide
  nonzero := by decide

/-- A recursive mutex nobody has locked. -/
def freeMutex : MutexState Bool where
  mutex := ⟨0, 0, true⟩
  ntfn := .active
  threads := fun _ => ⟨.idle, 0, 0⟩
  unlocks := []

/-- One thread has locked twice, the other has tried to unlock and then sleeps
for the token. -/
theorem mutex_correct_nested : ∃ state, (mutexSystem twoTids).Reachable state ∧
    (state.threads false).depth = 2 ∧ state.unlocks = [(0, -1)] ∧
    (state.threads true).call = .blocked ∧ MutexCorrect twoTids state := by
  obtain ⟨state, reached, ends⟩ := System.exists_reach_of_exec (mutexSystem twoTids)
    (fun _ _ => True) freeMutex
    [.lock false, .step false, .step false, .step false, .step false,
      .lock false, .step false, .step false, .step false,
      .unlock true, .step true, .lock true, .step true, .step true]
    (fun state => decide ((state.threads false).depth = 2 ∧ state.unlocks = [(0, -1)] ∧
      (state.threads true).call = .blocked))
    ⟨rfl, rfl, rfl, fun _ => ⟨rfl, rfl⟩, rfl⟩ (by decide +kernel)
  obtain ⟨nested, refused, asleep⟩ := of_decide_eq_true ends
  exact ⟨state, reached, nested, refused, asleep, mutex_correct reached⟩

end Luna.Sync
