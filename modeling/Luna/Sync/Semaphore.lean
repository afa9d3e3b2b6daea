import Luna.Lib.Interleaving
import Luna.Lib.Notification
import Luna.Lib.Tally

/-!
# Host semaphores

`lkl_task_host.c` keeps the tokens of a semaphore in an atomic counter and uses
a notification only to wake.  A thread that finds no token registers in
`waiters` and tries again before it sleeps; whoever raises the counter signals
when it sees a waiter.  Signals collapse, so a woken thread that takes a token
and leaves others behind passes the signal on.
-/

namespace Luna.Sync

open Interleaving Notification

def intMax : Int := 2 ^ 31 - 1

/-- The counters of `struct lkl_sem`.  `waiters` never exceeds the number of
threads, so its `int` does not wrap. -/
structure Sem where
  count : Int
  waiters : Int
deriving DecidableEq

/-- Where a thread stands in `task_sem_up`, `luna_lkl_task_sem_signal_once` or
`task_sem_down`: the atomic step it makes next, with the values it has read. -/
inductive SemCall where
  | idle
  -- task_sem_up, luna_lkl_task_sem_signal_once
  | upLoad
  | upCas (count : Int)
  | onceCas
  | upTest
  | upSignal
  -- task_sem_try_down, before and after the thread has registered
  | tryLoad (registered : Bool)
  | tryCas (registered : Bool) (count : Int)
  -- task_sem_down
  | register
  | wait
  | blocked
  | unregister
  | handTest (remaining : Int)
  | handSignal
deriving DecidableEq

/-- What a step leaves in the history of a semaphore: a call of `task_sem_up`,
a token it added, a token `luna_lkl_task_sem_signal_once` added, the counter at
a `task_sem_up` that gave up, a token `task_sem_down` took, and its return. -/
inductive SemEvent where
  | upCalled
  | raised
  | setOnce
  | dropped (count : Int)
  | lowered
  | returned
deriving DecidableEq

abbrev SemMove : Type := Sem × Request SemCall × List SemEvent

/-- `task_sem_up` has read the counter. -/
def upTry (sem : Sem) : SemMove :=
  if sem.count = intMax then (sem, .goto .idle, [.dropped sem.count])
  else (sem, .goto (.upCas sem.count), [])

/-- `task_sem_try_down` has read the counter. -/
def downTry (sem : Sem) (registered : Bool) : SemMove :=
  if 0 < sem.count then (sem, .goto (.tryCas registered sem.count), [])
  else (sem, .goto (if registered then .wait else .register), [])

def semStep (sem : Sem) : SemCall → Option SemMove
  | .idle => none
  | .upLoad => some (upTry sem)
  | .upCas count =>
      if sem.count = count then
        some ({ sem with count := count + 1 }, .goto .upTest, [.raised])
      else some (upTry sem)
  | .onceCas =>
      if sem.count = 0 then some ({ sem with count := 1 }, .goto .upTest, [.setOnce])
      else some (sem, .goto .idle, [])
  | .upTest => some (sem, .goto (if 0 < sem.waiters then .upSignal else .idle), [])
  | .upSignal => some (sem, .signal .idle, [])
  | .tryLoad registered => some (downTry sem registered)
  | .tryCas registered count =>
      if sem.count = count then
        let lowered := { sem with count := count - 1 }
        if registered then some (lowered, .goto .unregister, [.lowered])
        else some (lowered, .goto .idle, [.lowered, .returned])
      else some (downTry sem registered)
  | .register => some ({ sem with waiters := sem.waiters + 1 }, .goto (.tryLoad true), [])
  | .wait => some (sem, .wait .blocked (.tryLoad true), [])
  | .blocked => none
  | .unregister =>
      let remaining := sem.waiters - 1
      some ({ sem with waiters := remaining }, .goto (.handTest remaining), [])
  | .handTest remaining =>
      if 0 < remaining ∧ 0 < sem.count then some (sem, .goto .handSignal, [])
      else some (sem, .goto .idle, [.returned])
  | .handSignal => some (sem, .signal .idle, [.returned])

/-- A woken thread goes round the loop of `task_sem_down`. -/
def SemCall.resume (_ : SemCall) : SemCall := .tryLoad true

/-- One semaphore and the threads that use it, with the token count it was
allocated with and its history. -/
structure SemState (Thread : Type) where
  sem : Sem
  ntfn : Notification Thread
  calls : Thread → SemCall
  initial : Int
  log : List SemEvent

inductive SemAction (Thread : Type) where
  | up (thread : Thread)
  | signalOnce (thread : Thread)
  | down (thread : Thread)
  | step (thread : Thread)

section Model

variable {Thread : Type} [DecidableEq Thread]

def SemState.advance (state : SemState Thread) (thread : Thread) (move : SemMove) :
    SemState Thread :=
  let performed := state.ntfn.perform SemCall.resume state.calls thread move.2.1
  { state with
    sem := move.1
    ntfn := performed.1
    calls := performed.2
    log := state.log ++ move.2.2 }

/-- The thread calls a function that starts at `call`. -/
def SemState.start (state : SemState Thread) (thread : Thread) (call : SemCall)
    (events : List SemEvent) : Option (SemState Thread) :=
  if state.calls thread = .idle then some (state.advance thread (state.sem, .goto call, events))
  else none

def semNext (state : SemState Thread) : SemAction Thread → Option (SemState Thread)
  | .up thread => state.start thread .upLoad [.upCalled]
  | .signalOnce thread => state.start thread .onceCas []
  | .down thread => state.start thread (.tryLoad false) []
  | .step thread => (semStep state.sem (state.calls thread)).map (state.advance thread)

/-- `task_sem_alloc(count)`: a negative count is refused, the others are
`int`s; claiming the slot has drained its notification. -/
structure SemInitial (state : SemState Thread) : Prop where
  nonnegative : 0 ≤ state.initial
  bounded : state.initial ≤ intMax
  sem : state.sem = ⟨state.initial, 0⟩
  ntfn : state.ntfn = .waiting []
  calls : state.calls = fun _ => .idle
  log : state.log = []

def semSystem (Thread : Type) [DecidableEq Thread] :
    System (SemState Thread) (SemAction Thread) where
  init := SemInitial
  next := semNext

end Model

namespace SemCall

/-- The thread is counted in `waiters`. -/
def registered : SemCall → Nat
  | .tryLoad true | .tryCas true _ | .wait | .blocked | .unregister => 1
  | _ => 0

/-- The thread has taken its token and `task_sem_down` has not returned yet. -/
def finishing : SemCall → Nat
  | .unregister | .handTest _ | .handSignal => 1
  | _ => 0

/-- The thread is in the loop of `task_sem_up`. -/
def raising : SemCall → Nat
  | .upLoad | .upCas _ => 1
  | _ => 0

/-- The thread is in `task_sem_down`. -/
def lowering : SemCall → Bool
  | .tryLoad _ | .tryCas _ _ | .register | .wait | .blocked | .unregister | .handTest _
  | .handSignal => true
  | _ => false

def isBlocked : SemCall → Bool
  | .blocked => true
  | _ => false

/-- A registered waiter that is awake and on its way to try again. -/
def retries : SemCall → Bool
  | .tryLoad true | .tryCas true _ => true
  | _ => false

/-- The thread has changed `count` or `waiters` and is not through the `if`
that tests for a signal, the signal included. -/
def testing : SemCall → Bool
  | .upTest | .upSignal | .unregister | .handTest _ | .handSignal => true
  | _ => false

/-- The thread is asleep or bound to sleep. -/
def sleeps : SemCall → Bool
  | .wait | .blocked => true
  | _ => false

/-- As long as a thread stands here a token does not go unnoticed. -/
def covers : SemCall → Bool
  | .handTest remaining => decide (0 < remaining)
  | call => call.retries || call.testing

/-- A compare-and-exchange is tried only on a value that has passed the test. -/
def Fits : SemCall → Prop
  | .upCas count => count ≠ intMax
  | .tryCas _ count => 0 < count
  | _ => True

theorem registered_of_sleeps {call : SemCall} (sleeps : call.sleeps = true) :
    call.registered = 1 := by
  cases call <;> first | rfl | cases sleeps

theorem eq_blocked {call : SemCall} (blocked : call.isBlocked = true) : call = .blocked := by
  cases call <;> first | rfl | cases blocked

end SemCall

/-- What a step of a semaphore function asks for, as far as `waiters` and the
notification are concerned. -/
theorem semStep_cases {sem target : Sem} {call : SemCall} {request : Request SemCall}
    {events : List SemEvent} (stepped : semStep sem call = some (target, request, events)) :
    (∃ next, request = .goto next ∧
      target.waiters + call.registered = sem.waiters + next.registered ∧
      call.isBlocked = false ∧ next.isBlocked = false ∧
      (next.lowering = true → call.lowering = true) ∧ (next = .upSignal → 0 < sem.waiters)) ∨
    (call = .wait ∧ target = sem ∧ request = .wait .blocked (.tryLoad true)) ∨
    ((call = .upSignal ∨ call = .handSignal) ∧ target = sem ∧ request = .signal .idle) := by
  cases call with
  | idle => cases stepped
  | blocked => cases stepped
  | wait => cases stepped; exact .inr (.inl ⟨rfl, rfl, rfl⟩)
  | upSignal => cases stepped; exact .inr (.inr ⟨.inl rfl, rfl, rfl⟩)
  | handSignal => cases stepped; exact .inr (.inr ⟨.inr rfl, rfl, rfl⟩)
  | upTest =>
      cases stepped
      refine .inl ⟨_, rfl, ?_⟩
      split <;> simp_all [SemCall.registered, SemCall.isBlocked, SemCall.lowering]
  | tryLoad registered =>
      simp only [semStep, downTry] at stepped
      cases registered <;> split at stepped <;> cases stepped <;> refine .inl ⟨_, rfl, ?_⟩ <;>
        simp [SemCall.registered, SemCall.isBlocked, SemCall.lowering]
  | tryCas registered count =>
      simp only [semStep, downTry] at stepped
      cases registered <;> (repeat' split at stepped) <;> cases stepped <;>
        refine .inl ⟨_, rfl, ?_⟩ <;>
        simp_all [SemCall.registered, SemCall.isBlocked, SemCall.lowering]
  | _ =>
      simp only [semStep, upTry] at stepped
      (repeat' split at stepped) <;> cases stepped <;> refine .inl ⟨_, rfl, ?_⟩ <;>
        simp [SemCall.registered, SemCall.isBlocked, SemCall.lowering]

def SemEvent.isDropped : SemEvent → Bool
  | .dropped _ => true
  | _ => false

/-- What the semaphore promises in a state.  A down is complete when it has
taken its token; all it has left to do is to pass a signal on and return. -/
structure SemCorrect {Thread : Type} [Fintype Thread] (state : SemState Thread) : Prop where
  nonnegative : 0 ≤ state.sem.count
  conserved : state.sem.count = state.initial +
    (state.log.count .raised + state.log.count .setOnce : Nat) - state.log.count .lowered
  returned : state.log.count .lowered =
    state.log.count .returned + Tally.total SemCall.finishing state.calls
  upCalls : state.log.count .upCalled = state.log.count .raised +
    state.log.countP SemEvent.isDropped + Tally.total SemCall.raising state.calls
  dropped : ∀ count, .dropped count ∈ state.log → count = intMax
  waiters : state.sem.waiters = Tally.total SemCall.registered state.calls
  noLostWakeup : 0 < state.sem.count → (∃ thread, state.calls thread = .blocked) →
    state.ntfn = .active ∨ (∃ thread, (state.calls thread).retries = true) ∨
      ∃ thread, (state.calls thread).testing = true

section Invariant

variable {Thread : Type}

/-- Tokens, attempts and waiters are accounted for. -/
structure Counted [Fintype Thread] (state : SemState Thread) : Prop where
  bounds : 0 ≤ state.sem.count ∧ state.sem.count ≤ intMax
  tokens : state.sem.count + state.log.count .lowered =
    state.initial + state.log.count .raised + state.log.count .setOnce
  returned : state.log.count .lowered =
    state.log.count .returned + Tally.total SemCall.finishing state.calls
  upCalls : state.log.count .upCalled = state.log.count .raised +
    state.log.countP SemEvent.isDropped + Tally.total SemCall.raising state.calls
  dropped : ∀ count, .dropped count ∈ state.log → count = intMax
  waiters : state.sem.waiters = Tally.total SemCall.registered state.calls

/-- A token with a thread that sleeps or is bound to is covered. -/
def Wakes (state : SemState Thread) : Prop :=
  0 < state.sem.count → (∃ thread, (state.calls thread).sleeps = true) →
    state.ntfn = .active ∨ ∃ thread, (state.calls thread).covers = true

structure SemInv [Fintype Thread] (state : SemState Thread) : Prop where
  counted : Counted state
  queued : state.ntfn.Queued SemCall.isBlocked state.calls
  wakes : Wakes state
  fits : ∀ thread, (state.calls thread).Fits

variable {state target : SemState Thread} {thread : Thread} {before call : SemCall}

theorem Wakes.of_covers (thread : Thread) (covers : (target.calls thread).covers = true) :
    Wakes target :=
  fun _ _ => .inr ⟨thread, covers⟩

theorem Wakes.of_count (empty : target.sem.count ≤ 0) : Wakes target :=
  fun positive _ => absurd positive (not_lt.mpr empty)

/-- `waiters` at zero leaves nobody to wake. -/
theorem Counted.wakes_of_waiters [Fintype Thread] (counted : Counted state)
    (none : state.sem.waiters ≤ 0) : Wakes state := by
  rintro - ⟨sleeper, asleep⟩
  have positive := Tally.le_total SemCall.registered state.calls sleeper
  rw [SemCall.registered_of_sleeps asleep] at positive
  have waiters := counted.waiters
  omega

variable [DecidableEq Thread]

@[simp] theorem SemState.advance_self (state : SemState Thread) (thread : Thread) (sem : Sem)
    (call : SemCall) (events : List SemEvent) :
    (state.advance thread (sem, .goto call, events)).calls thread = call :=
  Function.update_self ..

/-- A step of a thread that covers nothing and does not go to sleep by it. -/
theorem Wakes.change (wakes : Wakes state) (at_ : state.calls thread = before)
    (calls : target.calls = Function.update state.calls thread call)
    (ntfn : target.ntfn = state.ntfn) (count : 0 < target.sem.count → 0 < state.sem.count)
    (uncovered : before.covers = false)
    (sleeps : call.sleeps = true → before.sleeps = true) : Wakes target := by
  subst at_
  rintro positive ⟨sleeper, asleep⟩
  have sleeping : ∃ other, (state.calls other).sleeps = true := by
    rw [calls] at asleep
    by_cases equal : sleeper = thread
    · subst equal
      rw [Function.update_self] at asleep
      exact ⟨_, sleeps asleep⟩
    · rw [Function.update_of_ne equal] at asleep
      exact ⟨_, asleep⟩
  rcases wakes (count positive) sleeping with active | ⟨cover, covers⟩
  · exact .inl (ntfn ▸ active)
  · refine .inr ⟨cover, ?_⟩
    have other : cover ≠ thread := by
      rintro rfl
      rw [uncovered] at covers
      cases covers
    rw [calls, Function.update_of_ne other]
    exact covers

theorem fits_update {calls : Thread → SemCall} (fits : ∀ thread, (calls thread).Fits)
    (fitsNew : call.Fits) (other : Thread) : (Function.update calls thread call other).Fits := by
  by_cases equal : other = thread
  · subst equal
    rw [Function.update_self]
    exact fitsNew
  · rw [Function.update_of_ne equal]
    exact fits other

variable [Fintype Thread]

/-- One thread moves and the counters change by as much as its weights do. -/
theorem Counted.change {events : List SemEvent} (counted : Counted state)
    (at_ : state.calls thread = before)
    (calls : target.calls = Function.update state.calls thread call)
    (initial : target.initial = state.initial) (log : target.log = state.log ++ events)
    (bounds : 0 ≤ target.sem.count ∧ target.sem.count ≤ intMax)
    (tokens : target.sem.count + events.count .lowered =
      state.sem.count + events.count .raised + events.count .setOnce)
    (returned : events.count .lowered + before.finishing =
      events.count .returned + call.finishing)
    (upCalls : events.count .upCalled + before.raising =
      events.count .raised + events.countP SemEvent.isDropped + call.raising)
    (dropped : ∀ count, .dropped count ∈ events → count = intMax)
    (waiters : target.sem.waiters + before.registered =
      state.sem.waiters + call.registered) : Counted target where
  bounds := bounds
  tokens := by
    have old := counted.tokens
    simp only [log, initial, List.count_append]
    push_cast
    omega
  returned := by
    have old := counted.returned
    have change := Tally.total_update SemCall.finishing state.calls thread call
    rw [at_] at change
    simp only [log, calls, List.count_append]
    omega
  upCalls := by
    have old := counted.upCalls
    have change := Tally.total_update SemCall.raising state.calls thread call
    rw [at_] at change
    simp only [log, calls, List.count_append, List.countP_append]
    omega
  dropped := by
    intro count member
    rw [log] at member
    rcases List.mem_append.mp member with earlier | now
    · exact counted.dropped count earlier
    · exact dropped count now
  waiters := by
    have old := counted.waiters
    have change := Tally.total_update SemCall.registered state.calls thread call
    rw [at_] at change
    rw [calls]
    omega

/-- A thread moves between program points of equal weights. -/
theorem Counted.move (counted : Counted state) (at_ : state.calls thread = before)
    (calls : target.calls = Function.update state.calls thread call)
    (sem : target.sem = state.sem) (initial : target.initial = state.initial)
    (log : target.log = state.log) (finishing : call.finishing = before.finishing)
    (raising : call.raising = before.raising)
    (registered : call.registered = before.registered) : Counted target := by
  have appended : target.log = state.log ++ [] := by rw [log, List.append_nil]
  refine counted.change at_ calls initial appended (sem ▸ counted.bounds) ?_ ?_ ?_ ?_ ?_
  · rw [sem]
    simp
  · rw [finishing]
    simp
  · rw [raising]
    simp
  · intro count member
    cases member
  · rw [sem, registered]

/-- A step that goes on without touching the notification. -/
theorem SemInv.goto {sem : Sem} {events : List SemEvent} (inv : SemInv state)
    (at_ : state.calls thread = before) (blocked : call.isBlocked = before.isBlocked)
    (fits : call.Fits)
    (counted : Counted (state.advance thread (sem, .goto call, events)))
    (wakes : Wakes (state.advance thread (sem, .goto call, events))) :
    SemInv (state.advance thread (sem, .goto call, events)) :=
  ⟨counted, inv.queued.update (at_ ▸ blocked), wakes, fits_update inv.fits fits⟩

/-- A step that changes no counter. -/
theorem SemInv.move (inv : SemInv state) (at_ : state.calls thread = before)
    (finishing : call.finishing = before.finishing) (raising : call.raising = before.raising)
    (registered : call.registered = before.registered)
    (blocked : call.isBlocked = before.isBlocked) (fits : call.Fits)
    (wakes : Wakes (state.advance thread (state.sem, .goto call, []))) :
    SemInv (state.advance thread (state.sem, .goto call, [])) :=
  inv.goto at_ blocked fits
    (inv.counted.move at_ rfl rfl rfl (List.append_nil _) finishing raising registered) wakes

/-- The signal leaves every token covered, whatever its thread covered. -/
theorem SemInv.signal {events : List SemEvent} (inv : SemInv state)
    (at_ : state.calls thread = before) (awake : before.isBlocked = false)
    (counted : Counted (state.advance thread (state.sem, .goto .idle, events))) :
    SemInv (state.advance thread (state.sem, .signal .idle, events)) := by
  have queued : state.ntfn.Queued SemCall.isBlocked (Function.update state.calls thread .idle) :=
    inv.queued.update (at_ ▸ awake.symm)
  have fits : ∀ other, (Function.update state.calls thread .idle other).Fits :=
    fits_update inv.fits trivial
  unfold SemState.advance perform
  rcases queued.signal_cases with ⟨sets, -, unblocked⟩ |
    ⟨head, rest, -, wakesHead, blocked, remaining⟩
  · simp only [sets]
    exact ⟨{ counted with }, unblocked, fun _ _ => .inl rfl, fits⟩
  · simp only [wakesHead]
    have asleep := SemCall.eq_blocked blocked
    exact ⟨counted.move asleep rfl rfl rfl rfl rfl rfl rfl, remaining _ rfl,
      .of_covers head (by dsimp only; rw [Function.update_self]; rfl), fits_update fits trivial⟩

theorem SemInv.upTry (inv : SemInv state) (at_ : state.calls thread = before)
    (raises : before = .upLoad ∨ ∃ count, before = .upCas count) :
    SemInv (state.advance thread (upTry state.sem)) := by
  have weights : before.finishing = 0 ∧ before.raising = 1 ∧ before.registered = 0 ∧
      before.isBlocked = false ∧ before.covers = false := by
    rcases raises with rfl | ⟨count, rfl⟩ <;> exact ⟨rfl, rfl, rfl, rfl, rfl⟩
  obtain ⟨finishing, raising, registered, awake, uncovered⟩ := weights
  unfold Sync.upTry
  split
  next full =>
    refine inv.goto at_ awake.symm trivial
      (inv.counted.change at_ rfl rfl rfl inv.counted.bounds ?_ ?_ ?_ ?_ ?_)
      (inv.wakes.change at_ rfl rfl id uncovered (fun absurdity => by cases absurdity))
    · simp [SemState.advance]
    · rw [finishing]
      rfl
    · rw [raising]
      rfl
    · intro count member
      cases List.mem_singleton.mp member
      exact full
    · rw [registered]
      rfl
  next room =>
    exact inv.move at_ finishing.symm raising.symm registered.symm awake.symm room
      (inv.wakes.change at_ rfl rfl id uncovered (fun absurdity => by cases absurdity))

theorem SemInv.downTry {registered : Bool} (inv : SemInv state) (at_ : state.calls thread = before)
    (tries : before = .tryLoad registered ∨ ∃ count, before = .tryCas registered count) :
    SemInv (state.advance thread (downTry state.sem registered)) := by
  have weights : before.finishing = 0 ∧ before.raising = 0 ∧
      before.registered = registered.toNat ∧ before.isBlocked = false ∧
      before.covers = registered := by
    rcases tries with rfl | ⟨count, rfl⟩ <;> cases registered <;> exact ⟨rfl, rfl, rfl, rfl, rfl⟩
  obtain ⟨finishing, raising, counted, awake, covers⟩ := weights
  unfold Sync.downTry
  cases registered with
  | false =>
      split
      next positive =>
        exact inv.move at_ finishing.symm raising.symm counted.symm awake.symm positive
          (inv.wakes.change at_ rfl rfl id covers (fun absurdity => by cases absurdity))
      next empty =>
        exact inv.move at_ finishing.symm raising.symm counted.symm awake.symm trivial
          (inv.wakes.change at_ rfl rfl id covers (fun absurdity => by cases absurdity))
  | true =>
      split
      next positive =>
        exact inv.move at_ finishing.symm raising.symm counted.symm awake.symm positive
          (.of_covers thread (by rw [SemState.advance_self]; rfl))
      next empty =>
        exact inv.move at_ finishing.symm raising.symm counted.symm awake.symm trivial
          (.of_count (not_lt.mp empty))

/-- A raise of the counter leaves its thread before the signal test. -/
theorem SemInv.upCas {count : Int} (inv : SemInv state) (at_ : state.calls thread = .upCas count)
    (same : state.sem.count = count) :
    SemInv (state.advance thread
      ({ state.sem with count := count + 1 }, .goto .upTest, [.raised])) := by
  have bounds := inv.counted.bounds
  have room : count ≠ intMax := by
    have fits := inv.fits thread
    rw [at_] at fits
    exact fits
  refine inv.goto at_ rfl trivial (inv.counted.change at_ rfl rfl rfl ?_ ?_ rfl rfl ?_ rfl)
    (.of_covers thread (by rw [SemState.advance_self]; rfl))
  · dsimp only [SemState.advance]
    omega
  · simp [SemState.advance, same]
  · intro count member
    cases List.mem_singleton.mp member

theorem SemInv.onceCas (inv : SemInv state) (at_ : state.calls thread = .onceCas)
    (empty : state.sem.count = 0) :
    SemInv (state.advance thread
      ({ state.sem with count := 1 }, .goto .upTest, [.setOnce])) := by
  refine inv.goto at_ rfl trivial (inv.counted.change at_ rfl rfl rfl ?_ ?_ rfl rfl ?_ rfl)
    (.of_covers thread (by rw [SemState.advance_self]; rfl))
  · simp [SemState.advance, intMax]
  · simp [SemState.advance, empty]
  · intro count member
    cases List.mem_singleton.mp member

theorem SemInv.lowerRegistered {count : Int} (inv : SemInv state)
    (at_ : state.calls thread = .tryCas true count) (same : state.sem.count = count) :
    SemInv (state.advance thread
      ({ state.sem with count := count - 1 }, .goto .unregister, [.lowered])) := by
  have bounds := inv.counted.bounds
  have positive : 0 < count := by
    have fits := inv.fits thread
    rw [at_] at fits
    exact fits
  refine inv.goto at_ rfl trivial (inv.counted.change at_ rfl rfl rfl ?_ ?_ rfl rfl ?_ rfl)
    (.of_covers thread (by rw [SemState.advance_self]; rfl))
  · dsimp only [SemState.advance]
    omega
  · simp [SemState.advance, same]
  · intro count member
    cases List.mem_singleton.mp member

/-- A thread that barges in before it has registered covers nobody. -/
theorem SemInv.lowerAtOnce {count : Int} (inv : SemInv state)
    (at_ : state.calls thread = .tryCas false count) (same : state.sem.count = count) :
    SemInv (state.advance thread
      ({ state.sem with count := count - 1 }, .goto .idle, [.lowered, .returned])) := by
  have bounds := inv.counted.bounds
  have positive : 0 < count := by
    have fits := inv.fits thread
    rw [at_] at fits
    exact fits
  refine inv.goto at_ rfl trivial (inv.counted.change at_ rfl rfl rfl ?_ ?_ rfl rfl ?_ rfl)
    (inv.wakes.change at_ rfl rfl (fun _ => same ▸ positive) rfl
      (fun absurdity => by cases absurdity))
  · dsimp only [SemState.advance]
    omega
  · simp [SemState.advance, same]
  · intro count member
    simp at member

theorem SemInv.register (inv : SemInv state) (at_ : state.calls thread = .register) :
    SemInv (state.advance thread
      ({ state.sem with waiters := state.sem.waiters + 1 }, .goto (.tryLoad true), [])) := by
  refine inv.goto at_ rfl trivial
    (inv.counted.change at_ rfl rfl rfl inv.counted.bounds ?_ rfl rfl ?_ ?_)
    (.of_covers thread (by rw [SemState.advance_self]; rfl))
  · simp [SemState.advance]
  · intro count member
    cases member
  · simp [SemState.advance, SemCall.registered]

/-- The last thread to unregister leaves nobody behind; any other covers those
that remain until it has passed its hand-off. -/
theorem SemInv.unregister (inv : SemInv state) (at_ : state.calls thread = .unregister) :
    SemInv (state.advance thread ({ state.sem with waiters := state.sem.waiters - 1 },
      .goto (.handTest (state.sem.waiters - 1)), [])) := by
  have counted : Counted (state.advance thread ({ state.sem with waiters := state.sem.waiters - 1 },
      .goto (.handTest (state.sem.waiters - 1)), [])) := by
    refine inv.counted.change at_ rfl rfl rfl inv.counted.bounds ?_ rfl rfl ?_ ?_
    · simp [SemState.advance]
    · intro count member
      cases member
    · simp [SemState.advance, SemCall.registered]
  refine inv.goto at_ rfl trivial counted ?_
  by_cases others : 0 < state.sem.waiters - 1
  · refine .of_covers thread ?_
    rw [SemState.advance_self]
    exact decide_eq_true others
  · exact counted.wakes_of_waiters (not_lt.mp others)

theorem Counted.finish (counted : Counted state) (at_ : state.calls thread = before)
    (finishing : before.finishing = 1) (raising : before.raising = 0)
    (registered : before.registered = 0) :
    Counted (state.advance thread (state.sem, .goto .idle, [.returned])) := by
  refine counted.change at_ rfl rfl rfl counted.bounds ?_ ?_ ?_ ?_ ?_
  · simp [SemState.advance]
  · rw [finishing]
    rfl
  · rw [raising]
    rfl
  · intro count member
    cases List.mem_singleton.mp member
  · rw [registered]
    rfl

theorem SemInv.handTest {remaining : Int} (inv : SemInv state)
    (at_ : state.calls thread = .handTest remaining)
    (stops : ¬ (0 < remaining ∧ 0 < state.sem.count)) :
    SemInv (state.advance thread (state.sem, .goto .idle, [.returned])) := by
  refine inv.goto at_ rfl trivial (inv.counted.finish at_ rfl rfl rfl) ?_
  by_cases others : 0 < remaining
  · exact .of_count (not_lt.mp fun positive => stops ⟨others, positive⟩)
  · exact inv.wakes.change at_ rfl rfl id (decide_eq_false others)
      (fun absurdity => by cases absurdity)

theorem SemInv.wait (inv : SemInv state) (at_ : state.calls thread = .wait) :
    SemInv (state.advance thread (state.sem, .wait .blocked (.tryLoad true), [])) := by
  unfold SemState.advance perform
  rcases inv.queued.wait_cases thread (by rw [at_]; rfl) with
    ⟨active, taken, queued⟩ | ⟨before, waiting, joins, queued⟩
  · simp only [taken]
    exact ⟨inv.counted.move at_ rfl rfl rfl (List.append_nil _) rfl rfl rfl,
      queued.update (at_ ▸ rfl), .of_covers thread (by dsimp only; rw [Function.update_self]; rfl),
      fits_update inv.fits trivial⟩
  · simp only [joins]
    refine ⟨inv.counted.move at_ rfl rfl rfl (List.append_nil _) rfl rfl rfl, queued _ rfl, ?_,
      fits_update inv.fits trivial⟩
    have wakes : Wakes (state.advance thread (state.sem, .goto .blocked, [])) :=
      inv.wakes.change at_ rfl rfl id rfl (fun _ => rfl)
    intro positive asleep
    rcases wakes positive asleep with active | covers
    · rw [show (state.advance thread (state.sem, .goto .blocked, [])).ntfn = state.ntfn from rfl,
        waiting] at active
      cases active
    · exact .inr covers

theorem semStep_inv {move : SemMove} (inv : SemInv state)
    (stepped : semStep state.sem (state.calls thread) = some move) :
    SemInv (state.advance thread move) := by
  cases at_ : state.calls thread with
  | idle => simp only [semStep, at_, reduceCtorEq] at stepped
  | blocked => simp only [semStep, at_, reduceCtorEq] at stepped
  | upLoad =>
      simp only [semStep, at_, Option.some.injEq] at stepped
      exact stepped ▸ inv.upTry at_ (.inl rfl)
  | upCas count =>
      simp only [semStep, at_] at stepped
      split at stepped
      next same => cases stepped; exact inv.upCas at_ same
      next changed => cases stepped; exact inv.upTry at_ (.inr ⟨count, rfl⟩)
  | onceCas =>
      simp only [semStep, at_] at stepped
      split at stepped
      next empty => cases stepped; exact inv.onceCas at_ empty
      next tokens =>
        cases stepped
        exact inv.move at_ rfl rfl rfl rfl trivial
          (inv.wakes.change at_ rfl rfl id rfl (fun absurdity => by cases absurdity))
  | upTest =>
      simp only [semStep, at_, Option.some.injEq] at stepped
      subst stepped
      split
      next waiters =>
        exact inv.move at_ rfl rfl rfl rfl trivial
          (.of_covers thread (by rw [SemState.advance_self]; rfl))
      next none =>
        have counted : Counted (state.advance thread (state.sem, .goto .idle, [])) :=
          inv.counted.move at_ rfl rfl rfl (List.append_nil _) rfl rfl rfl
        exact inv.move at_ rfl rfl rfl rfl trivial (counted.wakes_of_waiters (not_lt.mp none))
  | upSignal =>
      simp only [semStep, at_, Option.some.injEq] at stepped
      subst stepped
      exact inv.signal at_ rfl
        (inv.counted.move at_ rfl rfl rfl (List.append_nil _) rfl rfl rfl)
  | tryLoad registered =>
      simp only [semStep, at_, Option.some.injEq] at stepped
      exact stepped ▸ inv.downTry at_ (.inl rfl)
  | tryCas registered count =>
      simp only [semStep, at_] at stepped
      split at stepped
      next same =>
        cases registered with
        | true => cases stepped; exact inv.lowerRegistered at_ same
        | false => cases stepped; exact inv.lowerAtOnce at_ same
      next changed => cases stepped; exact inv.downTry at_ (.inr ⟨count, rfl⟩)
  | register =>
      simp only [semStep, at_, Option.some.injEq] at stepped
      exact stepped ▸ inv.register at_
  | wait =>
      simp only [semStep, at_, Option.some.injEq] at stepped
      exact stepped ▸ inv.wait at_
  | unregister =>
      simp only [semStep, at_, Option.some.injEq] at stepped
      exact stepped ▸ inv.unregister at_
  | handTest remaining =>
      simp only [semStep, at_] at stepped
      split at stepped
      next passes =>
        cases stepped
        exact inv.move at_ rfl rfl rfl rfl trivial
          (.of_covers thread (by rw [SemState.advance_self]; rfl))
      next stops => cases stepped; exact inv.handTest at_ stops
  | handSignal =>
      simp only [semStep, at_, Option.some.injEq] at stepped
      subst stepped
      exact inv.signal at_ rfl (inv.counted.finish at_ rfl rfl rfl)

/-- A call that starts covers nothing and raises nothing yet. -/
theorem SemInv.start {events : List SemEvent} (inv : SemInv state)
    (started : state.start thread call events = some target)
    (awake : call.isBlocked = false) (asleep : call.sleeps = false) (fits : call.Fits)
    (counted : state.calls thread = .idle →
      Counted (state.advance thread (state.sem, .goto call, events))) : SemInv target := by
  simp only [SemState.start, Option.ite_none_right_eq_some, Option.some.injEq] at started
  obtain ⟨at_, rfl⟩ := started
  exact inv.goto at_ awake fits (counted at_) (inv.wakes.change at_ rfl rfl id rfl
    (fun sleeps => by rw [asleep] at sleeps; cases sleeps))

theorem semNext_inv {action : SemAction Thread} (inv : SemInv state)
    (moved : semNext state action = some target) : SemInv target := by
  cases action with
  | step thread =>
      obtain ⟨move, stepped, rfl⟩ := Option.map_eq_some_iff.mp moved
      exact semStep_inv inv stepped
  | up thread =>
      refine inv.start moved rfl rfl trivial fun at_ =>
        inv.counted.change at_ rfl rfl rfl inv.counted.bounds ?_ rfl rfl ?_ rfl
      · simp [SemState.advance]
      · intro count member
        cases List.mem_singleton.mp member
  | signalOnce thread =>
      exact inv.start moved rfl rfl trivial fun at_ =>
        inv.counted.move at_ rfl rfl rfl (List.append_nil _) rfl rfl rfl
  | down thread =>
      exact inv.start moved rfl rfl trivial fun at_ =>
        inv.counted.move at_ rfl rfl rfl (List.append_nil _) rfl rfl rfl

omit [DecidableEq Thread] in
theorem SemInitial.inv (initial : SemInitial state) : SemInv state := by
  have idle : ∀ weight : SemCall → Nat, weight .idle = 0 →
      Tally.total weight state.calls = 0 := by
    intro weight zero
    rw [Tally.total_eq_zero_iff, initial.calls]
    exact fun _ => zero
  refine ⟨⟨?_, ?_, ?_, ?_, ?_, ?_⟩, ⟨?_, ?_⟩, ?_, ?_⟩
  · rw [initial.sem]
    exact ⟨initial.nonnegative, initial.bounded⟩
  · simp [initial.sem, initial.log]
  · simp [initial.log, idle SemCall.finishing rfl]
  · simp [initial.log, idle SemCall.raising rfl]
  · simp [initial.log]
  · simp [initial.sem, idle SemCall.registered rfl]
  · simp [initial.ntfn, queue]
  · simp [initial.ntfn, initial.calls, queue, SemCall.isBlocked]
  · simp [Wakes, initial.calls, SemCall.sleeps]
  · simp [initial.calls, SemCall.Fits]

omit [DecidableEq Thread] in
theorem SemInv.correct (inv : SemInv state) : SemCorrect state where
  nonnegative := inv.counted.bounds.1
  conserved := by
    have tokens := inv.counted.tokens
    omega
  returned := inv.counted.returned
  upCalls := inv.counted.upCalls
  dropped := inv.counted.dropped
  waiters := inv.counted.waiters
  noLostWakeup := by
    rintro positive ⟨sleeper, asleep⟩
    have sleeps : (state.calls sleeper).sleeps = true := by rw [asleep]; rfl
    rcases inv.wakes positive ⟨sleeper, sleeps⟩ with active | ⟨thread, covers⟩
    · exact .inl active
    · cases retries : (state.calls thread).retries with
      | true => exact .inr (.inl ⟨thread, retries⟩)
      | false =>
          refine .inr (.inr ⟨thread, ?_⟩)
          cases at_ : state.calls thread <;>
            simp_all [SemCall.covers, SemCall.retries, SemCall.testing]

/-- Tokens are conserved and no wakeup is lost, in every interleaving of any
number of threads. -/
theorem semaphore_correct (reached : (semSystem Thread).Reachable state) : SemCorrect state :=
  (reached.invariant SemInv (fun _ initial => SemInitial.inv initial)
    fun _ _ _ inv moved => semNext_inv inv moved).correct

end Invariant

/-- A semaphore of two threads without tokens. -/
def emptySem : SemState Bool where
  sem := ⟨0, 0⟩
  ntfn := .waiting []
  calls := fun _ => .idle
  initial := 0
  log := []

/-- One thread sleeps in `task_sem_down`, the other has raised the counter and
seen the waiter. -/
theorem semaphore_correct_before_signal : ∃ state, (semSystem Bool).Reachable state ∧
    state.sem.count = 1 ∧ state.calls false = .blocked ∧ state.calls true = .upSignal ∧
    SemCorrect state := by
  obtain ⟨state, reached, ends⟩ := System.exists_reach_of_exec (semSystem Bool)
    (fun _ _ => True) emptySem
    [.down false, .step false, .step false, .step false, .step false,
      .up true, .step true, .step true, .step true]
    (fun state => decide (state.sem.count = 1 ∧ state.calls false = .blocked ∧
      state.calls true = .upSignal))
    ⟨by decide, by decide, rfl, rfl, rfl, rfl⟩ (by decide +kernel)
  obtain ⟨count, asleep, signals⟩ := of_decide_eq_true ends
  exact ⟨state, reached, count, asleep, signals, semaphore_correct reached⟩

end Luna.Sync
