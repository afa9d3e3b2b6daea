import Luna.Timer

/-!
# Callbacks of the child's timer

`task_timer_service` runs the callback without the timer lock: it reads the armed
generation, the deadline, the generation, the allocated flag and the function one
after the other, while other threads allocate, arm and free.  Here every one of
these accesses is a step, with the results of the manager's requests left open and
the service thread woken at any moment.

The histories say what the words no longer show: `issues` the generations that
were armed, each with its deadline and its timer, `invocations` the callbacks that
have begun, `freed` the timers whose `task_timer_free` has returned, `returned`
the generations whose `task_timer_set_oneshot` has returned 0.  `timers` are the
functions of the timers so far, and `freer` is the thread that has taken the
current one down and has not returned yet.
-/

namespace Luna.TimerCallback

open Interleaving
open Timer (SetCall atLeastOne)
open TimerManager (word)

variable {Thread Fn : Type}

/-- Program counter of a thread that calls into the timer. -/
inductive Caller (Fn : Type) where
  | idle
  -- task_timer_alloc
  | allocLock (fn : Fn)
  | allocCheck (fn : Fn)
  | allocFn (fn : Fn)
  | allocBump
  | allocArmed
  | allocPublish
  | allocStart
  | allocUndo
  | allocUndoFn
  -- task_timer_set_oneshot
  | setLock (handle : Bool) (ns : Nat)
  | setCheck (handle : Bool) (ns : Nat)
  | setBump (ns : Nat)
  | setEpoch (call : SetCall)
  | setOldGeneration (call : SetCall)
  | setOldDeadline (call : SetCall)
  | setDeadline (call : SetCall)
  | setArmed (call : SetCall)
  | setDecide (call : SetCall)
  | setUnlock (call : SetCall) (defer : Bool)
  | setArm (call : SetCall)
  | setRetract (generation : Nat)
  | setReturn (generation : Nat)
  -- task_timer_free
  | freeLock (handle : Bool)
  | freeCheck (handle : Bool)
  | freeAllocated
  | freeBump
  | freeArmed
  | freeFn
  | freeUnlock
  | freeCancel
  | freeDrain
  | unlock

/-- Program counter of `task_timer_service`. -/
inductive Service (Fn : Type) where
  | unstarted
  | wait
  | loadArmed
  | loadDeadline (generation : Nat)
  | compare (generation deadline : Nat)
  | rearm (generation : Nat)
  | retract (generation : Nat)
  | clear (generation : Nat)
  | bumpEpoch (generation : Nat)
  | setRunning (generation : Nat)
  | checkGeneration (generation : Nat)
  | checkAllocated (generation : Nat)
  | loadFn (generation : Nat)
  | call (generation : Nat) (fn : Fn)
  | running (generation : Nat)
  | clearRunning

/-- A generation that was armed. -/
structure Issue where
  generation : Nat
  deadline : Nat
  timer : Nat

/-- A callback, with the histories at the moment it began. -/
structure Invocation (Fn : Type) where
  generation : Nat
  time : Nat
  fn : Fn
  freed : List Nat
  returned : List Nat

/-- The words of the timer, the service thread and the histories. -/
structure Words (Thread Fn : Type) where
  now : Nat
  allocated : Bool
  fn : Option Fn
  callbackRunning : Bool
  generation : Nat
  armedGeneration : Nat
  clearEpoch : Nat
  deadlineNs : Nat
  service : Service Fn
  timers : List Fn
  freer : Option Thread
  issues : List Issue
  invocations : List (Invocation Fn)
  freed : List Nat
  returned : List Nat

/-- The number of the current timer; they are counted from 1. -/
def Words.timer (words : Words Thread Fn) : Nat := words.timers.length

structure State (Thread Fn : Type) where
  words : Words Thread Fn
  lock : Option Thread
  callers : Thread → Caller Fn

inductive Call (Fn : Type) where
  | alloc (fn : Fn)
  | setOneshot (handle : Bool) (ns : Nat)
  | free (handle : Bool)

/-- `granted` is what the environment answers: whether the service thread could be
started, or a request to the manager succeeded. -/
inductive Action (Thread Fn : Type) where
  | tick (elapsed : Nat)
  | call (thread : Thread) (request : Call Fn)
  | caller (thread : Thread) (granted : Bool)
  | service (granted : Bool)

section Steps

variable [DecidableEq Thread]

def State.enter (state : State Thread Fn) (thread : Thread) (caller : Caller Fn) :
    State Thread Fn :=
  { state with callers := Function.update state.callers thread caller }

/-- Store words and go on. -/
def State.put (state : State Thread Fn) (thread : Thread) (caller : Caller Fn)
    (words : Words Thread Fn) : State Thread Fn :=
  { state.enter thread caller with words }

def State.acquire (state : State Thread Fn) (thread : Thread) (caller : Caller Fn) :
    Option (State Thread Fn) :=
  match state.lock with
  | none => some { state.enter thread caller with lock := some thread }
  | some _ => none

def State.release (state : State Thread Fn) (thread : Thread) (caller : Caller Fn) :
    State Thread Fn :=
  { state.enter thread caller with lock := none }

def Service.started : Service Fn → Bool
  | .unstarted => false
  | _ => true

/-- One step of a thread inside the timer. -/
def stepCaller (state : State Thread Fn) (thread : Thread) (granted : Bool) :
    Option (State Thread Fn) :=
  let words := state.words
  match state.callers thread with
  | .idle => none
  | .allocLock fn => state.acquire thread (.allocCheck fn)
  | .allocCheck fn =>
      some (state.enter thread (if words.allocated then .unlock else .allocFn fn))
  | .allocFn fn =>
      some (state.put thread .allocBump { words with
        fn := some fn
        timers := words.timers ++ [fn] })
  | .allocBump =>
      some (state.put thread .allocArmed { words with
        generation := word (words.generation + 1) })
  | .allocArmed => some (state.put thread .allocPublish { words with armedGeneration := 0 })
  | .allocPublish => some (state.put thread .allocStart { words with allocated := true })
  | .allocStart =>
      if words.service.started then some (state.enter thread .unlock)
      else if granted then some (state.put thread .unlock { words with service := .wait })
      else some (state.enter thread .allocUndo)
  | .allocUndo => some (state.put thread .allocUndoFn { words with allocated := false })
  | .allocUndoFn => some (state.put thread .unlock { words with fn := none })
  | .setLock handle ns => state.acquire thread (.setCheck handle ns)
  | .setCheck handle ns =>
      some (state.enter thread
        (if handle && words.service.started && words.allocated then .setBump ns else .unlock))
  | .setBump ns =>
      let generation := word (words.generation + 1)
      some (state.put thread (.setEpoch ⟨ns, generation, 0, 0, 0, 0⟩) { words with generation })
  | .setEpoch call =>
      some (state.enter thread (.setOldGeneration { call with epoch := words.clearEpoch }))
  | .setOldGeneration call =>
      some (state.enter thread
        (.setOldDeadline { call with oldGeneration := words.armedGeneration }))
  | .setOldDeadline call =>
      some (state.enter thread (.setDeadline { call with oldDeadline := words.deadlineNs }))
  | .setDeadline call =>
      let deadline := word (word words.now + atLeastOne call.ns)
      some (state.put thread (.setArmed { call with deadline }) { words with
        deadlineNs := deadline })
  | .setArmed call =>
      some (state.put thread (.setDecide call) { words with
        armedGeneration := call.generation
        issues := words.issues ++ [⟨call.generation, call.deadline, words.timer⟩] })
  | .setDecide call =>
      some (state.enter thread
        (.setUnlock call (call.mayDefer && word words.clearEpoch == word call.epoch)))
  | .setUnlock call defer =>
      some (state.release thread (if defer then .setReturn call.generation else .setArm call))
  | .setArm call =>
      some (state.enter thread
        (if granted then .setReturn call.generation else .setRetract call.generation))
  | .setRetract generation =>
      some (state.put thread .idle { words with
        armedGeneration := if words.armedGeneration = generation then 0
          else words.armedGeneration })
  | .setReturn generation =>
      some (state.put thread .idle { words with returned := words.returned ++ [generation] })
  | .freeLock handle => state.acquire thread (.freeCheck handle)
  | .freeCheck handle =>
      some (state.enter thread (if handle && words.allocated then .freeAllocated else .unlock))
  | .freeAllocated =>
      some (state.put thread .freeBump { words with
        allocated := false
        freer := some thread })
  | .freeBump =>
      some (state.put thread .freeArmed { words with generation := word (words.generation + 1) })
  | .freeArmed => some (state.put thread .freeFn { words with armedGeneration := 0 })
  | .freeFn => some (state.put thread .freeUnlock { words with fn := none })
  | .freeUnlock => some (state.release thread .freeCancel)
  -- The result of TIMER_CANCEL is only counted.
  | .freeCancel => some (state.enter thread .freeDrain)
  | .freeDrain =>
      if words.callbackRunning then none
      else some (state.put thread .idle { words with
        freer := none
        freed := words.freed ++ [words.timer] })
  | .unlock => some (state.release thread .idle)

/-- One step of `task_timer_service`. -/
def stepService (words : Words Thread Fn) (granted : Bool) : Option (Words Thread Fn) :=
  match words.service with
  | .unstarted => none
  | .wait => some { words with service := .loadArmed }
  | .loadArmed =>
      some { words with
        service := if words.armedGeneration = 0 then .wait
          else .loadDeadline words.armedGeneration }
  | .loadDeadline generation =>
      some { words with service := .compare generation words.deadlineNs }
  | .compare generation deadline =>
      some { words with
        service := if word words.now < deadline then .rearm generation else .clear generation }
  | .rearm generation =>
      some { words with service := if granted then .wait else .retract generation }
  | .retract generation =>
      some { words with
        armedGeneration := if words.armedGeneration = generation then 0
          else words.armedGeneration
        service := .wait }
  | .clear generation =>
      if words.armedGeneration = generation then
        some { words with
          armedGeneration := 0
          service := .bumpEpoch generation }
      else some { words with service := .loadArmed }
  | .bumpEpoch generation =>
      some { words with
        clearEpoch := words.clearEpoch + 1
        service := .setRunning generation }
  | .setRunning generation =>
      some { words with
        callbackRunning := true
        service := .checkGeneration generation }
  | .checkGeneration generation =>
      some { words with
        service := if words.generation = generation then .checkAllocated generation
          else .clearRunning }
  | .checkAllocated generation =>
      some { words with
        service := if words.allocated then .loadFn generation else .clearRunning }
  | .loadFn generation =>
      some { words with
        service := match words.fn with
          | some fn => .call generation fn
          | none => .clearRunning }
  | .call generation fn =>
      some { words with
        invocations := words.invocations ++
          [⟨generation, words.now, fn, words.freed, words.returned⟩]
        service := .running generation }
  | .running _ => some { words with service := .clearRunning }
  | .clearRunning =>
      some { words with
        callbackRunning := false
        service := .wait }

def start : Call Fn → Caller Fn
  | .alloc fn => .allocLock fn
  | .setOneshot handle ns => .setLock handle ns
  | .free handle => .freeLock handle

def Caller.isIdle : Caller Fn → Bool
  | .idle => true
  | _ => false

def next (state : State Thread Fn) : Action Thread Fn → Option (State Thread Fn)
  | .tick elapsed => some { state with words := { state.words with now := state.words.now + elapsed } }
  | .call thread request =>
      if (state.callers thread).isIdle then some (state.enter thread (start request)) else none
  | .caller thread granted => stepCaller state thread granted
  | .service granted => (stepService state.words granted).map fun words => { state with words }

/-- A fresh child: no timer, no thread inside, nothing recorded. -/
structure Initial (state : State Thread Fn) : Prop where
  lock : state.lock = none
  callers : ∀ thread, state.callers thread = .idle
  allocated : state.words.allocated = false
  generation : state.words.generation = 0
  armed : state.words.armedGeneration = 0
  callbackRunning : state.words.callbackRunning = false
  service : state.words.service = .unstarted
  freer : state.words.freer = none
  issues : state.words.issues = []
  invocations : state.words.invocations = []
  freed : state.words.freed = []
  returned : state.words.returned = []

def system : System (State Thread Fn) (Action Thread Fn) := ⟨Initial, next⟩

end Steps

/-! ## What is claimed -/

/-- The function that a timer was allocated with. -/
def Words.functionOf (words : Words Thread Fn) (timer : Nat) : Option Fn := words.timers[timer - 1]?

/-- The callback of `issue` at `invocation`: it was due, it called the function of
its timer, and that timer was not freed. -/
structure Invocation.Answers (invocation : Invocation Fn) (words : Words Thread Fn)
    (issue : Issue) : Prop where
  generation : issue.generation = invocation.generation
  due : issue.deadline ≤ invocation.time
  function : words.functionOf issue.timer = some invocation.fn
  unfreed : issue.timer ∉ invocation.freed

/-- Callbacks run at most once for a generation, when it is due, with the right
function, and never once their timer is freed. -/
structure Words.CallbacksSound (words : Words Thread Fn) : Prop where
  issuedOnce : (words.issues.map Issue.generation).Nodup
  once : (words.invocations.map Invocation.generation).Nodup
  answers : ∀ invocation ∈ words.invocations, ∃ issue ∈ words.issues,
    invocation.Answers words issue
  notRunning : ∀ generation, words.service = .running generation →
    ∀ issue ∈ words.issues, issue.generation = generation → issue.timer ∉ words.freed

/-- No callback begins for a generation below one whose `task_timer_set_oneshot` has
returned 0. -/
def Words.Superseded (words : Words Thread Fn) : Prop :=
  ∀ invocation ∈ words.invocations, ∀ generation ∈ invocation.returned,
    generation ≤ invocation.generation

/-! ## What is assumed of a run -/

/-- `task_timer_alloc` does not get to its lock while a `task_timer_free` that took
the timer down is still to return. -/
def AllocAfterFree (state : State Thread Fn) : Action Thread Fn → Prop
  | .caller thread _ => match state.callers thread with
      | .allocLock _ => state.words.freer = none
      | _ => True
  | _ => True

instance [DecidableEq Thread] (state : State Thread Fn) (action : Action Thread Fn) :
    Decidable (AllocAfterFree state action) := by
  unfold AllocAfterFree
  split
  · split <;> infer_instance
  · infer_instance

/-- The generation does not wrap. -/
def GenerationFits (state : State Thread Fn) : Action Thread Fn → Prop
  | .caller thread _ => match state.callers thread with
      | .allocBump | .setBump _ | .freeBump => state.words.generation + 1 < 2 ^ 64
      | _ => True
  | _ => True

instance (state : State Thread Fn) (action : Action Thread Fn) :
    Decidable (GenerationFits state action) := by
  unfold GenerationFits
  split
  · split <;> infer_instance
  · infer_instance

/-- The generation that has passed the service thread's check, up to the call. -/
def Service.passed : Service Fn → Option Nat
  | .checkAllocated generation | .loadFn generation | .call generation _ => some generation
  | _ => none

/-- `task_timer_set_oneshot` does not return 0 while the service thread is between its
check of an older generation and the call. -/
def ReturnsClear (state : State Thread Fn) : Action Thread Fn → Prop
  | .caller thread _ => match state.callers thread with
      | .setReturn generation => ∀ passed ∈ state.words.service.passed, generation ≤ passed
      | _ => True
  | _ => True

instance (state : State Thread Fn) (action : Action Thread Fn) :
    Decidable (ReturnsClear state action) := by
  unfold ReturnsClear
  split
  · split <;> infer_instance
  · infer_instance

/-! ## Example runs -/

/-- A child with one thread, before its first timer. -/
def fresh : State Unit Unit :=
  ⟨⟨0, false, none, false, 0, 0, 0, 0, .unstarted, [], none, [], [], [], []⟩, none,
    fun _ => .idle⟩

theorem fresh_initial : Initial fresh :=
  ⟨rfl, fun _ => rfl, rfl, rfl, rfl, rfl, rfl, rfl, rfl, rfl, rfl, rfl⟩

def allocates : List (Action Unit Unit) :=
  .call () (.alloc ()) :: List.replicate 8 (.caller () true)

/-- `task_timer_set_oneshot` with a timeout of one nanosecond, up to its return. -/
def arms : List (Action Unit Unit) :=
  .call () (.setOneshot true 1) :: List.replicate 12 (.caller () true)

/-- The service thread is woken and gets as far as the call of the function. -/
def serves : List (Action Unit Unit) := List.replicate 10 (.service true)

end Luna.TimerCallback
