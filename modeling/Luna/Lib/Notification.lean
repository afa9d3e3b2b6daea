import Mathlib.Data.List.Nodup
import Mathlib.Logic.Function.Basic

/-!
# Notifications

A notification is a sticky bit with a queue of waiting threads.  A signal lets
the first waiting thread go on, or sets the bit when nobody waits; a wait
consumes the bit or joins the queue; a poll consumes the bit and never waits.
Signals collapse: a second signal of a set bit is lost.

A thread's step asks for one thing: to go on at a program point, to wait, or to
signal.  `perform` carries the request out on the notification and the table of
program points.

`Queued` ties the queue to a table of program points: the queue holds exactly
the threads whose program point is a blocked one, each once.
-/

universe u v

inductive Notification (Thread : Type u) where
  | active
  | waiting (queue : List Thread)
deriving DecidableEq

namespace Notification

variable {Thread : Type u} {Call : Type v}

def queue : Notification Thread → List Thread
  | .active => []
  | .waiting queue => queue

/-- The notification after a signal, with the thread that the signal wakes. -/
def signal : Notification Thread → Notification Thread × Option Thread
  | .active => (.active, none)
  | .waiting [] => (.active, none)
  | .waiting (head :: rest) => (.waiting rest, some head)

/-- The notification after `thread` waits for it, with whether the wait returns
at once. -/
def wait (thread : Thread) : Notification Thread → Notification Thread × Bool
  | .active => (.waiting [], true)
  | .waiting queue => (.waiting (queue ++ [thread]), false)

def poll : Notification Thread → Notification Thread
  | .active => .waiting []
  | .waiting queue => .waiting queue

/-- The thread stops waiting without a signal. -/
def cancel [DecidableEq Thread] (thread : Thread) : Notification Thread → Notification Thread
  | .active => .active
  | .waiting queue => .waiting (queue.erase thread)

/-- What a step asks of the notification, with the program point to go on at. -/
inductive Request (Call : Type v) where
  | goto (call : Call)
  | wait (asleep awake : Call)
  | signal (call : Call)

def Request.map {Other : Type*} (f : Call → Other) : Request Call → Request Other
  | .goto call => .goto (f call)
  | .wait asleep awake => .wait (f asleep) (f awake)
  | .signal call => .signal (f call)

section Perform

variable [DecidableEq Thread]

/-- Carry a request of `thread` out.  `resume` is where a woken thread goes on. -/
def perform (resume : Call → Call) (ntfn : Notification Thread) (calls : Thread → Call)
    (thread : Thread) : Request Call → Notification Thread × (Thread → Call)
  | .goto call => (ntfn, Function.update calls thread call)
  | .wait asleep awake =>
      match ntfn.wait thread with
      | (ntfn, true) => (ntfn, Function.update calls thread awake)
      | (ntfn, false) => (ntfn, Function.update calls thread asleep)
  | .signal call =>
      let calls := Function.update calls thread call
      match ntfn.signal with
      | (ntfn, none) => (ntfn, calls)
      | (ntfn, some woken) => (ntfn, Function.update calls woken (resume (calls woken)))

/-- The notification does not look at the table. -/
theorem perform_fst_congr (resume : Call → Call) (ntfn : Notification Thread)
    (calls others : Thread → Call) (thread : Thread) (request : Request Call) :
    (ntfn.perform resume calls thread request).1 =
      (ntfn.perform resume others thread request).1 := by
  cases request with
  | goto call => rfl
  | wait asleep awake => cases ntfn <;> rfl
  | signal call =>
      match ntfn with
      | .active => rfl
      | .waiting [] => rfl
      | .waiting (_ :: _) => rfl

/-- Two tables that are related outside `thread` stay related when `thread` asks
for related things, and the notification does not tell them apart. -/
theorem perform_related {Other : Type*} (relation : Thread → Call → Other → Prop)
    {resume : Call → Call} {resumeOther : Other → Other} {ntfn : Notification Thread}
    {calls : Thread → Call} {others : Thread → Other} {thread : Thread} {Point : Type*}
    {point : Point → Call} {pointOther : Point → Other}
    (related : ∀ other, other ≠ thread → relation other (calls other) (others other))
    (points : ∀ value, relation thread (point value) (pointOther value))
    (resumes : ∀ other ∈ ntfn.queue, ∀ call value, relation other call value →
      relation other (resume call) (resumeOther value)) (request : Request Point) :
    (ntfn.perform resume calls thread (request.map point)).1 =
      (ntfn.perform resumeOther others thread (request.map pointOther)).1 ∧
    ∀ other, relation other ((ntfn.perform resume calls thread (request.map point)).2 other)
      ((ntfn.perform resumeOther others thread (request.map pointOther)).2 other) := by
  have moved : ∀ value other, relation other (Function.update calls thread (point value) other)
      (Function.update others thread (pointOther value) other) := by
    intro value other
    by_cases equal : other = thread
    · subst equal
      simpa using points value
    · simpa [Function.update_of_ne equal] using related other equal
  cases request with
  | goto value => exact ⟨rfl, moved value⟩
  | wait asleep awake =>
      cases ntfn with
      | active => exact ⟨rfl, moved awake⟩
      | waiting queue => exact ⟨rfl, moved asleep⟩
  | signal value =>
      match ntfn, resumes with
      | .active, _ => exact ⟨rfl, moved value⟩
      | .waiting [], _ => exact ⟨rfl, moved value⟩
      | .waiting (head :: rest), resumes =>
          refine ⟨rfl, fun other => ?_⟩
          simp only [perform, signal, Request.map]
          by_cases equal : other = head
          · subst equal
            simpa using resumes other List.mem_cons_self _ _ (moved value other)
          · simpa [Function.update_of_ne equal] using moved value other

/-- What holds of every program point outside `thread`, of the points `thread`
asks for and of resumed ones holds of every program point afterwards. -/
theorem perform_forall (holds : Thread → Call → Prop) {resume : Call → Call}
    {ntfn : Notification Thread} {calls : Thread → Call} {thread : Thread} {Point : Type*}
    {point : Point → Call}
    (others : ∀ other, other ≠ thread → holds other (calls other))
    (points : ∀ value, holds thread (point value))
    (resumes : ∀ other ∈ ntfn.queue, ∀ call, holds other call → holds other (resume call))
    (request : Request Point) (other : Thread) :
    holds other ((ntfn.perform resume calls thread (request.map point)).2 other) := by
  have related := perform_related
    (fun other (call seen : Call) => seen = call ∧ holds other call)
    (fun other different => ⟨rfl, others other different⟩) (fun value => ⟨rfl, points value⟩)
    (fun other queued call seen ⟨same, held⟩ =>
      ⟨congrArg resume same, resumes other queued call held⟩) request
  exact (related.2 other).2

end Perform

@[simp] theorem queue_poll (ntfn : Notification Thread) : ntfn.poll.queue = ntfn.queue := by
  cases ntfn <;> rfl

@[simp] theorem poll_ne_active (ntfn : Notification Thread) : ntfn.poll ≠ .active := by
  cases ntfn <;> simp [poll]

/-- The queue holds exactly the threads at a blocked program point. -/
structure Queued (ntfn : Notification Thread) (blocked : Call → Bool) (calls : Thread → Call) :
    Prop where
  nodup : ntfn.queue.Nodup
  mem_iff : ∀ thread, thread ∈ ntfn.queue ↔ blocked (calls thread) = true

variable {ntfn : Notification Thread} {blocked : Call → Bool} {calls : Thread → Call}

theorem Queued.of_queue {ntfn' : Notification Thread} (queued : Queued ntfn blocked calls)
    (same : ntfn'.queue = ntfn.queue) : Queued ntfn' blocked calls where
  nodup := same ▸ queued.nodup
  mem_iff := same ▸ queued.mem_iff

variable [DecidableEq Thread]

theorem Queued.update {thread : Thread} {call : Call} (queued : Queued ntfn blocked calls)
    (same : blocked call = blocked (calls thread)) :
    Queued ntfn blocked (Function.update calls thread call) where
  nodup := queued.nodup
  mem_iff other := by
    rw [queued.mem_iff other]
    by_cases equal : other = thread
    · subst equal
      rw [Function.update_self, same]
    · rw [Function.update_of_ne equal]

/-- A signal sets the bit and nobody waits, or it wakes a blocked thread. -/
theorem Queued.signal_cases (queued : Queued ntfn blocked calls) :
    (ntfn.signal = (.active, none) ∧ ntfn.queue = [] ∧ Queued .active blocked calls) ∨
    ∃ head rest, ntfn = .waiting (head :: rest) ∧ ntfn.signal = (.waiting rest, some head) ∧
      blocked (calls head) = true ∧
      ∀ call, blocked call = false →
        Queued (.waiting rest) blocked (Function.update calls head call) := by
  match ntfn, queued with
  | .active, queued => exact .inl ⟨rfl, rfl, queued⟩
  | .waiting [], queued => exact .inl ⟨rfl, rfl, queued.of_queue rfl⟩
  | .waiting (head :: rest), queued =>
      obtain ⟨fresh, distinct⟩ := List.nodup_cons.mp queued.nodup
      have first := (queued.mem_iff head).mp List.mem_cons_self
      refine .inr ⟨head, rest, rfl, rfl, first, fun call awake => ⟨distinct, fun other => ?_⟩⟩
      by_cases equal : other = head
      · subst equal
        rw [Function.update_self, awake]
        exact ⟨fun member => absurd member fresh, fun absurdity => by cases absurdity⟩
      · rw [Function.update_of_ne equal, ← queued.mem_iff other]
        exact (List.mem_cons.trans (or_iff_right equal)).symm

/-- A wait consumes the bit and nobody waits, or the caller joins the queue. -/
theorem Queued.wait_cases (thread : Thread) (queued : Queued ntfn blocked calls)
    (awake : blocked (calls thread) = false) :
    (ntfn = .active ∧ ntfn.wait thread = (.waiting [], true) ∧
      Queued (.waiting []) blocked calls) ∨
    ∃ before, ntfn = .waiting before ∧ ntfn.wait thread = (.waiting (before ++ [thread]), false) ∧
      ∀ call, blocked call = true →
        Queued (.waiting (before ++ [thread])) blocked (Function.update calls thread call) := by
  match ntfn, queued with
  | .active, queued => exact .inl ⟨rfl, rfl, queued.of_queue rfl⟩
  | .waiting before, queued =>
      have absent : thread ∉ before := fun member => by
        have asleep := (queued.mem_iff thread).mp member
        rw [awake] at asleep
        cases asleep
      refine .inr ⟨before, rfl, rfl, fun call asleep => ⟨?_, fun other => ?_⟩⟩
      · exact List.nodup_append.mpr ⟨queued.nodup, List.nodup_singleton _,
          fun member inQueue other single equal => by
            rw [equal, List.mem_singleton.mp single] at inQueue
            exact absent inQueue⟩
      · by_cases equal : other = thread
        · subst equal
          simp [queue, asleep]
        · rw [Function.update_of_ne equal, ← queued.mem_iff other]
          simp [queue, equal]

end Notification
