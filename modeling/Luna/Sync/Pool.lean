import Luna.Sync.Mutex

/-!
# The pool of synchronisation slots

Semaphores and mutexes come from one pool of slots, each with one notification.
A slot is claimed by a compare-and-exchange, drained, and drained again when it
is released.  A semaphore counts its tokens elsewhere and takes any signal as a
hint; a mutex takes every signal as its token.  So a signal that a thread has
decided on while the slot was a semaphore, or the previous mutex, must not
arrive when the slot has become a mutex: it would be a second token.
-/

namespace Luna.Sync

open Interleaving Notification

def lunaSyncSlots : Nat := 96

abbrev Slot := Fin lunaSyncSlots

/-- `enum task_sync_kind`. -/
inductive SyncKind where
  | free
  | sem
  | mutex
deriving DecidableEq

/-- `struct task_sync_slot`, with the kind of the object that the slot's users
have at present: from the return of its `alloc` to the call of its `free`. -/
structure SyncSlot (Thread : Type) where
  ntfn : Notification Thread
  used : Bool
  kind : SyncKind
  sem : Sem
  mutex : Mutex
  live : SyncKind

/-- What `task_sem_alloc` and `task_mutex_alloc` claim a slot for. -/
inductive Alloc where
  | sem (count : Int)
  | mutex (recursive : Bool)
deriving DecidableEq

def Alloc.kind : Alloc → SyncKind
  | .sem _ => .sem
  | .mutex _ => .mutex

inductive PoolCall where
  | idle
  | sem (slot : Slot) (call : SemCall)
  | mutex (slot : Slot) (call : MutexCall)
  -- task_sync_claim
  | claim (alloc : Alloc) (index : Nat)
  | setKind (alloc : Alloc) (slot : Slot)
  | claimDrain (alloc : Alloc) (slot : Slot)
  -- task_sem_alloc
  | semCount (count : Int) (slot : Slot)
  | semWaiters (slot : Slot)
  -- task_mutex_alloc
  | mutexOwner (recursive : Bool) (slot : Slot)
  | mutexCount (recursive : Bool) (slot : Slot)
  | mutexRecursive (recursive : Bool) (slot : Slot)
  | mutexSignal (slot : Slot)
  -- task_sem_free, task_mutex_free
  | semFree (slot : Slot)
  | mutexFreeOwner (slot : Slot)
  | mutexFreeCount (slot : Slot)
  -- task_sync_release
  | releaseDrain (slot : Slot)
  | releaseKind (slot : Slot)
  | releaseUsed (slot : Slot)
deriving DecidableEq

namespace PoolCall

def ofSem (slot : Slot) (call : SemCall) : PoolCall :=
  if call = .idle then .idle else .sem slot call

def ofMutex (slot : Slot) (call : MutexCall) : PoolCall :=
  if call = .idle then .idle else .mutex slot call

/-- A thread woken on a slot's notification goes on in the function it waits in. -/
def resume : PoolCall → PoolCall
  | .sem slot call => .sem slot call.resume
  | .mutex slot _ => .mutex slot .setOwner
  | call => call

end PoolCall

/-- The pool and its threads; `depth` is how often a thread has locked the mutex
in a slot and not unlocked it yet. -/
structure PoolState (Thread : Type) where
  slots : Slot → SyncSlot Thread
  calls : Thread → PoolCall
  depth : Thread → Slot → Nat

inductive PoolAction (Thread : Type) where
  | semAlloc (thread : Thread) (count : Int)
  | semUp (thread : Thread) (slot : Slot)
  | semSignalOnce (thread : Thread) (slot : Slot)
  | semDown (thread : Thread) (slot : Slot)
  | semFree (thread : Thread) (slot : Slot)
  | mutexAlloc (thread : Thread) (recursive : Bool)
  | mutexLock (thread : Thread) (slot : Slot)
  | mutexUnlock (thread : Thread) (slot : Slot)
  | mutexFree (thread : Thread) (slot : Slot)
  | step (thread : Thread)

/-- The thread is in `task_sem_down` on the semaphore in `slot`. -/
def PoolCall.lowers (slot : Slot) : PoolCall → Bool
  | .sem other call => decide (other = slot) && call.lowering
  | _ => false

section Model

variable {Thread : Type} [DecidableEq Thread]

namespace PoolState

def goto (state : PoolState Thread) (thread : Thread) (call : PoolCall) : PoolState Thread :=
  { state with calls := Function.update state.calls thread call }

def setSlot (state : PoolState Thread) (slot : Slot) (value : SyncSlot Thread) :
    PoolState Thread :=
  { state with slots := Function.update state.slots slot value }

/-- Carry out what a step asks of the notification of `slot`. -/
def perform (state : PoolState Thread) (thread : Thread) (slot : Slot)
    (request : Request PoolCall) : PoolState Thread :=
  let performed := (state.slots slot).ntfn.perform PoolCall.resume state.calls thread request
  { state with
    slots := Function.update state.slots slot { state.slots slot with ntfn := performed.1 }
    calls := performed.2 }

def semAdvance (state : PoolState Thread) (thread : Thread) (slot : Slot) (move : SemMove) :
    PoolState Thread :=
  (state.setSlot slot { state.slots slot with sem := move.1 }).perform thread slot
    (move.2.1.map (PoolCall.ofSem slot))

def mutexAdvance (state : PoolState Thread) (thread : Thread) (slot : Slot) (move : MutexMove) :
    PoolState Thread :=
  let performed := (state.setSlot slot { state.slots slot with mutex := move.1 }).perform thread
    slot (move.2.1.map (PoolCall.ofMutex slot))
  { performed with
    depth := Function.update state.depth thread (Function.update (state.depth thread) slot
      (move.2.2.foldl MutexEvent.depth (state.depth thread slot))) }

end PoolState

def poolStep (tids : Tids Thread) (thread : Thread) (state : PoolState Thread) :
    Option (PoolState Thread) :=
  match state.calls thread with
  | .idle => none
  | .sem slot call =>
      (semStep (state.slots slot).sem call).map (state.semAdvance thread slot)
  | .mutex slot call =>
      (mutexStep (tids.tid thread) (state.slots slot).mutex call).map
        (state.mutexAdvance thread slot)
  | .claim alloc index =>
      if inside : index < lunaSyncSlots then
        let slot : Slot := ⟨index, inside⟩
        if (state.slots slot).used then some (state.goto thread (.claim alloc (index + 1)))
        else some ((state.setSlot slot { state.slots slot with used := true }).goto thread
          (.setKind alloc slot))
      else some (state.goto thread .idle)
  | .setKind alloc slot =>
      some ((state.setSlot slot { state.slots slot with kind := alloc.kind }).goto thread
        (.claimDrain alloc slot))
  | .claimDrain alloc slot =>
      let drained := state.setSlot slot { state.slots slot with ntfn := (state.slots slot).ntfn.poll }
      match alloc with
      | .sem count => some (drained.goto thread (.semCount count slot))
      | .mutex recursive => some (drained.goto thread (.mutexOwner recursive slot))
  | .semCount count slot =>
      let sem := { (state.slots slot).sem with count }
      some ((state.setSlot slot { state.slots slot with sem }).goto thread (.semWaiters slot))
  | .semWaiters slot =>
      let sem := { (state.slots slot).sem with waiters := 0 }
      some ((state.setSlot slot { state.slots slot with
        sem
        live := .sem }).goto thread .idle)
  | .mutexOwner recursive slot =>
      let mutex := { (state.slots slot).mutex with owner := 0 }
      some ((state.setSlot slot { state.slots slot with mutex }).goto thread
        (.mutexCount recursive slot))
  | .mutexCount recursive slot =>
      let mutex := { (state.slots slot).mutex with count := 0 }
      some ((state.setSlot slot { state.slots slot with mutex }).goto thread
        (.mutexRecursive recursive slot))
  | .mutexRecursive recursive slot =>
      let mutex := { (state.slots slot).mutex with recursive }
      some ((state.setSlot slot { state.slots slot with mutex }).goto thread (.mutexSignal slot))
  | .mutexSignal slot =>
      some ((state.setSlot slot { state.slots slot with live := .mutex }).perform thread slot
        (.signal .idle))
  | .semFree slot =>
      if (state.slots slot).sem.waiters ≠ 0 then
        some ((state.setSlot slot { state.slots slot with live := .sem }).goto thread .idle)
      else some (state.goto thread (.releaseDrain slot))
  | .mutexFreeOwner slot =>
      if (state.slots slot).mutex.owner ≠ 0 then
        some ((state.setSlot slot { state.slots slot with live := .mutex }).goto thread .idle)
      else some (state.goto thread (.mutexFreeCount slot))
  | .mutexFreeCount slot =>
      if (state.slots slot).mutex.count ≠ 0 then
        some ((state.setSlot slot { state.slots slot with live := .mutex }).goto thread .idle)
      else some (state.goto thread (.releaseDrain slot))
  | .releaseDrain slot =>
      some ((state.setSlot slot { state.slots slot with
        ntfn := (state.slots slot).ntfn.poll }).goto thread (.releaseKind slot))
  | .releaseKind slot =>
      some ((state.setSlot slot { state.slots slot with kind := .free }).goto thread
        (.releaseUsed slot))
  | .releaseUsed slot =>
      some ((state.setSlot slot { state.slots slot with used := false }).goto thread .idle)

/-- The thread calls a function that starts at `call`, when `may` allows it. -/
def PoolState.start (state : PoolState Thread) (thread : Thread) (call : PoolCall) (may : Prop)
    [Decidable may] : Option (PoolState Thread) :=
  if state.calls thread = .idle ∧ may then some (state.goto thread call) else none

variable [Fintype Thread]

/-- Functions are called on objects that are allocated and not freed.  A
semaphore is freed when no `task_sem_down` on it is left, a mutex when it is
unowned, and nobody locks a non-recursive mutex twice. -/
def poolNext (tids : Tids Thread) (state : PoolState Thread) :
    PoolAction Thread → Option (PoolState Thread)
  | .semAlloc thread count => state.start thread (.claim (.sem count) 0) (0 ≤ count)
  | .semUp thread slot =>
      state.start thread (.sem slot .upLoad) ((state.slots slot).live = .sem)
  | .semSignalOnce thread slot =>
      state.start thread (.sem slot .onceCas) ((state.slots slot).live = .sem)
  | .semDown thread slot =>
      state.start thread (.sem slot (.tryLoad false)) ((state.slots slot).live = .sem)
  | .semFree thread slot =>
      (state.setSlot slot { state.slots slot with live := .free }).start thread (.semFree slot)
        ((state.slots slot).live = .sem ∧ ∀ other, (state.calls other).lowers slot = false)
  | .mutexAlloc thread recursive => state.start thread (.claim (.mutex recursive) 0) True
  | .mutexLock thread slot =>
      state.start thread (.mutex slot .lockTest) ((state.slots slot).live = .mutex ∧
        ((state.slots slot).mutex.recursive = true ∨ state.depth thread slot = 0))
  | .mutexUnlock thread slot =>
      state.start thread (.mutex slot .unlockOwner) ((state.slots slot).live = .mutex)
  | .mutexFree thread slot =>
      (state.setSlot slot { state.slots slot with live := .free }).start thread
        (.mutexFreeOwner slot) ((state.slots slot).live = .mutex ∧
          (state.slots slot).mutex.owner = 0 ∧ (state.slots slot).mutex.count = 0)
  | .step thread => poolStep tids thread state

structure PoolInitial (state : PoolState Thread) : Prop where
  slots : ∀ slot, state.slots slot = ⟨.waiting [], false, .free, ⟨0, 0⟩, ⟨0, 0, false⟩, .free⟩
  calls : ∀ thread, state.calls thread = .idle
  depth : ∀ thread slot, state.depth thread slot = 0

def poolSystem (tids : Tids Thread) : System (PoolState Thread) (PoolAction Thread) where
  init := PoolInitial
  next := poolNext tids

end Model

/-- The mutex call a thread is in on `slot`. -/
def PoolCall.mutexOn (slot : Slot) : PoolCall → MutexCall
  | .mutex other call => if other = slot then call else .idle
  | _ => .idle

/-- What a slot's mutex sees of a thread. -/
def PoolState.seen {Thread : Type} (state : PoolState Thread) (slot : Slot) (thread : Thread) :
    MutexThread :=
  ⟨(state.calls thread).mutexOn slot, state.depth thread slot, 0⟩

/-- No mutex is held by two threads, and there is no token besides the one its
holder has or its notification keeps. -/
structure PoolCorrect {Thread : Type} [Fintype Thread] (state : PoolState Thread) : Prop where
  exclusive : ∀ slot first second, 0 < state.depth first slot → 0 < state.depth second slot →
    first = second
  token : ∀ slot, (state.slots slot).live = .mutex → tokens (state.slots slot).ntfn +
    Tally.total MutexThread.holding (state.seen slot) = 1

/-- The thread is bound to signal the notification of `slot` for the semaphore
in it, or is in `task_mutex_lock` or `task_mutex_unlock_checked` on it. -/
def PoolCall.entangled (slot : Slot) : PoolCall → Bool
  | .sem other call => decide (other = slot) && decide (call = .upSignal)
  | .mutex other _ => decide (other = slot)
  | _ => false

/-- Nothing is freed under the hands of a thread that has yet to signal it. -/
def FreedAtRest {Thread : Type} (state : PoolState Thread) (action : PoolAction Thread) : Prop :=
  match action with
  | .semFree _ slot | .mutexFree _ slot => ∀ other, (state.calls other).entangled slot = false
  | _ => True

instance {Thread : Type} [Fintype Thread] (state : PoolState Thread)
    (action : PoolAction Thread) : Decidable (FreedAtRest state action) := by
  unfold FreedAtRest
  cases action <;> infer_instance

def firstSlot : Slot := ⟨0, by decide⟩

def freshPool : PoolState Bool where
  slots := fun _ => ⟨.waiting [], false, .free, ⟨0, 0⟩, ⟨0, 0, false⟩, .free⟩
  calls := fun _ => .idle
  depth := fun _ _ => 0

/-- `false` takes the token that `true` adds before `true` has signalled it,
frees the semaphore and locks a mutex in the same slot; then the signal arrives
and `true` locks the mutex as well. -/
def staleSignal : List (PoolAction Bool) := List.flatten [
  .semAlloc false 0 :: List.replicate 5 (.step false),
  .semDown false firstSlot :: List.replicate 2 (.step false),
  .semUp true firstSlot :: List.replicate 3 (.step true),
  List.replicate 4 (.step false),
  .semFree false firstSlot :: List.replicate 4 (.step false),
  .mutexAlloc false false :: List.replicate 7 (.step false),
  .mutexLock false firstSlot :: List.replicate 4 (.step false),
  [.step true],
  .mutexLock true firstSlot :: List.replicate 4 (.step true)]

theorem pool_two_holders : ¬ ∀ state, (poolSystem twoTids).Reachable state → PoolCorrect state := by
  intro correct
  obtain ⟨state, reached, ends⟩ := System.exists_reach_of_exec (poolSystem twoTids)
    (fun _ _ => True) freshPool staleSignal
    (fun state => decide (0 < state.depth false firstSlot ∧ 0 < state.depth true firstSlot))
    ⟨fun _ => rfl, fun _ => rfl, fun _ _ => rfl⟩ (by decide +kernel)
  obtain ⟨first, second⟩ := of_decide_eq_true ends
  exact absurd ((correct state reached).exclusive firstSlot false true first second) (by decide)

end Luna.Sync
