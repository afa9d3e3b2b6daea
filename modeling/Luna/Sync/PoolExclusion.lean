import Luna.Sync.Pool

/-!
# Mutual exclusion in recycled slots

A slot is seen on its own: the calls of the threads on other slots are blotted
out, and a step on another slot changes nothing.  While a slot is a mutex it
simulates the mutex of `Luna.Sync.Mutex`, because nobody else stores to its
fields or touches its notification: a thread still in `task_sem_up` for an
earlier semaphore finds no waiters, so it does not signal.
-/

namespace Luna.Sync

open Interleaving Notification

namespace PoolCall

def slot? : PoolCall → Option Slot
  | .idle | .claim _ _ => none
  | .sem slot _ | .mutex slot _ | .setKind _ slot | .claimDrain _ slot | .semCount _ slot
  | .semWaiters slot | .mutexOwner _ slot | .mutexCount _ slot | .mutexRecursive _ slot
  | .mutexSignal slot | .semFree slot | .mutexFreeOwner slot | .mutexFreeCount slot
  | .releaseDrain slot | .releaseKind slot | .releaseUsed slot => some slot

/-- The call as `slot` sees it. -/
def on (slot : Slot) (call : PoolCall) : PoolCall :=
  if call.slot? = some slot then call else .idle

/-- The thread is in an `alloc` or `free`, with a slot of its own. -/
def managing : PoolCall → Bool
  | .idle | .claim _ _ | .sem _ _ | .mutex _ _ => false
  | _ => true

def registered : PoolCall → Nat
  | .sem _ call => call.registered
  | _ => 0

def isBlocked : PoolCall → Bool
  | .sem _ call => call.isBlocked
  | .mutex _ call => call.isBlocked
  | _ => false

def mutexCall : PoolCall → MutexCall
  | .mutex _ call => call
  | _ => .idle

/-- The thread needs the semaphore of its slot to be there. -/
def needsSem : PoolCall → Bool
  | .sem _ call => call.lowering || decide (call = .upSignal)
  | _ => false

def inMutex : PoolCall → Bool
  | .mutex _ _ => true
  | _ => false

theorem on_of_slot {slot : Slot} {call : PoolCall} (at_ : call.slot? = some slot) :
    call.on slot = call := if_pos at_

theorem on_of_none {slot : Slot} {call : PoolCall} (nowhere : call.slot? = none) :
    call.on slot = .idle := by
  unfold on
  rw [nowhere, if_neg (by simp)]

theorem on_of_ne {slot other : Slot} {call : PoolCall} (at_ : call.slot? = some slot)
    (different : other ≠ slot) : call.on other = .idle := by
  unfold on
  rw [at_, if_neg (by simpa using different.symm)]

theorem ofSem_there (slot : Slot) (call : SemCall) :
    ofSem slot call = .idle ∨ (ofSem slot call).slot? = some slot := by
  unfold ofSem
  split
  · exact .inl rfl
  · exact .inr rfl

theorem ofMutex_there (slot : Slot) (call : MutexCall) :
    ofMutex slot call = .idle ∨ (ofMutex slot call).slot? = some slot := by
  unfold ofMutex
  split
  · exact .inl rfl
  · exact .inr rfl

theorem slot_resume (call : PoolCall) : call.resume.slot? = call.slot? := by
  cases call <;> rfl

theorem on_resume (slot : Slot) (call : PoolCall) :
    call.resume.on slot = (call.on slot).resume := by
  by_cases at_ : call.slot? = some slot
  · rw [on_of_slot at_, on_of_slot (slot_resume call ▸ at_)]
  · unfold on
    rw [slot_resume, if_neg at_, if_neg at_]
    rfl

theorem mutexOn_eq (slot : Slot) (call : PoolCall) : call.mutexOn slot = (call.on slot).mutexCall := by
  cases call with
  | mutex other call =>
      unfold on mutexOn slot?
      by_cases equal : other = slot
      · simp [equal, mutexCall]
      · simp [equal, mutexCall]
  | _ =>
      unfold on
      split <;> rfl

theorem needsSem_of_registered {call : PoolCall} (counted : call.registered ≠ 0) :
    call.needsSem = true := by
  cases call with
  | sem slot call =>
      revert counted
      cases call <;> first | exact fun _ => rfl | exact fun absurdity => absurd rfl absurdity
  | _ => exact absurd rfl counted

theorem awake_of_harmless {call : PoolCall} (needless : call.needsSem = false)
    (outside : call.inMutex = false) : call.isBlocked = false := by
  cases call with
  | sem index call => cases call <;> first | rfl | cases needless
  | mutex index call => cases outside
  | _ => rfl

theorem mutexCall_of_outside {call : PoolCall} (outside : call.inMutex = false) :
    call.mutexCall = .idle := by
  cases call <;> first | rfl | cases outside

end PoolCall

/-- What the slot looks like to a thread that stands here. -/
def PoolCall.Fits {Thread : Type} (slot : SyncSlot Thread) : PoolCall → Prop
  | .idle | .claim _ _ => True
  | .sem index call => call ≠ .idle ∧ ((PoolCall.sem index call).needsSem = true → slot.live = .sem)
  | .mutex _ call => call ≠ .idle ∧ slot.live = .mutex
  | .mutexCount _ _ => slot.used = true ∧ slot.live = .free ∧ slot.mutex.owner = 0
  | .mutexRecursive _ _ | .mutexSignal _ | .mutexFreeOwner _ | .mutexFreeCount _ =>
      slot.used = true ∧ slot.live = .free ∧ slot.mutex.owner = 0 ∧ slot.mutex.count = 0
  | _ => slot.used = true ∧ slot.live = .free

section Invariant

variable {Thread : Type}

/-- The slot is a mutex that `Luna.Sync.Mutex` describes. -/
structure Shows (slot : SyncSlot Thread) (calls : Thread → PoolCall) (depth : Thread → Nat)
    (mutex : MutexState Thread) : Prop where
  fields : mutex.mutex = slot.mutex
  ntfn : mutex.ntfn = slot.ntfn
  calls : ∀ thread, (mutex.threads thread).call = (calls thread).mutexCall
  depth : ∀ thread, (mutex.threads thread).depth = depth thread

/-- A thread as the slot has it and as its mutex has it. -/
structure Agrees (slot : SyncSlot Thread) (depths : Thread → Nat) (thread : Thread)
    (pool : PoolCall) (seen : MutexThread) : Prop where
  calls : seen.call = pool.mutexCall
  depth : seen.depth = depths thread
  fits : pool.Fits slot
  inMutex : thread ∈ slot.ntfn.queue → pool.inMutex = true

/-- One slot with the calls of the threads on it. -/
structure SlotInv [Fintype Thread] (tids : Tids Thread) (slot : SyncSlot Thread)
    (calls : Thread → PoolCall) (depth : Thread → Nat) : Prop where
  fits : ∀ thread, (calls thread).Fits slot
  alone : ∀ first second, (calls first).managing = true → (calls second).managing = true →
    first = second
  used : slot.live ≠ .free → slot.used = true
  waiters : slot.sem.waiters = Tally.total PoolCall.registered calls
  queued : slot.ntfn.Queued PoolCall.isBlocked calls
  outside : slot.live ≠ .mutex → ∀ thread, depth thread = 0
  mutex : slot.live = .mutex → ∃ mutex, MutexInv tids mutex ∧ Shows slot calls depth mutex

def PoolInv [Fintype Thread] (tids : Tids Thread) (state : PoolState Thread) : Prop :=
  ∀ slot, SlotInv tids (state.slots slot) (fun thread => (state.calls thread).on slot)
    (fun thread => state.depth thread slot)

theorem PoolCall.Fits.manages {slot : SyncSlot Thread} {call : PoolCall} (fits : call.Fits slot)
    (managing : call.managing = true) : slot.used = true ∧ slot.live = .free := by
  cases call <;> first | exact fits | exact ⟨fits.1, fits.2.1⟩ | cases managing

/-- A thread that neither manages the slot nor needs its object fits anything. -/
theorem PoolCall.Fits.harmless {slot other : SyncSlot Thread} {call : PoolCall}
    (fits : call.Fits slot) (managing : call.managing = false)
    (needsSem : call.needsSem = false) (inMutex : call.inMutex = false) : call.Fits other := by
  cases call with
  | idle => exact trivial
  | claim alloc index => exact trivial
  | sem index call =>
      refine ⟨fits.1, fun needs => ?_⟩
      rw [needsSem] at needs
      cases needs
  | mutex index call => cases inMutex
  | _ => cases managing

/-- While a slot is nobody's object, nobody needs it. -/
theorem PoolCall.Fits.needs_of_free {slot : SyncSlot Thread} {call : PoolCall}
    (fits : call.Fits slot) (live : slot.live = .free) :
    call.needsSem = false ∧ call.inMutex = false := by
  cases call with
  | sem index call =>
      refine ⟨?_, rfl⟩
      by_contra needs
      rw [Bool.not_eq_false] at needs
      rw [fits.2 needs] at live
      cases live
  | mutex index call =>
      rw [fits.2] at live
      cases live
  | _ => exact ⟨rfl, rfl⟩

/-- While a slot is a mutex, nobody manages it or needs a semaphore. -/
theorem PoolCall.Fits.of_mutex {slot : SyncSlot Thread} {call : PoolCall} (fits : call.Fits slot)
    (live : slot.live = .mutex) :
    call.managing = false ∧ call.needsSem = false ∧ call.isBlocked = call.mutexCall.isBlocked := by
  have unmanaging : call.managing = false := by
    by_contra manages
    rw [Bool.not_eq_false] at manages
    rw [(fits.manages manages).2] at live
    cases live
  have needless : call.needsSem = false := by
    cases call with
    | sem index call =>
        by_contra needs
        rw [Bool.not_eq_false] at needs
        rw [fits.2 needs] at live
        cases live
    | _ => rfl
  refine ⟨unmanaging, needless, ?_⟩
  cases call with
  | sem index call => exact PoolCall.awake_of_harmless needless rfl
  | _ => rfl

theorem PoolCall.Fits.still_mutex {slot other : SyncSlot Thread} {call : PoolCall}
    (fits : call.Fits slot) (live : slot.live = .mutex) (still : other.live = .mutex) :
    call.Fits other := by
  obtain ⟨unmanaging, needless, -⟩ := fits.of_mutex live
  cases call with
  | mutex index call => exact ⟨fits.1, still⟩
  | _ => exact fits.harmless unmanaging needless rfl

/-- A call asks nothing of the semaphore's counters. -/
theorem PoolCall.Fits.congr {slot other : SyncSlot Thread} {call : PoolCall}
    (fits : call.Fits slot) (live : other.live = slot.live) (used : other.used = slot.used)
    (mutex : other.mutex = slot.mutex) : call.Fits other := by
  cases call <;> simp only [PoolCall.Fits, live, used, mutex] at fits ⊢ <;> exact fits

variable [Fintype Thread] {tids : Tids Thread} {slot target : SyncSlot Thread}
  {calls : Thread → PoolCall} {depth : Thread → Nat} {thread : Thread} {before after : PoolCall}

theorem total_registered_eq_zero (needless : ∀ thread, (calls thread).needsSem = false) :
    Tally.total PoolCall.registered calls = 0 := by
  rw [Tally.total_eq_zero_iff]
  intro thread
  by_contra counted
  have needs := PoolCall.needsSem_of_registered counted
  rw [needless thread] at needs
  cases needs

variable [DecidableEq Thread]

/-- A thread moves while nobody else manages the slot or needs its object. -/
theorem SlotInv.quiet (inv : SlotInv tids slot calls depth)
    (others : ∀ other, other ≠ thread → (calls other).managing = false)
    (harmless : ∀ other, (calls other).needsSem = false ∧ (calls other).inMutex = false)
    (shallow : ∀ other, depth other = 0) (queue : target.ntfn.queue = slot.ntfn.queue)
    (waiters : target.sem.waiters = slot.sem.waiters ∨ target.sem.waiters = 0)
    (used : target.live ≠ .free → target.used = true) (fits : after.Fits target)
    (needless : after.needsSem = false) (outside : after.inMutex = false)
    (mutex : target.live = .mutex → target.ntfn = .active ∧ target.mutex.owner = 0 ∧
      target.mutex.count = 0) :
    SlotInv tids target (Function.update calls thread after) depth := by
  have stillHarmless : ∀ other, (Function.update calls thread after other).needsSem = false ∧
      (Function.update calls thread after other).inMutex = false := by
    intro other
    by_cases equal : other = thread
    · subst equal
      rw [Function.update_self]
      exact ⟨needless, outside⟩
    · rw [Function.update_of_ne equal]
      exact harmless other
  exact {
    fits := by
      intro other
      by_cases equal : other = thread
      · subst equal
        rw [Function.update_self]
        exact fits
      · rw [Function.update_of_ne equal]
        exact (inv.fits other).harmless (others other equal) (harmless other).1 (harmless other).2
    alone := by
      intro first second firstManages secondManages
      by_cases equal : first = thread
      · by_cases same : second = thread
        · rw [equal, same]
        · rw [Function.update_of_ne same, others second same] at secondManages
          cases secondManages
      · rw [Function.update_of_ne equal, others first equal] at firstManages
        cases firstManages
    used := used
    waiters := by
      rw [total_registered_eq_zero fun other => (stillHarmless other).1]
      rcases waiters with same | zero
      · rw [same, inv.waiters, total_registered_eq_zero fun other => (harmless other).1]
      · rw [zero]
        rfl
    queued := by
      have queued : target.ntfn.Queued PoolCall.isBlocked calls := inv.queued.of_queue queue
      refine queued.update ?_
      rw [PoolCall.awake_of_harmless needless outside,
        PoolCall.awake_of_harmless (harmless thread).1 (harmless thread).2]
    outside := fun _ => shallow
    mutex := by
      intro live
      obtain ⟨active, owner, count⟩ := mutex live
      refine ⟨⟨target.mutex, target.ntfn, fun other => ⟨.idle, 0, 0⟩, []⟩,
        MutexInitial.inv ⟨owner, count, active, fun _ => ⟨rfl, rfl⟩, rfl⟩, ⟨rfl, rfl, ?_, ?_⟩⟩
      · exact fun other => (PoolCall.mutexCall_of_outside (stillHarmless other).2).symm
      · exact fun other => (shallow other).symm }

/-- A step of the only thread that manages the slot. -/
theorem SlotInv.manage (inv : SlotInv tids slot calls depth) (at_ : calls thread = before)
    (managing : before.managing = true) (queue : target.ntfn.queue = slot.ntfn.queue)
    (waiters : target.sem.waiters = slot.sem.waiters ∨ target.sem.waiters = 0)
    (used : target.live ≠ .free → target.used = true) (fits : after.Fits target)
    (needless : after.needsSem = false) (outside : after.inMutex = false)
    (mutex : target.live = .mutex → target.ntfn = .active ∧ target.mutex.owner = 0 ∧
      target.mutex.count = 0) :
    SlotInv tids target (Function.update calls thread after) depth := by
  subst at_
  have free := ((inv.fits thread).manages managing).2
  refine inv.quiet ?_ (fun other => (inv.fits other).needs_of_free free)
    (inv.outside (by rw [free]; simp)) queue waiters used fits needless outside mutex
  intro other different
  by_contra manages
  rw [Bool.not_eq_false] at manages
  exact different (inv.alone other thread manages managing)

/-- A thread gets a slot of its own: it claims a free one or frees an object
that nobody needs any more. -/
theorem SlotInv.occupy (inv : SlotInv tids slot calls depth)
    (unmanaged : slot.used = false ∨ slot.live ≠ .free)
    (harmless : ∀ other, (calls other).needsSem = false ∧ (calls other).inMutex = false)
    (shallow : ∀ other, depth other = 0) (ntfn : target.ntfn = slot.ntfn)
    (sem : target.sem = slot.sem) (live : target.live = .free) (fits : after.Fits target)
    (needless : after.needsSem = false) (outside : after.inMutex = false) :
    SlotInv tids target (Function.update calls thread after) depth := by
  refine inv.quiet ?_ harmless shallow (by rw [ntfn]) (.inl (by rw [sem]))
    (fun alive => absurd live alive) fits needless outside (fun mutex => ?_)
  · intro other _
    by_contra manages
    rw [Bool.not_eq_false] at manages
    obtain ⟨used, free⟩ := (inv.fits other).manages manages
    rcases unmanaged with unused | alive
    · rw [used] at unused
      cases unused
    · exact alive free
  · rw [live] at mutex
    cases mutex

omit [DecidableEq Thread] in
/-- A mutex that is unowned and that no thread is in a call on is not held. -/
theorem SlotInv.unheld (inv : SlotInv tids slot calls depth) (live : slot.live = .mutex)
    (owner : slot.mutex.owner = 0) (rest : ∀ other, (calls other).inMutex = false)
    (other : Thread) : depth other = 0 := by
  obtain ⟨mutex, mutexInv, shows⟩ := inv.mutex live
  by_contra held
  rw [← shows.depth other] at held
  have owned := mutexInv.owned other
    (MutexThread.holding_of_depth _ (Nat.pos_of_ne_zero held))
  have idle : (mutex.threads other).call = .idle := by
    rw [shows.calls, PoolCall.mutexCall_of_outside (rest other)]
  unfold MutexThread.Owned at owned
  rw [idle, shows.fields] at owned
  exact tids.nonzero other (owned.1.symm.trans owner)

omit [Fintype Thread] in
theorem update_eq_of_eq {Value : Type*} (measure : PoolCall → Value)
    (same : measure after = measure (calls thread)) (other : Thread) :
    measure (Function.update calls thread after other) = measure (calls other) := by
  by_cases equal : other = thread
  · subst equal
    rw [Function.update_self, same]
  · rw [Function.update_of_ne equal]

omit [Fintype Thread] in
theorem pool_fits_update (fits : ∀ other, (calls other).Fits slot) (fitsNew : after.Fits slot)
    (other : Thread) : (Function.update calls thread after other).Fits slot := by
  by_cases equal : other = thread
  · subst equal
    rw [Function.update_self]
    exact fitsNew
  · rw [Function.update_of_ne equal]
    exact fits other

omit [DecidableEq Thread] in
/-- A waiter that is registered has the semaphore kept for it. -/
theorem SlotInv.live_of_waiters (inv : SlotInv tids slot calls depth)
    (positive : 0 < slot.sem.waiters) : slot.live = .sem := by
  by_contra other
  have zero : Tally.total PoolCall.registered calls = 0 := by
    apply total_registered_eq_zero
    intro thread
    by_contra needs
    rw [Bool.not_eq_false] at needs
    have fits := inv.fits thread
    cases at_ : calls thread with
    | sem index call =>
        rw [at_] at fits needs
        exact other (fits.2 needs)
    | _ =>
        rw [at_] at needs
        cases needs
  rw [inv.waiters, zero] at positive
  cases positive

/-- A step of a semaphore function that leaves the notification alone. -/
theorem SlotInv.semGoto {index : Slot} {call next : SemCall} {sem : Sem}
    (inv : SlotInv tids slot calls depth) (at_ : calls thread = .sem index call)
    (waiters : sem.waiters + call.registered = slot.sem.waiters + next.registered)
    (awake : call.isBlocked = false) (nextAwake : next.isBlocked = false)
    (lowering : next.lowering = true → call.lowering = true)
    (signals : next = .upSignal → 0 < slot.sem.waiters) :
    SlotInv tids { slot with sem } (Function.update calls thread (.ofSem index next)) depth := by
  have weights : (PoolCall.ofSem index next).registered = next.registered ∧
      (PoolCall.ofSem index next).isBlocked = false ∧
      (PoolCall.ofSem index next).managing = false ∧
      (PoolCall.ofSem index next).mutexCall = .idle := by
    unfold PoolCall.ofSem
    split
    next returned => rw [returned]; exact ⟨rfl, rfl, rfl, rfl⟩
    next _ => exact ⟨rfl, nextAwake, rfl, rfl⟩
  obtain ⟨registered, unblocked, unmanaging, noMutex⟩ := weights
  have fits := inv.fits thread
  rw [at_] at fits
  have fitsNext : (PoolCall.ofSem index next).Fits slot := by
    unfold PoolCall.ofSem
    split
    · exact trivial
    next running =>
      refine ⟨running, fun needs => ?_⟩
      rcases Bool.or_eq_true_iff.mp needs with lowers | signalling
      · exact fits.2 (Bool.or_eq_true_iff.mpr (.inl (lowering lowers)))
      · exact inv.live_of_waiters (signals (of_decide_eq_true signalling))
  exact {
    fits := fun other => (pool_fits_update inv.fits fitsNext other).congr rfl rfl rfl
    alone := by
      intro first second
      rw [update_eq_of_eq PoolCall.managing (by rw [unmanaging, at_]; rfl),
        update_eq_of_eq PoolCall.managing (by rw [unmanaging, at_]; rfl)]
      exact inv.alone first second
    used := inv.used
    waiters := by
      have change := Tally.total_update PoolCall.registered calls thread (.ofSem index next)
      have old := inv.waiters
      rw [at_, registered] at change
      simp only [PoolCall.registered] at change
      dsimp only
      omega
    queued := inv.queued.update (by rw [unblocked, at_]; exact awake.symm)
    outside := inv.outside
    mutex := by
      intro live
      obtain ⟨mutex, mutexInv, shows⟩ := inv.mutex live
      refine ⟨mutex, mutexInv, shows.fields, shows.ntfn, fun other => ?_, shows.depth⟩
      rw [update_eq_of_eq PoolCall.mutexCall (by rw [noMutex, at_]; rfl)]
      exact shows.calls other }

omit [DecidableEq Thread] in
/-- Threads of a semaphore move through its notification. -/
theorem SlotInv.semQueue {ntfn : Notification Thread} {moved : Thread → PoolCall}
    (inv : SlotInv tids slot calls depth) (live : slot.live = .sem)
    (fits : ∀ other, (moved other).Fits slot)
    (managing : ∀ other, (moved other).managing = (calls other).managing)
    (registered : Tally.total PoolCall.registered moved = Tally.total PoolCall.registered calls)
    (queued : ntfn.Queued PoolCall.isBlocked moved) :
    SlotInv tids { slot with ntfn } moved depth where
  fits other := (fits other).congr rfl rfl rfl
  alone first second := by
    rw [managing, managing]
    exact inv.alone first second
  used := inv.used
  waiters := by
    rw [registered]
    exact inv.waiters
  queued := queued
  outside := inv.outside
  mutex mutex := by
    rw [live] at mutex
    cases mutex

theorem total_registered_update (same : after.registered = (calls thread).registered) :
    Tally.total PoolCall.registered (Function.update calls thread after) =
      Tally.total PoolCall.registered calls := by
  have change := Tally.total_update PoolCall.registered calls thread after
  omega

theorem SlotInv.semWait {index : Slot} (inv : SlotInv tids slot calls depth)
    (at_ : calls thread = .sem index .wait) :
    let performed := slot.ntfn.perform PoolCall.resume calls thread
      (.wait (.sem index .blocked) (.sem index (.tryLoad true)))
    SlotInv tids { slot with ntfn := performed.1 } performed.2 depth := by
  have fits := inv.fits thread
  rw [at_] at fits
  have live := fits.2 rfl
  simp only [perform]
  rcases inv.queued.wait_cases thread (by rw [at_]; rfl) with
    ⟨-, taken, queued⟩ | ⟨_, -, joins, queued⟩
  · simp only [taken]
    exact inv.semQueue live (pool_fits_update inv.fits ⟨by simp, fun _ => live⟩)
      (update_eq_of_eq PoolCall.managing (by rw [at_]; rfl))
      (total_registered_update (by rw [at_]; rfl)) (queued.update (by rw [at_]; rfl))
  · simp only [joins]
    exact inv.semQueue live (pool_fits_update inv.fits ⟨by simp, fun _ => live⟩)
      (update_eq_of_eq PoolCall.managing (by rw [at_]; rfl))
      (total_registered_update (by rw [at_]; rfl)) (queued _ rfl)

theorem SlotInv.semSignal {index : Slot} {call : SemCall} (inv : SlotInv tids slot calls depth)
    (at_ : calls thread = .sem index call) (signals : call = .upSignal ∨ call = .handSignal) :
    let performed := slot.ntfn.perform PoolCall.resume calls thread (.signal .idle)
    SlotInv tids { slot with ntfn := performed.1 } performed.2 depth := by
  have weights : call.registered = 0 ∧ call.isBlocked = false ∧
      (PoolCall.sem index call).needsSem = true := by
    rcases signals with rfl | rfl <;> exact ⟨rfl, rfl, rfl⟩
  obtain ⟨unregistered, awake, needs⟩ := weights
  have fits := inv.fits thread
  rw [at_] at fits
  have live := fits.2 needs
  have left : ∀ other, (Function.update calls thread .idle other).managing =
      (calls other).managing :=
    update_eq_of_eq PoolCall.managing (by rw [at_]; rfl)
  have total : Tally.total PoolCall.registered (Function.update calls thread .idle) =
      Tally.total PoolCall.registered calls :=
    total_registered_update (by rw [at_]; exact unregistered.symm)
  have fitsLeft : ∀ other, (Function.update calls thread .idle other).Fits slot :=
    pool_fits_update inv.fits trivial
  have queued : slot.ntfn.Queued PoolCall.isBlocked (Function.update calls thread .idle) :=
    inv.queued.update (by rw [at_]; exact awake.symm)
  simp only [perform]
  rcases queued.signal_cases with ⟨sets, -, unblocked⟩ |
    ⟨head, rest, -, wakesHead, blocked, remaining⟩
  · simp only [sets]
    exact inv.semQueue live fitsLeft left total unblocked
  · simp only [wakesHead]
    -- only waiters of the semaphore are asleep here
    obtain ⟨other, asleep⟩ : ∃ other, Function.update calls thread .idle head =
        .sem other .blocked := by
      have fitsHead := fitsLeft head
      cases at_ : Function.update calls thread .idle head with
      | sem other call =>
          rw [at_] at blocked
          exact ⟨other, by rw [SemCall.eq_blocked blocked]⟩
      | mutex other call =>
          rw [at_] at fitsHead
          rw [fitsHead.2] at live
          cases live
      | _ =>
          rw [at_] at blocked
          cases blocked
    refine inv.semQueue live (pool_fits_update fitsLeft ?_) (fun other => ?_) ?_ (remaining _ ?_)
    · rw [asleep]
      exact ⟨by simp [SemCall.resume], fun _ => live⟩
    · rw [update_eq_of_eq PoolCall.managing (by rw [asleep]; rfl), left]
    · rw [total_registered_update (by rw [asleep]; rfl), total]
    · rw [asleep]
      rfl

/-- A step of a semaphore function on a slot, whatever the slot is by now. -/
theorem SlotInv.semStep {index : Slot} {call : SemCall} {move : SemMove}
    (inv : SlotInv tids slot calls depth) (at_ : calls thread = .sem index call)
    (stepped : semStep slot.sem call = some move) :
    let performed := slot.ntfn.perform PoolCall.resume calls thread
      (move.2.1.map (PoolCall.ofSem index))
    SlotInv tids { slot with
      sem := move.1
      ntfn := performed.1 } performed.2 depth := by
  obtain ⟨sem, request, events⟩ := move
  rcases semStep_cases stepped with
    ⟨next, rfl, waiters, awake, nextAwake, lowering, signals⟩ | ⟨rfl, rfl, rfl⟩ |
    ⟨signals, rfl, rfl⟩
  · exact inv.semGoto at_ waiters awake nextAwake lowering signals
  · exact inv.semWait at_
  · exact inv.semSignal at_ signals

/-- A step of a mutex function is a step of the mutex that the slot shows. -/
theorem SlotInv.mutexStep {index : Slot} {call : MutexCall} {move : MutexMove}
    (inv : SlotInv tids slot calls depth) (at_ : calls thread = .mutex index call)
    (stepped : mutexStep (tids.tid thread) slot.mutex call = some move) :
    let performed := slot.ntfn.perform PoolCall.resume calls thread
      (move.2.1.map (PoolCall.ofMutex index))
    SlotInv tids { slot with
      mutex := move.1
      ntfn := performed.1 } performed.2
      (Function.update depth thread (move.2.2.foldl MutexEvent.depth (depth thread))) := by
  have fits := inv.fits thread
  rw [at_] at fits
  have live := fits.2
  obtain ⟨mutex, mutexInv, shows⟩ := inv.mutex live
  have callThere : (mutex.threads thread).call = call := by rw [shows.calls, at_]; rfl
  have steppedThere : Sync.mutexStep (tids.tid thread) mutex.mutex (mutex.threads thread).call =
      some move := by
    rw [shows.fields, callThere]
    exact stepped
  have advanced := mutexStep_inv mutexInv steppedThere
  have notQueued : thread ∉ slot.ntfn.queue := by
    rw [inv.queued.mem_iff, at_]
    intro blocked
    cases call <;> first | (cases blocked; done) | cases stepped
  -- the slot and its mutex agree on every thread after the step
  have agree : (slot.ntfn.perform PoolCall.resume calls thread
        (move.2.1.map (PoolCall.ofMutex index))).1 = (mutex.advance thread move).ntfn ∧
      ∀ other, Agrees slot
        (Function.update depth thread (move.2.2.foldl MutexEvent.depth (depth thread))) other
        ((slot.ntfn.perform PoolCall.resume calls thread
          (move.2.1.map (PoolCall.ofMutex index))).2 other)
        ((mutex.advance thread move).threads other) := by
    unfold MutexState.advance
    rw [shows.ntfn]
    refine perform_related _ ?_ ?_ ?_ move.2.1
    · intro other different
      refine ⟨shows.calls other, ?_, inv.fits other, fun queued => ?_⟩
      · rw [Function.update_of_ne different, shows.depth other]
      · have blocked := (inv.queued.mem_iff other).mp queued
        cases inside : (calls other).inMutex with
        | true => rfl
        | false =>
            rw [PoolCall.awake_of_harmless ((inv.fits other).of_mutex live).2.1 inside] at blocked
            cases blocked
    · intro next
      refine ⟨?_, ?_, ?_, fun queued => absurd queued notQueued⟩
      · unfold PoolCall.ofMutex
        split
        next returned => exact returned
        next _ => rfl
      · rw [Function.update_self]
        dsimp only
        rw [shows.depth]
      · unfold PoolCall.ofMutex
        split
        · exact trivial
        next running => exact ⟨running, live⟩
    · rintro other queued pool seen ⟨calls, depths, poolFits, inMutex⟩
      cases pool with
      | mutex index call =>
          exact ⟨rfl, depths, ⟨by simp, live⟩, fun _ => rfl⟩
      | _ => cases inMutex queued
  obtain ⟨ntfn, agrees⟩ := agree
  exact {
    fits := fun other => (agrees other).fits.still_mutex live live
    alone := by
      intro first second manages
      rw [((agrees first).fits.of_mutex live).1] at manages
      cases manages
    used := inv.used
    waiters := by
      rw [total_registered_eq_zero fun other => ((agrees other).fits.of_mutex live).2.1]
      rw [inv.waiters, total_registered_eq_zero fun other => ((inv.fits other).of_mutex live).2.1]
    queued := by
      refine ⟨ntfn ▸ advanced.queued.nodup, fun other => ?_⟩
      rw [ntfn, advanced.queued.mem_iff other, (agrees other).calls,
        ((agrees other).fits.of_mutex live).2.2]
    outside := fun alive => absurd live alive
    mutex := fun _ => ⟨mutex.advance thread move, advanced, rfl, ntfn.symm,
      fun other => (agrees other).calls, fun other => (agrees other).depth⟩ }

omit [DecidableEq Thread] in
/-- Who waits on a slot is in no call on another one. -/
theorem SlotInv.elsewhere {index other : Slot} {state : PoolState Thread} {value : SyncSlot Thread}
    (inv : SlotInv tids value (fun thread => (state.calls thread).on index) depth)
    (different : other ≠ index) (queued : thread ∈ value.ntfn.queue) :
    (state.calls thread).on other = .idle := by
  have blocked := (inv.queued.mem_iff thread).mp queued
  have there : (state.calls thread).slot? = some index := by
    by_contra away
    rw [PoolCall.on, if_neg away] at blocked
    cases blocked
  exact PoolCall.on_of_ne there different

/-- A step on one slot, as that slot and as the others see it. -/
theorem PoolInv.step {state result : PoolState Thread} {index : Slot} {Point : Type}
    (point : Point → PoolCall) (request : Request Point) (inv : PoolInv tids state)
    (here : ∀ other, other ≠ index → (state.calls thread).on other = .idle)
    (points : ∀ value, point value = .idle ∨ (point value).slot? = some index)
    (slots : result.slots = Function.update state.slots index target)
    (calls : result.calls = ((state.slots index).ntfn.perform PoolCall.resume state.calls thread
      (request.map point)).2)
    (depth : ∀ other, other ≠ index → ∀ thread, result.depth thread other =
      state.depth thread other)
    (slotInv : SlotInv tids target ((state.slots index).ntfn.perform PoolCall.resume
      (fun thread => (state.calls thread).on index) thread (request.map point)).2
        (fun thread => result.depth thread index)) : PoolInv tids result := by
  intro slot
  by_cases equal : slot = index
  · subst equal
    rw [slots, Function.update_self]
    have projected : ∀ other, ((state.slots slot).ntfn.perform PoolCall.resume
        (fun thread => (state.calls thread).on slot) thread (request.map point)).2 other =
        (result.calls other).on slot := by
      rw [calls]
      refine (perform_related (fun _ (call seen : PoolCall) => seen = call.on slot)
          (fun _ _ => rfl) ?_ ?_
        request).2
      · intro value
        rcases points value with idle | there
        · rw [idle]
          rfl
        · exact (PoolCall.on_of_slot there).symm
      · rintro other - call seen rfl
        exact (PoolCall.on_resume slot call).symm
    simp only [← projected]
    exact slotInv
  · rw [slots, Function.update_of_ne equal]
    have untouched : ∀ other, (result.calls other).on slot = (state.calls other).on slot := by
      rw [calls]
      refine perform_forall (fun other (call : PoolCall) => call.on slot = (state.calls other).on slot)
        (fun _ _ => rfl) ?_ ?_ request
      · intro value
        rw [here slot equal]
        rcases points value with idle | there
        · rw [idle]
          rfl
        · exact PoolCall.on_of_ne there equal
      · intro other queued call same
        rw [PoolCall.on_resume, same, (inv index).elsewhere equal queued]
        rfl
    simp only [untouched, depth slot equal]
    exact inv slot

theorem PoolInv.manage {state : PoolState Thread} {index : Slot} {value : SyncSlot Thread}
    (inv : PoolInv tids state) (at_ : state.calls thread = before)
    (managing : before.managing = true) (there : before.slot? = some index)
    (stays : after = .idle ∨ after.slot? = some index)
    (queue : value.ntfn.queue = (state.slots index).ntfn.queue)
    (waiters : value.sem.waiters = (state.slots index).sem.waiters ∨ value.sem.waiters = 0)
    (used : value.live ≠ .free → value.used = true) (fits : after.Fits value)
    (needless : after.needsSem = false) (outside : after.inMutex = false)
    (mutex : value.live = .mutex → value.ntfn = .active ∧ value.mutex.owner = 0 ∧
      value.mutex.count = 0) :
    PoolInv tids ((state.setSlot index value).goto thread after) := by
  have here : (state.calls thread).on index = before := by
    rw [at_, PoolCall.on_of_slot there]
  exact PoolInv.step (fun _ : Unit => after) (.goto ()) inv
    (fun other different => by rw [at_, PoolCall.on_of_ne there different]) (fun _ => stays) rfl rfl
    (fun _ _ _ => rfl)
    ((inv index).manage here managing queue waiters used fits needless outside mutex)

omit [Fintype Thread] in
theorem PoolState.goto_eq (state : PoolState Thread) (thread : Thread) (call : PoolCall)
    (index : Slot) :
    state.goto thread call = (state.setSlot index (state.slots index)).goto thread call := by
  simp [PoolState.setSlot]

/-- A thread without a slot stays without one. -/
theorem PoolInv.nowhere {state : PoolState Thread} (inv : PoolInv tids state)
    (before : (state.calls thread).slot? = none) (after_ : after.slot? = none) :
    PoolInv tids (state.goto thread after) := by
  intro slot
  have same : ∀ other, (Function.update state.calls thread after other).on slot =
      (state.calls other).on slot :=
    update_eq_of_eq (PoolCall.on slot)
      (by rw [PoolCall.on_of_none after_, PoolCall.on_of_none before])
  simp only [PoolState.goto, same]
  exact inv slot

/-- A thread gets a slot of its own. -/
theorem PoolInv.occupy {state : PoolState Thread} {index : Slot} {value : SyncSlot Thread}
    (inv : PoolInv tids state) (before : (state.calls thread).slot? = none)
    (there : after.slot? = some index)
    (unmanaged : (state.slots index).used = false ∨ (state.slots index).live ≠ .free)
    (harmless : ∀ other, ((state.calls other).on index).needsSem = false ∧
      ((state.calls other).on index).inMutex = false)
    (shallow : ∀ other, state.depth other index = 0)
    (ntfn : value.ntfn = (state.slots index).ntfn) (sem : value.sem = (state.slots index).sem)
    (live : value.live = .free) (fits : after.Fits value) (needless : after.needsSem = false)
    (outside : after.inMutex = false) :
    PoolInv tids ((state.setSlot index value).goto thread after) :=
  PoolInv.step (fun _ : Unit => after) (.goto ()) inv
    (fun _ _ => PoolCall.on_of_none before) (fun _ => .inr there) rfl rfl (fun _ _ _ => rfl)
    ((inv index).occupy unmanaged harmless shallow ntfn sem live fits needless outside)

theorem PoolInv.claim {state result : PoolState Thread} {alloc : Alloc} {position : Nat}
    (inv : PoolInv tids state) (at_ : state.calls thread = .claim alloc position)
    (moved : poolStep tids thread state = some result) : PoolInv tids result := by
  have before : (state.calls thread).slot? = none := by rw [at_]; rfl
  simp only [poolStep, at_] at moved
  split at moved
  next inside =>
    split at moved
    next taken =>
      cases moved
      exact inv.nowhere before rfl
    next unused =>
      cases moved
      have slotInv := inv ⟨position, inside⟩
      have free : (state.slots ⟨position, inside⟩).live = .free := by
        by_contra alive
        exact unused (slotInv.used alive)
      exact inv.occupy before rfl (.inl (Bool.not_eq_true _ ▸ unused))
        (fun other => (slotInv.fits other).needs_of_free free)
        (slotInv.outside (by rw [free]; simp)) rfl rfl free ⟨rfl, free⟩ rfl rfl
  next exhausted =>
    cases moved
    exact inv.nowhere before rfl

/-- The signal of `task_mutex_alloc` becomes the token, since nobody waits. -/
theorem PoolInv.mutexSignal {state : PoolState Thread} {index : Slot} (inv : PoolInv tids state)
    (at_ : state.calls thread = .mutexSignal index) :
    PoolInv tids ((state.setSlot index { state.slots index with live := .mutex }).perform thread
      index (.signal .idle)) := by
  have slotInv := inv index
  have here : (state.calls thread).on index = .mutexSignal index := by
    rw [at_, PoolCall.on_of_slot rfl]
  have fits := slotInv.fits thread
  rw [here] at fits
  obtain ⟨used, free, owner, count⟩ := fits
  have empty : (state.slots index).ntfn.queue = [] := by
    rw [List.eq_nil_iff_forall_not_mem]
    intro other queued
    obtain ⟨needless, outside⟩ := (slotInv.fits other).needs_of_free free
    rw [slotInv.queued.mem_iff, PoolCall.awake_of_harmless needless outside] at queued
    cases queued
  have sets : (state.slots index).ntfn.signal = (.active, none) := by
    cases ntfn : (state.slots index).ntfn with
    | active => rfl
    | waiting queue =>
        rw [ntfn] at empty
        cases empty
        rfl
  have signalled : ∀ calls : Thread → PoolCall, (state.slots index).ntfn.perform PoolCall.resume
      calls thread (.signal .idle) = (.active, Function.update calls thread .idle) := by
    intro calls
    simp only [perform, sets]
  have managed : SlotInv tids { state.slots index with
      live := .mutex
      ntfn := .active } (Function.update (fun thread => (state.calls thread).on index) thread .idle)
      (fun thread => state.depth thread index) :=
    slotInv.manage here rfl empty.symm (.inl rfl) (fun _ => used) trivial rfl rfl
      (fun _ => ⟨rfl, owner, count⟩)
  refine PoolInv.step (fun _ : Unit => PoolCall.idle) (.signal ()) inv
    (fun other different => by rw [at_, PoolCall.on_of_ne rfl different]) (fun _ => .inl rfl) ?_ ?_
    (fun _ _ _ => rfl) (by rw [Request.map, signalled]; exact managed)
  · simp [PoolState.perform, PoolState.setSlot, signalled]
  · simp [PoolState.perform, PoolState.setSlot, Request.map]

theorem PoolInv.semStep {state : PoolState Thread} {index : Slot} {call : SemCall} {move : SemMove}
    (inv : PoolInv tids state) (at_ : state.calls thread = .sem index call)
    (stepped : semStep (state.slots index).sem call = some move) :
    PoolInv tids (state.semAdvance thread index move) := by
  have here : (state.calls thread).on index = .sem index call := by
    rw [at_, PoolCall.on_of_slot rfl]
  refine PoolInv.step (PoolCall.ofSem index) move.2.1 inv
    (fun other different => by rw [at_, PoolCall.on_of_ne rfl different])
    (PoolCall.ofSem_there index) ?_ ?_ (fun _ _ _ => rfl) ((inv index).semStep here stepped)
  · simp only [PoolState.semAdvance, PoolState.perform, PoolState.setSlot, Function.update_self,
      Function.update_idem]
    rw [perform_fst_congr]
  · simp [PoolState.semAdvance, PoolState.perform, PoolState.setSlot]

theorem PoolInv.mutexStep {state : PoolState Thread} {index : Slot} {call : MutexCall}
    {move : MutexMove} (inv : PoolInv tids state) (at_ : state.calls thread = .mutex index call)
    (stepped : mutexStep (tids.tid thread) (state.slots index).mutex call = some move) :
    PoolInv tids (state.mutexAdvance thread index move) := by
  have here : (state.calls thread).on index = .mutex index call := by
    rw [at_, PoolCall.on_of_slot rfl]
  have slotInv := (inv index).mutexStep here stepped
  have depth : (fun other => (state.mutexAdvance thread index move).depth other index) =
      Function.update (fun other => state.depth other index) thread
        (move.2.2.foldl MutexEvent.depth (state.depth thread index)) := by
    funext other
    by_cases equal : other = thread
    · subst equal
      simp [PoolState.mutexAdvance]
    · simp [PoolState.mutexAdvance, Function.update_of_ne equal]
  refine PoolInv.step (PoolCall.ofMutex index) move.2.1 inv
    (fun other different => by rw [at_, PoolCall.on_of_ne rfl different])
    (PoolCall.ofMutex_there index) ?_ ?_ ?_ (by rw [depth]; exact slotInv)
  · simp only [PoolState.mutexAdvance, PoolState.perform, PoolState.setSlot, Function.update_self,
      Function.update_idem]
    rw [perform_fst_congr]
  · simp [PoolState.mutexAdvance, PoolState.perform, PoolState.setSlot]
  · intro other different user
    by_cases equal : user = thread
    · subst equal
      simp [PoolState.mutexAdvance, Function.update_of_ne different]
    · simp [PoolState.mutexAdvance, Function.update_of_ne equal, PoolState.perform,
        PoolState.setSlot]

/-- A step of `alloc` or `free` that keeps the slot to its thread, or leaves it
as something other than a mutex. -/
theorem PoolInv.prepare {state : PoolState Thread} {index : Slot} {value : SyncSlot Thread}
    (inv : PoolInv tids state) (at_ : state.calls thread = before)
    (managing : before.managing = true) (there : before.slot? = some index)
    (stays : after = .idle ∨ after.slot? = some index)
    (queue : value.ntfn.queue = (state.slots index).ntfn.queue)
    (waiters : value.sem.waiters = (state.slots index).sem.waiters ∨ value.sem.waiters = 0)
    (used : value.live ≠ .free → value.used = true) (live : value.live ≠ .mutex)
    (fits : after.Fits value) (needless : after.needsSem = false)
    (outside : after.inMutex = false) :
    PoolInv tids ((state.setSlot index value).goto thread after) :=
  inv.manage at_ managing there stays queue waiters used fits needless outside
    (fun mutex => absurd mutex live)

theorem poolStep_inv {state result : PoolState Thread} (inv : PoolInv tids state)
    (moved : poolStep tids thread state = some result) : PoolInv tids result := by
  have fits : ∀ index, (state.calls thread).slot? = some index →
      (state.calls thread).Fits (state.slots index) := by
    intro index there
    have fits := (inv index).fits thread
    rwa [PoolCall.on_of_slot there] at fits
  cases at_ : state.calls thread with
  | idle => simp only [poolStep, at_, reduceCtorEq] at moved
  | claim alloc position => exact inv.claim at_ moved
  | sem index call =>
      simp only [poolStep, at_] at moved
      obtain ⟨move, stepped, rfl⟩ := Option.map_eq_some_iff.mp moved
      exact inv.semStep at_ stepped
  | mutex index call =>
      simp only [poolStep, at_] at moved
      obtain ⟨move, stepped, rfl⟩ := Option.map_eq_some_iff.mp moved
      exact inv.mutexStep at_ stepped
  | setKind alloc index =>
      rw [at_] at fits
      obtain ⟨used, free⟩ := fits index rfl
      simp only [poolStep, at_, Option.some.injEq] at moved
      exact moved ▸ inv.prepare at_ rfl rfl (.inr rfl) rfl (.inl rfl) (fun _ => used)
        (by simp [free]) ⟨used, free⟩ rfl rfl
  | claimDrain alloc index =>
      rw [at_] at fits
      obtain ⟨used, free⟩ := fits index rfl
      simp only [poolStep, at_] at moved
      cases alloc with
      | sem count =>
          cases moved
          exact inv.prepare at_ rfl rfl (.inr rfl) (queue_poll _) (.inl rfl) (fun _ => used)
            (by simp [free]) ⟨used, free⟩ rfl rfl
      | mutex recursive =>
          cases moved
          exact inv.prepare at_ rfl rfl (.inr rfl) (queue_poll _) (.inl rfl) (fun _ => used)
            (by simp [free]) ⟨used, free⟩ rfl rfl
  | semCount count index =>
      rw [at_] at fits
      obtain ⟨used, free⟩ := fits index rfl
      simp only [poolStep, at_, Option.some.injEq] at moved
      exact moved ▸ inv.prepare at_ rfl rfl (.inr rfl) rfl (.inl rfl) (fun _ => used)
        (by simp [free]) ⟨used, free⟩ rfl rfl
  | semWaiters index =>
      rw [at_] at fits
      obtain ⟨used, free⟩ := fits index rfl
      simp only [poolStep, at_, Option.some.injEq] at moved
      exact moved ▸ inv.prepare at_ rfl rfl (.inl rfl) rfl (.inr rfl) (fun _ => used)
        (by simp) trivial rfl rfl
  | mutexOwner recursive index =>
      rw [at_] at fits
      obtain ⟨used, free⟩ := fits index rfl
      simp only [poolStep, at_, Option.some.injEq] at moved
      exact moved ▸ inv.prepare at_ rfl rfl (.inr rfl) rfl (.inl rfl) (fun _ => used)
        (by simp [free]) ⟨used, free, rfl⟩ rfl rfl
  | mutexCount recursive index =>
      rw [at_] at fits
      obtain ⟨used, free, owner⟩ := fits index rfl
      simp only [poolStep, at_, Option.some.injEq] at moved
      exact moved ▸ inv.prepare at_ rfl rfl (.inr rfl) rfl (.inl rfl) (fun _ => used)
        (by simp [free]) ⟨used, free, owner, rfl⟩ rfl rfl
  | mutexRecursive recursive index =>
      rw [at_] at fits
      obtain ⟨used, free, owner, count⟩ := fits index rfl
      simp only [poolStep, at_, Option.some.injEq] at moved
      exact moved ▸ inv.prepare at_ rfl rfl (.inr rfl) rfl (.inl rfl) (fun _ => used)
        (by simp [free]) ⟨used, free, owner, count⟩ rfl rfl
  | mutexSignal index =>
      simp only [poolStep, at_, Option.some.injEq] at moved
      exact moved ▸ inv.mutexSignal at_
  | semFree index =>
      rw [at_] at fits
      obtain ⟨used, free⟩ := fits index rfl
      simp only [poolStep, at_] at moved
      split at moved
      · cases moved
        exact inv.prepare at_ rfl rfl (.inl rfl) rfl (.inl rfl) (fun _ => used) (by simp) trivial
          rfl rfl
      · cases moved
        rw [state.goto_eq thread _ index]
        exact inv.prepare at_ rfl rfl (.inr rfl) rfl (.inl rfl) (fun _ => used) (by simp [free])
          ⟨used, free⟩ rfl rfl
  | mutexFreeOwner index =>
      rw [at_] at fits
      obtain ⟨used, free, owner, count⟩ := fits index rfl
      simp only [poolStep, at_, owner, ne_eq, not_true_eq_false, if_false, Option.some.injEq]
        at moved
      rw [← moved, state.goto_eq thread _ index]
      exact inv.prepare at_ rfl rfl (.inr rfl) rfl (.inl rfl) (fun _ => used) (by simp [free])
        ⟨used, free, owner, count⟩ rfl rfl
  | mutexFreeCount index =>
      rw [at_] at fits
      obtain ⟨used, free, owner, count⟩ := fits index rfl
      simp only [poolStep, at_, count, ne_eq, not_true_eq_false, if_false, Option.some.injEq]
        at moved
      rw [← moved, state.goto_eq thread _ index]
      exact inv.prepare at_ rfl rfl (.inr rfl) rfl (.inl rfl) (fun _ => used) (by simp [free])
        ⟨used, free⟩ rfl rfl
  | releaseDrain index =>
      rw [at_] at fits
      obtain ⟨used, free⟩ := fits index rfl
      simp only [poolStep, at_, Option.some.injEq] at moved
      exact moved ▸ inv.prepare at_ rfl rfl (.inr rfl) (queue_poll _) (.inl rfl) (fun _ => used)
        (by simp [free]) ⟨used, free⟩ rfl rfl
  | releaseKind index =>
      rw [at_] at fits
      obtain ⟨used, free⟩ := fits index rfl
      simp only [poolStep, at_, Option.some.injEq] at moved
      exact moved ▸ inv.prepare at_ rfl rfl (.inr rfl) rfl (.inl rfl) (fun _ => used)
        (by simp [free]) ⟨used, free⟩ rfl rfl
  | releaseUsed index =>
      rw [at_] at fits
      obtain ⟨used, free⟩ := fits index rfl
      simp only [poolStep, at_, Option.some.injEq] at moved
      exact moved ▸ inv.prepare at_ rfl rfl (.inl rfl) rfl (.inl rfl)
        (fun alive => absurd free alive) (by simp [free]) trivial rfl rfl

/-- A thread enters a semaphore function. -/
theorem SlotInv.enterSem {index : Slot} {call : SemCall} (inv : SlotInv tids slot calls depth)
    (at_ : calls thread = .idle) (live : slot.live = .sem) (running : call ≠ .idle)
    (unregistered : call.registered = 0) (awake : call.isBlocked = false) :
    SlotInv tids slot (Function.update calls thread (.sem index call)) depth := by
  have fits : (PoolCall.sem index call).Fits slot := ⟨running, fun _ => live⟩
  have queued : slot.ntfn.Queued PoolCall.isBlocked
      (Function.update calls thread (.sem index call)) :=
    inv.queued.update (by rw [at_]; exact awake)
  exact inv.semQueue live (pool_fits_update inv.fits fits)
    (update_eq_of_eq PoolCall.managing (by rw [at_]; rfl))
    (total_registered_update (by rw [at_]; exact unregistered)) queued

/-- A thread enters a mutex function, on the slot as on the mutex it shows. -/
theorem SlotInv.enterMutex {index : Slot} {call : MutexCall} (inv : SlotInv tids slot calls depth)
    (at_ : calls thread = .idle) (live : slot.live = .mutex) (running : call ≠ .idle)
    (awake : call.isBlocked = false)
    (enters : ∀ mutex, MutexInv tids mutex → Shows slot calls depth mutex →
      ∃ entering : MutexThread, entering.call = call ∧ entering.depth = depth thread ∧
        MutexInv tids { mutex with threads := Function.update mutex.threads thread entering }) :
    SlotInv tids slot (Function.update calls thread (.mutex index call)) depth where
  fits := pool_fits_update inv.fits ⟨running, live⟩
  alone first second := by
    rw [update_eq_of_eq PoolCall.managing (by rw [at_]; rfl),
      update_eq_of_eq PoolCall.managing (by rw [at_]; rfl)]
    exact inv.alone first second
  used := inv.used
  waiters := by
    rw [total_registered_update (by rw [at_]; rfl)]
    exact inv.waiters
  queued := inv.queued.update (by rw [at_]; exact awake)
  outside := inv.outside
  mutex _ := by
    obtain ⟨mutex, mutexInv, shows⟩ := inv.mutex live
    obtain ⟨entering, enteringCall, enteringDepth, entered⟩ := enters mutex mutexInv shows
    refine ⟨_, entered, shows.fields, shows.ntfn, fun other => ?_, fun other => ?_⟩
    · by_cases equal : other = thread
      · subst equal
        simp only [Function.update_self]
        exact enteringCall
      · simp only [Function.update_of_ne equal]
        exact shows.calls other
    · by_cases equal : other = thread
      · subst equal
        simp only [Function.update_self]
        exact enteringDepth
      · simp only [Function.update_of_ne equal]
        exact shows.depth other

theorem PoolInv.enter {state : PoolState Thread} {index : Slot} (inv : PoolInv tids state)
    (idle : state.calls thread = .idle) (there : after.slot? = some index)
    (slotInv : SlotInv tids (state.slots index)
      (Function.update (fun other => (state.calls other).on index) thread after)
      (fun other => state.depth other index)) : PoolInv tids (state.goto thread after) := by
  rw [state.goto_eq thread after index]
  exact PoolInv.step (fun _ : Unit => after) (.goto ()) inv
    (fun other _ => by rw [idle, PoolCall.on_of_none rfl]) (fun _ => .inr there) rfl rfl
    (fun _ _ _ => rfl) slotInv

theorem PoolCall.outside_of_rest {index : Slot} {call : PoolCall}
    (rest : call.entangled index = false) : (call.on index).inMutex = false := by
  unfold PoolCall.on
  split
  next there =>
    cases call with
    | mutex other call =>
        cases Option.some.inj there
        simp [PoolCall.entangled] at rest
    | _ => rfl
  next away => rfl

theorem PoolCall.needless_of_rest {index : Slot} {call : PoolCall}
    (returned : call.lowers index = false) (rest : call.entangled index = false) :
    (call.on index).needsSem = false := by
  unfold PoolCall.on
  split
  next there =>
    cases call with
    | sem other call =>
        cases Option.some.inj there
        simp only [PoolCall.lowers, PoolCall.entangled, decide_true, Bool.true_and] at returned rest
        exact Bool.or_eq_false_iff.mpr ⟨returned, rest⟩
    | _ => rfl
  next away => rfl

theorem poolNext_inv {state result : PoolState Thread} {action : PoolAction Thread}
    (inv : PoolInv tids state) (guarded : FreedAtRest state action)
    (moved : poolNext tids state action = some result) : PoolInv tids result := by
  cases action with
  | step thread => exact poolStep_inv inv moved
  | semAlloc thread count =>
      simp only [poolNext, PoolState.start, Option.ite_none_right_eq_some, Option.some.injEq]
        at moved
      obtain ⟨⟨idle, -⟩, rfl⟩ := moved
      exact inv.nowhere (by rw [idle]; rfl) rfl
  | mutexAlloc thread recursive =>
      simp only [poolNext, PoolState.start, Option.ite_none_right_eq_some, Option.some.injEq]
        at moved
      obtain ⟨⟨idle, -⟩, rfl⟩ := moved
      exact inv.nowhere (by rw [idle]; rfl) rfl
  | semUp thread index =>
      simp only [poolNext, PoolState.start, Option.ite_none_right_eq_some, Option.some.injEq]
        at moved
      obtain ⟨⟨idle, live⟩, rfl⟩ := moved
      exact inv.enter idle rfl ((inv index).enterSem (by rw [idle, PoolCall.on_of_none rfl]) live
        (by simp) rfl rfl)
  | semSignalOnce thread index =>
      simp only [poolNext, PoolState.start, Option.ite_none_right_eq_some, Option.some.injEq]
        at moved
      obtain ⟨⟨idle, live⟩, rfl⟩ := moved
      exact inv.enter idle rfl ((inv index).enterSem (by rw [idle, PoolCall.on_of_none rfl]) live
        (by simp) rfl rfl)
  | semDown thread index =>
      simp only [poolNext, PoolState.start, Option.ite_none_right_eq_some, Option.some.injEq]
        at moved
      obtain ⟨⟨idle, live⟩, rfl⟩ := moved
      exact inv.enter idle rfl ((inv index).enterSem (by rw [idle, PoolCall.on_of_none rfl]) live
        (by simp) rfl rfl)
  | mutexLock thread index =>
      simp only [poolNext, PoolState.start, Option.ite_none_right_eq_some, Option.some.injEq]
        at moved
      obtain ⟨⟨idle, live, mayLock⟩, rfl⟩ := moved
      refine inv.enter idle rfl ((inv index).enterMutex (by rw [idle, PoolCall.on_of_none rfl]) live
        (by simp) rfl fun mutex mutexInv shows => ⟨{ mutex.threads thread with call := .lockTest },
          rfl, shows.depth thread, ?_⟩)
      have locks : mutexNext tids mutex (.lock thread) = some { mutex with
          threads := Function.update mutex.threads thread
            { mutex.threads thread with call := .lockTest } } := by
        rw [mutexNext, if_pos]
        rw [shows.calls, shows.fields, shows.depth, idle, PoolCall.on_of_none rfl]
        exact ⟨rfl, mayLock⟩
      exact mutexNext_inv mutexInv locks
  | mutexUnlock thread index =>
      simp only [poolNext, PoolState.start, Option.ite_none_right_eq_some, Option.some.injEq]
        at moved
      obtain ⟨⟨idle, live⟩, rfl⟩ := moved
      refine inv.enter idle rfl ((inv index).enterMutex (by rw [idle, PoolCall.on_of_none rfl]) live
        (by simp) rfl fun mutex mutexInv shows =>
          ⟨⟨.unlockOwner, (mutex.threads thread).depth, (mutex.threads thread).depth⟩,
            rfl, shows.depth thread, ?_⟩)
      have unlocks : mutexNext tids mutex (.unlock thread) = some { mutex with
          threads := Function.update mutex.threads thread
            { mutex.threads thread with
              call := .unlockOwner
              entered := (mutex.threads thread).depth } } := by
        rw [mutexNext, if_pos]
        rw [shows.calls, idle, PoolCall.on_of_none rfl]
        rfl
      exact mutexNext_inv mutexInv unlocks
  | semFree thread index =>
      simp only [poolNext, PoolState.start, Option.ite_none_right_eq_some, Option.some.injEq]
        at moved
      obtain ⟨⟨idle, live, returned⟩, rfl⟩ := moved
      exact inv.occupy (by rw [show state.calls thread = .idle from idle]; rfl) rfl
        (.inr (by rw [live]; simp))
        (fun other => ⟨PoolCall.needless_of_rest (returned other) (guarded other),
          PoolCall.outside_of_rest (guarded other)⟩)
        ((inv index).outside (by rw [live]; simp)) rfl rfl rfl
        ⟨(inv index).used (by rw [live]; simp), rfl⟩ rfl rfl
  | mutexFree thread index =>
      simp only [poolNext, PoolState.start, Option.ite_none_right_eq_some, Option.some.injEq]
        at moved
      obtain ⟨⟨idle, live, owner, count⟩, rfl⟩ := moved
      have rest : ∀ other, ((state.calls other).on index).inMutex = false :=
        fun other => PoolCall.outside_of_rest (guarded other)
      exact inv.occupy (by rw [show state.calls thread = .idle from idle]; rfl) rfl
        (.inr (by rw [live]; simp))
        (fun other => ⟨(((inv index).fits other).of_mutex live).2.1, rest other⟩)
        ((inv index).unheld live owner rest) rfl rfl rfl
        ⟨(inv index).used (by rw [live]; simp), rfl, owner, count⟩ rfl rfl

omit [DecidableEq Thread] in
theorem PoolInitial.inv {state : PoolState Thread} (initial : PoolInitial state) :
    PoolInv tids state := by
  intro slot
  have idle : ∀ thread, (state.calls thread).on slot = .idle := by
    intro thread
    rw [initial.calls]
    rfl
  simp only [idle, initial.slots, initial.depth]
  refine ⟨fun _ => trivial, ?_, ?_, ?_, ⟨List.nodup_nil, ?_⟩, fun _ _ => rfl, ?_⟩
  · intro first second manages
    cases manages
  · intro alive
    exact absurd rfl alive
  · rw [total_registered_eq_zero fun _ => rfl]
    rfl
  · intro thread
    simp [queue, PoolCall.isBlocked]
  · intro mutex
    cases mutex

theorem PoolInv.correct {state : PoolState Thread} (inv : PoolInv tids state) :
    PoolCorrect state where
  exclusive slot first second firstHolds secondHolds := by
    by_cases live : (state.slots slot).live = .mutex
    · obtain ⟨mutex, mutexInv, shows⟩ := (inv slot).mutex live
      rw [← shows.depth] at firstHolds secondHolds
      exact mutexInv.correct.exclusive first second firstHolds secondHolds
    · have shallow := (inv slot).outside live first
      omega
  token slot live := by
    obtain ⟨mutex, mutexInv, shows⟩ := (inv slot).mutex live
    have same : Tally.total MutexThread.holding (state.seen slot) =
        Tally.total MutexThread.holding mutex.threads := by
      refine Finset.sum_congr rfl fun thread _ => ?_
      simp only [PoolState.seen, MutexThread.holding, PoolCall.mutexOn_eq, shows.calls, shows.depth]
    rw [same, ← shows.ntfn]
    exact mutexInv.token

/-- As long as nothing is freed under the hands of a thread that has yet to
signal it, a recycled slot keeps mutual exclusion. -/
theorem pool_correct_of_freedAtRest {state : PoolState Thread}
    (reached : (poolSystem tids).Reach FreedAtRest state) : PoolCorrect state :=
  (reached.invariant (PoolInv tids) (fun _ initial => PoolInitial.inv initial)
    fun _ _ _ inv guarded moved => poolNext_inv inv guarded moved).correct

end Invariant

/-- A semaphore is used and freed, and a mutex locked in its slot. -/
def recycled : List (PoolAction Bool) := List.flatten [
  .semAlloc false 1 :: List.replicate 5 (.step false),
  .semDown false firstSlot :: List.replicate 2 (.step false),
  .semFree false firstSlot :: List.replicate 4 (.step false),
  .mutexAlloc false false :: List.replicate 7 (.step false),
  .mutexLock false firstSlot :: List.replicate 4 (.step false)]

theorem pool_correct_recycled : ∃ state, (poolSystem twoTids).Reach FreedAtRest state ∧
    state.depth false firstSlot = 1 ∧ PoolCorrect state := by
  obtain ⟨state, reached, ends⟩ := System.exists_reach_of_exec (poolSystem twoTids) FreedAtRest
    freshPool recycled (fun state => decide (state.depth false firstSlot = 1))
    ⟨fun _ => rfl, fun _ => rfl, fun _ _ => rfl⟩ (by decide +kernel)
  exact ⟨state, reached, of_decide_eq_true ends, pool_correct_of_freedAtRest reached⟩

end Luna.Sync
