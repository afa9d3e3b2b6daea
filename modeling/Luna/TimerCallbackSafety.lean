import Mathlib.Data.List.Nodup
import Luna.TimerCallback

/-!
# Safety of the timer callbacks

A generation is armed once, by the thread that holds the timer lock.  What the
service thread has loaded without the lock is either what that thread stored for
the generation, or the generation has moved on, and then the check that follows
fails.  From the check on, `task_timer_callback_running` keeps the timer from being
freed and replaced.
-/

namespace Luna.TimerCallback

open Interleaving
open Timer (SetCall atLeastOne word_succ)
open TimerManager (word)

variable {Thread Fn : Type}

/-! ## The invariant -/

/-- Stages inside `task_timer_lock`. -/
def Caller.holds : Caller Fn → Bool
  | .idle | .allocLock _ | .setLock _ _ | .freeLock _ | .setArm _ | .setRetract _ | .setReturn _
  | .freeCancel | .freeDrain => false
  | _ => true

/-- From the service thread's check of the generation to the end of the callback. -/
def Service.window : Service Fn → Bool
  | .checkAllocated _ | .loadFn _ | .call _ _ | .running _ => true
  | _ => false

namespace Words

variable (words : Words Thread Fn)

def Issued (generation : Nat) : Prop := ∃ issue ∈ words.issues, issue.generation = generation

/-- The current generation is not armed yet. -/
def NoCurrent : Prop := ∀ issue ∈ words.issues, issue.generation ≠ words.generation

/-- The function in place is the current timer's. -/
def Bound : Prop := ∃ fn, words.fn = some fn ∧ words.functionOf words.timer = some fn

/-- There is no timer, and nothing of the last one is left. -/
structure Vacant : Prop where
  allocated : words.allocated = false
  unissued : words.NoCurrent
  freer : words.freer = none
  window : words.service.window = false

/-- A call that has taken the newest generation. -/
structure Newest (call : SetCall) : Prop where
  allocated : words.allocated = true
  generation : call.generation = words.generation
  positive : words.generation ≠ 0
  unissued : words.NoCurrent

/-- A free that has taken the timer down. -/
structure Down (thread : Thread) : Prop where
  freer : words.freer = some thread
  allocated : words.allocated = false
  unissued : words.NoCurrent

def CallerFits (thread : Thread) : Caller Fn → Prop
  | .allocCheck _ => words.freer = none
  | .allocFn _ => words.Vacant
  | .allocBump | .allocArmed | .allocPublish =>
      words.Vacant ∧ words.Bound ∧ words.timer ∉ words.freed
  | .allocStart | .allocUndo =>
      words.NoCurrent ∧ words.freer = none ∧ words.service.window = false
  | .allocUndoFn => words.Vacant
  | .setBump _ | .freeAllocated => words.allocated = true
  | .setEpoch call | .setOldGeneration call | .setOldDeadline call | .setDeadline call =>
      words.Newest call
  | .setArmed call => words.Newest call ∧ words.deadlineNs = call.deadline
  | .freeBump => words.freer = some thread ∧ words.allocated = false
  | .freeArmed | .freeFn | .freeUnlock | .freeCancel | .freeDrain => words.Down thread
  | _ => True

/-- Armed by nobody and not called back. -/
structure Unclaimed (generation : Nat) : Prop where
  disarmed : words.armedGeneration ≠ generation
  fresh : ∀ invocation ∈ words.invocations, invocation.generation ≠ generation

/-- The deadline of the generation has come, unless the generation has moved on. -/
def DueOrStale (generation : Nat) : Prop :=
  ∀ issue ∈ words.issues, issue.generation = generation →
    issue.deadline ≤ words.now ∨ generation < words.generation

/-- The callback of the generation may run, with the given function. -/
structure Passed (generation : Nat) (fn : Fn) : Prop where
  issued : ∃ issue ∈ words.issues, issue.generation = generation ∧ issue.deadline ≤ words.now ∧
    issue.timer = words.timer
  function : words.functionOf words.timer = some fn
  place : words.fn = some fn ∨ words.fn = none
  unfreed : words.timer ∉ words.freed
  alive : words.allocated = true ∨ words.freer ≠ none
  running : words.callbackRunning = true

def ServiceFits : Service Fn → Prop
  | .loadDeadline generation => words.Issued generation
  | .compare generation deadline => words.Issued generation ∧
      ∀ issue ∈ words.issues, issue.generation = generation →
        issue.deadline = deadline ∨ generation < words.generation
  | .clear generation => words.Issued generation ∧ words.DueOrStale generation
  | .bumpEpoch generation | .setRunning generation =>
      words.Issued generation ∧ words.DueOrStale generation ∧ words.Unclaimed generation
  | .checkGeneration generation =>
      (words.Issued generation ∧ words.DueOrStale generation ∧ words.Unclaimed generation) ∧
        words.callbackRunning = true
  | .checkAllocated generation | .loadFn generation =>
      (∃ fn, words.Passed generation fn) ∧ words.Unclaimed generation
  | .call generation fn => words.Passed generation fn ∧ words.Unclaimed generation
  | .running generation => ∃ fn, words.Passed generation fn
  | _ => True

/-- What holds of the current generation once it is armed. -/
structure Current (issue : Issue) : Prop where
  deadline : words.deadlineNs = issue.deadline
  timer : issue.timer = words.timer
  bound : words.Bound
  alive : words.allocated = true ∨ words.freer ≠ none

end Words

/-- What holds of the words, whoever is inside. -/
structure WordsInv (words : Words Thread Fn) : Prop where
  armedIssued : words.armedGeneration ≠ 0 → words.Issued words.armedGeneration
  armedFresh : ∀ invocation ∈ words.invocations,
    invocation.generation ≠ words.armedGeneration
  issued : ∀ issue ∈ words.issues, issue.generation ≠ 0 ∧ issue.generation ≤ words.generation ∧
    1 ≤ issue.timer ∧ issue.timer ≤ words.timer
  issuedOnce : (words.issues.map Issue.generation).Nodup
  current : ∀ issue ∈ words.issues, issue.generation = words.generation → words.Current issue
  bound : words.allocated = true → words.Bound
  freedNow : words.timer ∈ words.freed → words.allocated = false ∧ words.freer = none
  freedLe : ∀ timer ∈ words.freed, timer ≤ words.timer
  once : (words.invocations.map Invocation.generation).Nodup
  answers : ∀ invocation ∈ words.invocations, ∃ issue ∈ words.issues,
    invocation.Answers words issue
  service : words.ServiceFits words.service

structure Inv (state : State Thread Fn) : Prop where
  locked : ∀ thread, (state.callers thread).holds = true → state.lock = some thread
  words : WordsInv state.words
  callers : ∀ thread, state.words.CallerFits thread (state.callers thread)

theorem Initial.inv {state : State Thread Fn} (initial : Initial state) : Inv state := by
  refine ⟨fun thread holds => ?_, ⟨fun armed => absurd initial.armed armed, ?_, ?_, ?_, ?_,
    fun allocated => ?_, ?_, ?_, ?_, ?_, ?_⟩, fun thread => ?_⟩
  · rw [initial.callers thread] at holds
    cases holds
  · rw [initial.invocations]
    simp
  · rw [initial.issues]
    simp
  · rw [initial.issues]
    exact .nil
  · rw [initial.issues]
    simp
  · rw [initial.allocated] at allocated
    cases allocated
  · rw [initial.freed]
    simp
  · rw [initial.freed]
    simp
  · rw [initial.invocations]
    exact .nil
  · rw [initial.invocations]
    simp
  · rw [initial.service]
    trivial
  · rw [initial.callers thread]
    trivial

section Frames

variable {words after : Words Thread Fn} {thread : Thread}

/-- What a step leaves of the words that the service thread relies on. -/
structure ServiceFrame (words after : Words Thread Fn) : Prop where
  later : words.now ≤ after.now
  kept : ∀ issue ∈ words.issues, issue ∈ after.issues
  added : ∀ issue ∈ after.issues, issue ∈ words.issues ∨ ¬ words.Issued issue.generation
  generation : words.generation ≤ after.generation
  armed : ∀ generation, generation ≠ 0 → words.Issued generation →
    words.armedGeneration ≠ generation → after.armedGeneration ≠ generation
  invocations : after.invocations = words.invocations
  running : after.callbackRunning = words.callbackRunning
  window : words.service.window = true → after.timers = words.timers ∧
    after.freed = words.freed ∧ (after.allocated = true ∨ after.freer ≠ none) ∧
    (after.fn = words.fn ∨ after.fn = none)

theorem ServiceFrame.issued {generation : Nat} (frame : ServiceFrame words after)
    (issued : words.Issued generation) : after.Issued generation := by
  obtain ⟨issue, member, same⟩ := issued
  exact ⟨issue, frame.kept issue member, same⟩

/-- An issue of a generation that was issued before is the one from before. -/
theorem ServiceFrame.old {generation : Nat} (frame : ServiceFrame words after)
    (issued : words.Issued generation) {issue : Issue} (member : issue ∈ after.issues)
    (same : issue.generation = generation) : issue ∈ words.issues := by
  rcases frame.added issue member with old | unissued
  · exact old
  · exact absurd (same ▸ issued) unissued

theorem ServiceFrame.dueOrStale {generation : Nat} (frame : ServiceFrame words after)
    (issued : words.Issued generation) (due : words.DueOrStale generation) :
    after.DueOrStale generation := by
  intro issue member same
  rcases due issue (frame.old issued member same) same with early | stale
  · exact .inl (Nat.le_trans early frame.later)
  · exact .inr (Nat.lt_of_lt_of_le stale frame.generation)

theorem ServiceFrame.unclaimed {generation : Nat} (frame : ServiceFrame words after)
    (positive : generation ≠ 0) (issued : words.Issued generation)
    (unclaimed : words.Unclaimed generation) : after.Unclaimed generation :=
  ⟨frame.armed generation positive issued unclaimed.disarmed,
    frame.invocations ▸ unclaimed.fresh⟩

theorem Words.Passed.isIssued {generation : Nat} {fn : Fn} (passed : words.Passed generation fn) :
    words.Issued generation := by
  obtain ⟨issue, member, same, -⟩ := passed.issued
  exact ⟨issue, member, same⟩

theorem ServiceFrame.passed {generation : Nat} {fn : Fn} (frame : ServiceFrame words after)
    (window : words.service.window = true) (passed : words.Passed generation fn) :
    after.Passed generation fn := by
  obtain ⟨timers, freed, alive, place⟩ := frame.window window
  have timer : after.timer = words.timer := congrArg List.length timers
  obtain ⟨issue, member, same, due, ofTimer⟩ := passed.issued
  refine ⟨⟨issue, frame.kept issue member, same, Nat.le_trans due frame.later, ?_⟩, ?_, ?_, ?_,
    alive, frame.running ▸ passed.running⟩
  · rw [timer]
    exact ofTimer
  · rw [Words.functionOf, timers, timer]
    exact passed.function
  · rcases place with kept | none
    · rw [kept]
      exact passed.place
    · exact .inr none
  · rw [timer, freed]
    exact passed.unfreed

theorem WordsInv.issued_ne_zero {generation : Nat} (inv : WordsInv words)
    (issued : words.Issued generation) :
    generation ≠ 0 := by
  obtain ⟨issue, member, rfl⟩ := issued
  exact (inv.issued issue member).1

theorem WordsInv.serviceFits (inv : WordsInv words) (frame : ServiceFrame words after) :
    after.ServiceFits words.service := by
  have fits := inv.service
  have claimed : ∀ {generation}, words.Issued generation ∧ words.DueOrStale generation ∧
      words.Unclaimed generation → after.Issued generation ∧ after.DueOrStale generation ∧
        after.Unclaimed generation := by
    intro generation ⟨issued, due, unclaimed⟩
    exact ⟨frame.issued issued, frame.dueOrStale issued due,
      frame.unclaimed (inv.issued_ne_zero issued) issued unclaimed⟩
  have unclaimed : ∀ {generation fn}, words.Passed generation fn → words.Unclaimed generation →
      after.Unclaimed generation := fun passed unclaimed =>
    frame.unclaimed (inv.issued_ne_zero passed.isIssued) passed.isIssued unclaimed
  cases stands : words.service with
  | loadDeadline generation =>
      rw [stands] at fits
      exact frame.issued fits
  | compare generation deadline =>
      rw [stands] at fits
      refine ⟨frame.issued fits.1, fun issue member same => ?_⟩
      rcases fits.2 issue (frame.old fits.1 member same) same with equal | stale
      · exact .inl equal
      · exact .inr (Nat.lt_of_lt_of_le stale frame.generation)
  | clear generation =>
      rw [stands] at fits
      exact ⟨frame.issued fits.1, frame.dueOrStale fits.1 fits.2⟩
  | bumpEpoch generation =>
      rw [stands] at fits
      exact claimed fits
  | setRunning generation =>
      rw [stands] at fits
      exact claimed fits
  | checkGeneration generation =>
      rw [stands] at fits
      exact ⟨claimed fits.1, frame.running ▸ fits.2⟩
  | checkAllocated generation =>
      rw [stands] at fits
      obtain ⟨⟨fn, passed⟩, free⟩ := fits
      exact ⟨⟨fn, frame.passed (by rw [stands]; rfl) passed⟩, unclaimed passed free⟩
  | loadFn generation =>
      rw [stands] at fits
      obtain ⟨⟨fn, passed⟩, free⟩ := fits
      exact ⟨⟨fn, frame.passed (by rw [stands]; rfl) passed⟩, unclaimed passed free⟩
  | call generation fn =>
      rw [stands] at fits
      exact ⟨frame.passed (by rw [stands]; rfl) fits.1, unclaimed fits.1 fits.2⟩
  | running generation =>
      rw [stands] at fits
      obtain ⟨fn, passed⟩ := fits
      exact ⟨fn, frame.passed (by rw [stands]; rfl) passed⟩
  | _ => trivial

/-- What a thread outside the lock keeps of its facts. -/
theorem callerFits_outside {caller : Caller Fn} (fits : words.CallerFits thread caller)
    (outside : caller.holds = false) (down : words.Down thread → after.Down thread) :
    after.CallerFits thread caller := by
  cases caller with
  | freeCancel => exact down fits
  | freeDrain => exact down fits
  | idle | allocLock _ | setLock _ _ | freeLock _ | setArm _ | setRetract _ | setReturn _ => trivial
  | _ => cases outside

theorem Words.Down.keep (down : words.Down thread) (freer : after.freer = words.freer)
    (allocated : after.allocated = words.allocated) (unissued : words.NoCurrent → after.NoCurrent) :
    after.Down thread :=
  ⟨freer.trans down.freer, allocated.trans down.allocated, unissued down.unissued⟩

theorem Words.Down.not_vacant (down : words.Down thread) : ¬ words.Vacant := by
  intro vacant
  have taken := down.freer
  rw [vacant.freer] at taken
  cases taken

/-- The facts of a thread speak of few of the words. -/
theorem callerFits_frame {caller : Caller Fn} (fits : words.CallerFits thread caller)
    (allocated : after.allocated = words.allocated) (fn : after.fn = words.fn)
    (generation : after.generation = words.generation)
    (deadlineNs : after.deadlineNs = words.deadlineNs) (timers : after.timers = words.timers)
    (freer : after.freer = words.freer) (issues : after.issues = words.issues)
    (freed : after.freed = words.freed)
    (window : words.NoCurrent → words.service.window = false → after.service.window = false) :
    after.CallerFits thread caller := by
  have unissued : words.NoCurrent → after.NoCurrent := by
    intro none
    rw [Words.NoCurrent, issues, generation]
    exact none
  have vacant : words.Vacant → after.Vacant := fun vacant =>
    ⟨allocated.trans vacant.allocated, unissued vacant.unissued, freer.trans vacant.freer,
      window vacant.unissued vacant.window⟩
  have newest : ∀ call, words.Newest call → after.Newest call := fun call newest =>
    ⟨allocated.trans newest.allocated, newest.generation.trans generation.symm,
      generation ▸ newest.positive, unissued newest.unissued⟩
  have down : words.Down thread → after.Down thread := fun down => down.keep freer allocated unissued
  have timer : after.timer = words.timer := congrArg List.length timers
  have bound : words.Bound → after.Bound := by
    rintro ⟨function, place, known⟩
    refine ⟨function, fn.trans place, ?_⟩
    rw [Words.functionOf, timers, timer]
    exact known
  cases caller with
  | allocCheck _ => exact freer.trans fits
  | allocFn _ => exact vacant fits
  | allocBump | allocArmed | allocPublish =>
      exact ⟨vacant fits.1, bound fits.2.1, by rw [timer, freed]; exact fits.2.2⟩
  | allocStart | allocUndo =>
      exact ⟨unissued fits.1, freer.trans fits.2.1, window fits.1 fits.2.2⟩
  | allocUndoFn => exact vacant fits
  | setBump _ | freeAllocated => exact allocated.trans fits
  | setEpoch call | setOldGeneration call | setOldDeadline call | setDeadline call =>
      exact newest call fits
  | setArmed call => exact ⟨newest call fits.1, deadlineNs.trans fits.2⟩
  | freeBump => exact ⟨freer.trans fits.1, allocated.trans fits.2⟩
  | freeArmed | freeFn | freeUnlock | freeCancel | freeDrain => exact down fits
  | _ => trivial

/-- The other threads have nothing to lose when a free returns. -/
theorem callerFits_returned {caller : Caller Fn} {other : Thread} (down : words.Down thread)
    (fits : words.CallerFits other caller) (different : other ≠ thread) :
    after.CallerFits other caller := by
  have taken : words.freer ≠ none := by
    rw [down.freer]
    nofun
  have mine : words.freer ≠ some other := by
    rw [down.freer]
    exact fun same => different (Option.some.inj same).symm
  have gone : words.allocated ≠ true := by
    rw [down.allocated]
    nofun
  cases caller with
  | allocCheck _ => exact absurd fits taken
  | allocFn _ => exact absurd fits.freer taken
  | allocBump | allocArmed | allocPublish => exact absurd fits.1.freer taken
  | allocStart | allocUndo => exact absurd fits.2.1 taken
  | allocUndoFn => exact absurd fits.freer taken
  | setBump _ | freeAllocated => exact absurd fits gone
  | setEpoch _ | setOldGeneration _ | setOldDeadline _ | setDeadline _ =>
      exact absurd fits.allocated gone
  | setArmed _ => exact absurd fits.1.allocated gone
  | freeBump => exact absurd fits.1 mine
  | freeArmed | freeFn | freeUnlock | freeCancel | freeDrain => exact absurd fits.freer mine
  | _ => trivial

/-- Words change, but nothing is armed anew and no callback begins. -/
theorem WordsInv.update (inv : WordsInv words) (later : words.now ≤ after.now)
    (generation : words.generation ≤ after.generation)
    (invocations : after.invocations = words.invocations)
    (running : after.callbackRunning = words.callbackRunning)
    (service : after.service = words.service) (issues : after.issues = words.issues)
    (timers : ∃ more, after.timers = words.timers ++ more)
    (armed : after.armedGeneration = words.armedGeneration ∨ after.armedGeneration = 0)
    (window : words.service.window = true → after.timers = words.timers ∧
      after.freed = words.freed ∧ (after.allocated = true ∨ after.freer ≠ none) ∧
      (after.fn = words.fn ∨ after.fn = none))
    (current : ∀ issue ∈ words.issues, issue.generation = after.generation → after.Current issue)
    (bound : after.allocated = true → after.Bound)
    (freedNow : after.timer ∈ after.freed → after.allocated = false ∧ after.freer = none)
    (freedLe : ∀ timer ∈ after.freed, timer ≤ after.timer) : WordsInv after := by
  obtain ⟨more, timers⟩ := timers
  have frame : ServiceFrame words after := by
    refine ⟨later, fun issue member => issues ▸ member, fun issue member => .inl (issues ▸ member),
      generation, fun other positive _ different => ?_, invocations, running, window⟩
    rcases armed with same | zero
    · rw [same]
      exact different
    · rw [zero]
      exact positive.symm
  have longer : words.timer ≤ after.timer := by
    rw [Words.timer, Words.timer, timers, List.length_append]
    exact Nat.le_add_right _ _
  have called : ∀ invocation ∈ words.invocations, invocation.generation ≠ 0 := by
    intro invocation member
    obtain ⟨issue, issueMember, answers⟩ := inv.answers invocation member
    rw [← answers.generation]
    exact (inv.issued issue issueMember).1
  refine ⟨fun nonzero => ?_, ?_, ?_, issues ▸ inv.issuedOnce, issues ▸ current, bound, freedNow,
    freedLe, frame.invocations ▸ inv.once, ?_, service ▸ inv.serviceFits frame⟩
  · rcases armed with same | zero
    · rw [same] at nonzero ⊢
      exact frame.issued (inv.armedIssued nonzero)
    · exact absurd zero nonzero
  · rw [frame.invocations]
    intro invocation member
    rcases armed with same | zero
    · rw [same]
      exact inv.armedFresh invocation member
    · rw [zero]
      exact called invocation member
  · rw [issues]
    intro issue member
    obtain ⟨nonzero, below, first, last⟩ := inv.issued issue member
    exact ⟨nonzero, Nat.le_trans below frame.generation, first, Nat.le_trans last longer⟩
  · rw [frame.invocations, issues]
    intro invocation member
    obtain ⟨issue, issueMember, answers⟩ := inv.answers invocation member
    obtain ⟨-, -, first, last⟩ := inv.issued issue issueMember
    refine ⟨issue, issueMember, answers.generation, answers.due, ?_, answers.unfreed⟩
    rw [Words.functionOf, timers, List.getElem?_append_left (by
      rw [Words.timer] at last
      omega)]
    exact answers.function

end Frames

/-! ## Stores -/

section Stores

variable {words : Words Thread Fn} {thread : Thread}

/-- Inside the window a callback may run. -/
theorem WordsInv.passes (inv : WordsInv words) (opened : words.service.window = true) :
    ∃ generation fn, words.Passed generation fn := by
  have fits := inv.service
  cases stands : words.service with
  | checkAllocated generation | loadFn generation =>
      rw [stands] at fits
      obtain ⟨⟨fn, passed⟩, -⟩ := fits
      exact ⟨generation, fn, passed⟩
  | call generation fn =>
      rw [stands] at fits
      exact ⟨generation, fn, fits.1⟩
  | running generation =>
      rw [stands] at fits
      obtain ⟨fn, passed⟩ := fits
      exact ⟨generation, fn, passed⟩
  | _ =>
      rw [stands] at opened
      cases opened

theorem WordsInv.alive (inv : WordsInv words) (opened : words.service.window = true) :
    words.allocated = true ∨ words.freer ≠ none := by
  obtain ⟨generation, fn, passed⟩ := inv.passes opened
  exact passed.alive

theorem not_opened {service : Service Fn} (closed : service.window = false) :
    service.window ≠ true := by
  rw [closed]
  nofun

theorem WordsInv.allocFn (inv : WordsInv words) (vacant : words.Vacant) (fn : Fn) :
    WordsInv { words with
      fn := some fn
      timers := words.timers ++ [fn] } := by
  refine inv.update (Nat.le_refl _) (Nat.le_refl _) rfl rfl rfl rfl ⟨[fn], rfl⟩ (.inl rfl)
    (fun opened => absurd opened (not_opened vacant.window))
    (fun issue member same => absurd same (vacant.unissued issue member))
    (fun allocated => ?_) (fun member => ?_) fun timer member => ?_
  · rw [vacant.allocated] at allocated
    cases allocated
  · have bound := inv.freedLe _ member
    simp only [Words.timer, List.length_append, List.length_singleton] at bound
    omega
  · have bound := inv.freedLe timer member
    simp only [Words.timer, List.length_append, List.length_singleton] at bound ⊢
    omega

/-- The next generation is not armed yet. -/
theorem WordsInv.next_unissued (inv : WordsInv words) :
    Words.NoCurrent { words with generation := words.generation + 1 } := by
  intro issue member same
  have bound := (inv.issued issue member).2.1
  rw [same] at bound
  exact Nat.not_succ_le_self _ bound

theorem WordsInv.bump (inv : WordsInv words) :
    WordsInv { words with generation := words.generation + 1 } :=
  inv.update (Nat.le_refl _) (Nat.le_succ _) rfl rfl rfl rfl ⟨[], (List.append_nil _).symm⟩
    (.inl rfl) (fun opened => ⟨rfl, rfl, inv.alive opened, .inl rfl⟩)
    (fun issue member same => absurd same (inv.next_unissued issue member)) inv.bound inv.freedNow
    inv.freedLe

/-- Stores that leave the generation and the timer alone. -/
theorem WordsInv.store {after : Words Thread Fn} (inv : WordsInv words)
    (now : words.now ≤ after.now) (allocated : after.allocated = words.allocated)
    (fn : after.fn = words.fn) (running : after.callbackRunning = words.callbackRunning)
    (generation : after.generation = words.generation)
    (deadlineNs : words.NoCurrent ∨ after.deadlineNs = words.deadlineNs)
    (armed : after.armedGeneration = words.armedGeneration ∨ after.armedGeneration = 0)
    (service : after.service = words.service) (timers : after.timers = words.timers)
    (freer : after.freer = words.freer) (issues : after.issues = words.issues)
    (invocations : after.invocations = words.invocations) (freed : after.freed = words.freed) :
    WordsInv after := by
  have timer : after.timer = words.timer := congrArg List.length timers
  have bound : words.Bound → after.Bound := by
    rintro ⟨function, place, known⟩
    refine ⟨function, fn.trans place, ?_⟩
    rw [Words.functionOf, timers, timer]
    exact known
  refine inv.update now (Nat.le_of_eq generation.symm) invocations running service issues
    ⟨[], by rw [timers, List.append_nil]⟩ armed (fun opened => ⟨timers, freed, ?_, .inl fn⟩) ?_ ?_ ?_ ?_
  · rw [allocated, freer]
    exact inv.alive opened
  · intro issue member same
    rw [generation] at same
    have current := inv.current issue member same
    refine ⟨?_, ?_, bound current.bound, ?_⟩
    · rcases deadlineNs with none | kept
      · exact absurd same (none issue member)
      · exact kept.trans current.deadline
    · rw [timer]
      exact current.timer
    · rw [allocated, freer]
      exact current.alive
  · rw [allocated]
    exact fun allocated => bound (inv.bound allocated)
  · rw [timer, freed, allocated, freer]
    exact inv.freedNow
  · rw [timer, freed]
    exact inv.freedLe

theorem WordsInv.disarm (inv : WordsInv words) : WordsInv { words with armedGeneration := 0 } :=
  inv.store (Nat.le_refl _) rfl rfl rfl rfl (.inr rfl) (.inr rfl) rfl rfl rfl rfl rfl rfl

theorem WordsInv.retract (inv : WordsInv words) (generation : Nat) :
    WordsInv { words with
      armedGeneration := if words.armedGeneration = generation then 0
        else words.armedGeneration } := by
  refine inv.store (Nat.le_refl _) rfl rfl rfl rfl (.inr rfl) ?_ rfl rfl rfl rfl rfl rfl
  by_cases same : words.armedGeneration = generation
  · exact .inr (if_pos same)
  · exact .inl (if_neg same)

theorem WordsInv.publish (inv : WordsInv words) (vacant : words.Vacant) (bound : words.Bound)
    (unfreed : words.timer ∉ words.freed) : WordsInv { words with allocated := true } :=
  inv.update (Nat.le_refl _) (Nat.le_refl _) rfl rfl rfl rfl ⟨[], (List.append_nil _).symm⟩
    (.inl rfl) (fun opened => absurd opened (not_opened vacant.window))
    (fun issue member same => absurd same (vacant.unissued issue member)) (fun _ => bound)
    (fun member => absurd member unfreed) inv.freedLe

theorem WordsInv.undo (inv : WordsInv words) (unissued : words.NoCurrent)
    (freer : words.freer = none) (closed : words.service.window = false) :
    WordsInv { words with allocated := false } :=
  inv.update (Nat.le_refl _) (Nat.le_refl _) rfl rfl rfl rfl ⟨[], (List.append_nil _).symm⟩
    (.inl rfl) (fun opened => absurd opened (not_opened closed))
    (fun issue member same => absurd same (unissued issue member)) nofun (fun _ => ⟨rfl, freer⟩)
    inv.freedLe

theorem WordsInv.unbind (inv : WordsInv words) (allocated : words.allocated = false)
    (unissued : words.NoCurrent) : WordsInv { words with fn := none } := by
  refine inv.update (Nat.le_refl _) (Nat.le_refl _) rfl rfl rfl rfl ⟨[], (List.append_nil _).symm⟩
    (.inl rfl) (fun opened => ⟨rfl, rfl, inv.alive opened, .inr rfl⟩)
    (fun issue member same => absurd same (unissued issue member)) (fun taken => ?_) inv.freedNow
    inv.freedLe
  rw [allocated] at taken
  cases taken

theorem WordsInv.takeDown (inv : WordsInv words) (allocated : words.allocated = true) :
    WordsInv { words with
      allocated := false
      freer := some thread } := by
  refine inv.update (Nat.le_refl _) (Nat.le_refl _) rfl rfl rfl rfl ⟨[], (List.append_nil _).symm⟩
    (.inl rfl) (fun _ => ⟨rfl, rfl, .inr nofun, .inl rfl⟩) (fun issue member same => ?_) nofun
    (fun member => ?_) inv.freedLe
  · have current := inv.current issue member same
    exact ⟨current.deadline, current.timer, current.bound, .inr nofun⟩
  · have gone := (inv.freedNow member).1
    rw [allocated] at gone
    cases gone

theorem WordsInv.freeReturns (inv : WordsInv words) (down : words.Down thread)
    (quiet : words.callbackRunning = false) : WordsInv ({ words with
      freer := none
      freed := words.freed ++ [words.timer] } : Words Thread Fn) := by
  refine inv.update (Nat.le_refl _) (Nat.le_refl _) rfl rfl rfl rfl ⟨[], (List.append_nil _).symm⟩
    (.inl rfl) (fun opened => ?_)
    (fun issue member same => absurd same (down.unissued issue member)) (fun taken => ?_)
    (fun _ => ⟨down.allocated, rfl⟩) fun timer member => ?_
  · obtain ⟨generation, fn, passed⟩ := inv.passes opened
    have running := passed.running
    rw [quiet] at running
    cases running
  · rw [down.allocated] at taken
    cases taken
  · rcases List.mem_append.mp member with earlier | now
    · exact inv.freedLe timer earlier
    · rw [List.mem_singleton.mp now]
      exact Nat.le_refl _

/-- A generation is armed: it has not been before. -/
theorem WordsInv.arm (inv : WordsInv words) {call : SetCall} (newest : words.Newest call)
    (deadline : words.deadlineNs = call.deadline) :
    WordsInv { words with
      armedGeneration := call.generation
      issues := words.issues ++ [⟨call.generation, call.deadline, words.timer⟩] } := by
  have first : 1 ≤ words.timer := by
    obtain ⟨fn, -, known⟩ := inv.bound newest.allocated
    obtain ⟨inside, -⟩ := List.getElem?_eq_some_iff.mp known
    exact Nat.lt_of_le_of_lt (Nat.zero_le _) inside
  have unissued : ¬ words.Issued call.generation := by
    rintro ⟨issue, member, same⟩
    exact newest.unissued issue member (same.trans newest.generation)
  have frame : ServiceFrame words { words with
      armedGeneration := call.generation
      issues := words.issues ++ [⟨call.generation, call.deadline, words.timer⟩] } := by
    refine ⟨Nat.le_refl _, fun issue member => List.mem_append_left _ member, fun issue member => ?_,
      Nat.le_refl _, fun generation _ issued _ same => ?_, rfl, rfl,
      fun opened => ⟨rfl, rfl, inv.alive opened, .inl rfl⟩⟩
    · rcases List.mem_append.mp member with old | new
      · exact .inl old
      · right
        rw [List.mem_singleton.mp new]
        exact unissued
    · have equal : call.generation = generation := same
      exact unissued (equal ▸ issued)
  refine ⟨fun _ => ⟨_, List.mem_append_right _ (List.mem_singleton.mpr rfl), rfl⟩, ?_, ?_, ?_, ?_,
    fun allocated => inv.bound allocated, inv.freedNow, inv.freedLe, inv.once, ?_,
    inv.serviceFits frame⟩
  · intro invocation member same
    obtain ⟨issue, issueMember, answers⟩ := inv.answers invocation member
    exact unissued ⟨issue, issueMember, answers.generation.trans same⟩
  · intro issue member
    rcases List.mem_append.mp member with old | new
    · exact inv.issued issue old
    · rw [List.mem_singleton.mp new]
      exact ⟨newest.generation ▸ newest.positive, Nat.le_of_eq newest.generation, first,
        Nat.le_refl _⟩
  · rw [List.map_append]
    refine List.nodup_append.mpr ⟨inv.issuedOnce, List.nodup_singleton _, ?_⟩
    intro generation earlier other new same
    obtain ⟨issue, member, rfl⟩ := List.mem_map.mp earlier
    refine unissued ⟨issue, member, same.trans ?_⟩
    simpa using new
  · intro issue member same
    have bound := inv.bound newest.allocated
    rcases List.mem_append.mp member with old | new
    · exact absurd same (newest.unissued issue old)
    · rw [List.mem_singleton.mp new]
      exact ⟨deadline, rfl, bound, .inl newest.allocated⟩
  · intro invocation member
    obtain ⟨issue, issueMember, answers⟩ := inv.answers invocation member
    exact ⟨issue, List.mem_append_left _ issueMember, answers.generation, answers.due,
      answers.function, answers.unfreed⟩

end Stores

/-! ## Steps of the callers -/

section Callers

variable {state : State Thread Fn} {thread : Thread} {after : Words Thread Fn}
  {caller : Caller Fn}

/-- Two threads are not both inside the lock. -/
theorem Inv.outside (inv : Inv state) (holds : (state.callers thread).holds = true) {other : Thread}
    (different : other ≠ thread) : (state.callers other).holds = false := by
  by_contra inside
  have first := inv.locked thread holds
  have second := inv.locked other (Bool.not_eq_false _ |>.mp inside)
  rw [first] at second
  exact different (Option.some.inj second).symm

variable [DecidableEq Thread]

/-- The holder of the lock stores words and goes on inside. -/
theorem Inv.put (inv : Inv state) (holds : (state.callers thread).holds = true)
    (words : WordsInv after) (fits : after.CallerFits thread caller)
    (down : ∀ other, other ≠ thread → state.words.Down other → after.Down other) :
    Inv (state.put thread caller after) := by
  refine ⟨fun other inside => ?_, words, fun other => ?_⟩
  · by_cases same : other = thread
    · subst same
      exact inv.locked other holds
    · simp only [State.put, State.enter, Function.update_of_ne same] at inside
      exact inv.locked other inside
  · by_cases same : other = thread
    · subst same
      simpa [State.put, State.enter] using fits
    · simp only [State.put, State.enter, Function.update_of_ne same]
      exact callerFits_outside (inv.callers other) (inv.outside holds same) (down other same)

/-- The holder moves on and changes nothing else. -/
theorem Inv.enter (inv : Inv state) (holds : (state.callers thread).holds = true)
    (fits : state.words.CallerFits thread caller) : Inv (state.enter thread caller) :=
  inv.put holds inv.words fits fun _ _ down => down

/-- A thread outside the lock moves on outside it. -/
theorem Inv.aside (inv : Inv state) (outside : caller.holds = false) (words : WordsInv after)
    (fits : after.CallerFits thread caller)
    (others : ∀ other, other ≠ thread → state.words.CallerFits other (state.callers other) →
      after.CallerFits other (state.callers other)) :
    Inv (state.put thread caller after) := by
  refine ⟨fun other inside => ?_, words, fun other => ?_⟩
  · by_cases same : other = thread
    · subst same
      simp [State.put, State.enter, outside] at inside
    · simp only [State.put, State.enter, Function.update_of_ne same] at inside
      exact inv.locked other inside
  · by_cases same : other = thread
    · subst same
      simpa [State.put, State.enter] using fits
    · simp only [State.put, State.enter, Function.update_of_ne same]
      exact others other same (inv.callers other)

theorem Inv.enterAside (inv : Inv state) (outside : caller.holds = false)
    (fits : state.words.CallerFits thread caller) : Inv (state.enter thread caller) :=
  inv.aside outside inv.words fits fun _ _ fits => fits

theorem Inv.acquire {target : State Thread Fn} (inv : Inv state)
    (fits : state.words.CallerFits thread caller)
    (acquired : state.acquire thread caller = some target) : Inv target := by
  unfold State.acquire at acquired
  split at acquired
  next free =>
    cases acquired
    refine ⟨fun other inside => ?_, inv.words, fun other => ?_⟩
    · by_cases same : other = thread
      · rw [same]
      · simp only [State.enter, Function.update_of_ne same] at inside
        have held := inv.locked other inside
        rw [free] at held
        cases held
    · by_cases same : other = thread
      · subst same
        simpa [State.enter] using fits
      · simp only [State.enter, Function.update_of_ne same]
        exact inv.callers other
  next taken => cases acquired

theorem Inv.release (inv : Inv state) (holds : (state.callers thread).holds = true)
    (outside : caller.holds = false) (fits : state.words.CallerFits thread caller) :
    Inv (state.release thread caller) := by
  refine ⟨fun other inside => ?_, inv.words, fun other => ?_⟩
  · by_cases same : other = thread
    · subst same
      simp [State.release, State.enter, outside] at inside
    · simp only [State.release, State.enter, Function.update_of_ne same] at inside
      rw [inv.outside holds same] at inside
      cases inside
  · by_cases same : other = thread
    · subst same
      simpa [State.release, State.enter] using fits
    · simp only [State.release, State.enter, Function.update_of_ne same]
      exact inv.callers other

theorem Inv.allocCheck {fn : Fn} (inv : Inv state) (stands : state.callers thread = .allocCheck fn) :
    Inv (state.enter thread (if state.words.allocated then .unlock else .allocFn fn)) := by
  have fits := inv.callers thread
  rw [stands] at fits
  refine inv.enter (by rw [stands]; rfl) ?_
  split
  next taken => trivial
  next vacant =>
    have dead : ¬ (state.words.allocated = true ∨ state.words.freer ≠ none) := by
      rintro (taken | freeing)
      · exact vacant taken
      · exact freeing fits
    refine ⟨Bool.not_eq_true _ |>.mp vacant, fun issue member same => ?_, fits,
      Bool.not_eq_true _ |>.mp fun opened => ?_⟩
    · exact dead (inv.words.current issue member same).alive
    · exact dead (inv.words.alive opened)

theorem Inv.allocFn {fn : Fn} (inv : Inv state) (stands : state.callers thread = .allocFn fn) :
    Inv (state.put thread .allocBump { state.words with
      fn := some fn
      timers := state.words.timers ++ [fn] }) := by
  have fits := inv.callers thread
  rw [stands] at fits
  refine inv.put (by rw [stands]; rfl) (inv.words.allocFn fits fn) ?_
    fun other _ down => (down.not_vacant fits).elim
  refine ⟨⟨fits.allocated, fits.unissued, fits.freer, fits.window⟩, ⟨fn, rfl, ?_⟩, fun member => ?_⟩
  · simp [Words.functionOf, Words.timer]
  · have bound := inv.words.freedLe _ member
    simp only [Words.timer, List.length_append, List.length_singleton] at bound
    omega

/-- The generation is bumped by the holder of the lock, who then owns it. -/
theorem Inv.bump (inv : Inv state) (holds : (state.callers thread).holds = true)
    (wraps : state.words.generation + 1 < 2 ^ 64)
    (fits : Words.CallerFits { state.words with generation := state.words.generation + 1 } thread
      caller) :
    Inv (state.put thread caller { state.words with
      generation := word (state.words.generation + 1) }) := by
  rw [word_succ wraps]
  exact inv.put holds inv.words.bump fits fun other _ down =>
    ⟨down.freer, down.allocated, inv.words.next_unissued⟩

theorem Inv.allocBump (inv : Inv state) (stands : state.callers thread = .allocBump)
    (wraps : state.words.generation + 1 < 2 ^ 64) :
    Inv (state.put thread .allocArmed { state.words with
      generation := word (state.words.generation + 1) }) := by
  have fits := inv.callers thread
  rw [stands] at fits
  obtain ⟨vacant, bound, unfreed⟩ := fits
  exact inv.bump (by rw [stands]; rfl) wraps ⟨⟨vacant.allocated, inv.words.next_unissued,
    vacant.freer, vacant.window⟩, bound, unfreed⟩

/-- The armed word is cleared by the holder of the lock. -/
theorem Inv.disarm (inv : Inv state) (holds : (state.callers thread).holds = true)
    (fits : state.words.CallerFits thread caller) :
    Inv (state.put thread caller { state.words with armedGeneration := 0 }) :=
  inv.put holds inv.words.disarm
    (callerFits_frame fits rfl rfl rfl rfl rfl rfl rfl rfl fun _ closed => closed)
    fun _ _ down => ⟨down.freer, down.allocated, down.unissued⟩

theorem Inv.allocPublish (inv : Inv state) (stands : state.callers thread = .allocPublish) :
    Inv (state.put thread .allocStart { state.words with allocated := true }) := by
  have fits := inv.callers thread
  rw [stands] at fits
  obtain ⟨vacant, bound, unfreed⟩ := fits
  exact inv.put (by rw [stands]; rfl) (inv.words.publish vacant bound unfreed)
    ⟨vacant.unissued, vacant.freer, vacant.window⟩ fun other _ down => (down.not_vacant vacant).elim

theorem Inv.started (inv : Inv state) (stands : state.callers thread = .allocStart) :
    Inv (state.put thread .unlock { state.words with service := .wait }) := by
  have fresh : WordsInv { state.words with service := .wait } := by
    refine ⟨inv.words.armedIssued, inv.words.armedFresh, inv.words.issued, inv.words.issuedOnce,
      fun issue member same => ?_, inv.words.bound, inv.words.freedNow, inv.words.freedLe,
      inv.words.once, fun invocation member => ?_, trivial⟩
    · have current := inv.words.current issue member same
      exact ⟨current.deadline, current.timer, current.bound, current.alive⟩
    · obtain ⟨issue, issueMember, answers⟩ := inv.words.answers invocation member
      exact ⟨issue, issueMember, answers.generation, answers.due, answers.function, answers.unfreed⟩
  exact inv.put (by rw [stands]; rfl) fresh trivial fun other _ down =>
    ⟨down.freer, down.allocated, down.unissued⟩

theorem Inv.allocUndo (inv : Inv state) (stands : state.callers thread = .allocUndo) :
    Inv (state.put thread .allocUndoFn { state.words with allocated := false }) := by
  have fits := inv.callers thread
  rw [stands] at fits
  obtain ⟨unissued, freer, closed⟩ := fits
  refine inv.put (by rw [stands]; rfl) (inv.words.undo unissued freer closed)
    ⟨rfl, unissued, freer, closed⟩ fun other _ down => ⟨down.freer, rfl, down.unissued⟩

theorem Inv.allocUndoFn (inv : Inv state) (stands : state.callers thread = .allocUndoFn) :
    Inv (state.put thread .unlock { state.words with fn := none }) := by
  have fits := inv.callers thread
  rw [stands] at fits
  exact inv.put (by rw [stands]; rfl) (inv.words.unbind fits.allocated fits.unissued) trivial
    fun other _ down => ⟨down.freer, down.allocated, down.unissued⟩

theorem Inv.setBump {ns : Nat} (inv : Inv state) (stands : state.callers thread = .setBump ns)
    (wraps : state.words.generation + 1 < 2 ^ 64) :
    Inv (state.put thread (.setEpoch ⟨ns, word (state.words.generation + 1), 0, 0, 0, 0⟩)
      { state.words with generation := word (state.words.generation + 1) }) := by
  have fits := inv.callers thread
  rw [stands] at fits
  refine inv.bump (by rw [stands]; rfl) wraps ⟨fits, ?_, Nat.succ_ne_zero _,
    inv.words.next_unissued⟩
  exact word_succ wraps

theorem Inv.setDeadline {call : SetCall} (inv : Inv state)
    (stands : state.callers thread = .setDeadline call) (deadline : Nat) :
    Inv (state.put thread (.setArmed { call with deadline }) { state.words with
      deadlineNs := deadline }) := by
  have fits := inv.callers thread
  rw [stands] at fits
  exact inv.put (by rw [stands]; rfl)
    (inv.words.store (Nat.le_refl _) rfl rfl rfl rfl (.inl fits.unissued) (.inl rfl) rfl rfl rfl rfl
      rfl rfl)
    ⟨⟨fits.allocated, fits.generation, fits.positive, fits.unissued⟩, rfl⟩
    fun other _ down => ⟨down.freer, down.allocated, down.unissued⟩

theorem Inv.setArmed {call : SetCall} (inv : Inv state)
    (stands : state.callers thread = .setArmed call) :
    Inv (state.put thread (.setDecide call) { state.words with
      armedGeneration := call.generation
      issues := state.words.issues ++
        [⟨call.generation, call.deadline, state.words.timer⟩] }) := by
  have fits := inv.callers thread
  rw [stands] at fits
  refine inv.put (by rw [stands]; rfl) (inv.words.arm fits.1 fits.2) trivial fun other _ down => ?_
  have gone := down.allocated
  rw [fits.1.allocated] at gone
  cases gone

/-- A failed request takes the arm back, if it is still there. -/
theorem Inv.setRetract {generation : Nat} (inv : Inv state) :
    Inv (state.put thread .idle { state.words with
      armedGeneration := if state.words.armedGeneration = generation then 0
        else state.words.armedGeneration }) :=
  inv.aside rfl (inv.words.retract generation) trivial fun _ _ fits =>
    callerFits_frame fits rfl rfl rfl rfl rfl rfl rfl rfl fun _ closed => closed

theorem Inv.setReturn {generation : Nat} (inv : Inv state) :
    Inv (state.put thread .idle { state.words with
      returned := state.words.returned ++ [generation] }) :=
  inv.aside rfl (inv.words.store (Nat.le_refl _) rfl rfl rfl rfl (.inr rfl) (.inl rfl) rfl rfl rfl
    rfl rfl rfl) trivial fun _ _ fits =>
      callerFits_frame fits rfl rfl rfl rfl rfl rfl rfl rfl fun _ closed => closed

theorem Inv.freeAllocated (inv : Inv state) (stands : state.callers thread = .freeAllocated) :
    Inv (state.put thread .freeBump { state.words with
      allocated := false
      freer := some thread }) := by
  have fits := inv.callers thread
  rw [stands] at fits
  refine inv.put (by rw [stands]; rfl) (inv.words.takeDown fits) ⟨rfl, rfl⟩ fun other _ down => ?_
  have gone := down.allocated
  rw [fits] at gone
  cases gone

theorem Inv.freeBump (inv : Inv state) (stands : state.callers thread = .freeBump)
    (wraps : state.words.generation + 1 < 2 ^ 64) :
    Inv (state.put thread .freeArmed { state.words with
      generation := word (state.words.generation + 1) }) := by
  have fits := inv.callers thread
  rw [stands] at fits
  exact inv.bump (by rw [stands]; rfl) wraps ⟨fits.1, fits.2, inv.words.next_unissued⟩

theorem Inv.freeFn (inv : Inv state) (stands : state.callers thread = .freeFn) :
    Inv (state.put thread .freeUnlock { state.words with fn := none }) := by
  have fits := inv.callers thread
  rw [stands] at fits
  exact inv.put (by rw [stands]; rfl) (inv.words.unbind fits.allocated fits.unissued)
    ⟨fits.freer, fits.allocated, fits.unissued⟩
    fun other _ down => ⟨down.freer, down.allocated, down.unissued⟩

theorem Inv.freeDrain (inv : Inv state) (stands : state.callers thread = .freeDrain)
    (quiet : state.words.callbackRunning = false) :
    Inv (state.put thread .idle { state.words with
      freer := none
      freed := state.words.freed ++ [state.words.timer] }) := by
  have fits := inv.callers thread
  rw [stands] at fits
  exact inv.aside rfl (inv.words.freeReturns fits quiet) trivial fun other different otherFits =>
    callerFits_returned fits otherFits different

theorem stepCaller_inv {target : State Thread Fn} {granted : Bool} (inv : Inv state)
    (alone : AllocAfterFree state (.caller thread granted))
    (wraps : GenerationFits state (.caller thread granted))
    (moved : stepCaller state thread granted = some target) : Inv target := by
  have fits := inv.callers thread
  have holds : ∀ {caller}, state.callers thread = caller → caller.holds = true →
      (state.callers thread).holds = true := fun stands inside => stands ▸ inside
  unfold stepCaller at moved
  simp only [AllocAfterFree] at alone
  simp only [GenerationFits] at wraps
  cases stands : state.callers thread with
  | idle =>
      rw [stands] at moved
      cases moved
  | allocLock fn =>
      rw [stands] at moved alone
      exact inv.acquire (show state.words.CallerFits thread (.allocCheck fn) from alone) moved
  | allocCheck fn =>
      rw [stands] at moved
      cases moved
      exact inv.allocCheck stands
  | allocFn fn =>
      rw [stands] at moved
      cases moved
      exact inv.allocFn stands
  | allocBump =>
      rw [stands] at moved wraps
      cases moved
      exact inv.allocBump stands wraps
  | allocArmed =>
      rw [stands] at moved fits
      cases moved
      exact inv.disarm (holds stands rfl) fits
  | allocPublish =>
      rw [stands] at moved
      cases moved
      exact inv.allocPublish stands
  | allocStart =>
      rw [stands] at moved fits
      dsimp only at moved
      split at moved
      next started =>
        cases moved
        exact inv.enter (holds stands rfl) trivial
      next unstarted =>
        split at moved
        next starts =>
          cases moved
          exact inv.started stands
        next fails =>
          cases moved
          exact inv.enter (holds stands rfl) fits
  | allocUndo =>
      rw [stands] at moved
      cases moved
      exact inv.allocUndo stands
  | allocUndoFn =>
      rw [stands] at moved
      cases moved
      exact inv.allocUndoFn stands
  | setLock handle ns =>
      rw [stands] at moved
      exact inv.acquire (show state.words.CallerFits thread (.setCheck handle ns) from trivial) moved
  | setCheck handle ns =>
      rw [stands] at moved
      cases moved
      refine inv.enter (holds stands rfl) ?_
      split
      next ready =>
        rw [Bool.and_eq_true] at ready
        exact ready.2
      next refused => trivial
  | setBump ns =>
      rw [stands] at moved wraps
      cases moved
      exact inv.setBump stands wraps
  | setEpoch call | setOldGeneration call | setOldDeadline call =>
      rw [stands] at moved fits
      cases moved
      exact inv.enter (holds stands rfl) ⟨fits.allocated, fits.generation, fits.positive,
        fits.unissued⟩
  | setDeadline call =>
      rw [stands] at moved
      cases moved
      exact inv.setDeadline stands _
  | setArmed call =>
      rw [stands] at moved
      cases moved
      exact inv.setArmed stands
  | setDecide call =>
      rw [stands] at moved
      cases moved
      exact inv.enter (holds stands rfl) trivial
  | setUnlock call defer =>
      rw [stands] at moved
      cases moved
      cases defer with
      | true => exact inv.release (holds stands rfl) rfl trivial
      | false => exact inv.release (holds stands rfl) rfl trivial
  | setArm call =>
      rw [stands] at moved
      cases moved
      cases granted with
      | true => exact inv.enterAside rfl trivial
      | false => exact inv.enterAside rfl trivial
  | setRetract generation =>
      rw [stands] at moved
      cases moved
      exact inv.setRetract
  | setReturn generation =>
      rw [stands] at moved
      cases moved
      exact inv.setReturn
  | freeLock handle =>
      rw [stands] at moved
      exact inv.acquire (show state.words.CallerFits thread (.freeCheck handle) from trivial) moved
  | freeCheck handle =>
      rw [stands] at moved
      cases moved
      refine inv.enter (holds stands rfl) ?_
      split
      next ready =>
        rw [Bool.and_eq_true] at ready
        exact ready.2
      next refused => trivial
  | freeAllocated =>
      rw [stands] at moved
      cases moved
      exact inv.freeAllocated stands
  | freeBump =>
      rw [stands] at moved wraps
      cases moved
      exact inv.freeBump stands wraps
  | freeArmed =>
      rw [stands] at moved fits
      cases moved
      exact inv.disarm (holds stands rfl) fits
  | freeFn =>
      rw [stands] at moved
      cases moved
      exact inv.freeFn stands
  | freeUnlock =>
      rw [stands] at moved fits
      cases moved
      exact inv.release (holds stands rfl) rfl fits
  | freeCancel =>
      rw [stands] at moved fits
      cases moved
      exact inv.enterAside rfl fits
  | freeDrain =>
      rw [stands] at moved
      dsimp only at moved
      split at moved
      next running => cases moved
      next quiet =>
        cases moved
        exact inv.freeDrain stands (Bool.not_eq_true _ |>.mp quiet)
  | unlock =>
      rw [stands] at moved
      cases moved
      exact inv.release (holds stands rfl) rfl trivial

end Callers

/-! ## Steps of the service thread -/

section Serving

variable {words after : Words Thread Fn}

/-- The service thread moves without beginning a callback. -/
theorem WordsInv.goes (inv : WordsInv words) (armed epoch : Nat) (running : Bool)
    (service : Service Fn) (disarms : armed = words.armedGeneration ∨ armed = 0)
    (fits : Words.ServiceFits { words with
      armedGeneration := armed
      clearEpoch := epoch
      callbackRunning := running
      service := service } service) :
    WordsInv { words with
      armedGeneration := armed
      clearEpoch := epoch
      callbackRunning := running
      service := service } := by
  have answered : ∀ invocation ∈ words.invocations, invocation.generation ≠ 0 := by
    intro invocation member
    obtain ⟨issue, issueMember, answers⟩ := inv.answers invocation member
    rw [← answers.generation]
    exact (inv.issued issue issueMember).1
  refine ⟨fun nonzero => ?_, fun invocation member => ?_, inv.issued, inv.issuedOnce,
    fun issue member same => ?_, inv.bound, inv.freedNow, inv.freedLe, inv.once,
    fun invocation member => ?_, fits⟩
  · rcases disarms with rfl | rfl
    · exact inv.armedIssued nonzero
    · exact absurd rfl nonzero
  · rcases disarms with rfl | rfl
    · exact inv.armedFresh invocation member
    · exact answered invocation member
  · have current := inv.current issue member same
    exact ⟨current.deadline, current.timer, current.bound, current.alive⟩
  · obtain ⟨issue, issueMember, answers⟩ := inv.answers invocation member
    exact ⟨issue, issueMember, answers.generation, answers.due, answers.function, answers.unfreed⟩

/-- The check succeeds: the generation is the current one, so it is due. -/
theorem WordsInv.passCheck (inv : WordsInv words)
    (stands : words.service = .checkGeneration words.generation) :
    ∃ fn, words.Passed words.generation fn := by
  have fits := inv.service
  rw [stands] at fits
  obtain ⟨⟨⟨issue, member, same⟩, due, -⟩, running⟩ := fits
  have current := inv.current issue member same
  obtain ⟨fn, place, function⟩ := current.bound
  refine ⟨fn, ⟨issue, member, same, ?_, current.timer⟩, function, .inl place, fun freed => ?_,
    current.alive, running⟩
  · rcases due issue member same with due | stale
    · exact due
    · exact absurd stale (Nat.lt_irrefl _)
  · obtain ⟨gone, returned⟩ := inv.freedNow freed
    rcases current.alive with taken | freeing
    · rw [gone] at taken
      cases taken
    · exact freeing returned

theorem WordsInv.callback {generation : Nat} {fn : Fn} (inv : WordsInv words)
    (stands : words.service = .call generation fn) : WordsInv { words with
      invocations := words.invocations ++
        [⟨generation, words.now, fn, words.freed, words.returned⟩]
      service := .running generation } := by
  have fits := inv.service
  rw [stands] at fits
  obtain ⟨passed, unclaimed⟩ := fits
  obtain ⟨issue, issueMember, same, due, ofTimer⟩ := passed.issued
  refine ⟨inv.armedIssued, fun invocation member => ?_, inv.issued, inv.issuedOnce,
    fun issue member same => ?_, inv.bound, inv.freedNow, inv.freedLe, ?_,
    fun invocation member => ?_, fn, ?_⟩
  · rcases List.mem_append.mp member with old | new
    · exact inv.armedFresh invocation old
    · rw [List.mem_singleton.mp new]
      exact unclaimed.disarmed.symm
  · have current := inv.current issue member same
    exact ⟨current.deadline, current.timer, current.bound, current.alive⟩
  · rw [List.map_append]
    refine List.nodup_append.mpr ⟨inv.once, List.nodup_singleton _, ?_⟩
    intro other earlier new isNew equal
    obtain ⟨invocation, member, rfl⟩ := List.mem_map.mp earlier
    refine unclaimed.fresh invocation member (equal.trans ?_)
    simpa using isNew
  · rcases List.mem_append.mp member with old | new
    · obtain ⟨issue, issueMember, answers⟩ := inv.answers invocation old
      exact ⟨issue, issueMember, answers.generation, answers.due, answers.function,
        answers.unfreed⟩
    · rw [List.mem_singleton.mp new]
      refine ⟨issue, issueMember, same, due, ?_, ?_⟩
      · rw [ofTimer]
        exact passed.function
      · rw [ofTimer]
        exact passed.unfreed
  · exact ⟨⟨issue, issueMember, same, due, ofTimer⟩, passed.function, passed.place, passed.unfreed,
      passed.alive, passed.running⟩

theorem word_le (value : Nat) : word value ≤ value := Nat.mod_le _ _

/-- The service thread keeps the invariant of the words. -/
theorem stepService_words {granted : Bool} (inv : WordsInv words)
    (moved : stepService words granted = some after) : WordsInv after := by
  have fits := inv.service
  unfold stepService at moved
  cases stands : words.service with
  | unstarted =>
      rw [stands] at moved
      cases moved
  | wait =>
      rw [stands] at moved
      cases moved
      exact inv.goes _ _ _ _ (.inl rfl) trivial
  | loadArmed =>
      rw [stands] at moved
      cases moved
      refine inv.goes _ _ _ _ (.inl rfl) ?_
      split
      next none => trivial
      next armed => exact inv.armedIssued armed
  | loadDeadline generation =>
      rw [stands] at moved fits
      cases moved
      refine inv.goes _ _ _ _ (.inl rfl) ⟨fits, fun issue member same => ?_⟩
      rcases Nat.eq_or_lt_of_le (inv.issued issue member).2.1 with current | stale
      · exact .inl (inv.current issue member current).deadline.symm
      · exact .inr (same ▸ stale)
  | compare generation deadline =>
      rw [stands] at moved fits
      cases moved
      refine inv.goes _ _ _ _ (.inl rfl) ?_
      split
      next early => trivial
      next due =>
        refine ⟨fits.1, fun issue member same => ?_⟩
        rcases fits.2 issue member same with isDeadline | stale
        · refine .inl (Nat.le_trans ?_ (word_le words.now))
          rw [isDeadline]
          exact Nat.le_of_not_lt due
        · exact .inr stale
  | rearm generation =>
      rw [stands] at moved
      cases moved
      refine inv.goes _ _ _ _ (.inl rfl) ?_
      split <;> trivial
  | retract generation =>
      rw [stands] at moved
      cases moved
      refine inv.goes _ _ _ _ ?_ trivial
      by_cases same : words.armedGeneration = generation
      · exact .inr (if_pos same)
      · exact .inl (if_neg same)
  | clear generation =>
      rw [stands] at moved fits
      dsimp only at moved
      split at moved
      next claims =>
        cases moved
        refine inv.goes _ _ _ _ (.inr rfl) ⟨fits.1, fits.2, ?_, fun invocation member => ?_⟩
        · exact (inv.issued_ne_zero fits.1).symm
        · rw [← claims]
          exact inv.armedFresh invocation member
      next lost =>
        cases moved
        exact inv.goes _ _ _ _ (.inl rfl) trivial
  | bumpEpoch generation =>
      rw [stands] at moved fits
      cases moved
      exact inv.goes _ _ _ _ (.inl rfl) ⟨fits.1, fits.2.1, fits.2.2.disarmed, fits.2.2.fresh⟩
  | setRunning generation =>
      rw [stands] at moved fits
      cases moved
      exact inv.goes _ _ _ _ (.inl rfl)
        ⟨⟨fits.1, fits.2.1, fits.2.2.disarmed, fits.2.2.fresh⟩, rfl⟩
  | checkGeneration generation =>
      rw [stands] at moved fits
      cases moved
      refine inv.goes _ _ _ _ (.inl rfl) ?_
      split
      next current =>
        obtain ⟨fn, passed⟩ := inv.passCheck (current ▸ stands)
        rw [current] at passed
        refine ⟨⟨fn, passed.issued, passed.function, passed.place, passed.unfreed, passed.alive,
          passed.running⟩, fits.1.2.2.disarmed, fits.1.2.2.fresh⟩
      next stale => trivial
  | checkAllocated generation =>
      rw [stands] at moved fits
      cases moved
      obtain ⟨⟨fn, passed⟩, unclaimed⟩ := fits
      refine inv.goes _ _ _ _ (.inl rfl) ?_
      split
      next taken =>
        exact ⟨⟨fn, passed.issued, passed.function, passed.place, passed.unfreed, passed.alive,
          passed.running⟩, unclaimed.disarmed, unclaimed.fresh⟩
      next gone => trivial
  | loadFn generation =>
      rw [stands] at moved fits
      cases moved
      obtain ⟨⟨fn, passed⟩, unclaimed⟩ := fits
      refine inv.goes _ _ _ _ (.inl rfl) ?_
      cases place : words.fn with
      | none => trivial
      | some loaded =>
          have same : loaded = fn := by
            rcases passed.place with kept | none
            · rw [place] at kept
              exact Option.some.inj kept
            · rw [place] at none
              cases none
          subst same
          exact ⟨⟨passed.issued, passed.function, .inl rfl, passed.unfreed, passed.alive,
            passed.running⟩, unclaimed.disarmed, unclaimed.fresh⟩
  | call generation fn =>
      rw [stands] at moved
      cases moved
      exact inv.callback stands
  | running generation =>
      rw [stands] at moved
      cases moved
      exact inv.goes _ _ _ _ (.inl rfl) trivial
  | clearRunning =>
      rw [stands] at moved
      cases moved
      exact inv.goes _ _ _ _ (.inl rfl) trivial

/-- The service thread writes none of the words that the callers' facts are about, and
it enters the window only for a generation that is armed. -/
structure ServiceKeeps (words after : Words Thread Fn) : Prop where
  allocated : after.allocated = words.allocated
  fn : after.fn = words.fn
  generation : after.generation = words.generation
  deadlineNs : after.deadlineNs = words.deadlineNs
  timers : after.timers = words.timers
  freer : after.freer = words.freer
  issues : after.issues = words.issues
  freed : after.freed = words.freed
  window : words.NoCurrent → words.service.window = false → after.service.window = false

theorem stepService_keeps {granted : Bool} (inv : WordsInv words)
    (moved : stepService words granted = some after) : ServiceKeeps words after := by
  have fits := inv.service
  unfold stepService at moved
  cases stands : words.service with
  | unstarted =>
      rw [stands] at moved
      cases moved
  | checkGeneration generation =>
      rw [stands] at moved fits
      cases moved
      refine ⟨rfl, rfl, rfl, rfl, rfl, rfl, rfl, rfl, fun unissued _ => ?_⟩
      obtain ⟨⟨⟨issue, member, same⟩, -⟩, -⟩ := fits
      dsimp only
      split
      next current => exact absurd (same.trans current.symm) (unissued issue member)
      next stale => rfl
  | clear generation =>
      rw [stands] at moved
      dsimp only at moved
      split at moved <;> cases moved <;> exact ⟨rfl, rfl, rfl, rfl, rfl, rfl, rfl, rfl, fun _ _ => rfl⟩
  | loadArmed | compare _ _ | rearm _ =>
      rw [stands] at moved
      cases moved
      refine ⟨rfl, rfl, rfl, rfl, rfl, rfl, rfl, rfl, fun _ _ => ?_⟩
      dsimp only
      split <;> rfl
  | checkAllocated _ | loadFn _ | call _ _ | running _ =>
      rw [stands] at moved
      cases moved
      refine ⟨rfl, rfl, rfl, rfl, rfl, rfl, rfl, rfl, fun _ closed => ?_⟩
      rw [stands] at closed
      cases closed
  | _ =>
      rw [stands] at moved
      cases moved
      exact ⟨rfl, rfl, rfl, rfl, rfl, rfl, rfl, rfl, fun _ _ => rfl⟩

end Serving

/-! ## Runs -/

section Runs

theorem start_outside (request : Call Fn) : (start request).holds = false := by
  cases request <;> rfl

theorem start_fits (words : Words Thread Fn) (thread : Thread) (request : Call Fn) :
    words.CallerFits thread (start request) := by
  cases request <;> trivial

theorem WordsInv.callbacksSound {words : Words Thread Fn} (inv : WordsInv words) :
    words.CallbacksSound := by
  refine ⟨inv.issuedOnce, inv.once, inv.answers, fun generation stands issue member same freed => ?_⟩
  have fits := inv.service
  rw [stands] at fits
  obtain ⟨fn, passed⟩ := fits
  obtain ⟨known, knownMember, knownSame, -, ofTimer⟩ := passed.issued
  have equal : issue = known :=
    List.inj_on_of_nodup_map inv.issuedOnce member knownMember (same.trans knownSame.symm)
  rw [equal, ofTimer] at freed
  exact passed.unfreed freed

variable [DecidableEq Thread]

theorem next_inv (state : State Thread Fn) (action : Action Thread Fn) (target : State Thread Fn)
    (inv : Inv state) (guarded : AllocAfterFree state action ∧ GenerationFits state action)
    (moved : next state action = some target) : Inv target := by
  cases action with
  | tick elapsed =>
      cases moved
      exact ⟨inv.locked, inv.words.store (Nat.le_add_right _ _) rfl rfl rfl rfl (.inr rfl) (.inl rfl)
        rfl rfl rfl rfl rfl rfl, fun thread => callerFits_frame (inv.callers thread) rfl rfl rfl rfl
        rfl rfl rfl rfl fun _ closed => closed⟩
  | call thread request =>
      simp only [next] at moved
      split at moved
      · cases moved
        exact inv.enterAside (start_outside request) (start_fits _ _ request)
      · cases moved
  | caller thread granted => exact stepCaller_inv inv guarded.1 guarded.2 moved
  | service granted =>
      obtain ⟨after, served, rfl⟩ := Option.map_eq_some_iff.mp moved
      have keeps := stepService_keeps inv.words served
      exact ⟨inv.locked, stepService_words inv.words served, fun thread =>
        callerFits_frame (inv.callers thread) keeps.allocated keeps.fn keeps.generation
          keeps.deadlineNs keeps.timers keeps.freer keeps.issues keeps.freed keeps.window⟩

/-- As long as the generation does not wrap and no timer is allocated before the free
of the last one has returned, callbacks are sound. -/
theorem timer_callbacks_sound (state : State Thread Fn)
    (reached : system.Reach (fun state action => AllocAfterFree state action ∧
      GenerationFits state action) state) : state.words.CallbacksSound := by
  have inv : Inv state := reached.invariant Inv (fun _ initial => Initial.inv initial) next_inv
  exact inv.words.callbacksSound

end Runs

theorem timer_callbacks_sound_fired : ∃ state : State Unit Unit,
    system.Reach (fun state action => AllocAfterFree state action ∧ GenerationFits state action)
      state ∧ state.words.invocations.length = 1 ∧ state.words.CallbacksSound := by
  obtain ⟨state, reached, called⟩ := System.exists_reach_of_exec system
    (fun state action => AllocAfterFree state action ∧ GenerationFits state action) fresh
    (allocates ++ arms ++ [.tick 1] ++ serves ++ [.service true])
    (fun state => state.words.invocations.length == 1) fresh_initial (by decide +kernel)
  exact ⟨state, reached, by simpa using called, timer_callbacks_sound state reached⟩

/-! ## The generation wraps -/

section Wraps

/-- The state after the callback of generation 2, some calls later. -/
def Rearmed (generation armed : Nat) (state : State Unit Unit) : Prop :=
  ∃ epoch deadline issues invocations returned,
    state = ⟨⟨10, true, some (), false, generation, armed, epoch, deadline, .wait, [()], none,
      issues, invocations, [], returned⟩, none, fun _ => .idle⟩ ∧
    2 ∈ invocations.map Invocation.generation

theorem exec_arms (generation armed epoch deadline : Nat) (issues : List Issue)
    (invocations : List (Invocation Unit)) (returned : List Nat) :
    system.exec AllocAfterFree ⟨⟨10, true, some (), false, generation, armed, epoch, deadline, .wait,
      [()], none, issues, invocations, [], returned⟩, none, fun _ => .idle⟩ arms =
    some ⟨⟨10, true, some (), false, word (generation + 1), word (generation + 1), epoch, 11, .wait,
      [()], none, issues ++ [⟨word (generation + 1), 11, 1⟩], invocations, [],
      returned ++ [word (generation + 1)]⟩, none, fun _ => .idle⟩ := rfl

/-- One more call takes the next generation. -/
theorem Rearmed.next {generation armed : Nat} {state : State Unit Unit}
    (reached : system.Reach AllocAfterFree state) (rearmed : Rearmed generation armed state) :
    ∃ target, system.Reach AllocAfterFree target ∧
      Rearmed (word (generation + 1)) (word (generation + 1)) target := by
  obtain ⟨epoch, deadline, issues, invocations, returned, rfl, called⟩ := rearmed
  exact ⟨_, reached.exec (exec_arms generation armed epoch deadline issues invocations returned),
    epoch, 11, _, invocations, _, rfl, called⟩

theorem word_word_succ (value : Nat) : word (word value + 1) = word (value + 1) :=
  Nat.mod_add_mod _ _ _

/-- Any number of calls, by induction on that number. -/
theorem exists_rearmed (calls : Nat) : ∃ state armed, system.Reach AllocAfterFree state ∧
    Rearmed (word (2 + calls)) armed state := by
  induction calls with
  | zero =>
      have performed : system.exec AllocAfterFree fresh
          (allocates ++ arms ++ [.tick 10] ++ serves ++ List.replicate 3 (.service true)) =
          some ⟨⟨10, true, some (), false, 2, 0, 1, 1, .wait, [()], none, [⟨2, 1, 1⟩],
            [⟨2, 10, (), [], [2]⟩], [], [2]⟩, none, fun _ => .idle⟩ := rfl
      exact ⟨_, 0, System.Reach.exec (.init fresh_initial) performed, 1, 1, _, _, _, rfl,
        List.mem_singleton.mpr rfl⟩
  | succ calls inductionHypothesis =>
      obtain ⟨state, armed, reached, rearmed⟩ := inductionHypothesis
      obtain ⟨target, later, again⟩ := Rearmed.next reached rearmed
      rw [word_word_succ, Nat.add_assoc] at again
      exact ⟨target, _, later, again⟩

/-- The armed generation is due, and the service thread runs its callback. -/
theorem exec_serves (epoch : Nat) (issues : List Issue) (invocations : List (Invocation Unit))
    (returned : List Nat) :
    (system.exec AllocAfterFree ⟨⟨10, true, some (), false, 2, 2, epoch, 11, .wait, [()], none,
      issues, invocations, [], returned⟩, none, fun _ => .idle⟩
      ([.tick 10] ++ serves ++ [.service true])).map (fun state => state.words.invocations) =
    some (invocations ++ [⟨2, 20, (), [], returned⟩]) := rfl

/-- After 2^64 generations the word is 2 again, and its callback runs a second time. -/
theorem timer_callback_repeats : ¬ ∀ state : State Unit Unit,
    system.Reach AllocAfterFree state → state.words.CallbacksSound := by
  intro always
  obtain ⟨state, armed, reached, epoch, deadline, issues, invocations, returned, rfl, called⟩ :=
    exists_rearmed (2 ^ 64 - 1)
  have again := reached.exec (exec_arms _ armed epoch deadline issues invocations returned)
  rw [show word (word (2 + (2 ^ 64 - 1)) + 1) = 2 by decide] at again
  obtain ⟨target, performed, twice⟩ := Option.map_eq_some_iff.mp
    (exec_serves epoch (issues ++ [⟨2, 11, 1⟩]) invocations (returned ++ [2]))
  have once := (always target (again.exec performed)).once
  rw [twice, List.map_append, List.nodup_append] at once
  exact once.2.2 2 called 2 (List.mem_singleton.mpr rfl) rfl

end Wraps

end Luna.TimerCallback
