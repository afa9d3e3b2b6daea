import Luna.Threads

/-!
# Safety of the thread table

Two halves carry the argument.  The ledger ties tids to the creates they were
issued by: as long as `task_next_tid` has not wrapped, the tid of an occupant is
its serial number plus two, so a joiner that finds its tid again has found the
occupant it claimed.  The scene says where the threads can stand: only the TCB
of a slot signals its `join_ntfn`, after it has set `exited`, so a joiner that
gets past its wait has an exited target or a slot that has moved on.
-/

namespace Luna.Threads

open Interleaving Notification

/-- `task_thread_create` does not draw from a `task_next_tid` that has wrapped. -/
def TidsFresh {External : Type} (state : TableState External) (action : TableAction External) :
    Prop :=
  match action with
  | .step actor _ => state.calls actor = .createTable → 2 ≤ state.nextTid
  | _ => True

instance {External : Type} (state : TableState External) (action : TableAction External) :
    Decidable (TidsFresh state action) := by
  unfold TidsFresh
  cases action <;> infer_instance

namespace Call

def blockedOn (slot : ThreadSlot) : Call → Bool
  | .joinBlocked _ other _ => decide (other = slot)
  | _ => false

/-- The thread has taken `slot` and not started its TCB yet. -/
def starting (slot : ThreadSlot) : Call → Bool
  | .createStart other _ | .createFailed other _ => decide (other = slot)
  | _ => false

/-- The thread has set `exited`. -/
def completing : Call → Bool
  | .signalJoin _ | .suspendSelf _ | .spin => true
  | _ => false

/-- The thread runs its function or is in a call that leaves its slot alone. -/
def plain : Call → Bool
  | .trampoline | .cleanup _ | .setExited _ | .signalJoin _ | .suspendSelf _ | .spin => false
  | _ => true

theorem eq_joinBlocked {call : Call} {slot : ThreadSlot} (blocked : call.blockedOn slot = true) :
    ∃ tid serial, call = .joinBlocked tid slot serial := by
  cases call with
  | joinBlocked tid other serial =>
      rw [← of_decide_eq_true blocked]
      exact ⟨tid, serial, rfl⟩
  | _ => cases blocked

theorem completing_of_plain {call : Call} (isPlain : call.plain = true) :
    call.completing = false := by
  cases call <;> first | rfl | cases isPlain

end Call

section Invariant

variable {External : Type}

/-- The books: which creates are in which slots, and which are over. -/
structure Ledger (state : TableState External) : Prop where
  counter : state.creates + 2 ≤ 2 ^ 64 ∧ state.nextTid = (state.creates + 2) % 2 ^ 64
  issued : state.issued = (List.range state.creates).map (· + 2)
  entries : ∀ slot, (state.slots slot).used = true →
    (state.slots slot).tid = (state.slots slot).serial + 2 ∧
      (state.slots slot).serial ∉ state.released
  serials : ∀ first second, (state.slots first).used = true → (state.slots second).used = true →
    (state.slots first).serial = (state.slots second).serial → first = second
  releasedOnce : state.released.Nodup
  released : ∀ serial, serial < state.creates ↔
    serial ∈ state.released ∨ ∃ slot, (state.slots slot).used = true ∧
      (state.slots slot).serial = serial
  current : state.current = Tally.total (fun used => Bool.toNat used)
    (fun slot => (state.slots slot).used)
  joinedOnce : (state.joined.map Joined.serial).Nodup
  joined : ∀ entry ∈ state.joined, entry.serial = entry.claimed ∧
    entry.serial ∈ state.released ∧ entry.serial ∈ state.finished ∧
    entry.tid = entry.serial + 2

/-- A join looks for the tid it was called with, and has claimed the occupant with that tid. -/
def Sought (state : TableState External) (actor : Actor External) (tid serial : Nat) : Prop :=
  tid = serial + 2 ∧ serial < state.creates ∧ state.asked actor = tid

/-- What a call of the actor says about the slot it is about. -/
def Call.Fits (state : TableState External) (actor : Actor External) : Call → Prop
  | .createStart slot serial | .createFailed slot serial =>
      (state.slots slot).used = true ∧ (state.slots slot).serial = serial ∧
        (state.slots slot).exited = false ∧ state.running slot = false
  | .joinClaim tid => state.asked actor = tid
  | .joinExited tid _ serial | .joinWait tid _ serial | .joinBlocked tid _ serial =>
      Sought state actor tid serial
  | .joinPoll tid slot serial | .joinRelease tid slot serial =>
      Sought state actor tid serial ∧ ((state.slots slot).used = true →
        (state.slots slot).serial = serial → (state.slots slot).exited = true)
  | _ => True

/-- What the call of a TCB says about its own slot. -/
def Call.AtHome (state : TableState External) (home : ThreadSlot) : Call → Prop
  | .trampoline => True
  | .cleanup slot => slot = home
  | .setExited slot => slot = home ∧ (state.slots home).serial ∈ state.finished
  | .signalJoin slot | .suspendSelf slot => slot = home ∧ (state.slots home).exited = true
  | .spin => False
  | _ => state.tids home = (state.slots home).tid

/-- Threads that are in no slot never complete one. -/
def Call.Abroad : Call → Prop
  | .trampoline | .cleanup _ | .setExited _ | .signalJoin _ | .suspendSelf _ => False
  | _ => True

theorem Call.abroad_of_plain {call : Call} (isPlain : call.plain = true) : call.Abroad := by
  cases call <;> first | exact trivial | cases isPlain

theorem Call.AtHome.of_plain {state : TableState External} {home : ThreadSlot} {before call : Call}
    (atHome : before.AtHome state home) (isPlain : before.plain = true)
    (still : call.plain = true) : call.AtHome state home := by
  have tids : state.tids home = (state.slots home).tid := by
    cases before <;> first | exact atHome | cases isPlain
  cases call <;> first | exact tids | cases still

/-- Each `join_ntfn` queues exactly the joiners that wait on its slot. -/
def Queues (state : TableState External) : Prop :=
  ∀ slot, (state.slots slot).joinNtfn.Queued (Call.blockedOn slot) state.calls

structure Scene (state : TableState External) : Prop where
  signalled : ∀ slot, (state.slots slot).used = true →
    (state.slots slot).joinNtfn = .active → (state.slots slot).exited = true
  exited : ∀ slot, (state.slots slot).used = true → (state.slots slot).exited = true →
    (state.slots slot).serial ∈ state.finished ∧ (state.calls (.inr slot)).completing = true
  running : ∀ slot, state.running slot = true → (state.slots slot).used = true ∧
    (state.calls (.inr slot)).AtHome state slot
  stopped : ∀ slot, state.running slot = false →
    ∀ other, (state.calls (.inr slot)).blockedOn other = false
  abroad : ∀ external, (state.calls (.inl external)).Abroad
  fits : ∀ actor, (state.calls actor).Fits state actor
  starters : ∀ slot first second, (state.calls first).starting slot = true →
    (state.calls second).starting slot = true → first = second

variable {state : TableState External}

section Ledger

theorem Ledger.of_eq {target : TableState External} (ledger : Ledger state)
    (slots : ∀ slot, (target.slots slot).used = (state.slots slot).used ∧
      (target.slots slot).tid = (state.slots slot).tid ∧
      (target.slots slot).serial = (state.slots slot).serial)
    (nextTid : target.nextTid = state.nextTid) (creates : target.creates = state.creates)
    (issued : target.issued = state.issued)
    (released : target.released = state.released) (current : target.current = state.current)
    (joined : target.joined = state.joined)
    (finished : ∀ serial ∈ state.finished, serial ∈ target.finished) : Ledger target where
  counter := by
    rw [nextTid, creates]
    exact ledger.counter
  issued := by
    rw [issued, creates]
    exact ledger.issued
  entries slot := by
    obtain ⟨used, tid, serial⟩ := slots slot
    rw [used, tid, serial, released]
    exact ledger.entries slot
  serials first second := by
    rw [(slots first).1, (slots second).1, (slots first).2.2, (slots second).2.2]
    exact ledger.serials first second
  releasedOnce := by
    rw [released]
    exact ledger.releasedOnce
  released serial := by
    simp only [released, creates, (slots _).1, (slots _).2.2]
    exact ledger.released serial
  current := by
    simp only [current, (slots _).1]
    exact ledger.current
  joinedOnce := by
    rw [joined]
    exact ledger.joinedOnce
  joined entry member := by
    rw [joined] at member
    rw [released]
    obtain ⟨own, past, done, tid⟩ := ledger.joined entry member
    exact ⟨own, past, finished _ done, tid⟩

/-- Giving a slot back. -/
theorem Ledger.release {slot : ThreadSlot} {entry : Entry External} (ledger : Ledger state)
    (occupied : (state.slots slot).used = true) (freed : entry.used = false) :
    Ledger (state.release slot entry) := by
  have usedNow : ∀ other, ((state.release slot entry).slots other).used = true →
      other ≠ slot ∧ (state.release slot entry).slots other = state.slots other := by
    intro other used
    have different : other ≠ slot := by
      rintro rfl
      simp [TableState.release, TableState.setSlot, freed] at used
    refine ⟨different, ?_⟩
    simp [TableState.release, TableState.setSlot, different]
  have fresh := (ledger.entries slot occupied).2
  exact {
    counter := ledger.counter
    issued := ledger.issued
    entries := by
      intro other used
      obtain ⟨different, same⟩ := usedNow other used
      rw [same] at used ⊢
      obtain ⟨tid, unreleased⟩ := ledger.entries other used
      refine ⟨tid, fun member => ?_⟩
      rcases List.mem_append.mp member with earlier | now
      · exact unreleased earlier
      · exact different (ledger.serials other slot used occupied (List.mem_singleton.mp now))
    serials := by
      intro first second firstUsed secondUsed
      have sameFirst := (usedNow first firstUsed).2
      have sameSecond := (usedNow second secondUsed).2
      rw [sameFirst] at firstUsed ⊢
      rw [sameSecond] at secondUsed ⊢
      exact ledger.serials first second firstUsed secondUsed
    releasedOnce := by
      refine List.nodup_append.mpr ⟨ledger.releasedOnce, List.nodup_singleton _, ?_⟩
      intro serial earlier other now equal
      rw [equal, List.mem_singleton.mp now] at earlier
      exact fresh earlier
    released := by
      intro serial
      rw [show (state.release slot entry).creates = state.creates from rfl, ledger.released serial]
      constructor
      · rintro (earlier | ⟨other, used, serialThere⟩)
        · exact .inl (List.mem_append_left _ earlier)
        · by_cases equal : other = slot
          · subst equal
            exact .inl (List.mem_append_right _ (List.mem_singleton.mpr serialThere.symm))
          · refine .inr ⟨other, ?_⟩
            simp [TableState.release, TableState.setSlot, equal, used, serialThere]
      · rintro (member | ⟨other, used, serialThere⟩)
        · rcases List.mem_append.mp member with earlier | now
          · exact .inl earlier
          · exact .inr ⟨slot, occupied, (List.mem_singleton.mp now).symm⟩
        · have same := (usedNow other used).2
          rw [same] at used serialThere
          exact .inr ⟨other, used, serialThere⟩
    current := by
      have change := Tally.total_update (fun used => Bool.toNat used)
        (fun slot => (state.slots slot).used) slot false
      have table : (fun other => ((state.release slot entry).slots other).used) =
          Function.update (fun other => (state.slots other).used) slot false := by
        funext other
        by_cases equal : other = slot
        · subst equal
          simp [TableState.release, TableState.setSlot, freed]
        · simp [TableState.release, TableState.setSlot, equal]
      rw [table]
      have old := ledger.current
      simp only [occupied, Bool.toNat_true, Bool.toNat_false] at change
      simp only [TableState.release]
      omega
    joinedOnce := ledger.joinedOnce
    joined := by
      intro joined member
      obtain ⟨own, past, right⟩ := ledger.joined joined member
      exact ⟨own, List.mem_append_left _ past, right⟩ }

theorem Ledger.serial_lt {slot : ThreadSlot} (ledger : Ledger state)
    (used : (state.slots slot).used = true) : (state.slots slot).serial < state.creates :=
  (ledger.released _).mpr (.inr ⟨slot, used, rfl⟩)

theorem TableState.take_other {slot other : ThreadSlot} (different : other ≠ slot) :
    (state.take slot).slots other = state.slots other := by
  simp [TableState.take, TableState.drainJoin, TableState.setSlot, different]

/-- Taking a slot while tids are fresh. -/
theorem Ledger.take {slot : ThreadSlot} (ledger : Ledger state)
    (vacant : (state.slots slot).used = false) (fresh : 2 ≤ state.nextTid) :
    Ledger (state.take slot) := by
  obtain ⟨room, nextTid⟩ := ledger.counter
  have issued : state.nextTid = state.creates + 2 ∧ state.creates + 3 ≤ 2 ^ 64 := by omega
  have entry : ((state.take slot).slots slot).tid = state.creates + 2 ∧
      ((state.take slot).slots slot).serial = state.creates ∧
      ((state.take slot).slots slot).used = true := by
    simp [TableState.take, TableState.drainJoin, TableState.setSlot, issued.1]
  obtain ⟨tid, serial, used⟩ := entry
  have unreleased : ∀ serial ∈ state.released, serial < state.creates :=
    fun serial member => (ledger.released serial).mpr (.inl member)
  exact {
    counter := by
      simp only [TableState.take]
      omega
    issued := by
      simp only [TableState.take]
      rw [ledger.issued, List.range_succ, List.map_append, if_neg (by omega), issued.1]
      rfl
    entries := by
      intro other otherUsed
      by_cases equal : other = slot
      · subst equal
        refine ⟨by rw [tid, serial], fun member => ?_⟩
        have before := unreleased _ member
        omega
      · rw [TableState.take_other equal] at otherUsed ⊢
        exact ledger.entries other otherUsed
    serials := by
      intro first second firstUsed secondUsed same
      by_cases firstNew : first = slot
      · by_cases secondNew : second = slot
        · rw [firstNew, secondNew]
        · rw [TableState.take_other secondNew] at secondUsed same
          rw [firstNew, serial] at same
          have before := ledger.serial_lt secondUsed
          omega
      · rw [TableState.take_other firstNew] at firstUsed same
        by_cases secondNew : second = slot
        · rw [secondNew, serial] at same
          have before := ledger.serial_lt firstUsed
          omega
        · rw [TableState.take_other secondNew] at secondUsed same
          exact ledger.serials first second firstUsed secondUsed same
    releasedOnce := ledger.releasedOnce
    released := by
      intro other
      have old := ledger.released other
      constructor
      · intro below
        by_cases equal : other = state.creates
        · exact .inr ⟨slot, used, by rw [serial, equal]⟩
        · have before : other < state.creates := by
            have bound : other < state.creates + 1 := below
            omega
          rcases old.mp before with earlier | ⟨place, placeUsed, there⟩
          · exact .inl earlier
          · have different : place ≠ slot := by
              rintro rfl
              rw [vacant] at placeUsed
              cases placeUsed
            exact .inr ⟨place, by rw [TableState.take_other different]; exact ⟨placeUsed, there⟩⟩
      · rintro (earlier | ⟨place, placeUsed, there⟩)
        · exact Nat.lt_succ_of_lt (unreleased other earlier)
        · by_cases equal : place = slot
          · subst equal
            rw [← there, serial]
            exact Nat.lt_succ_self _
          · rw [TableState.take_other equal] at placeUsed there
            rw [← there]
            exact Nat.lt_succ_of_lt (ledger.serial_lt placeUsed)
    current := by
      have change := Tally.total_update (fun used => Bool.toNat used)
        (fun slot => (state.slots slot).used) slot true
      have table : (fun other => ((state.take slot).slots other).used) =
          Function.update (fun other => (state.slots other).used) slot true := by
        funext other
        by_cases equal : other = slot
        · subst equal
          rw [used, Function.update_self]
        · rw [TableState.take_other equal, Function.update_of_ne equal]
      rw [table]
      have old := ledger.current
      simp only [vacant, Bool.toNat_true, Bool.toNat_false] at change
      simp only [TableState.take]
      omega
    joinedOnce := ledger.joinedOnce
    joined := ledger.joined }

/-- A join returns 0 for an occupant whose slot it has just released. -/
theorem Ledger.join {slot : ThreadSlot} {entry : Entry External} {tid : Nat}
    (ledger : Ledger state) (occupied : (state.slots slot).used = true)
    (freed : entry.used = false) (finished : (state.slots slot).serial ∈ state.finished)
    (own : tid = (state.slots slot).serial + 2) :
    Ledger { state.release slot entry with
      joined := state.joined ++ [⟨tid, (state.slots slot).serial, (state.slots slot).serial⟩] } where
  __ := ledger.release occupied freed
  joinedOnce := by
    rw [List.map_append]
    refine List.nodup_append.mpr ⟨ledger.joinedOnce, List.nodup_singleton _, ?_⟩
    intro serial earlier other now equal
    obtain ⟨joined, member, rfl⟩ := List.mem_map.mp earlier
    have past := (ledger.joined joined member).2.1
    rw [equal, List.mem_singleton.mp now] at past
    exact (ledger.entries slot occupied).2 past
  joined := by
    intro joined member
    rcases List.mem_append.mp member with earlier | now
    · exact (ledger.release occupied freed).joined joined earlier
    · cases List.mem_singleton.mp now
      exact ⟨rfl, List.mem_append_right _ (List.mem_singleton_self _), finished, own⟩

end Ledger

section Scene

variable [DecidableEq External] {actor : Actor External} {slot : ThreadSlot} {call : Call}

omit [DecidableEq External] in
theorem Sought.of_eq {target : TableState External} {tid serial : Nat}
    (sought : Sought state actor tid serial) (creates : state.creates ≤ target.creates)
    (asked : target.asked actor = state.asked actor) : Sought target actor tid serial :=
  ⟨sought.1, Nat.lt_of_lt_of_le sought.2.1 creates, asked.trans sought.2.2⟩

omit [DecidableEq External] in
/-- Calls are judged by the slots, the running TCBs, the creates and the tid asked for alone. -/
theorem Call.Fits.of_eq {target : TableState External} (fits : call.Fits state actor)
    (slots : target.slots = state.slots) (running : target.running = state.running)
    (creates : target.creates = state.creates)
    (asked : target.asked actor = state.asked actor) : call.Fits target actor := by
  have sought : ∀ {tid serial}, Sought state actor tid serial → Sought target actor tid serial :=
    fun sought => sought.of_eq (Nat.le_of_eq creates.symm) asked
  cases call <;> simp only [Call.Fits, slots, running, asked] at fits ⊢ <;>
    first | exact fits | exact sought fits | exact ⟨sought fits.1, fits.2⟩

omit [DecidableEq External] in
theorem Call.AtHome.of_eq {target : TableState External} (atHome : call.AtHome state slot)
    (slots : target.slots slot = state.slots slot) (tids : target.tids slot = state.tids slot)
    (finished : ∀ serial ∈ state.finished, serial ∈ target.finished) : call.AtHome target slot := by
  cases call <;> simp only [Call.AtHome, slots, tids] at atHome ⊢ <;> try exact atHome
  exact ⟨atHome.1, finished _ atHome.2⟩

theorem TableState.goto_of_ne {other : Actor External} (different : other ≠ actor) :
    (state.goto actor call).calls other = state.calls other :=
  Function.update_of_ne different ..

/-- A thread goes on without touching the table. -/
theorem Scene.goto (scene : Scene state)
    (stays : ∀ home, actor = .inr home → state.running home = false →
      ∀ other, call.blockedOn other = false)
    (completing : ∀ home, actor = .inr home → (state.slots home).used = true →
      (state.slots home).exited = true → call.completing = true)
    (atHome : ∀ home, actor = .inr home → state.running home = true → call.AtHome state home)
    (abroad : ∀ external, actor = .inl external → call.Abroad) (fits : call.Fits state actor)
    (starting : ∀ slot, call.starting slot = true → ∀ other, other ≠ actor →
      (state.calls other).starting slot = false) : Scene (state.goto actor call) := by
  have at_ : (state.goto actor call).calls actor = call := Function.update_self ..
  have elsewhere : ∀ other, other ≠ actor →
      (state.goto actor call).calls other = state.calls other :=
    fun _ different => TableState.goto_of_ne different
  exact {
    signalled := scene.signalled
    exited := by
      intro slot used exited
      obtain ⟨finished, completes⟩ := scene.exited slot used exited
      refine ⟨finished, ?_⟩
      by_cases equal : (.inr slot : Actor External) = actor
      · subst equal
        rw [at_]
        exact completing slot rfl used exited
      · rw [elsewhere _ equal]
        exact completes
    running := by
      intro slot runs
      obtain ⟨used, home⟩ := scene.running slot runs
      refine ⟨used, ?_⟩
      by_cases equal : (.inr slot : Actor External) = actor
      · subst equal
        rw [at_]
        exact (atHome slot rfl runs).of_eq rfl rfl fun _ member => member
      · rw [elsewhere _ equal]
        exact home.of_eq rfl rfl fun _ member => member
    stopped := by
      intro slot stops other
      by_cases equal : (.inr slot : Actor External) = actor
      · subst equal
        rw [at_]
        exact stays slot rfl stops other
      · rw [elsewhere _ equal]
        exact scene.stopped slot stops other
    abroad := by
      intro external
      by_cases equal : (.inl external : Actor External) = actor
      · subst equal
        rw [at_]
        exact abroad external rfl
      · rw [elsewhere _ equal]
        exact scene.abroad external
    fits := by
      intro other
      by_cases equal : other = actor
      · subst equal
        rw [at_]
        exact fits.of_eq rfl rfl rfl rfl
      · rw [elsewhere _ equal]
        exact (scene.fits other).of_eq rfl rfl rfl rfl
    starters := by
      intro slot first second firstStarts secondStarts
      by_cases firstNew : first = actor
      · by_cases secondNew : second = actor
        · rw [firstNew, secondNew]
        · rw [firstNew, at_] at firstStarts
          rw [elsewhere _ secondNew, starting slot firstStarts second secondNew] at secondStarts
          cases secondStarts
      · rw [elsewhere _ firstNew] at firstStarts
        by_cases secondNew : second = actor
        · rw [secondNew, at_] at secondStarts
          rw [starting slot secondStarts first firstNew] at firstStarts
          cases firstStarts
        · rw [elsewhere _ secondNew] at secondStarts
          exact scene.starters slot first second firstStarts secondStarts }

omit [DecidableEq External] in
/-- A store to a slot's flags and notification that lets nobody through. -/
theorem Scene.touch {entry : Entry External} (scene : Scene state)
    (used : entry.used = (state.slots slot).used) (tid : entry.tid = (state.slots slot).tid)
    (exited : entry.exited = (state.slots slot).exited)
    (serial : entry.serial = (state.slots slot).serial)
    (active : entry.joinNtfn = .active → (state.slots slot).joinNtfn = .active ∨
      (state.slots slot).exited = true) :
    Scene (state.setSlot slot entry) := by
  have fields : ∀ other, ((state.setSlot slot entry).slots other).used = (state.slots other).used ∧
      ((state.setSlot slot entry).slots other).tid = (state.slots other).tid ∧
      ((state.setSlot slot entry).slots other).exited = (state.slots other).exited ∧
      ((state.setSlot slot entry).slots other).serial = (state.slots other).serial := by
    intro other
    by_cases equal : other = slot
    · subst equal
      simp only [TableState.setSlot, Function.update_self]
      exact ⟨used, tid, exited, serial⟩
    · simp [TableState.setSlot, equal]
  have fits : ∀ actor (call : Call), call.Fits state actor →
      call.Fits (state.setSlot slot entry) actor := by
    intro actor call fits
    cases call <;> simp only [Call.Fits, fields] at fits ⊢ <;> exact fits
  have atHome : ∀ (call : Call) home, call.AtHome state home →
      call.AtHome (state.setSlot slot entry) home := by
    intro call home atHome
    cases call <;> simp only [Call.AtHome, fields] at atHome ⊢ <;> exact atHome
  exact {
    signalled := by
      intro other usedNow activeNow
      rw [(fields other).1] at usedNow
      rw [(fields other).2.2.1]
      by_cases equal : other = slot
      · subst equal
        simp only [TableState.setSlot, Function.update_self] at activeNow
        exact (active activeNow).elim (scene.signalled other usedNow) id
      · simp only [TableState.setSlot, Function.update_of_ne equal] at activeNow
        exact scene.signalled other usedNow activeNow
    exited := by
      intro other usedNow exitedNow
      rw [(fields other).1] at usedNow
      rw [(fields other).2.2.1] at exitedNow
      rw [(fields other).2.2.2]
      exact scene.exited other usedNow exitedNow
    running := by
      intro other runs
      rw [(fields other).1]
      exact ⟨(scene.running other runs).1, atHome _ _ (scene.running other runs).2⟩
    stopped := scene.stopped
    abroad := scene.abroad
    fits := fun actor => fits actor _ (scene.fits actor)
    starters := scene.starters }

omit [DecidableEq External] in
/-- The TCB of a slot is suspended outside any queue. -/
theorem Scene.stop (scene : Scene state)
    (awake : ∀ other, (state.calls (.inr slot)).blockedOn other = false) :
    Scene { state with running := Function.update state.running slot false } := by
  have stillStopped : ∀ other, Function.update state.running slot false other = true →
      state.running other = true := by
    intro other runs
    by_cases equal : other = slot
    · subst equal
      rw [Function.update_self] at runs
      cases runs
    · rwa [Function.update_of_ne equal] at runs
  exact {
    signalled := scene.signalled
    exited := scene.exited
    running := by
      intro other runs
      obtain ⟨used, atHome⟩ := scene.running other (stillStopped other runs)
      exact ⟨used, atHome.of_eq rfl rfl fun _ member => member⟩
    stopped := by
      intro other stops
      by_cases equal : other = slot
      · subst equal
        exact awake
      · dsimp only at stops
        rw [Function.update_of_ne equal] at stops
        exact scene.stopped other stops
    abroad := scene.abroad
    fits := by
      intro actor
      have fits := scene.fits actor
      cases at_ : state.calls actor <;> rw [at_] at fits <;> try exact fits
      all_goals
        refine ⟨fits.1, fits.2.1, fits.2.2.1, ?_⟩
        by_contra runs
        rw [Bool.not_eq_false] at runs
        have ran := stillStopped _ runs
        rw [fits.2.2.2] at ran
        cases ran
    starters := scene.starters }

omit [DecidableEq External] in
/-- A slot is given back: its TCB is stopped and nobody is about to start it. -/
theorem Scene.vacate {entry : Entry External} (scene : Scene state)
    (freed : entry.used = false) (stopped : state.running slot = false)
    (unstarted : ∀ actor, (state.calls actor).starting slot = false) :
    Scene (state.setSlot slot entry) := by
  have here : (state.setSlot slot entry).slots slot = entry := Function.update_self ..
  have elsewhere : ∀ other, other ≠ slot →
      (state.setSlot slot entry).slots other = state.slots other :=
    fun other different => Function.update_of_ne different ..
  have inUse : ∀ other, ((state.setSlot slot entry).slots other).used = true → other ≠ slot := by
    rintro other used rfl
    rw [here, freed] at used
    cases used
  exact {
    signalled := by
      intro other used
      have different := inUse other used
      rw [elsewhere other different] at used ⊢
      exact scene.signalled other used
    exited := by
      intro other used
      have different := inUse other used
      rw [elsewhere other different] at used ⊢
      exact scene.exited other used
    running := by
      intro other runs
      have different : other ≠ slot := by
        rintro rfl
        rw [show (state.setSlot other entry).running = state.running from rfl, stopped] at runs
        cases runs
      obtain ⟨used, atHome⟩ := scene.running other runs
      rw [elsewhere other different]
      exact ⟨used, atHome.of_eq (elsewhere other different) rfl fun _ member => member⟩
    stopped := scene.stopped
    abroad := scene.abroad
    fits := by
      intro actor
      have fits := scene.fits actor
      have unstarted := unstarted actor
      rw [show (state.setSlot slot entry).calls = state.calls from rfl]
      cases at_ : state.calls actor <;> rw [at_] at fits unstarted <;> try exact fits
      case createStart place serial =>
        have different : place ≠ slot := of_decide_eq_false unstarted
        simp only [Call.Fits, elsewhere place different] at fits ⊢
        exact fits
      case createFailed place serial =>
        have different : place ≠ slot := of_decide_eq_false unstarted
        simp only [Call.Fits, elsewhere place different] at fits ⊢
        exact fits
      all_goals
        refine ⟨fits.1, fun used same => ?_⟩
        have different := inUse _ used
        rw [elsewhere _ different] at used same ⊢
        exact fits.2 used same
    starters := scene.starters }

omit [DecidableEq External] in
/-- A vacant slot is taken. -/
theorem Scene.take (scene : Scene state) (vacant : (state.slots slot).used = false) :
    Scene (state.take slot) := by
  have here : ((state.take slot).slots slot).exited = false ∧
      ((state.take slot).slots slot).serial = state.creates ∧
      ((state.take slot).slots slot).joinNtfn = (state.slots slot).joinNtfn.poll := by
    simp [TableState.take, TableState.drainJoin, TableState.setSlot]
  obtain ⟨exited, serial, drained⟩ := here
  have stopped : state.running slot = false := by
    by_contra runs
    rw [Bool.not_eq_false] at runs
    rw [(scene.running slot runs).1] at vacant
    cases vacant
  exact {
    signalled := by
      intro other used active
      by_cases equal : other = slot
      · subst equal
        rw [drained] at active
        exact absurd active (poll_ne_active _)
      · rw [TableState.take_other equal] at used active ⊢
        exact scene.signalled other used active
    exited := by
      intro other used exitedNow
      by_cases equal : other = slot
      · subst equal
        rw [exited] at exitedNow
        cases exitedNow
      · rw [TableState.take_other equal] at used exitedNow ⊢
        exact scene.exited other used exitedNow
    running := by
      intro other runs
      have different : other ≠ slot := by
        rintro rfl
        rw [show (state.take other).running = state.running from rfl, stopped] at runs
        cases runs
      obtain ⟨used, atHome⟩ := scene.running other runs
      rw [TableState.take_other different]
      exact ⟨used, atHome.of_eq (TableState.take_other different) rfl fun _ member => member⟩
    stopped := scene.stopped
    abroad := scene.abroad
    fits := by
      intro actor
      have fits := scene.fits actor
      have sought : ∀ {tid serial}, Sought state actor tid serial →
          Sought (state.take slot) actor tid serial :=
        fun sought => sought.of_eq (Nat.le_succ _) rfl
      rw [show (state.take slot).calls = state.calls from rfl]
      cases at_ : state.calls actor <;> rw [at_] at fits <;> try exact fits
      case createStart place serial =>
        have different : place ≠ slot := by
          rintro rfl
          exact absurd (fits.1.symm.trans vacant) (by simp)
        simp only [Call.Fits, TableState.take_other different] at fits ⊢
        exact fits
      case createFailed place serial =>
        have different : place ≠ slot := by
          rintro rfl
          exact absurd (fits.1.symm.trans vacant) (by simp)
        simp only [Call.Fits, TableState.take_other different] at fits ⊢
        exact fits
      case joinExited tid place old => exact sought fits
      case joinWait tid place old => exact sought fits
      case joinBlocked tid place old => exact sought fits
      all_goals
        rename_i place old
        refine ⟨sought fits.1, fun used same => ?_⟩
        by_cases equal : place = slot
        · subst equal
          rw [serial] at same
          exact absurd same (Nat.ne_of_gt fits.1.2.1)
        · rw [TableState.take_other equal] at used same ⊢
          exact fits.2 used same
    starters := scene.starters }

omit [DecidableEq External] in
theorem Scene.unexited (scene : Scene state) (used : (state.slots slot).used = true)
    (before : (state.calls (.inr slot)).completing = false) :
    (state.slots slot).exited = false := by
  by_contra exited
  rw [Bool.not_eq_false] at exited
  rw [(scene.exited slot used exited).2] at before
  cases before

/-- A thread that is neither starting nor completing goes on likewise. -/
theorem Scene.move {before : Call} (scene : Scene state) (at_ : state.calls actor = before)
    (plain : before.plain = true) (still : call.plain = true)
    (stays : ∀ home, actor = .inr home → state.running home = false →
      ∀ other, call.blockedOn other = false) (fits : call.Fits state actor)
    (starting : ∀ slot, call.starting slot = true → ∀ other, other ≠ actor →
      (state.calls other).starting slot = false) : Scene (state.goto actor call) := by
  refine scene.goto stays ?_ ?_ ?_ fits starting
  · rintro home rfl used exited
    have unexited : (state.slots home).exited = false :=
      scene.unexited used (at_ ▸ Call.completing_of_plain plain)
    rw [exited] at unexited
    cases unexited
  · rintro home rfl runs
    have atHome := (scene.running home runs).2
    rw [at_] at atHome
    exact Call.AtHome.of_plain atHome plain still
  · intro external _
    exact Call.abroad_of_plain still

/-- The TCB of a slot that is being started runs the trampoline. -/
theorem Scene.begin (scene : Scene state) (used : (state.slots slot).used = true)
    (unexited : (state.slots slot).exited = false) (stopped : state.running slot = false)
    (unstarted : ∀ actor, (state.calls actor).starting slot = false) :
    Scene { state.goto (.inr slot) .trampoline with
      running := Function.update state.running slot true } := by
  have moved : Scene (state.goto (.inr slot) .trampoline) := by
    refine scene.goto (fun _ _ _ _ => rfl) ?_
      (fun _ _ _ => trivial) (fun _ absurdity => by cases absurdity) trivial
      (fun _ absurdity => by cases absurdity)
    rintro home same - exited
    cases same
    rw [unexited] at exited
    cases exited
  have at_ : (state.goto (.inr slot) .trampoline).calls (.inr slot) = .trampoline :=
    Function.update_self ..
  exact {
    signalled := moved.signalled
    exited := moved.exited
    running := by
      intro other runs
      by_cases equal : other = slot
      · subst equal
        refine ⟨used, ?_⟩
        dsimp only
        rw [at_]
        exact trivial
      · dsimp only at runs
        rw [Function.update_of_ne equal] at runs
        obtain ⟨usedThere, atHome⟩ := moved.running other runs
        exact ⟨usedThere, atHome.of_eq rfl rfl fun _ member => member⟩
    stopped := by
      intro other stops
      have different : other ≠ slot := by
        rintro rfl
        dsimp only at stops
        rw [Function.update_self] at stops
        cases stops
      dsimp only at stops
      rw [Function.update_of_ne different] at stops
      exact moved.stopped other stops
    abroad := moved.abroad
    fits := by
      intro actor
      have fits := moved.fits actor
      have unstartedNow : ((state.goto (.inr slot) .trampoline).calls actor).starting slot =
          false := by
        by_cases equal : actor = .inr slot
        · subst equal
          rw [at_]
          rfl
        · rw [TableState.goto_of_ne equal]
          exact unstarted actor
      dsimp only
      cases call : (state.goto (.inr slot) .trampoline).calls actor <;>
        rw [call] at fits unstartedNow <;> try exact fits
      all_goals
        refine ⟨fits.1, fits.2.1, fits.2.2.1, ?_⟩
        dsimp only
        rw [Function.update_of_ne (of_decide_eq_false unstartedNow)]
        exact fits.2.2.2
    starters := moved.starters }

/-- The TLS cleanup of a slot's own TCB. -/
theorem Scene.finish (scene : Scene state) (runs : state.running slot = true)
    (at_ : state.calls (.inr slot) = .cleanup slot) :
    Scene { state.goto (.inr slot) (.setExited slot) with
      finished := state.finished ++ [(state.slots slot).serial] } := by
  have grown : Scene { state with finished := state.finished ++ [(state.slots slot).serial] } := {
    signalled := scene.signalled
    exited := by
      intro other used exited
      obtain ⟨finished, completes⟩ := scene.exited other used exited
      exact ⟨List.mem_append_left _ finished, completes⟩
    running := by
      intro other runs
      obtain ⟨used, atHome⟩ := scene.running other runs
      exact ⟨used, atHome.of_eq rfl rfl fun _ member => List.mem_append_left _ member⟩
    stopped := scene.stopped
    abroad := scene.abroad
    fits := fun actor => (scene.fits actor).of_eq rfl rfl rfl rfl
    starters := scene.starters }
  have used := (scene.running slot runs).1
  refine grown.goto (fun _ _ _ _ => rfl) ?_ ?_ (fun _ absurdity => by cases absurdity) trivial
    (fun _ absurdity => by cases absurdity)
  · rintro home same - exited
    cases same
    rw [scene.unexited used (at_ ▸ rfl)] at exited
    cases exited
  · rintro home same -
    cases same
    exact ⟨rfl, List.mem_append_right _ (List.mem_singleton_self _)⟩

/-- `exited` is set by the slot's own TCB. -/
theorem Scene.exit (scene : Scene state) (runs : state.running slot = true)
    (at_ : state.calls (.inr slot) = .setExited slot) :
    Scene ((state.setSlot slot { state.slots slot with exited := true }).goto (.inr slot)
      (.signalJoin slot)) := by
  obtain ⟨used, atHome⟩ := scene.running slot runs
  rw [at_] at atHome
  have same : ∀ other, (Function.update state.slots slot
      { state.slots slot with exited := true } other).used = (state.slots other).used ∧
      (Function.update state.slots slot
        { state.slots slot with exited := true } other).serial = (state.slots other).serial ∧
      (Function.update state.slots slot
        { state.slots slot with exited := true } other).joinNtfn =
        (state.slots other).joinNtfn := by
    intro other
    by_cases equal : other = slot
    · subst equal
      simp
    · simp [equal]
  have callsElse : ∀ other, other ≠ slot →
      Function.update state.calls (.inr slot) (.signalJoin slot) (.inr other) =
        state.calls (.inr other) :=
    fun other different => Function.update_of_ne (by simpa using different) ..
  exact {
    signalled := by
      intro other usedNow active
      simp only [TableState.goto, TableState.setSlot, (same other).1, (same other).2.2]
        at usedNow active ⊢
      by_cases equal : other = slot
      · subst equal
        simp
      · rw [Function.update_of_ne equal]
        exact scene.signalled other usedNow active
    exited := by
      intro other usedNow exitedNow
      simp only [TableState.goto, TableState.setSlot, (same other).1, (same other).2.1]
        at usedNow exitedNow ⊢
      by_cases equal : other = slot
      · subst equal
        rw [Function.update_self]
        exact ⟨atHome.2, rfl⟩
      · rw [Function.update_of_ne equal] at exitedNow
        rw [callsElse other equal]
        exact scene.exited other usedNow exitedNow
    running := by
      intro other runsNow
      simp only [TableState.goto, TableState.setSlot, (same other).1]
      by_cases equal : other = slot
      · subst equal
        rw [Function.update_self]
        exact ⟨used, rfl, by simp⟩
      · rw [callsElse other equal]
        obtain ⟨usedThere, home⟩ := scene.running other runsNow
        exact ⟨usedThere, home.of_eq (Function.update_of_ne equal ..) rfl fun _ member => member⟩
    stopped := by
      intro other stops
      have different : other ≠ slot := by
        rintro rfl
        rw [show ((state.setSlot other { state.slots other with exited := true }).goto (.inr other)
          (.signalJoin other)).running = state.running from rfl, runs] at stops
        cases stops
      simp only [TableState.goto, TableState.setSlot, callsElse other different]
      exact scene.stopped other stops
    abroad := by
      intro external
      simp only [TableState.goto, TableState.setSlot,
        Function.update_of_ne (show (.inl external : Actor External) ≠ .inr slot by simp)]
      exact scene.abroad external
    fits := by
      intro actor
      by_cases equal : actor = .inr slot
      · subst equal
        simp only [TableState.goto, Function.update_self]
        exact trivial
      · rw [TableState.goto_of_ne equal]
        have fits := scene.fits actor
        rw [show (state.setSlot slot { state.slots slot with exited := true }).calls =
          state.calls from rfl]
        cases call : state.calls actor <;> rw [call] at fits <;> try exact fits
        case createStart place serial =>
          have different : place ≠ slot := by
            rintro rfl
            exact absurd (fits.2.2.2.symm.trans runs) (by simp)
          simp only [Call.Fits, TableState.goto, TableState.setSlot,
            Function.update_of_ne different] at fits ⊢
          exact fits
        case createFailed place serial =>
          have different : place ≠ slot := by
            rintro rfl
            exact absurd (fits.2.2.2.symm.trans runs) (by simp)
          simp only [Call.Fits, TableState.goto, TableState.setSlot,
            Function.update_of_ne different] at fits ⊢
          exact fits
        all_goals
          rename_i place old
          refine ⟨fits.1, fun usedNow sameSerial => ?_⟩
          simp only [TableState.goto, TableState.setSlot, (same place).1, (same place).2.1]
            at usedNow sameSerial ⊢
          by_cases there : place = slot
          · subst there
            simp
          · rw [Function.update_of_ne there]
            exact fits.2 usedNow sameSerial
    starters := by
      intro other first second firstStarts secondStarts
      have old : ∀ actor, ((state.setSlot slot { state.slots slot with exited := true }).goto
          (.inr slot) (.signalJoin slot)).calls actor |>.starting other →
          (state.calls actor).starting other = true := by
        intro actor starts
        by_cases equal : actor = .inr slot
        · subst equal
          simp only [TableState.goto, Function.update_self] at starts
          cases starts
        · rw [TableState.goto_of_ne equal] at starts
          exact starts
      exact scene.starters other first second (old first firstStarts) (old second secondStarts) }

end Scene

section Steps

structure TableInv (state : TableState External) : Prop where
  ledger : Ledger state
  scene : Scene state
  queues : Queues state

theorem Queues.setSlot {slot : ThreadSlot} {entry : Entry External} (queues : Queues state)
    (queue : entry.joinNtfn.queue = (state.slots slot).joinNtfn.queue) :
    Queues (state.setSlot slot entry) := by
  intro other
  by_cases equal : other = slot
  · subst equal
    simp only [TableState.setSlot, Function.update_self]
    exact (queues other).of_queue queue
  · simp only [TableState.setSlot, Function.update_of_ne equal]
    exact queues other

variable {actor : Actor External} {slot : ThreadSlot} {before call : Call}

theorem Ledger.setSlot {entry : Entry External} (ledger : Ledger state)
    (used : entry.used = (state.slots slot).used) (tid : entry.tid = (state.slots slot).tid)
    (serial : entry.serial = (state.slots slot).serial) : Ledger (state.setSlot slot entry) := by
  refine ledger.of_eq (fun other => ?_) rfl rfl rfl rfl rfl rfl fun _ member => member
  by_cases equal : other = slot
  · subst equal
    simp only [TableState.setSlot, Function.update_self]
    exact ⟨used, tid, serial⟩
  · simp [TableState.setSlot, equal]

theorem TableInv.touch {entry : Entry External} (inv : TableInv state)
    (used : entry.used = (state.slots slot).used) (tid : entry.tid = (state.slots slot).tid)
    (exited : entry.exited = (state.slots slot).exited)
    (serial : entry.serial = (state.slots slot).serial)
    (queue : entry.joinNtfn.queue = (state.slots slot).joinNtfn.queue)
    (active : entry.joinNtfn = .active → (state.slots slot).joinNtfn = .active ∨
      (state.slots slot).exited = true) : TableInv (state.setSlot slot entry) :=
  ⟨inv.ledger.setSlot used tid serial, inv.scene.touch used tid exited serial active,
    inv.queues.setSlot queue⟩

theorem TableInv.drainJoin (slot : ThreadSlot) (inv : TableInv state) :
    TableInv (state.drainJoin slot) :=
  inv.touch rfl rfl rfl rfl (queue_poll _) fun active => absurd active (poll_ne_active _)

theorem Call.awake_of_completing {call : Call} (completing : call.completing = true)
    (other : ThreadSlot) : call.blockedOn other = false := by
  cases call <;> first | rfl | cases completing

theorem TableInv.stop (inv : TableInv state)
    (awake : ∀ other, (state.calls (.inr slot)).blockedOn other = false) :
    TableInv { state with running := Function.update state.running slot false } :=
  ⟨inv.ledger.of_eq (fun _ => ⟨rfl, rfl, rfl⟩) rfl rfl rfl rfl rfl rfl fun _ member => member,
    inv.scene.stop awake, inv.queues⟩

/-- Nobody is about to start a slot whose occupant has exited. -/
theorem Scene.unstarted (scene : Scene state) (exited : (state.slots slot).exited = true)
    (other : Actor External) : (state.calls other).starting slot = false := by
  by_contra starts
  rw [Bool.not_eq_false] at starts
  have fits := scene.fits other
  cases at_ : state.calls other <;> rw [at_] at starts fits <;> try cases starts
  all_goals
    cases of_decide_eq_true starts
    exact absurd (fits.2.2.1.symm.trans exited) (by simp)

theorem TableInv.release {entry : Entry External} (inv : TableInv state)
    (used : (state.slots slot).used = true) (freed : entry.used = false)
    (stopped : state.running slot = false)
    (unstarted : ∀ other, (state.calls other).starting slot = false)
    (queue : entry.joinNtfn.queue = (state.slots slot).joinNtfn.queue) :
    TableInv (state.release slot entry) where
  ledger := inv.ledger.release used freed
  scene := by
    have vacated := inv.scene.vacate freed stopped unstarted
    exact { vacated with }
  queues := inv.queues.setSlot queue

variable [DecidableEq External]

theorem Queues.goto (queues : Queues state)
    (awake : ∀ other, call.blockedOn other = (state.calls actor).blockedOn other) :
    Queues (state.goto actor call) :=
  fun other => (queues other).update (awake other)

/-- A thread enters or leaves the queue of one slot. -/
theorem Queues.requeue {ntfn : Notification (Actor External)} (queues : Queues state)
    (here : ntfn.Queued (Call.blockedOn slot) (Function.update state.calls actor call))
    (others : ∀ other, other ≠ slot →
      call.blockedOn other = (state.calls actor).blockedOn other) :
    Queues ((state.setSlot slot { state.slots slot with joinNtfn := ntfn }).goto actor call) := by
  intro other
  by_cases equal : other = slot
  · subst equal
    simp only [TableState.goto, TableState.setSlot, Function.update_self]
    exact here
  · simp only [TableState.goto, TableState.setSlot, Function.update_of_ne equal]
    exact (queues other).update (others other equal)

theorem Ledger.goto (ledger : Ledger state) : Ledger (state.goto actor call) :=
  ledger.of_eq (fun _ => ⟨rfl, rfl, rfl⟩) rfl rfl rfl rfl rfl rfl fun _ member => member

theorem Ledger.requeue (ntfn : Notification (Actor External)) (ledger : Ledger state) :
    Ledger ((state.setSlot slot { state.slots slot with joinNtfn := ntfn }).goto actor call) := by
  have stored : Ledger (state.setSlot slot { state.slots slot with joinNtfn := ntfn }) :=
    ledger.setSlot rfl rfl rfl
  exact stored.goto

/-- A thread goes on, neither starting nor completing nor waiting. -/
theorem TableInv.move (inv : TableInv state) (at_ : state.calls actor = before)
    (plain : before.plain = true) (still : call.plain = true)
    (unblocked : ∀ other, before.blockedOn other = false)
    (awake : ∀ other, call.blockedOn other = false) (fits : call.Fits state actor)
    (starting : ∀ slot, call.starting slot = true → ∀ other, other ≠ actor →
      (state.calls other).starting slot = false) : TableInv (state.goto actor call) where
  ledger := inv.ledger.goto
  scene := inv.scene.move at_ plain still (fun _ _ _ => awake) fits starting
  queues := inv.queues.goto fun other => by rw [at_, unblocked, awake]

theorem TableState.suspend_eq
    (awake : ∀ other, (state.calls (.inr slot)).blockedOn other = false) :
    state.suspend slot = { state with running := Function.update state.running slot false } := by
  unfold TableState.suspend
  cases at_ : state.calls (.inr slot) with
  | joinBlocked tid target serial =>
      have absurdity := awake target
      rw [at_] at absurdity
      simp [Call.blockedOn] at absurdity
  | _ => rfl

/-- A slot that is reaped: detached, exited, suspended and drained. -/
theorem TableInv.reap (slot : ThreadSlot) (inv : TableInv state) : TableInv (state.reap slot) := by
  dsimp only [TableState.reap]
  split
  · exact inv
  next reapable =>
    simp only [Bool.or_eq_true, Bool.not_eq_true', not_or, Bool.not_eq_false] at reapable
    obtain ⟨⟨used, -⟩, exited⟩ := reapable
    have awake := Call.awake_of_completing (inv.scene.exited slot used exited).2
    rw [TableState.suspend_eq awake]
    have drained : TableInv (TableState.drainJoin
        { state with running := Function.update state.running slot false } slot) :=
      (inv.stop awake).drainJoin slot
    refine drained.release ?_ rfl (Function.update_self ..) (inv.scene.unstarted exited) rfl
    simp [TableState.drainJoin, TableState.setSlot, used]

theorem TableState.reap_frame (state : TableState External) (slot : ThreadSlot) :
    (state.reap slot).calls = state.calls ∧ (state.reap slot).nextTid = state.nextTid := by
  dsimp only [TableState.reap]
  split
  · exact ⟨rfl, rfl⟩
  · have frame : (state.suspend slot).calls = state.calls ∧
        (state.suspend slot).nextTid = state.nextTid := by
      unfold TableState.suspend
      split <;> exact ⟨rfl, rfl⟩
    exact frame

theorem TableInv.reapAll (slots : List ThreadSlot) (inv : TableInv state) :
    TableInv (slots.foldl TableState.reap state) ∧
      (slots.foldl TableState.reap state).calls = state.calls ∧
      (slots.foldl TableState.reap state).nextTid = state.nextTid := by
  induction slots generalizing state with
  | nil => exact ⟨inv, rfl, rfl⟩
  | cons slot rest inductionHypothesis =>
      obtain ⟨invRest, calls, nextTid⟩ := inductionHypothesis (inv.reap slot)
      obtain ⟨callsHere, nextTidHere⟩ := state.reap_frame slot
      exact ⟨invRest, calls.trans callsHere, nextTid.trans nextTidHere⟩

theorem TableInv.createSection (inv : TableInv state) (at_ : state.calls actor = .createTable)
    (fresh : 2 ≤ state.nextTid) : TableInv (state.createSection actor) := by
  obtain ⟨reaped, calls, nextTid⟩ := inv.reapAll (List.finRange lunaLklThreadSlots)
  unfold TableState.createSection
  generalize (List.finRange lunaLklThreadSlots).foldl TableState.reap state = cleared at *
  have there : cleared.calls actor = .createTable := by rw [calls, at_]
  dsimp only
  split
  · exact reaped.move there rfl rfl (fun _ => rfl) (fun _ => rfl) trivial
      (fun _ absurdity => by cases absurdity)
  next slot found =>
    have vacant : (cleared.slots slot).used = false := by simpa using List.find?_some found
    have stopped : cleared.running slot = false := by
      by_contra runs
      rw [Bool.not_eq_false] at runs
      rw [(reaped.scene.running slot runs).1] at vacant
      cases vacant
    have taken : TableInv (cleared.take slot) :=
      ⟨reaped.ledger.take vacant (nextTid ▸ fresh), reaped.scene.take vacant, by
        have drained := reaped.drainJoin slot
        exact drained.queues.setSlot rfl⟩
    refine taken.move there rfl rfl (fun _ => rfl) (fun _ => rfl) ?_ ?_
    · simp [Call.Fits, TableState.take, TableState.drainJoin, TableState.setSlot, stopped]
    · intro place starts other _
      have same : slot = place := of_decide_eq_true starts
      subst same
      by_contra begun
      rw [Bool.not_eq_false] at begun
      have fits := reaped.scene.fits other
      rw [show (cleared.take slot).calls = cleared.calls from rfl] at begun
      cases at_ : cleared.calls other <;> rw [at_] at begun fits <;> try cases begun
      all_goals
        cases of_decide_eq_true begun
        exact absurd (fits.1.symm.trans vacant) (by simp)

omit [DecidableEq External] in
theorem TableState.threadByTid_some {tid : Nat} (found : state.threadByTid tid = some slot) :
    (state.slots slot).used = true ∧ (state.slots slot).tid = tid := by
  unfold TableState.threadByTid at found
  split at found
  · cases found
  · simpa using List.find?_some found

theorem TableInv.claimSection {tid : Nat} (inv : TableInv state)
    (at_ : state.calls actor = .joinClaim tid) : TableInv (state.claimSection actor tid) := by
  have asked := inv.scene.fits actor
  rw [at_] at asked
  unfold TableState.claimSection
  split
  · exact inv.move at_ rfl rfl (fun _ => rfl) (fun _ => rfl) trivial
      (fun _ absurdity => by cases absurdity)
  next slot found =>
    obtain ⟨used, tidThere⟩ := TableState.threadByTid_some found
    dsimp only
    split
    · exact inv.move at_ rfl rfl (fun _ => rfl) (fun _ => rfl) trivial
        (fun _ absurdity => by cases absurdity)
    · have touched : TableInv (state.setSlot slot { state.slots slot with joinClaimed := true }) :=
        inv.touch rfl rfl rfl rfl rfl .inl
      exact touched.move at_ rfl rfl (fun _ => rfl) (fun _ => rfl)
        ⟨tidThere ▸ (inv.ledger.entries slot used).1, inv.ledger.serial_lt used, asked⟩
        (fun _ absurdity => by cases absurdity)

/-- A joiner that finds its tid again has found the occupant it claimed, and
that occupant has exited. -/
theorem TableInv.joinSection {tid serial : Nat} (inv : TableInv state)
    (at_ : state.calls actor = .joinRelease tid slot serial) :
    TableInv (state.joinSection actor tid slot serial) := by
  have fits := inv.scene.fits actor
  rw [at_] at fits
  obtain ⟨⟨tidIs, -, asked⟩, exitedIf⟩ := fits
  dsimp only [TableState.joinSection]
  split
  · exact inv.move at_ rfl rfl (fun _ => rfl) (fun _ => rfl) trivial
      (fun _ absurdity => by cases absurdity)
  next found =>
    simp only [Bool.or_eq_true, Bool.not_eq_true', decide_eq_true_eq, not_or, Bool.not_eq_false,
      not_not] at found
    obtain ⟨used, tidThere⟩ := found
    have own : (state.slots slot).serial = serial := by
      have issued := (inv.ledger.entries slot used).1
      omega
    have exited := exitedIf used own
    obtain ⟨finished, completes⟩ := inv.scene.exited slot used exited
    have awake := Call.awake_of_completing completes
    rw [TableState.suspend_eq awake]
    have left : TableInv (state.goto actor .idle) :=
      inv.move at_ rfl rfl (fun _ => rfl) (fun _ => rfl) trivial
        (fun _ absurdity => by cases absurdity)
    have different : (.inr slot : Actor External) ≠ actor := by
      rintro rfl
      rw [at_] at completes
      cases completes
    have stopped : TableInv { state.goto actor .idle with
        running := Function.update state.running slot false } :=
      left.stop (by rw [TableState.goto_of_ne different]; exact awake)
    have released : TableInv (TableState.release { state.goto actor .idle with
        running := Function.update state.running slot false } slot { state.slots slot with
          tid := 0
          exited := false
          detached := false
          used := false }) :=
      stopped.release used rfl (Function.update_self ..) (left.scene.unstarted exited) rfl
    have joined := stopped.ledger.join used (rfl : ({ state.slots slot with
          tid := 0
          exited := false
          detached := false
          used := false } : Entry External).used = false) finished
      (asked.trans (own ▸ tidIs) : state.asked actor = (state.slots slot).serial + 2)
    rw [← own]
    exact ⟨{ joined with }, { released.scene with }, released.queues⟩

/-- Before a join an idle thread notes the tid. -/
theorem TableInv.ask (tid : Nat) (inv : TableInv state) (idle : state.calls actor = .idle) :
    TableInv (state.ask actor tid) where
  ledger := inv.ledger.of_eq (fun _ => ⟨rfl, rfl, rfl⟩) rfl rfl rfl rfl rfl rfl
    fun _ member => member
  scene := {
    signalled := inv.scene.signalled
    exited := inv.scene.exited
    running := by
      intro slot runs
      obtain ⟨used, atHome⟩ := inv.scene.running slot runs
      exact ⟨used, atHome.of_eq rfl rfl fun _ member => member⟩
    stopped := inv.scene.stopped
    abroad := inv.scene.abroad
    fits := by
      intro other
      by_cases same : other = actor
      · subst same
        rw [show (state.ask other tid).calls other = .idle from idle]
        exact trivial
      · exact (inv.scene.fits other).of_eq rfl rfl rfl (Function.update_of_ne same ..)
    starters := inv.scene.starters }
  queues := inv.queues

/-- A signal of the slot's own TCB lets a joiner look again. -/
theorem TableInv.signalJoin (inv : TableInv state) (runs : state.running slot = true)
    (at_ : state.calls (.inr slot) = .signalJoin slot) :
    let performed := (state.slots slot).joinNtfn.perform Call.resume state.calls (.inr slot)
      (.signal (.suspendSelf slot))
    TableInv { state.setSlot slot { state.slots slot with joinNtfn := performed.1 } with
      calls := performed.2 } := by
  obtain ⟨used, atHome⟩ := inv.scene.running slot runs
  rw [at_] at atHome
  have exited := atHome.2
  have left : TableInv (state.goto (.inr slot) (.suspendSelf slot)) := by
    refine ⟨inv.ledger.goto, inv.scene.goto (fun _ _ _ _ => rfl) (fun _ _ _ _ => rfl) ?_
      (fun _ absurdity => by cases absurdity) trivial (fun _ absurdity => by cases absurdity),
      inv.queues.goto fun other => by rw [at_]; rfl⟩
    rintro home same -
    cases same
    exact ⟨rfl, exited⟩
  simp only [perform]
  rcases (left.queues slot).signal_cases with ⟨sets, empty, unblocked⟩ |
    ⟨head, rest, -, wakesHead, blocked, remaining⟩
  · rw [show (state.goto (.inr slot) (.suspendSelf slot)).slots = state.slots from rfl] at sets empty
    simp only [sets]
    exact left.touch rfl rfl rfl rfl empty.symm (fun _ => .inr exited)
  · rw [show (state.goto (.inr slot) (.suspendSelf slot)).slots = state.slots from rfl] at wakesHead
    simp only [wakesHead]
    obtain ⟨tid, serial, asleep⟩ := Call.eq_joinBlocked blocked
    have fits := left.scene.fits head
    rw [asleep] at fits
    have touched : Scene ((state.goto (.inr slot) (.suspendSelf slot)).setSlot slot
        { state.slots slot with joinNtfn := .waiting rest }) :=
      left.scene.touch rfl rfl rfl rfl (fun active => by cases active)
    have moved : Scene (((state.goto (.inr slot) (.suspendSelf slot)).setSlot slot
        { state.slots slot with joinNtfn := .waiting rest }).goto head
          (.joinRelease tid slot serial)) := by
      refine touched.move asleep rfl rfl (fun _ _ _ _ => rfl) ⟨fits, fun _ _ => ?_⟩
        (fun _ absurdity => by cases absurdity)
      simp only [TableState.setSlot, Function.update_self]
      exact exited
    have awake := remaining (.joinRelease tid slot serial) rfl
    have requeued : Queues (((state.goto (.inr slot) (.suspendSelf slot)).setSlot slot
        { state.slots slot with joinNtfn := .waiting rest }).goto head
          (.joinRelease tid slot serial)) := by
      refine left.queues.requeue awake fun other different => ?_
      rw [asleep]
      simp only [Call.blockedOn]
      exact (decide_eq_false different.symm).symm
    rw [show (Function.update state.calls (.inr slot) (.suspendSelf slot) head) =
      .joinBlocked tid slot serial from asleep]
    exact ⟨left.ledger.requeue _, moved, requeued⟩

theorem TableInv.joinWait {tid serial : Nat} (inv : TableInv state)
    (steps : state.canStep actor = true) (at_ : state.calls actor = .joinWait tid slot serial) :
    let performed := (state.slots slot).joinNtfn.perform Call.resume state.calls actor
      (.wait (.joinBlocked tid slot serial) (.joinRelease tid slot serial))
    TableInv { state.setSlot slot { state.slots slot with joinNtfn := performed.1 } with
      calls := performed.2 } := by
  have fits := inv.scene.fits actor
  rw [at_] at fits
  simp only [perform]
  rcases (inv.queues slot).wait_cases actor (by rw [at_]; rfl) with
    ⟨active, taken, queued⟩ | ⟨others, -, joins, queued⟩
  · simp only [taken]
    have touched : Scene (state.setSlot slot { state.slots slot with joinNtfn := .waiting [] }) :=
      inv.scene.touch rfl rfl rfl rfl (fun active => by cases active)
    refine ⟨inv.ledger.requeue _,
      touched.move at_ rfl rfl (fun _ _ _ _ => rfl) ⟨fits, ?_⟩
        (fun _ absurdity => by cases absurdity),
      inv.queues.requeue (queued.update (by rw [at_]; rfl)) fun other _ => by rw [at_]; rfl⟩
    simp only [TableState.setSlot, Function.update_self]
    exact fun used _ => inv.scene.signalled slot used active
  · simp only [joins]
    have touched : Scene (state.setSlot slot { state.slots slot with
        joinNtfn := .waiting (others ++ [actor]) }) :=
      inv.scene.touch rfl rfl rfl rfl (fun active => by cases active)
    refine ⟨inv.ledger.requeue _,
      touched.move at_ rfl rfl ?_ fits (fun _ absurdity => by cases absurdity),
      inv.queues.requeue (queued _ (by simp [Call.blockedOn])) fun other different => ?_⟩
    · rintro home rfl stopped
      rw [TableState.canStep, show state.running home = false from stopped] at steps
      cases steps
    · rw [at_]
      exact decide_eq_false different.symm

omit [DecidableEq External] in
theorem TableState.threadByTid_own (inv : TableInv state) (runs : state.running slot = true)
    (own : state.tids slot = (state.slots slot).tid) :
    state.threadByTid (state.tids slot) = some slot := by
  have used := (inv.scene.running slot runs).1
  obtain ⟨tid, -⟩ := inv.ledger.entries slot used
  have some_ : (state.threadByTid (state.tids slot)).isSome := by
    rw [TableState.threadByTid, if_neg (by omega), List.find?_isSome]
    exact ⟨slot, List.mem_finRange slot, by simp [used, own]⟩
  obtain ⟨other, found⟩ := Option.isSome_iff_exists.mp some_
  obtain ⟨otherUsed, same⟩ := TableState.threadByTid_some found
  have otherTid := (inv.ledger.entries other otherUsed).1
  rw [found, inv.ledger.serials other slot otherUsed used (by omega)]

theorem TableInv.start {serial : Nat} (inv : TableInv state)
    (at_ : state.calls actor = .createStart slot serial) :
    TableInv { (state.goto actor (.createReturn slot)).goto (.inr slot) .trampoline with
      running := Function.update state.running slot true } := by
  have fits := inv.scene.fits actor
  rw [at_] at fits
  obtain ⟨used, -, unexited, stopped⟩ := fits
  have left : TableInv (state.goto actor (.createReturn slot)) :=
    inv.move at_ rfl rfl (fun _ => rfl) (fun _ => rfl) trivial
      (fun _ absurdity => by cases absurdity)
  have unstarted : ∀ other, ((state.goto actor (.createReturn slot)).calls other).starting slot =
      false := by
    intro other
    by_cases equal : other = actor
    · subst equal
      simp [TableState.goto, Call.starting]
    · rw [TableState.goto_of_ne equal]
      by_contra starts
      rw [Bool.not_eq_false] at starts
      exact equal (inv.scene.starters slot other actor starts (by rw [at_]; simp [Call.starting]))
  refine ⟨left.ledger.of_eq (fun _ => ⟨rfl, rfl, rfl⟩) rfl rfl rfl rfl rfl rfl fun _ member => member,
    left.scene.begin used unexited stopped unstarted, ?_⟩
  have queues : Queues ((state.goto actor (.createReturn slot)).goto (.inr slot) .trampoline) :=
    left.queues.goto fun other => (left.scene.stopped slot stopped other).symm
  exact queues

theorem TableInv.createFailed {serial : Nat} (inv : TableInv state)
    (at_ : state.calls actor = .createFailed slot serial) :
    TableInv ((state.release slot { state.slots slot with
      tid := 0
      used := false }).goto actor .idle) := by
  have fits := inv.scene.fits actor
  rw [at_] at fits
  obtain ⟨used, -, -, stopped⟩ := fits
  have left : TableInv (state.goto actor .idle) :=
    inv.move at_ rfl rfl (fun _ => rfl) (fun _ => rfl) trivial
      (fun _ absurdity => by cases absurdity)
  have unstarted : ∀ other, ((state.goto actor .idle).calls other).starting slot = false := by
    intro other
    by_cases equal : other = actor
    · subst equal
      simp [TableState.goto, Call.starting]
    · rw [TableState.goto_of_ne equal]
      by_contra starts
      rw [Bool.not_eq_false] at starts
      exact equal (inv.scene.starters slot other actor starts (by rw [at_]; simp [Call.starting]))
  exact left.release used rfl stopped unstarted rfl

omit [DecidableEq External] in
/-- A TCB that completes a slot runs in that slot. -/
theorem Scene.home (scene : Scene state) (steps : state.canStep actor = true)
    (at_ : state.calls actor = call)
    (kind : call = .cleanup slot ∨ call = .setExited slot ∨ call = .signalJoin slot ∨
      call = .suspendSelf slot) : actor = .inr slot ∧ state.running slot = true := by
  cases actor with
  | inl external =>
      have abroad := scene.abroad external
      rw [at_] at abroad
      rcases kind with rfl | rfl | rfl | rfl <;> cases abroad
  | inr home =>
      have atHome := (scene.running home steps).2
      rw [at_] at atHome
      have same : slot = home := by
        rcases kind with rfl | rfl | rfl | rfl
        · exact atHome
        · exact atHome.1
        · exact atHome.1
        · exact atHome.1
      subst same
      exact ⟨rfl, steps⟩

/-- The trampoline stores the tid of its slot in `current_tid`. -/
theorem TableInv.trampoline (inv : TableInv state)
    (at_ : state.calls (.inr slot) = .trampoline) :
    TableInv { state.goto (.inr slot) .idle with
      tids := Function.update state.tids slot (state.slots slot).tid } := by
  have stored : Scene { state with
      tids := Function.update state.tids slot (state.slots slot).tid } := {
    signalled := inv.scene.signalled
    exited := inv.scene.exited
    running := by
      intro other runs
      obtain ⟨used, atHome⟩ := inv.scene.running other runs
      refine ⟨used, ?_⟩
      by_cases equal : other = slot
      · subst equal
        dsimp only
        rw [at_]
        exact trivial
      · exact atHome.of_eq rfl (Function.update_of_ne equal ..) fun _ member => member
    stopped := inv.scene.stopped
    abroad := inv.scene.abroad
    fits := fun actor => (inv.scene.fits actor).of_eq rfl rfl rfl rfl
    starters := inv.scene.starters }
  refine ⟨inv.ledger.of_eq (fun _ => ⟨rfl, rfl, rfl⟩) rfl rfl rfl rfl rfl rfl fun _ member => member,
    stored.goto (fun _ _ _ _ => rfl) ?_ ?_ (fun _ absurdity => by cases absurdity) trivial
      (fun _ absurdity => by cases absurdity),
    inv.queues.goto fun other => by rw [at_]; rfl⟩
  · rintro home same used exited
    cases same
    rw [inv.scene.unexited used (at_ ▸ rfl)] at exited
    cases exited
  · rintro home same -
    cases same
    exact Function.update_self ..

/-- `task_thread_exit` finds the caller's own slot, or none. -/
theorem TableInv.exitLookup {started : Bool} {target : TableState External} (inv : TableInv state)
    (steps : state.canStep actor = true) (at_ : state.calls actor = .exitLookup)
    (moved : tableStep actor started state = some target) : TableInv target := by
  have awake : ∀ other, (state.calls actor).blockedOn other = false := by
    rw [at_]
    exact fun _ => rfl
  simp only [tableStep, at_] at moved
  cases actor with
  | inl external =>
      cases moved
      exact ⟨inv.ledger.goto, inv.scene.goto (fun _ _ _ _ => rfl)
        (fun _ absurdity => by cases absurdity) (fun _ absurdity => by cases absurdity)
        (fun _ _ => trivial) trivial (fun _ absurdity => by cases absurdity),
        inv.queues.goto fun other => (awake other).symm⟩
  | inr home =>
      have own := (inv.scene.running home steps).2
      rw [at_] at own
      simp only [TableState.tidOf, TableState.threadByTid_own inv steps own] at moved
      cases moved
      refine ⟨inv.ledger.goto, inv.scene.goto (fun _ _ _ _ => rfl) ?_ ?_
        (fun _ absurdity => by cases absurdity) trivial (fun _ absurdity => by cases absurdity),
        inv.queues.goto fun other => (awake other).symm⟩
      · rintro place same used exited
        cases same
        rw [inv.scene.unexited used (at_ ▸ rfl)] at exited
        cases exited
      · rintro place same -
        cases same
        rfl

/-- A TCB that has signalled suspends itself. -/
theorem TableInv.suspendSelf (inv : TableInv state)
    (at_ : state.calls (.inr slot) = .suspendSelf slot) :
    TableInv ((state.goto (.inr slot) .spin).suspend slot) := by
  have there : (state.goto (.inr slot) .spin).calls (.inr slot) = .spin := Function.update_self ..
  rw [TableState.suspend_eq (by rw [there]; exact fun _ => rfl)]
  have stopped : TableInv { state with running := Function.update state.running slot false } :=
    inv.stop (by rw [at_]; exact fun _ => rfl)
  refine ⟨stopped.ledger.goto, stopped.scene.goto (fun _ _ _ _ => rfl) (fun _ _ _ _ => rfl) ?_
    (fun _ absurdity => by cases absurdity) trivial (fun _ absurdity => by cases absurdity),
    stopped.queues.goto fun other => by
      dsimp only
      rw [at_]
      rfl⟩
  rintro home same runs
  cases same
  dsimp only at runs
  rw [Function.update_self] at runs
  cases runs

theorem tableStep_inv {started : Bool} {target : TableState External} (inv : TableInv state)
    (steps : state.canStep actor = true)
    (fresh : state.calls actor = .createTable → 2 ≤ state.nextTid)
    (moved : tableStep actor started state = some target) : TableInv target := by
  cases at_ : state.calls actor with
  | idle => simp only [tableStep, at_, reduceCtorEq] at moved
  | spin => simp only [tableStep, at_, reduceCtorEq] at moved
  | joinBlocked tid slot serial => simp only [tableStep, at_, reduceCtorEq] at moved
  | createTable =>
      simp only [tableStep, at_, Option.some.injEq] at moved
      exact moved ▸ inv.createSection at_ (fresh at_)
  | createStart slot serial =>
      have fits := inv.scene.fits actor
      rw [at_] at fits
      simp only [tableStep, at_] at moved
      split at moved
      · cases moved
        exact inv.start at_
      · cases moved
        refine inv.move at_ rfl rfl (fun _ => rfl) (fun _ => rfl) fits fun place starts other away => ?_
        by_contra begun
        rw [Bool.not_eq_false] at begun
        exact away (inv.scene.starters place other actor begun (by rw [at_]; exact starts))
  | createFailed slot serial =>
      simp only [tableStep, at_, Option.some.injEq] at moved
      exact moved ▸ inv.createFailed at_
  | createReturn slot =>
      simp only [tableStep, at_, Option.some.injEq] at moved
      exact moved ▸ inv.move at_ rfl rfl (fun _ => rfl) (fun _ => rfl) trivial
        (fun _ absurdity => by cases absurdity)
  | trampoline =>
      simp only [tableStep, at_] at moved
      cases actor with
      | inl external => cases moved
      | inr slot =>
          cases moved
          exact inv.trampoline at_
  | exitLookup => exact inv.exitLookup steps at_ moved
  | cleanup slot =>
      obtain ⟨rfl, runs⟩ := inv.scene.home steps at_ (.inl rfl)
      simp only [tableStep, at_, Option.some.injEq] at moved
      subst moved
      exact ⟨inv.ledger.of_eq (fun _ => ⟨rfl, rfl, rfl⟩) rfl rfl rfl rfl rfl rfl
        fun _ member => List.mem_append_left _ member, inv.scene.finish runs at_,
        inv.queues.goto fun other => by rw [at_]; rfl⟩
  | setExited slot =>
      obtain ⟨rfl, runs⟩ := inv.scene.home steps at_ (.inr (.inl rfl))
      simp only [tableStep, at_, Option.some.injEq] at moved
      subst moved
      have stored : Ledger (state.setSlot slot { state.slots slot with exited := true }) :=
        inv.ledger.setSlot rfl rfl rfl
      have queues : Queues (state.setSlot slot { state.slots slot with exited := true }) :=
        inv.queues.setSlot rfl
      exact ⟨stored.goto, inv.scene.exit runs at_,
        queues.goto fun other => by
          rw [show (state.setSlot slot { state.slots slot with exited := true }).calls =
            state.calls from rfl, at_]
          rfl⟩
  | signalJoin slot =>
      obtain ⟨rfl, runs⟩ := inv.scene.home steps at_ (.inr (.inr (.inl rfl)))
      simp only [tableStep, at_, Option.some.injEq] at moved
      exact moved ▸ inv.signalJoin runs at_
  | suspendSelf slot =>
      obtain ⟨rfl, runs⟩ := inv.scene.home steps at_ (.inr (.inr (.inr rfl)))
      simp only [tableStep, at_, Option.some.injEq] at moved
      exact moved ▸ inv.suspendSelf at_
  | detach =>
      simp only [tableStep, at_] at moved
      split at moved
      · cases moved
        exact inv.move at_ rfl rfl (fun _ => rfl) (fun _ => rfl) trivial
          (fun _ absurdity => by cases absurdity)
      next slot found =>
        cases moved
        have touched : TableInv (state.setSlot slot { state.slots slot with detached := true }) :=
          inv.touch rfl rfl rfl rfl rfl .inl
        exact touched.move at_ rfl rfl (fun _ => rfl) (fun _ => rfl) trivial
          (fun _ absurdity => by cases absurdity)
  | joinClaim tid =>
      simp only [tableStep, at_] at moved
      split at moved
      · cases moved
        exact inv.move at_ rfl rfl (fun _ => rfl) (fun _ => rfl) trivial
          (fun _ absurdity => by cases absurdity)
      · cases moved
        exact inv.claimSection at_
  | joinExited tid slot serial =>
      have fits := inv.scene.fits actor
      rw [at_] at fits
      simp only [tableStep, at_] at moved
      split at moved
      next exited =>
        cases moved
        exact inv.move at_ rfl rfl (fun _ => rfl) (fun _ => rfl) ⟨fits, fun _ _ => exited⟩
          (fun _ absurdity => by cases absurdity)
      next running =>
        cases moved
        exact inv.move at_ rfl rfl (fun _ => rfl) (fun _ => rfl) fits
          (fun _ absurdity => by cases absurdity)
  | joinWait tid slot serial =>
      simp only [tableStep, at_, Option.some.injEq] at moved
      exact moved ▸ inv.joinWait steps at_
  | joinPoll tid slot serial =>
      have fits := (inv.drainJoin slot).scene.fits actor
      rw [show (state.drainJoin slot).calls = state.calls from rfl, at_] at fits
      simp only [tableStep, at_, Option.some.injEq] at moved
      exact moved ▸ (inv.drainJoin slot).move at_ rfl rfl (fun _ => rfl) (fun _ => rfl) fits
        (fun _ absurdity => by cases absurdity)
  | joinRelease tid slot serial =>
      simp only [tableStep, at_, Option.some.injEq] at moved
      exact moved ▸ inv.joinSection at_

theorem tableNext_inv {action : TableAction External} {target : TableState External}
    (inv : TableInv state) (fresh : TidsFresh state action)
    (moved : tableNext state action = some target) : TableInv target := by
  have plainStart : ∀ actor call, state.start actor call = some target → call.plain = true →
      (∀ other, call.blockedOn other = false) → call.Fits state actor →
      (∀ slot, call.starting slot = false) → TableInv target := by
    intro actor call started plain awake fits unstarting
    simp only [TableState.start, Option.ite_none_right_eq_some, Option.some.injEq] at started
    obtain ⟨⟨-, idle⟩, rfl⟩ := started
    refine inv.move idle rfl plain (fun _ => rfl) awake fits fun slot starts => ?_
    rw [unstarting slot] at starts
    cases starts
  cases action with
  | create actor =>
      exact plainStart actor _ moved rfl (fun _ => rfl) trivial (fun _ => rfl)
  | join actor tid =>
      simp only [tableNext, TableState.start, Option.ite_none_right_eq_some, Option.some.injEq]
        at moved
      obtain ⟨⟨-, idle⟩, rfl⟩ := moved
      exact (inv.ask tid idle).move idle rfl rfl (fun _ => rfl) (fun _ => rfl)
        (Function.update_self ..) (fun _ absurdity => by cases absurdity)
  | detach actor =>
      exact plainStart actor _ moved rfl (fun _ => rfl) trivial (fun _ => rfl)
  | exit actor =>
      exact plainStart actor _ moved rfl (fun _ => rfl) trivial (fun _ => rfl)
  | returns slot =>
      simp only [tableNext, TableState.start, Option.ite_none_right_eq_some, Option.some.injEq]
        at moved
      obtain ⟨⟨runs, idle⟩, rfl⟩ := moved
      refine ⟨inv.ledger.goto, inv.scene.goto (fun _ _ _ _ => rfl) ?_ ?_
        (fun _ absurdity => by cases absurdity) trivial (fun _ absurdity => by cases absurdity),
        inv.queues.goto fun other => by rw [idle]; rfl⟩
      · rintro home same used exited
        cases same
        rw [inv.scene.unexited used (idle ▸ rfl)] at exited
        cases exited
      · rintro home same -
        cases same
        rfl
  | step actor started =>
      simp only [tableNext, Option.ite_none_right_eq_some] at moved
      exact tableStep_inv inv moved.1 fresh moved.2

omit [DecidableEq External] in
theorem TableInitial.inv (initial : TableInitial state) : TableInv state where
  ledger := by
    have unused : ∀ slot, (state.slots slot).used = false := fun slot => by rw [initial.slots]
    have noSlot : ∀ slot, ¬ (state.slots slot).used = true := fun slot => by simp [unused]
    refine ⟨?_, by simp [initial.issued, initial.creates],
      fun slot used => absurd used (noSlot slot),
      fun first _ used => absurd used (noSlot first), ?_, ?_, ?_, ?_, ?_⟩
    · rw [initial.creates, initial.nextTid]
      decide
    · rw [initial.released]
      exact List.nodup_nil
    · simp [initial.creates, initial.released, unused]
    · simp only [initial.current, unused]
      exact ((Tally.total_eq_zero_iff ..).mpr fun _ => rfl).symm
    · rw [initial.joined]
      exact List.nodup_nil
    · simp [initial.joined]
  scene := by
    refine ⟨?_, ?_, ?_, ?_, ?_, ?_, ?_⟩
    · simp [initial.slots]
    · simp [initial.slots]
    · simp [initial.running]
    · intro slot _ other
      rw [initial.calls]
      rfl
    · intro external
      rw [initial.calls]
      exact trivial
    · intro actor
      rw [initial.calls]
      exact trivial
    · intro slot first second starts
      rw [initial.calls] at starts
      cases starts
  queues := by
    intro slot
    rw [initial.slots]
    refine ⟨List.nodup_nil, fun actor => ?_⟩
    rw [initial.calls]
    simp [queue, Call.blockedOn]

omit [DecidableEq External] in
theorem TableInv.correct (inv : TableInv state) : TableCorrect state where
  distinct first second firstUsed secondUsed same := by
    have firstTid := (inv.ledger.entries first firstUsed).1
    have secondTid := (inv.ledger.entries second secondUsed).1
    exact inv.ledger.serials first second firstUsed secondUsed (by omega)
  joinedOnce := inv.ledger.joinedOnce
  joinedFinished entry member := (inv.ledger.joined entry member).2.2.1
  joinedOwn entry member := (inv.ledger.joined entry member).1
  joinedTid entry member serial := by
    obtain ⟨-, past, -, tid⟩ := inv.ledger.joined entry member
    have created := (inv.ledger.released entry.serial).mpr (.inl past)
    rw [inv.ledger.issued, List.getElem?_map, Option.map_eq_some_iff, tid]
    constructor
    · rintro ⟨found, inRange, sameTid⟩
      obtain ⟨bound, isFound⟩ := List.getElem?_eq_some_iff.mp inRange
      rw [List.getElem_range] at isFound
      exact isFound.trans (Nat.add_right_cancel sameTid)
    · rintro rfl
      exact ⟨entry.serial, List.getElem?_range created, rfl⟩
  releasedOnce := inv.ledger.releasedOnce
  released := inv.ledger.released
  occupied slot used := (inv.ledger.entries slot used).2
  current := inv.ledger.current

end Steps

end Invariant

/-- The table as the child finds it. -/
def freshTable : TableState Bool :=
  ⟨fun _ => ⟨0, false, false, false, false, .waiting [], 0⟩, 2, 0, fun _ => .idle,
    fun _ => 0, fun _ => false, 0, [], [], [], fun _ => 0, []⟩

def firstSlot : ThreadSlot := ⟨0, by decide⟩

def secondSlot : ThreadSlot := ⟨1, by decide⟩

/-- A thread is created and waited for while it runs; it returns and wakes its
joiner, and the slot goes to a second thread. -/
def joinedRun : List (TableAction Bool) := List.flatten [
  .create (.inl false) :: List.replicate 3 (.step (.inl false) true),
  .step (.inr firstSlot) true :: .join (.inl true) 2 :: List.replicate 3 (.step (.inl true) true),
  .returns firstSlot :: List.replicate 3 (.step (.inr firstSlot) true),
  .step (.inl true) true :: .create (.inl false) :: List.replicate 3 (.step (.inl false) true)]

section Wrap

/-- The table is empty, and nobody is in a call. -/
structure Vacant (state : TableState Bool) (next : Nat) : Prop where
  unused : ∀ slot, (state.slots slot).used = false
  idle : ∀ actor, state.calls actor = .idle
  nextTid : state.nextTid = next

theorem reapAll_eq {state : TableState Bool} (slots : List ThreadSlot)
    (attached : ∀ slot, (state.slots slot).used = true → (state.slots slot).detached = false) :
    slots.foldl TableState.reap state = state := by
  have kept : ∀ slot, state.reap slot = state := by
    intro slot
    dsimp only [TableState.reap]
    rw [if_pos]
    cases used : (state.slots slot).used with
    | false => rfl
    | true => simp [attached slot used]
  induction slots with
  | nil => rfl
  | cons slot rest inductionHypothesis => rw [List.foldl_cons, kept, inductionHypothesis]

theorem finRange_slots : List.finRange lunaLklThreadSlots =
    firstSlot :: secondSlot :: (List.finRange lunaLklThreadSlots).drop 2 := by
  decide

theorem createSection_of_found {state : TableState Bool} (actor : Actor Bool) {slot : ThreadSlot}
    (attached : ∀ slot, (state.slots slot).used = true → (state.slots slot).detached = false)
    (found : (List.finRange lunaLklThreadSlots).find? (fun slot => !(state.slots slot).used) =
      some slot) :
    state.createSection actor =
      (state.take slot).goto actor (.createStart slot state.creates) := by
  dsimp only [TableState.createSection]
  rw [reapAll_eq _ attached, found]

/-- An idle external thread that calls `task_thread_create` while nothing is to
be reaped gets the first slot that is not used. -/
theorem create_reachable {state : TableState Bool} (external : Bool) {slot : ThreadSlot}
    (reached : (tableSystem Bool).Reachable state)
    (idle : state.calls (.inl external) = .idle)
    (attached : ∀ slot, (state.slots slot).used = true → (state.slots slot).detached = false)
    (found : (List.finRange lunaLklThreadSlots).find? (fun slot => !(state.slots slot).used) =
      some slot) :
    (tableSystem Bool).Reachable ((state.take slot).goto (.inl external)
      (.createStart slot state.creates)) := by
  have called : (tableSystem Bool).Reachable (state.goto (.inl external) .createTable) := by
    refine reached.next (.create (.inl external)) ?_
    rw [tableSystem_next]
    simp [tableNext, TableState.start, TableState.canStep, idle]
  refine called.next (.step (.inl external) false) ?_
  rw [tableSystem_next]
  have entered : (state.goto (.inl external) .createTable).calls (.inl external) = .createTable :=
    Function.update_self ..
  have performed : (state.goto (.inl external) .createTable).createSection (.inl external) = _ :=
    createSection_of_found (.inl external) attached found
  simp only [tableNext, TableState.canStep, if_true, tableStep, entered, performed]
  simp only [TableState.goto, TableState.take, TableState.drainJoin, TableState.setSlot,
    Function.update_idem]
  rfl

/-- One create whose start fails: the slot comes back, the tid does not. -/
theorem Vacant.cycle {state : TableState Bool} {next : Nat} (vacant : Vacant state next)
    (reached : (tableSystem Bool).Reachable state) :
    ∃ target, (tableSystem Bool).Reachable target ∧ Vacant target ((next + 1) % 2 ^ 64) := by
  have found : (List.finRange lunaLklThreadSlots).find? (fun slot => !(state.slots slot).used) =
      some firstSlot := by
    rw [finRange_slots, List.find?_cons_of_pos]
    simp [vacant.unused]
  have taken := create_reachable false reached (vacant.idle _)
    (fun slot used => absurd used (by simp [vacant.unused])) found
  have failed : (tableSystem Bool).Reachable ((state.take firstSlot).goto (.inl false)
      (.createFailed firstSlot state.creates)) := by
    refine taken.next (.step (.inl false) false) ?_
    rw [tableSystem_next]
    simp [tableNext, TableState.canStep, tableStep, TableState.goto]
  have released : (tableSystem Bool).Reachable (((state.take firstSlot).release firstSlot
      { (state.take firstSlot).slots firstSlot with
        tid := 0
        used := false }).goto (.inl false) .idle) := by
    refine failed.next (.step (.inl false) false) ?_
    rw [tableSystem_next]
    simp [tableNext, TableState.canStep, tableStep, TableState.goto, TableState.release,
      TableState.setSlot]
  refine ⟨_, released, ?_, ?_, ?_⟩
  · intro slot
    by_cases equal : slot = firstSlot
    · subst equal
      simp [TableState.goto, TableState.release, TableState.setSlot]
    · simp [TableState.goto, TableState.release, TableState.setSlot, TableState.take_other equal,
        equal, vacant.unused]
  · intro actor
    by_cases equal : actor = .inl false
    · subst equal
      simp [TableState.goto]
    · rw [TableState.goto_of_ne equal]
      exact vacant.idle actor
  · simp [TableState.goto, TableState.release, TableState.setSlot, TableState.take, vacant.nextTid]

theorem vacant_reachable (count : Nat) :
    ∃ state, (tableSystem Bool).Reachable state ∧ Vacant state ((count + 2) % 2 ^ 64) := by
  induction count with
  | zero =>
      refine ⟨freshTable, .init ?_, ?_⟩
      · exact ⟨fun _ => rfl, rfl, rfl, fun _ => rfl, fun _ => rfl, rfl, rfl, rfl, rfl, rfl⟩
      · exact ⟨fun _ => rfl, fun _ => rfl, rfl⟩
  | succ count inductionHypothesis =>
      obtain ⟨state, reached, vacant⟩ := inductionHypothesis
      obtain ⟨target, reachedNext, vacantNext⟩ := vacant.cycle reached
      refine ⟨target, reachedNext, ?_⟩
      rwa [Nat.mod_add_mod, Nat.add_right_comm] at vacantNext

end Wrap

end Luna.Threads
