import Luna.TimerDeadlines

/-!
# Generations of the child's timer

The messages of one child reach `luna_timer_manager_service` in any order, with timer
interrupts and the calls for the network deadline in between.  What the newest
generation asks for is what stands.
-/

namespace Luna.TimerManager

variable {Ntfn : Type}

/-- What a thread of the child asks for.  `task_timer_set_oneshot`, `task_timer_free`
and the rearm of `task_timer_service` send a generation that was counted up from 0. -/
structure Request where
  event : Event
  generation : Nat
  ns : Nat
  issued : generation ≠ 0
  deriving DecidableEq, Repr

/-- The message words: an arming asks for a nanosecond at least, a cancel for none. -/
def Request.message (request : Request) (ntfn : Ntfn) : Message Ntfn where
  childNtfn := ntfn
  event := request.event
  generation := request.generation
  timeoutNs :=
    match request.event with
    | .arm => if request.ns = 0 then 1 else request.ns
    | .cancel => 0

/-- A section under `timer_lock` while the child lives. -/
inductive Delivery where
  | serve (request : Request) (answers : Answers)
  | interrupt (fired : Bool) (answers : Answers)
  | scheduleNetwork (timeoutNs : Nat) (answers : Answers)
  | cancelNetwork (answers : Answers)
  deriving DecidableEq, Repr

def Delivery.operation (ntfn : Ntfn) : Delivery → Operation Ntfn
  | .serve request answers => .service (request.message ntfn) answers
  | .interrupt fired answers => .interrupt fired answers
  | .scheduleNetwork timeoutNs answers => .scheduleNetwork timeoutNs answers
  | .cancelNetwork answers => .cancelNetwork answers

def Delivery.requested : Delivery → Option Request
  | .serve request _ => some request
  | _ => none

/-- The greatest generation, 0 for none. -/
def newest : List Request → Nat
  | [] => 0
  | request :: rest => max request.generation (newest rest)

theorem newest_le {requests : List Request} {request : Request} (member : request ∈ requests) :
    request.generation ≤ newest requests := by
  induction requests with
  | nil => cases member
  | cons head rest inductionHypothesis =>
      rcases List.mem_cons.mp member with rfl | later
      · exact Nat.le_max_left _ _
      · exact Nat.le_trans (inductionHypothesis later) (Nat.le_max_right _ _)

section Runs

variable [DecidableEq Ntfn]

/-- The timer after deliveries, the newest of which is first. -/
def served (hardware : Hardware) (ntfn : Ntfn) : List Delivery → Timer Ntfn
  | [] => Timer.cleared Ntfn
  | delivery :: earlier =>
      ((served hardware ntfn earlier).perform hardware (delivery.operation ntfn)).1

/-- The newest generation owns the timer. -/
structure NewestOwns (hardware : Hardware) (ntfn : Ntfn) (deliveries : List Delivery) :
    Prop where
  generation : (served hardware ntfn deliveries).generation =
    newest (deliveries.filterMap Delivery.requested)
  armed : (served hardware ntfn deliveries).armed = true →
    ∃ request ∈ deliveries.filterMap Delivery.requested, request.event = .arm ∧
      request.generation = newest (deliveries.filterMap Delivery.requested)
  cancelled : ∀ cancel answers, .serve cancel answers ∈ deliveries → cancel.event = .cancel →
    ∀ arm later, arm.event = .arm → arm.generation < cancel.generation →
      served hardware ntfn (.serve arm later :: deliveries) = served hardware ntfn deliveries

/-- A request, the time stamps read for it and the answer of the PIT. -/
abbrev Served := Request × Answers

/-- What a delivery order does not change: the request and the answer of the PIT. -/
def Served.fixed (entry : Served) : Request × Bool := (entry.1, entry.2.pitSucceeds)

def Served.delivery (entry : Served) : Delivery := .serve entry.1 entry.2

/-- The child's notification is the only one the timer is given. -/
def Timer.OwnedBy (timer : Timer Ntfn) (ntfn : Ntfn) : Prop :=
  timer.childNtfn = none ∨ timer.childNtfn = some ntfn

/-! ## One delivery -/

section Delivered

variable {hardware : Hardware} {timer : Timer Ntfn} {ntfn : Ntfn} {request : Request}
  {answers : Answers}

omit [DecidableEq Ntfn] in
theorem Timer.OwnedBy.not_foreign (owned : timer.OwnedBy ntfn) :
    ¬ timer.Foreign (request.message ntfn) := by
  rintro ⟨current, registered, different⟩
  rcases owned with free | taken
  · rw [free] at registered
    cases registered
  · rw [taken] at registered
    cases registered
    exact different rfl

theorem Timer.perform_serve : (timer.perform hardware (.service (request.message ntfn) answers)).1 =
    (timer.service hardware (request.message ntfn) answers).1 := by
  unfold Timer.perform
  dsimp only
  exact congrArg Prod.fst (if_neg request.issued)

theorem Timer.serve_stale (stale : request.generation < timer.generation) :
    (timer.perform hardware (.service (request.message ntfn) answers)).1 = timer := by
  rw [Timer.perform_serve, Timer.service_rejected (.inr stale)]

/-- A request that is not stale is carried out. -/
theorem Timer.serve_fresh (hardware : Hardware) (answers : Answers) (owned : timer.OwnedBy ntfn)
    (fresh : timer.generation ≤ request.generation) :
    (timer.perform hardware (.service (request.message ntfn) answers)).1.generation =
        request.generation ∧
      (timer.perform hardware (.service (request.message ntfn) answers)).1.OwnedBy ntfn ∧
      ((timer.perform hardware (.service (request.message ntfn) answers)).1.armed = true ↔
        request.event = .arm ∧ answers.pitSucceeds = true) := by
  have current : ¬ (request.message ntfn).generation < timer.generation := Nat.not_lt_of_le fresh
  rw [Timer.perform_serve]
  cases event : request.event with
  | arm =>
      have timeout : (request.message ntfn).timeoutNs ≠ 0 := by
        unfold Request.message
        rw [event]
        dsimp only
        split <;> omega
      rw [Timer.service_arm owned.not_foreign current event timeout]
      unfold Timer.arm
      dsimp only
      split
      next programmed moved =>
        obtain ⟨succeeds, pit, rfl⟩ := Timer.programNext_eq moved
        exact ⟨rfl, .inr rfl, by simp [← succeeds]⟩
      next programmed moved =>
        obtain ⟨fails, pit, rfl⟩ := Timer.programNext_eq moved
        exact ⟨rfl, .inr rfl, by simp [← fails]⟩
  | cancel =>
      have timeout : (request.message ntfn).timeoutNs = 0 := by
        unfold Request.message
        rw [event]
      rw [Timer.service_cancel owned.not_foreign current event timeout]
      cases moved : timer.cancel hardware (request.message ntfn) answers with
      | mk programmed done =>
          obtain ⟨_, pit, rfl⟩ := Timer.programNext_eq moved
          exact ⟨rfl, owned, by simp⟩

/-- An operation that does not carry out a request of the child. -/
structure Timer.Quiet (timer after : Timer Ntfn) : Prop where
  generation : after.generation = timer.generation
  childNtfn : after.childNtfn = timer.childNtfn
  armed : after.armed = true → timer.armed = true

omit [DecidableEq Ntfn] in
theorem Timer.Quiet.reprogram (timer : Timer Ntfn) (now : Nat) (pitSucceeds : Bool) :
    timer.Quiet (timer.reprogram hardware now pitSucceeds) := by
  unfold Timer.reprogram
  split
  · split
    next programmed moved =>
      obtain ⟨_, pit, rfl⟩ := Timer.programNext_eq moved
      exact ⟨rfl, rfl, id⟩
    next programmed moved =>
      obtain ⟨_, pit, rfl⟩ := Timer.programNext_eq moved
      exact ⟨rfl, rfl, nofun⟩
  · exact ⟨rfl, rfl, id⟩

omit [DecidableEq Ntfn] in
theorem Timer.Quiet.interrupt (fired : Bool) :
    timer.Quiet ((timer.fire fired).handleTimerIrq hardware answers).1 := by
  rw [Timer.handleTimerIrq_expired]
  have programmed : ((timer.fire fired).expired answers.first answers.second).Quiet
      (((timer.fire fired).expired answers.first answers.second).reprogram hardware
        answers.second answers.pitSucceeds) := Timer.Quiet.reprogram _ _ _
  refine ⟨programmed.generation, programmed.childNtfn, fun armed => ?_⟩
  exact ((Bool.and_eq_true _ _).mp (programmed.armed armed)).1

omit [DecidableEq Ntfn] in
theorem Timer.Quiet.scheduleNetwork (timeoutNs : Nat) :
    timer.Quiet (timer.scheduleNetwork hardware timeoutNs answers).1 := by
  unfold Timer.scheduleNetwork
  split
  · exact ⟨rfl, rfl, id⟩
  · dsimp only
    split
    next programmed moved =>
      obtain ⟨_, pit, rfl⟩ := Timer.programNext_eq moved
      exact ⟨rfl, rfl, id⟩
    next programmed moved =>
      obtain ⟨_, pit, rfl⟩ := Timer.programNext_eq moved
      exact ⟨rfl, rfl, id⟩

omit [DecidableEq Ntfn] in
theorem Timer.Quiet.cancelNetwork : timer.Quiet (timer.cancelNetwork hardware answers).1 := by
  cases moved : timer.cancelNetwork hardware answers with
  | mk programmed done =>
      unfold Timer.cancelNetwork at moved
      split at moved
      · obtain ⟨_, pit, rfl⟩ := Timer.programNext_eq moved
        exact ⟨rfl, rfl, id⟩
      · cases moved
        exact ⟨rfl, rfl, id⟩

theorem Timer.Quiet.perform {delivery : Delivery} (other : delivery.requested = none) :
    timer.Quiet (timer.perform hardware (delivery.operation ntfn)).1 := by
  cases delivery with
  | serve request answers => cases other
  | interrupt fired answers => exact Timer.Quiet.interrupt fired
  | scheduleNetwork timeoutNs answers =>
      unfold Delivery.operation Timer.perform
      dsimp only
      split
      · exact ⟨rfl, rfl, id⟩
      · exact Timer.Quiet.scheduleNetwork timeoutNs
  | cancelNetwork answers => exact Timer.Quiet.cancelNetwork

end Delivered

/-! ## Every run -/

section Served

variable {hardware : Hardware} {ntfn : Ntfn}

/-- What the newest request leaves behind it. -/
structure GenerationInv (hardware : Hardware) (ntfn : Ntfn) (deliveries : List Delivery) :
    Prop where
  owned : (served hardware ntfn deliveries).OwnedBy ntfn
  generation : (served hardware ntfn deliveries).generation =
    newest (deliveries.filterMap Delivery.requested)
  armed : (served hardware ntfn deliveries).armed = true →
    ∃ request ∈ deliveries.filterMap Delivery.requested, request.event = .arm ∧
      request.generation = newest (deliveries.filterMap Delivery.requested)

theorem GenerationInv.serve {deliveries : List Delivery} {request : Request} {answers : Answers}
    (inv : GenerationInv hardware ntfn deliveries) :
    GenerationInv hardware ntfn (.serve request answers :: deliveries) := by
  have requests : (Delivery.serve request answers :: deliveries).filterMap Delivery.requested =
      request :: deliveries.filterMap Delivery.requested := rfl
  by_cases stale : request.generation < (served hardware ntfn deliveries).generation
  · have kept : served hardware ntfn (.serve request answers :: deliveries) =
        served hardware ntfn deliveries := Timer.serve_stale stale
    have greatest : newest (request :: deliveries.filterMap Delivery.requested) =
        newest (deliveries.filterMap Delivery.requested) :=
      Nat.max_eq_right (Nat.le_of_lt (inv.generation ▸ stale))
    refine ⟨?_, ?_, ?_⟩
    · rw [kept]
      exact inv.owned
    · rw [kept, requests, greatest]
      exact inv.generation
    · rw [kept, requests, greatest]
      intro armed
      obtain ⟨arm, member, found⟩ := inv.armed armed
      exact ⟨arm, List.mem_cons_of_mem _ member, found⟩
  · obtain ⟨generation, owned, armed⟩ :=
      Timer.serve_fresh hardware answers inv.owned (Nat.le_of_not_lt stale)
    have greatest : newest (request :: deliveries.filterMap Delivery.requested) =
        request.generation :=
      Nat.max_eq_left (inv.generation ▸ Nat.le_of_not_lt stale)
    refine ⟨owned, ?_, ?_⟩
    · rw [requests, greatest]
      exact generation
    · rw [requests, greatest]
      intro isArmed
      exact ⟨request, List.mem_cons_self, (armed.mp isArmed).1, rfl⟩

theorem GenerationInv.other {deliveries : List Delivery} {delivery : Delivery}
    (inv : GenerationInv hardware ntfn deliveries) (other : delivery.requested = none) :
    GenerationInv hardware ntfn (delivery :: deliveries) := by
  have quiet : (served hardware ntfn deliveries).Quiet
      (served hardware ntfn (delivery :: deliveries)) := Timer.Quiet.perform other
  have requests : (delivery :: deliveries).filterMap Delivery.requested =
      deliveries.filterMap Delivery.requested := by
    rw [List.filterMap_cons, other]
  refine ⟨?_, ?_, ?_⟩
  · unfold Timer.OwnedBy
    rw [quiet.childNtfn]
    exact inv.owned
  · rw [quiet.generation, requests]
    exact inv.generation
  · rw [requests]
    exact fun armed => inv.armed (quiet.armed armed)

theorem generationInv (hardware : Hardware) (ntfn : Ntfn) (deliveries : List Delivery) :
    GenerationInv hardware ntfn deliveries := by
  induction deliveries with
  | nil => exact ⟨.inl rfl, rfl, nofun⟩
  | cons delivery earlier inductionHypothesis =>
      cases delivery with
      | serve request answers => exact inductionHypothesis.serve
      | interrupt fired answers => exact inductionHypothesis.other rfl
      | scheduleNetwork timeoutNs answers => exact inductionHypothesis.other rfl
      | cancelNetwork answers => exact inductionHypothesis.other rfl

theorem newest_owns (hardware : Hardware) (ntfn : Ntfn) (deliveries : List Delivery) :
    NewestOwns hardware ntfn deliveries := by
  have inv := generationInv hardware ntfn deliveries
  refine ⟨inv.generation, inv.armed, ?_⟩
  intro cancel answers delivered _ arm later _ older
  apply Timer.serve_stale
  rw [inv.generation]
  refine Nat.lt_of_lt_of_le older (newest_le ?_)
  exact List.mem_filterMap.mpr ⟨_, delivered, rfl⟩

end Served

/-! ## Delivery orders -/

section Orders

variable {hardware : Hardware} {ntfn : Ntfn}

theorem requested_map (entries : List Served) :
    (entries.map Served.delivery).filterMap Delivery.requested = entries.map Prod.fst := by
  induction entries with
  | nil => rfl
  | cons entry rest inductionHypothesis => exact congrArg (entry.1 :: ·) inductionHypothesis

/-- With distinct generations the timer is armed iff the newest request armed it. -/
theorem served_armed_iff (entries : List Served)
    (distinct : (entries.map fun entry => entry.1.generation).Nodup) :
    (served hardware ntfn (entries.map Served.delivery)).armed = true ↔
      ∃ entry ∈ entries, entry.1.generation = newest (entries.map Prod.fst) ∧
        entry.1.event = .arm ∧ entry.2.pitSucceeds = true := by
  induction entries with
  | nil => exact ⟨nofun, nofun⟩
  | cons entry rest inductionHypothesis =>
      obtain ⟨fresh, distinctRest⟩ := List.nodup_cons.mp distinct
      have inv := generationInv hardware ntfn (rest.map Served.delivery)
      have generation := inv.generation
      rw [requested_map] at generation
      by_cases stale : entry.1.generation < newest (rest.map Prod.fst)
      · have kept : served hardware ntfn ((entry :: rest).map Served.delivery) =
            served hardware ntfn (rest.map Served.delivery) :=
          Timer.serve_stale (generation ▸ stale)
        have greatest : newest ((entry :: rest).map Prod.fst) = newest (rest.map Prod.fst) :=
          Nat.max_eq_right (Nat.le_of_lt stale)
        rw [kept, greatest, inductionHypothesis distinctRest]
        constructor
        · rintro ⟨owner, member, found⟩
          exact ⟨owner, List.mem_cons_of_mem _ member, found⟩
        · rintro ⟨owner, member, found⟩
          rcases List.mem_cons.mp member with rfl | later
          · exact absurd found.1 (Nat.ne_of_lt stale)
          · exact ⟨owner, later, found⟩
      · have current := Nat.le_of_not_lt stale
        have greatest : newest ((entry :: rest).map Prod.fst) = entry.1.generation :=
          Nat.max_eq_left current
        have carried := (Timer.serve_fresh hardware entry.2 inv.owned
          (generation ▸ current : _ ≤ entry.1.generation)).2.2
        rw [greatest]
        refine Iff.trans carried ?_
        constructor
        · intro asked
          exact ⟨entry, List.mem_cons_self, rfl, asked⟩
        · rintro ⟨owner, member, same, asked⟩
          rcases List.mem_cons.mp member with rfl | later
          · exact asked
          · exact absurd (List.mem_map.mpr ⟨owner, later, same⟩) fresh

theorem newest_perm {first second : List Request} (same : first.Perm second) :
    newest first = newest second := by
  induction same with
  | nil => rfl
  | cons request _ inductionHypothesis => exact congrArg (max request.generation) inductionHypothesis
  | swap first second rest => exact Nat.max_left_comm _ _ _
  | trans _ _ firstHypothesis secondHypothesis => exact firstHypothesis.trans secondHypothesis

/-- Both orders deliver the same requests, and the PIT answers each the same. -/
def SameRequests (first second : List Served) : Prop :=
  (first.map Served.fixed).Perm (second.map Served.fixed)

theorem SameRequests.newest {first second : List Served} (same : SameRequests first second) :
    newest (first.map Prod.fst) = newest (second.map Prod.fst) := by
  have requests := List.Perm.map Prod.fst same
  rw [List.map_map, List.map_map] at requests
  exact newest_perm requests

theorem SameRequests.armed {first second : List Served} (same : SameRequests first second)
    (distinct : (first.map fun entry => entry.1.generation).Nodup)
    (armed : (served hardware ntfn (first.map Served.delivery)).armed = true) :
    (served hardware ntfn (second.map Served.delivery)).armed = true := by
  have generations := List.Perm.map (fun fixed : Request × Bool => fixed.1.generation) same
  rw [List.map_map, List.map_map] at generations
  obtain ⟨entry, member, newest, event, succeeds⟩ := (served_armed_iff first distinct).mp armed
  obtain ⟨other, delivered, alike⟩ :=
    List.mem_map.mp (same.mem_iff.mp (List.mem_map_of_mem member))
  obtain ⟨request, answer⟩ := Prod.mk.inj alike
  refine (served_armed_iff second (generations.nodup_iff.mp distinct)).mpr
    ⟨other, delivered, ?_, ?_, ?_⟩
  · rw [request, newest, same.newest]
  · rw [request, event]
  · rw [answer, succeeds]

/-- Without interrupts the order of delivery does not matter. -/
theorem served_order {first second : List Served} (same : SameRequests first second)
    (distinct : (first.map fun entry => entry.1.generation).Nodup) :
    (served hardware ntfn (first.map Served.delivery)).armed =
        (served hardware ntfn (second.map Served.delivery)).armed ∧
      (served hardware ntfn (first.map Served.delivery)).generation =
        (served hardware ntfn (second.map Served.delivery)).generation := by
  have generations := List.Perm.map (fun fixed : Request × Bool => fixed.1.generation) same
  rw [List.map_map, List.map_map] at generations
  constructor
  · rw [Bool.eq_iff_iff]
    exact ⟨same.armed distinct, SameRequests.armed (List.Perm.symm same)
      (generations.nodup_iff.mp distinct)⟩
  · rw [(generationInv _ _ _).generation, (generationInv _ _ _).generation, requested_map,
      requested_map, same.newest]

end Orders

/-- The newest request decides, whatever the order the requests are served in. -/
theorem newest_wins (hardware : Hardware) (ntfn : Ntfn) :
    (∀ deliveries, NewestOwns hardware ntfn deliveries) ∧
      ∀ first second : List Served, SameRequests first second →
        (first.map fun entry => entry.1.generation).Nodup →
        (served hardware ntfn (first.map Served.delivery)).armed =
            (served hardware ntfn (second.map Served.delivery)).armed ∧
          (served hardware ntfn (first.map Served.delivery)).generation =
            (served hardware ntfn (second.map Served.delivery)).generation :=
  ⟨newest_owns hardware ntfn, fun _ _ same distinct => served_order same distinct⟩

end Runs

/-- An arming, its cancel and the next arming, in two orders. -/
theorem newest_wins_twice :
    (served pitHardware () [.serve ⟨.arm, 1, 5, by decide⟩ ⟨8, 9, true⟩,
        .interrupt true ⟨6, 7, true⟩, .serve ⟨.cancel, 2, 0, by decide⟩ ⟨4, 5, true⟩,
        .serve ⟨.arm, 1, 5, by decide⟩ ⟨1, 2, true⟩]).generation = 2 ∧
      (served pitHardware () ([(⟨.cancel, 2, 0, by decide⟩, ⟨1, 2, true⟩),
          (⟨.arm, 3, 5, by decide⟩, ⟨3, 4, true⟩),
          (⟨.arm, 1, 5, by decide⟩, ⟨5, 6, true⟩)].map Served.delivery)).armed = true := by
  refine ⟨((newest_wins pitHardware ()).1 _).generation, ?_⟩
  refine (((newest_wins pitHardware ()).2 _ [(⟨.arm, 1, 5, by decide⟩, ⟨1, 2, true⟩),
    (⟨.cancel, 2, 0, by decide⟩, ⟨3, 4, true⟩), (⟨.arm, 3, 5, by decide⟩, ⟨5, 6, true⟩)]
    (by unfold SameRequests; decide +kernel) (by decide)).1).trans (by decide +kernel)

end Luna.TimerManager
