import Luna.Net.TxWake

/-!
# The network timer across children

The main thread takes a child down (`luna_timer_manager_deactivate`,
`luna_network_deactivate_child`, then the suspension of its threads) and maps the
next one (`luna_network_map_child`), while the poll loop of `PollLoop` runs on.
Each access to what the poll thread shares is a step.  `tx_idle_ntfn` may be
pending at any time; the receive queue is left out.

After the cancel the header is all that keeps the timer disarmed: `Quiet` is what
the quiescence check gives, `Calm` what it becomes when no request is left.
-/

namespace Luna.Net

open Interleaving
open TimerManager (Answers Hardware Message Timer Wakes)

variable {Sender Ntfn : Type}

/-- Program counter of the main thread; `serving` is anywhere outside the two
functions. -/
inductive MainThread where
  | serving
  -- luna_timer_manager_deactivate
  | timerDeactivate
  -- luna_network_deactivate_child
  | storeInactive
  | storeGate
  | kickPoll
  | checkDriver
  | checkPending
  | checkQueue
  | waitIdle
  | cancelTimer
  | signalTx
  -- luna_network_map_child
  | pollTx (activate : Bool)
  | resetHead (activate : Bool)
  | resetTail (activate : Bool)
  | resetSubmit (activate : Bool)
  | resetRequest (activate : Bool)
  | resetResponse (activate : Bool)
  | resetAccepted (activate : Bool)
  | resetGate (activate : Bool)
  | resetPending (activate : Bool)
  | storeActive (activate : Bool)
  | kickActive
  deriving DecidableEq, Repr

/-- `childRuns` is whether the child's threads are not suspended, `detached`
whether there is no child the network serves: `luna_network_deactivate_child`
has returned, and the next child was not activated. -/
structure NetState (Sender Ntfn : Type) where
  net : LoopState Sender Ntfn
  main : MainThread
  childRuns : Bool
  detached : Bool

inductive NetAction (Sender Ntfn : Type) where
  | net (action : LoopAction Sender Ntfn)
  | destroy
  | suspend
  | map (activate : Bool)
  /-- A new process starts, with its worker before its first packet. -/
  | spawn (child : TxBackend Sender)
  | main (answers : Answers)

section Steps

/-- What the rest of the system can do while the main thread is where it is. -/
def NetState.allows (state : NetState Sender Ntfn) : LoopAction Sender Ntfn → Bool
  | .child _ => state.childRuns
  | .netTx _ | .netTxBatch _ | .stepMain | .timerService _ _ | .stressGate _ | .kick =>
      state.main == .serving
  | .childActive _ => false
  | .completion _ | .rawTx _ | .poll _ _ | .netInterrupt | .netIrq | .timerInterrupt _
  | .timerIrq => true

/-- The main thread is between two calls. -/
def NetState.free (state : NetState Sender Ntfn) : Bool :=
  state.main == .serving && state.net.ring.main == .idle

def NetState.shared (state : NetState Sender Ntfn) (main : MainThread) (shared : TxShared) :
    NetState Sender Ntfn :=
  { state with
    net := state.net.withShared shared
    main := main }

/-- One step of the main thread. -/
def stepMainThread (hardware : Hardware) (state : NetState Sender Ntfn) (answers : Answers) :
    Option (NetState Sender Ntfn) :=
  let ring := state.net.ring
  match state.main with
  | .serving => none
  | .timerDeactivate =>
      some { state with
        net := { state.net with timer := state.net.timer.deactivate answers.pitSucceeds }
        main := .storeInactive }
  | .storeInactive => some (state.shared .storeGate { ring.shared with childActive := false })
  | .storeGate => some (state.shared .kickPoll { ring.shared with stressGate := false })
  | .kickPoll => some (state.shared .checkDriver { ring.shared with pollKick := true })
  | .checkDriver =>
      some { state with main := if state.net.pollInDriver then .waitIdle else .checkPending }
  | .checkPending =>
      some { state with main := if ring.pending = 0 then .checkQueue else .waitIdle }
  | .checkQueue =>
      some { state with
        main := if ring.shared.head = ring.shared.tail then .cancelTimer else .waitIdle }
  | .waitIdle => some { state with main := .checkDriver }
  | .cancelTimer =>
      some { state with
        net := { state.net with timer := (state.net.timer.cancelNetwork hardware answers).1 }
        main := .signalTx }
  | .signalTx =>
      some { state.shared .serving { ring.shared with txNtfn := true } with detached := true }
  | .pollTx activate =>
      some (state.shared (.resetHead activate) { ring.shared with txNtfn := false })
  | .resetHead activate => some (state.shared (.resetTail activate) { ring.shared with head := 0 })
  | .resetTail activate =>
      some (state.shared (.resetSubmit activate) { ring.shared with tail := 0 })
  | .resetSubmit activate =>
      some { state with
        net := { state.net with ring := { ring with submit := 0 } }
        main := .resetRequest activate }
  | .resetRequest activate =>
      some (state.shared (.resetResponse activate)
        { ring.shared with header := { ring.shared.header with txRequestSequence := 0 } })
  | .resetResponse activate =>
      some (state.shared (.resetAccepted activate)
        { ring.shared with header := { ring.shared.header with txResponseSequence := 0 } })
  | .resetAccepted activate =>
      some (state.shared (.resetGate activate)
        { ring.shared with header := { ring.shared.header with txAccepted := 0 } })
  | .resetGate activate =>
      some (state.shared (.resetPending activate) { ring.shared with stressGate := false })
  | .resetPending activate =>
      some { state with
        net := { state.net with ring := { ring with
          pending := 0
          dma := fun buffer => { ring.dma buffer with
            inUse := false
            queueIndex := 0 } } }
        main := .storeActive activate }
  | .storeActive activate =>
      some { state.shared (if activate then .kickActive else .serving)
          { ring.shared with childActive := activate } with
        detached := !activate }
  | .kickActive => some (state.shared .serving { ring.shared with pollKick := true })

def netNext [DecidableEq Sender] [DecidableEq Ntfn] (hardware : Hardware)
    (state : NetState Sender Ntfn) : NetAction Sender Ntfn → Option (NetState Sender Ntfn)
  | .net action =>
      if state.allows action then
        (loopNext hardware state.net action).map fun net => { state with net }
      else none
  | .destroy => if state.free then some { state with main := .timerDeactivate } else none
  | .suspend =>
      if state.free && state.detached then some { state with childRuns := false } else none
  | .map activate =>
      if state.free && state.detached && !state.childRuns then
        some { state with main := .pollTx activate }
      else none
  | .spawn child =>
      if state.free && !state.childRuns && child.worker == .workDown then
        some { state with
          net := { state.net with child := child }
          childRuns := true }
      else none
  | .main answers => stepMainThread hardware state answers

end Steps

/-! ## What is claimed -/

/-- The manager before its first child. -/
structure NetInitial (state : NetState Sender Ntfn) : Prop where
  net : LoopInitial state.net
  active : state.net.ring.shared.childActive = false
  driver : state.net.pollInDriver = false
  main : state.main = .serving
  childRuns : state.childRuns = false
  detached : state.detached = true

def netSystem (Sender Ntfn : Type) [DecidableEq Sender] [DecidableEq Ntfn] (hardware : Hardware) :
    System (NetState Sender Ntfn) (NetAction Sender Ntfn) :=
  ⟨NetInitial, netNext hardware⟩

/-- While there is no active child the network timer is disarmed. -/
def TimerDetached (state : NetState Sender Ntfn) : Prop :=
  state.detached = true → state.net.timer.networkArmed = false

/-- What `tx_response_pending` finds. -/
def BatchHeader.Outstanding (header : BatchHeader) : Prop :=
  header.txRequestSequence ≠ 0 ∧ header.txRequestSequence ≠ header.txResponseSequence

instance (header : BatchHeader) : Decidable header.Outstanding := by
  unfold BatchHeader.Outstanding
  infer_instance

def TxWorker.stores : TxWorker → Bool
  | .storeRequest _ _ => true
  | _ => false

/-- The network timer was cancelled for the last child. -/
def NetState.gone (state : NetState Sender Ntfn) : Bool :=
  state.detached || state.main == .signalTx

/-- The child leaves no request behind: none is outstanding when the timer is
cancelled, and none is stored from then on until the next child is active. -/
def LeavesNoRequest (state : NetState Sender Ntfn) : NetAction Sender Ntfn → Prop
  | .main _ => state.main = .cancelTimer → ¬ state.net.header.Outstanding
  | .net (.child .worker) => state.gone = true → state.net.child.worker.stores = false
  | _ => True

instance (state : NetState Sender Ntfn) (action : NetAction Sender Ntfn) :
    Decidable (LeavesNoRequest state action) := by
  unfold LeavesNoRequest
  split <;> infer_instance

/-! ## Steps beside the poll thread -/

/-- What a step of anything but the poll thread and the main thread's two
functions leaves alone. -/
structure Beside (state target : LoopState Sender Ntfn) : Prop where
  loop : target.loop = state.loop
  thread : target.ring.poll.thread = state.ring.poll.thread
  driver : target.pollInDriver = state.pollInDriver
  active : target.ring.shared.childActive = state.ring.shared.childActive
  response : target.header.txResponseSequence = state.header.txResponseSequence
  accepted : target.header.txAccepted = state.header.txAccepted
  main : target.ring.main.endpoint
  armed : target.timer.networkArmed = true → state.timer.networkArmed = true

/-- A message or an interrupt never arms the network timer. -/
theorem handleTimerIrq_idle {timer : Timer Ntfn} {hardware : Hardware} {answers : Answers}
    (armed : (timer.handleTimerIrq hardware answers).1.networkArmed = true) :
    timer.networkArmed = true := by
  have child : (timer.expireChild answers.first).1.networkArmed = timer.networkArmed := by
    unfold TimerManager.Timer.expireChild
    split <;> rfl
  have network : ∀ timer : Timer Ntfn,
      (timer.expireNetwork answers.second).1.networkArmed = true → timer.networkArmed = true := by
    intro timer armed
    unfold TimerManager.Timer.expireNetwork at armed
    split at armed
    · cases armed
    · exact armed
  have programmed : ∀ timer : Timer Ntfn,
      (timer.reprogram hardware answers.second answers.pitSucceeds).networkArmed = true →
      timer.networkArmed = true := by
    intro timer armed
    unfold TimerManager.Timer.reprogram at armed
    split at armed
    next =>
      split at armed
      next next succeeded =>
        obtain ⟨_, pit, rfl⟩ := TimerManager.Timer.programNext_eq succeeded
        exact armed
      next => cases armed
    next => exact armed
  exact child.symm.trans (network _ (programmed _ armed))

section Invariant

variable {state target : LoopState Sender Ntfn}

/-- The worker takes its next step, or it stands still and so does the request. -/
def WorkerMoves (action : LoopAction Sender Ntfn) (state target : LoopState Sender Ntfn) : Prop :=
  (action = .child .worker ∧
      ChildSpec state.child state.ring.shared target.child target.ring.shared) ∨
    (target.child.worker = state.child.worker ∧
      target.header.txRequestSequence = state.header.txRequestSequence)

/-- A step of the child that is not one of its worker. -/
theorem stepChild_other [DecidableEq Sender] {action : ChildAction Sender}
    (other : action ≠ .worker) (moved : stepChild state action = some target) :
    target.child.worker = state.child.worker ∧ target.ring.shared = state.ring.shared := by
  obtain ⟨sent, stepped, rfl⟩ := Option.map_eq_some_iff.mp moved
  cases action with
  | send sender iov =>
      simp only [ChildAction.txAction, txNext] at stepped
      split at stepped
      next free =>
        split at stepped <;> cases stepped
        exact ⟨rfl, rfl⟩
      next busy => cases stepped
  | call sender =>
      obtain ⟨child, called, rfl⟩ := Option.map_eq_some_iff.mp stepped
      exact ⟨stepCall_worker called, rfl⟩
  | worker => exact absurd rfl other
  | coalesce slept =>
      obtain ⟨child, called, rfl⟩ := Option.map_eq_some_iff.mp stepped
      exact ⟨stepCoalesce_worker called, rfl⟩
  | stop =>
      cases stepped
      exact ⟨rfl, rfl⟩

theorem Beside.ring {ring : RingState} (thread : ring.poll.thread = state.ring.poll.thread)
    (header : ring.shared.header = state.header)
    (active : ring.shared.childActive = state.ring.shared.childActive)
    (main : ring.main.endpoint) : Beside state { state with ring } :=
  ⟨rfl, thread, rfl, active, congrArg _ header, congrArg _ header, main, id⟩

theorem beside_of_loopNext [DecidableEq Sender] [DecidableEq Ntfn] {hardware : Hardware}
    {action : LoopAction Sender Ntfn} (main : state.ring.main.endpoint)
    (polls : ∀ more answers, action ≠ .poll more answers)
    (activates : ∀ active, action ≠ .childActive active)
    (moved : loopNext hardware state action = some target) :
    Beside state target ∧ WorkerMoves action state target := by
  have still : target.child.worker = state.child.worker →
      target.header.txRequestSequence = state.header.txRequestSequence →
      Beside state target → Beside state target ∧ WorkerMoves action state target :=
    fun worker request beside => ⟨beside, .inr ⟨worker, request⟩⟩
  cases action with
  | child action =>
      by_cases works : action = .worker
      · subst works
        obtain ⟨child, shared, spec, rfl⟩ := stepChild_spec moved
        exact ⟨⟨rfl, rfl, rfl, spec.active, spec.response, spec.accepted, main, id⟩,
          .inl ⟨rfl, spec⟩⟩
      · obtain ⟨worker, same⟩ := stepChild_other works moved
        obtain ⟨child, shared, spec, rfl⟩ := stepChild_spec moved
        refine still worker ?_ ⟨rfl, rfl, rfl, spec.active, spec.response, spec.accepted, main, id⟩
        exact congrArg (fun shared => shared.header.txRequestSequence) same
  | netTx length =>
      obtain ⟨ring, entered, rfl⟩ := Option.map_eq_some_iff.mp moved
      replace entered : state.ring.enterMain (serviceTx length) = some ring := entered
      unfold RingState.enterMain at entered
      split at entered <;> cases entered
      exact still rfl rfl (.ring rfl rfl rfl (serviceTx_endpoint length))
  | netTxBatch requested =>
      obtain ⟨ring, entered, rfl⟩ := Option.map_eq_some_iff.mp moved
      replace entered : state.ring.enterMain (serviceTxBatch .endpoint requested) = some ring :=
        entered
      unfold RingState.enterMain at entered
      split at entered <;> cases entered
      exact still rfl rfl (.ring rfl rfl rfl (serviceTxBatch_endpoint requested))
  | stepMain =>
      obtain ⟨ring, stepped, rfl⟩ := Option.map_eq_some_iff.mp moved
      obtain ⟨⟨shared, next⟩, served, rfl⟩ := Option.map_eq_some_iff.mp stepped
      have sends := txStep_sends served
      have unheld := main.1
      refine still rfl sends.request ⟨rfl, rfl, rfl, sends.active, ?_, ?_,
        txStep_endpoint main served, id⟩
      · refine sends.response.elim id fun stores => ?_
        rw [stores] at unheld
        cases unheld
      · refine sends.accepted.elim id fun stores => ?_
        rw [stores.choose_spec] at unheld
        cases unheld
  | timerService message answers =>
      cases moved
      exact still rfl rfl ⟨rfl, rfl, rfl, rfl, rfl, rfl, main,
        (state.timer.service_network hardware message answers).1.symm.trans⟩
  | stressGate closed =>
      cases moved
      exact still rfl rfl (.ring rfl rfl rfl main)
  | childActive active => exact absurd rfl (activates active)
  | kick =>
      cases moved
      exact still rfl rfl (.ring rfl rfl rfl main)
  | completion cookie =>
      simp only [loopNext] at moved
      split at moved
      all_goals
        first
          | cases moved
          | obtain ⟨ring, reported, rfl⟩ := Option.map_eq_some_iff.mp moved
            obtain ⟨quiet, outside⟩ := completion_quiet reported
            exact still rfl (congrArg _ quiet.header) (.ring (quiet.thread.trans outside.symm)
              quiet.header quiet.active (by rw [quiet.main]; exact main))
  | rawTx result =>
      obtain ⟨ring, answered, rfl⟩ := Option.map_eq_some_iff.mp moved
      obtain ⟨quiet, outside⟩ := rawTx_quiet answered
      exact still rfl (congrArg _ quiet.header) (.ring (quiet.thread.trans outside.symm)
        quiet.header quiet.active (by rw [quiet.main]; exact main))
  | poll more answers => exact absurd rfl (polls more answers)
  | netInterrupt =>
      cases moved
      exact still rfl rfl ⟨rfl, rfl, rfl, rfl, rfl, rfl, main, id⟩
  | netIrq =>
      replace moved : stepNetIrq state = some target := moved
      unfold stepNetIrq at moved
      split at moved
      · split at moved <;> cases moved
        exact still rfl rfl ⟨rfl, rfl, rfl, rfl, rfl, rfl, main, id⟩
      · cases moved
        exact still rfl rfl ⟨rfl, rfl, rfl, rfl, rfl, rfl, main, id⟩
      · split at moved <;> cases moved
        exact still rfl rfl ⟨rfl, rfl, rfl, rfl, rfl, rfl, main, id⟩
      · cases moved
        exact still rfl rfl ⟨rfl, rfl, rfl, rfl, rfl, rfl, main, id⟩
  | timerInterrupt answers =>
      simp only [loopNext] at moved
      split at moved <;> cases moved
      exact still rfl rfl ⟨rfl, rfl, rfl, rfl, rfl, rfl, main, handleTimerIrq_idle⟩
  | timerIrq =>
      replace moved : stepTimerIrq state = some target := moved
      unfold stepTimerIrq at moved
      split at moved <;> cases moved
      · exact still rfl rfl ⟨rfl, rfl, rfl, rfl, rfl, rfl, main, id⟩
      · exact still rfl rfl ⟨rfl, rfl, rfl, rfl, rfl, rfl, main, id⟩

end Invariant

/-! ## Steps of the poll thread -/

/-- The edges of the loop, with the routine of the TX service they enter. -/
inductive LoopEdge (header : BatchHeader) : LoopThread → LoopThread → TxThread → Prop
  | wakes {irqEvent timerEvent} : LoopEdge header .wait (.enterDriver irqEvent timerEvent) .idle
  | acks {irqEvent timerEvent} :
      LoopEdge header (.enterDriver irqEvent timerEvent) (.ackIrq timerEvent) .idle
  | enters {irqEvent timerEvent pass} :
      LoopEdge header (.enterDriver irqEvent timerEvent) (.polling .first pass) .idle
  | acked {timerEvent pass} : LoopEdge header (.ackIrq timerEvent) (.polling .first pass) .idle
  | polled {round pass next} :
      LoopEdge header (.polling round pass) (.processBefore round next) .idle
  | processed {round pass} :
      LoopEdge header (.processBefore round pass) (.serve round pass) .notifyActive
  | served {round pass} : LoopEdge header (.serve round pass) (.processAfter round pass) .idle
  | emptied {round pass} :
      LoopEdge header (.processAfter round pass) (.loadRequest round pass) .idle
  | idles {round pass} (none : header.txRequestSequence = 0) :
      LoopEdge header (.loadRequest round pass) (.again pass) .idle
  | loads {round pass} (some : header.txRequestSequence ≠ 0) :
      LoopEdge header (.loadRequest round pass)
        (.loadResponse round pass header.txRequestSequence) .idle
  | answered {round pass request} (same : request = header.txResponseSequence) :
      LoopEdge header (.loadResponse round pass request) (.again pass) .idle
  | rechecks {pass request} (differs : request ≠ header.txResponseSequence) :
      LoopEdge header (.loadResponse .first pass request) (.polling .recheck pass) .idle
  | retries {pass request} (differs : request ≠ header.txResponseSequence) :
      LoopEdge header (.loadResponse .recheck pass request) (.retry pass) .retryRequest
  | schedules {pass request} (differs : request ≠ header.txResponseSequence) :
      LoopEdge header (.loadResponse .recheck pass request) (.schedule pass) .idle
  | retried {pass next} : LoopEdge header (.retry pass) (.again next) .idle
  | scheduled {pass} : LoopEdge header (.schedule pass) (.again pass) .idle
  | repeats {pass} : LoopEdge header (.again pass) (.polling .first pass) .idle
  | leaves {pass} : LoopEdge header (.again pass) .leaveDriver .idle
  | rests : LoopEdge header .leaveDriver .wait .idle

/-- The poll thread is outside the driver. -/
def LoopThread.outside : LoopThread → Bool
  | .wait | .enterDriver _ _ => true
  | _ => false

/-- What a step of the poll thread between two routines leaves alone. -/
structure LoopMove (state target : LoopState Sender Ntfn) : Prop where
  edge : LoopEdge state.header state.loop target.loop target.ring.poll.thread
  header : target.header = state.header
  active : target.ring.shared.childActive = state.ring.shared.childActive
  child : target.child = state.child
  main : target.ring.main = state.ring.main
  driver : target.pollInDriver = false → target.loop.outside = false →
    state.pollInDriver = false ∧ state.loop.outside = false
  timer : (∀ pass, state.loop ≠ .schedule pass) → target.timer = state.timer

section Poll

variable {state target : LoopState Sender Ntfn} {hardware : Hardware} {more : Bool}
  {answers : Answers}

theorem loopStep_move (stands : state.ring.poll = .service .idle)
    (moved : loopStep hardware state more answers = some target) : LoopMove state target := by
  have idle : state.ring.poll.thread = .idle := by rw [stands]; rfl
  unfold loopStep at moved
  cases at_ : state.loop with
  | wait =>
      simp only [at_] at moved
      split at moved <;> cases moved
      exact ⟨by rw [at_]; dsimp only; rw [idle]; exact .wakes, rfl, rfl, rfl, rfl, nofun,
        fun _ => rfl⟩
  | enterDriver irqEvent timerEvent =>
      simp only [at_] at moved
      cases moved
      refine ⟨?_, rfl, rfl, rfl, rfl, nofun, fun _ => rfl⟩
      dsimp only
      rw [at_, idle]
      split
      · exact .acks
      · exact .enters
  | ackIrq timerEvent =>
      simp only [at_] at moved
      cases moved
      refine ⟨?_, rfl, rfl, rfl, rfl, fun driver _ => ⟨driver, by rw [at_]; rfl⟩, fun _ => rfl⟩
      dsimp only
      rw [at_, idle]
      exact .acked
  | polling round pass =>
      cases round <;> simp only [at_] at moved <;> cases moved
      · exact ⟨by rw [at_]; exact .polled, rfl, rfl, rfl, rfl,
          fun driver _ => ⟨driver, by rw [at_]; rfl⟩, fun _ => rfl⟩
      · exact ⟨by rw [at_]; exact .polled, rfl, rfl, rfl, rfl,
          fun driver _ => ⟨driver, by rw [at_]; rfl⟩, fun _ => rfl⟩
  | processBefore round pass =>
      simp only [at_] at moved
      cases moved
      exact ⟨by rw [at_]; exact .processed, rfl, rfl, rfl, rfl,
        fun driver _ => ⟨driver, by rw [at_]; rfl⟩, fun _ => rfl⟩
  | serve round pass =>
      simp only [at_] at moved
      cases moved
      exact ⟨by rw [at_]; exact .served, rfl, rfl, rfl, rfl,
        fun driver _ => ⟨driver, by rw [at_]; rfl⟩, fun _ => rfl⟩
  | processAfter round pass =>
      simp only [at_] at moved
      cases moved
      exact ⟨by rw [at_]; dsimp only; rw [idle]; exact .emptied, rfl, rfl, rfl, rfl,
        fun driver _ => ⟨driver, by rw [at_]; rfl⟩, fun _ => rfl⟩
  | loadRequest round pass =>
      simp only [at_] at moved
      cases moved
      refine ⟨?_, rfl, rfl, rfl, rfl, fun driver _ => ⟨driver, by rw [at_]; rfl⟩, fun _ => rfl⟩
      dsimp only
      rw [at_, idle]
      split
      next none => exact .idles none
      next some => exact .loads some
  | loadResponse round pass request =>
      have driver : ∀ {inDriver : Bool}, inDriver = false →
          inDriver = false ∧ state.loop.outside = false :=
        fun outside => ⟨outside, by rw [at_]; rfl⟩
      simp only [at_] at moved
      split at moved
      next same =>
        cases moved
        exact ⟨by rw [at_]; dsimp only; rw [idle]; exact .answered same, rfl, rfl, rfl, rfl,
          fun outside _ => driver outside, fun _ => rfl⟩
      next differs =>
        cases round with
        | first =>
            cases moved
            exact ⟨by rw [at_]; dsimp only; rw [idle]; exact .rechecks differs, rfl, rfl, rfl, rfl,
              fun outside _ => driver outside, fun _ => rfl⟩
        | recheck =>
            dsimp only at moved
            split at moved <;> cases moved
            · exact ⟨by rw [at_]; exact .retries differs, rfl, rfl, rfl, rfl,
                fun outside _ => driver outside, fun _ => rfl⟩
            · exact ⟨by rw [at_]; dsimp only; rw [idle]; exact .schedules differs, rfl, rfl, rfl,
                rfl, fun outside _ => driver outside, fun _ => rfl⟩
  | retry pass =>
      simp only [at_] at moved
      cases moved
      exact ⟨by rw [at_]; dsimp only; rw [idle]; exact .retried, rfl, rfl, rfl, rfl,
        fun driver _ => ⟨driver, by rw [at_]; rfl⟩, fun _ => rfl⟩
  | schedule pass =>
      simp only [at_] at moved
      cases moved
      exact ⟨by rw [at_]; dsimp only; rw [idle]; exact .scheduled, rfl, rfl, rfl, rfl,
        fun driver _ => ⟨driver, by rw [at_]; rfl⟩, fun other => absurd at_ (other pass)⟩
  | again pass =>
      simp only [at_] at moved
      cases moved
      refine ⟨?_, rfl, rfl, rfl, rfl, fun driver _ => ⟨driver, by rw [at_]; rfl⟩, fun _ => rfl⟩
      dsimp only
      rw [at_, idle]
      split
      · exact .repeats
      · exact .leaves
  | leaveDriver =>
      simp only [at_] at moved
      cases moved
      exact ⟨by rw [at_]; dsimp only; rw [idle]; exact .rests, rfl, rfl, rfl, rfl, nofun,
        fun _ => rfl⟩

/-- What a step inside a routine leaves alone; `thread` is where it was in the TX
service, and the header changes only there. -/
structure RoutineMove (state target : LoopState Sender Ntfn) : Prop where
  loop : target.loop = state.loop
  child : target.child = state.child
  main : target.ring.main = state.ring.main
  driver : target.pollInDriver = state.pollInDriver
  armed : target.timer.networkArmed = true → state.timer.networkArmed = true
  service : (state.ring.poll.thread = .idle ∧ target.ring.poll.thread = .idle ∧
      target.header = state.header ∧
      target.ring.shared.childActive = state.ring.shared.childActive) ∨
    txStep state.ring.shared state.ring.poll.thread =
      some (target.ring.shared, target.ring.poll.thread)

theorem routineStep_move (moved : routineStep hardware state answers = some target) :
    RoutineMove state target := by
  obtain ⟨ring, stepped, rfl⟩ := Option.map_eq_some_iff.mp moved
  have kept : (state.ring.poll.thread = .idle ∧ ring.poll.thread = .idle ∧
      ring.shared.header = state.header ∧
      ring.shared.childActive = state.ring.shared.childActive) ∨
      txStep state.ring.shared state.ring.poll.thread = some (ring.shared, ring.poll.thread) := by
    by_cases outside : ∀ thread, state.ring.poll ≠ .service thread
    · have quiet := pollStep_quiet stepped outside
      refine .inl ⟨?_, quiet.thread, quiet.header, quiet.active⟩
      cases stands : state.ring.poll with
      | service thread => exact absurd stands (outside thread)
      | _ => rfl
    · obtain ⟨thread, stands⟩ := not_forall_not.mp outside
      rw [stands] at stepped
      obtain ⟨⟨shared, next⟩, served, rfl⟩ := Option.map_eq_some_iff.mp stepped
      exact .inr (by rw [stands]; exact served)
  have main : ring.main = state.ring.main := by
    by_cases outside : ∀ thread, state.ring.poll ≠ .service thread
    · exact (pollStep_quiet stepped outside).main
    · obtain ⟨thread, stands⟩ := not_forall_not.mp outside
      rw [stands] at stepped
      obtain ⟨⟨shared, next⟩, served, rfl⟩ := Option.map_eq_some_iff.mp stepped
      rfl
  cases stands : state.ring.poll with
  | service thread =>
      cases thread with
      | cancelTimer sequence accepted =>
          refine ⟨rfl, rfl, main, rfl, ?_, kept⟩
          intro armed
          have cancelled := state.timer.cancelNetwork_network hardware answers
          dsimp only at armed
          rw [cancelled] at armed
          cases armed
      | _ => exact ⟨rfl, rfl, main, rfl, id, kept⟩
  | _ => exact ⟨rfl, rfl, main, rfl, id, kept⟩

end Poll

/-! ## The invariant -/

/-- A sequence the TX service has loaded is the current request, or one that was
answered since. -/
def Engaged (header : BatchHeader) : TxThread → Prop
  | .notifyResponse sequence | .retryResponse sequence =>
      sequence = header.txRequestSequence ∨ sequence = header.txResponseSequence
  | thread => ∀ sequence, thread.held = some sequence →
      sequence = header.txRequestSequence ∧
        header.txRequestSequence ≠ header.txResponseSequence

/-- The second look, up to the decision to arm the timer. -/
def LoopThread.rechecking : LoopThread → Bool
  | .polling .recheck _ | .processBefore .recheck _ | .serve .recheck _ | .processAfter .recheck _
  | .loadRequest .recheck _ | .loadResponse .recheck _ _ | .schedule _ => true
  | _ => false

/-- The poll thread came into the driver after the child was deactivated: only
what the child has left in the header moves it. -/
structure Quiet (header : BatchHeader) (loop : LoopThread) (thread : TxThread) : Prop where
  serve : ∀ round pass, loop = .serve round pass → thread = .idle ∨ thread = .notifyActive
  loaded : ∀ round pass request, loop = .loadResponse round pass request → request ≠ 0 ∧
    (request = header.txRequestSequence ∨ request = header.txResponseSequence)
  recheck : loop.rechecking = true → header.Outstanding
  retry : ∀ pass, loop = .retry pass → thread = .retryRequest ∨ thread.held ≠ none →
    header.Outstanding

/-- Nothing is outstanding, and the poll thread does not believe so either. -/
structure Calm (header : BatchHeader) (loop : LoopThread) (thread : TxThread) : Prop where
  answered : ¬ header.Outstanding
  serve : ∀ round pass, loop = .serve round pass → thread = .idle ∨ thread = .notifyActive
  loaded : ∀ pass request, loop = .loadResponse .first pass request →
    request = header.txResponseSequence ∨ header.txRequestSequence = 0
  recheck : loop.rechecking = true → header.txRequestSequence = 0 ∧
    (∀ pass request, loop ≠ .loadResponse .recheck pass request) ∧ ∀ pass, loop ≠ .schedule pass
  retry : ∀ pass, loop = .retry pass → thread ≠ .retryRequest ∧ thread.held = none

/-- The poll thread cannot have seen the child active. -/
def MainThread.quiet : MainThread → Bool
  | .checkPending | .checkQueue | .cancelTimer => true
  | _ => false

/-- `child_active` was cleared. -/
def MainThread.inactive : MainThread → Bool
  | .storeGate | .kickPoll | .checkDriver | .checkPending | .checkQueue | .waitIdle | .cancelTimer
  | .signalTx => true
  | _ => false

/-- Inside `luna_network_map_child`, before the child is activated. -/
def MainThread.mapping : MainThread → Bool
  | .pollTx _ | .resetHead _ | .resetTail _ | .resetSubmit _ | .resetRequest _ | .resetResponse _
  | .resetAccepted _ | .resetGate _ | .resetPending _ | .storeActive _ => true
  | _ => false

/-- Between the stores of the two sequences. -/
def MainThread.splits : MainThread → Bool
  | .resetResponse _ => true
  | _ => false

/-- The sequences of the worker are not zero. -/
def WorkerSound (worker : TxWorker) : Prop :=
  (∀ count next, worker = .storeRequest count next → next ≠ 0) ∧
    ∀ entry, worker.awaits = some entry → entry.2 ≠ 0

structure TeardownInv (state : NetState Sender Ntfn) : Prop where
  endpoint : state.net.ring.main.endpoint
  stands : Stands state.net.ring.shared state.net.loop state.net.ring.poll.thread
  driver : state.net.pollInDriver = false → state.net.loop.outside = true
  handshake : state.main.splits = false →
    state.net.header.txRequestSequence = state.net.header.txResponseSequence ∨
      ∃ count, state.net.child.worker.awaits =
        some (count, state.net.header.txRequestSequence)
  engaged : Engaged state.net.header state.net.ring.poll.thread
  inactive : state.main.inactive = true ∨ state.detached = true →
    state.net.ring.shared.childActive = false
  quiet : state.main.quiet = true →
    Quiet state.net.header state.net.loop state.net.ring.poll.thread
  calm : state.gone = true →
    Calm state.net.header state.net.loop state.net.ring.poll.thread ∧
      state.net.timer.networkArmed = false
  mapping : state.main.mapping = true → state.childRuns = false ∧ state.detached = true
  splits : state.main.splits = true → state.net.header.txRequestSequence = 0
  sound : WorkerSound state.net.child.worker
  rest : state.childRuns = false → state.main.splits = false →
    state.net.header.txRequestSequence = state.net.header.txResponseSequence

section Sequences

variable {header after : BatchHeader} {loop next : LoopThread} {thread : TxThread}

/-- Entering the loop again, the poll thread knows nothing yet. -/
theorem Quiet.of_outside (outside : loop.outside = true) : Quiet header loop thread := by
  cases loop with
  | wait => exact ⟨nofun, nofun, nofun, nofun⟩
  | enterDriver irqEvent timerEvent => exact ⟨nofun, nofun, nofun, nofun⟩
  | _ => cases outside

theorem Quiet.calm (quiet : Quiet header loop thread) (answered : ¬ header.Outstanding) :
    Calm header loop thread where
  answered := answered
  serve := quiet.serve
  loaded pass request loads := by
    obtain ⟨nonzero, current | response⟩ := quiet.loaded _ pass request loads
    · refine .inl (by_contra fun differs => answered ⟨?_, ?_⟩)
      · rwa [← current]
      · rwa [← current]
    · exact .inl response
  recheck rechecking := absurd (quiet.recheck rechecking) answered
  retry pass at_ := by
    refine ⟨fun retries => answered (quiet.retry pass at_ (.inl retries)), ?_⟩
    by_contra holds
    exact answered (quiet.retry pass at_ (.inr holds))

/-- One edge of the loop, in a header nothing changes. -/
theorem Quiet.edge (quiet : Quiet header loop .idle) (moves : LoopEdge header loop next thread) :
    Quiet header next thread := by
  have outstanding : ∀ {round pass request}, loop = .loadResponse round pass request →
      request ≠ header.txResponseSequence → header.Outstanding := by
    intro round pass request at_ differs
    obtain ⟨nonzero, current | response⟩ := quiet.loaded round pass request at_
    · rw [current] at nonzero differs
      exact ⟨nonzero, differs⟩
    · exact absurd response differs
  cases moves with
  | processed =>
      rename_i round pass
      refine ⟨fun _ _ _ => .inr rfl, nofun, ?_, nofun⟩
      intro rechecking
      cases round with
      | first => cases rechecking
      | recheck => exact quiet.recheck rfl
  | loads some =>
      rename_i round pass
      refine ⟨nofun, ?_, ?_, nofun⟩
      · intro _ _ request at_
        cases at_
        exact ⟨some, .inl rfl⟩
      · intro rechecking
        cases round with
        | first => cases rechecking
        | recheck => exact quiet.recheck rfl
  | rechecks differs => exact ⟨nofun, nofun, fun _ => outstanding rfl differs, nofun⟩
  | schedules differs => exact ⟨nofun, nofun, fun _ => outstanding rfl differs, nofun⟩
  | retries differs => exact ⟨nofun, nofun, nofun, fun _ _ _ => outstanding rfl differs⟩
  | @polled round pass more | @served round pass | @emptied round pass =>
      refine ⟨nofun, nofun, ?_, nofun⟩
      intro rechecking
      cases round with
      | first => cases rechecking
      | recheck => exact quiet.recheck rfl
  | _ => exact ⟨nofun, nofun, nofun, nofun⟩

theorem Calm.edge (calm : Calm header loop .idle) (moves : LoopEdge header loop next thread) :
    Calm header next thread := by
  have answered := calm.answered
  cases moves with
  | processed =>
      rename_i round pass
      refine ⟨answered, fun _ _ _ => .inr rfl, nofun, ?_, nofun⟩
      intro rechecking
      cases round with
      | first => cases rechecking
      | recheck => exact ⟨(calm.recheck rfl).1, nofun, nofun⟩
  | loads some =>
      rename_i round pass
      cases round with
      | first =>
          refine ⟨answered, nofun, ?_, nofun, nofun⟩
          intro _ request at_
          cases at_
          exact .inl (by_contra fun differs => answered ⟨some, differs⟩)
      | recheck => exact absurd (calm.recheck rfl).1 some
  | rechecks differs =>
      rename_i pass request
      have zero := (calm.loaded pass request rfl).resolve_left differs
      exact ⟨answered, nofun, nofun, fun _ => ⟨zero, nofun, nofun⟩, nofun⟩
  | schedules differs => exact absurd rfl ((calm.recheck rfl).2.1 _ _)
  | retries differs => exact absurd rfl ((calm.recheck rfl).2.1 _ _)
  | @polled round pass more | @served round pass | @emptied round pass =>
      refine ⟨answered, nofun, nofun, ?_, nofun⟩
      intro rechecking
      cases round with
      | first => cases rechecking
      | recheck => exact ⟨(calm.recheck rfl).1, nofun, nofun⟩
  | _ => exact ⟨answered, nofun, nofun, nofun, nofun⟩

end Sequences

section Routines

variable {shared after : TxShared} {loop : LoopThread} {thread next : TxThread}

theorem engaged_of_unheld {header : BatchHeader} (unheld : thread.held = none) :
    Engaged header thread := by
  cases thread with
  | notifyResponse sequence => cases unheld
  | retryResponse sequence => cases unheld
  | _ => exact fun sequence holds => nomatch unheld.symm.trans holds

theorem Engaged.current {header : BatchHeader} {sequence : Nat} (engaged : Engaged header thread)
    (holds : thread.held = some sequence) :
    (sequence = header.txRequestSequence ∧
        header.txRequestSequence ≠ header.txResponseSequence) ∨
      sequence = header.txResponseSequence := by
  cases thread with
  | notifyResponse | retryResponse =>
      cases holds
      by_cases answered : sequence = header.txResponseSequence
      · exact .inr answered
      · have current := engaged.resolve_right answered
        exact .inl ⟨current, by rwa [← current]⟩
  | _ => exact .inl (engaged sequence holds)

/-- A step of the TX service stays with the current request, and what it answers
is the current request. -/
theorem txStep_engaged (engaged : Engaged shared.header thread)
    (moved : txStep shared thread = some (after, next)) :
    Engaged after.header next ∧
      (after.header.txResponseSequence = shared.header.txResponseSequence ∨
        after.header.txResponseSequence = shared.header.txRequestSequence) := by
  have sends := txStep_sends moved
  cases stands : thread with
  | storeResponse sequence =>
      subst stands
      cases moved
      exact ⟨nofun, .inr (engaged sequence rfl).1⟩
  | notifyRequest =>
      subst stands
      cases moved
      refine ⟨?_, .inl rfl⟩
      split
      · exact nofun
      · exact .inl rfl
  | retryRequest =>
      subst stands
      cases moved
      refine ⟨?_, .inl rfl⟩
      split
      · exact nofun
      · exact .inl rfl
  | notifyResponse sequence =>
      subst stands
      cases moved
      refine ⟨?_, .inl rfl⟩
      split
      next => exact nofun
      next differs =>
        rintro _ ⟨⟩
        exact (Engaged.current engaged rfl).resolve_right differs
  | retryResponse sequence =>
      subst stands
      cases moved
      refine ⟨?_, .inl rfl⟩
      split
      next => exact nofun
      next differs =>
        rintro _ ⟨⟩
        exact (Engaged.current engaged rfl).resolve_right differs
  | _ =>
      have response : after.header.txResponseSequence = shared.header.txResponseSequence :=
        sends.response.elim id fun stores => nomatch stands.symm.trans stores
      refine ⟨?_, .inl response⟩
      have kept : ∀ sequence, next.held = some sequence →
          sequence = after.header.txRequestSequence ∧
            after.header.txRequestSequence ≠ after.header.txResponseSequence := by
        intro sequence holds
        rw [sends.request, response]
        rcases sends.held sequence holds with held | ⟨_, _, requests | retries⟩
        · rw [stands] at held engaged
          exact engaged sequence held
        · exact nomatch stands.symm.trans requests
        · exact nomatch stands.symm.trans retries
      cases next with
      | notifyResponse sequence => exact .inl (kept sequence rfl).1
      | retryResponse sequence => exact .inl (kept sequence rfl).1
      | _ => exact kept

theorem stands_txStep (stands : Stands shared loop thread)
    (moved : txStep shared thread = some (after, next)) : Stands after loop next := by
  cases loop with
  | serve round pass => exact txStep_serving stands moved
  | retry pass => exact txStep_retrying stands moved
  | _ =>
      rw [show thread = .idle from stands] at moved
      cases moved

/-- The TX service is only entered from two places of the loop. -/
theorem service_of_txStep (stands : Stands shared loop thread)
    (moved : txStep shared thread = some (after, next)) :
    (∃ round pass, loop = .serve round pass) ∨ ∃ pass, loop = .retry pass := by
  cases loop with
  | serve round pass => exact .inl ⟨round, pass, rfl⟩
  | retry pass => exact .inr ⟨pass, rfl⟩
  | _ =>
      rw [show thread = .idle from stands] at moved
      cases moved

/-- The child is not served once it is inactive. -/
theorem notifyActive_inactive (inactive : shared.childActive = false)
    (moved : txStep shared .notifyActive = some (after, next)) :
    after = shared ∧ next = .idle := by
  simp only [txStep, inactive, Option.some.injEq, Prod.mk.injEq] at moved
  exact ⟨moved.1.symm, moved.2.symm⟩

theorem serve_txStep (inactive : shared.childActive = false)
    (enters : thread = .idle ∨ thread = .notifyActive)
    (moved : txStep shared thread = some (after, next)) : after = shared ∧ next = .idle := by
  rcases enters with rfl | rfl
  · cases moved
  · exact notifyActive_inactive inactive moved

/-- Inside `service_tx_timeout_retry` the sequence is loaded once. -/
theorem retry_txStep (retrying : Retrying thread)
    (moved : txStep shared thread = some (after, next)) :
    next ≠ .retryRequest ∧ (next.held ≠ none →
      (thread = .retryRequest ∨ thread.held ≠ none) ∧
        after.header.txResponseSequence = shared.header.txResponseSequence) := by
  cases thread <;> simp only [txStep] at moved
  case idle => cases moved
  case retryRequest =>
    cases moved
    refine ⟨?_, fun _ => ⟨.inl rfl, rfl⟩⟩
    split <;> simp
  case retryResponse sequence =>
    cases moved
    refine ⟨?_, fun _ => ⟨.inr (by simp [TxThread.held]), rfl⟩⟩
    split <;> simp
  case cancelTimer | storeAccepted =>
    cases moved
    exact ⟨by simp, fun _ => ⟨.inr (by simp [TxThread.held]), rfl⟩⟩
  case storeResponse | signal =>
    cases moved
    exact ⟨by simp, fun holds => absurd rfl holds⟩
  all_goals exact retrying.elim

theorem Quiet.routine (quiet : Quiet shared.header loop thread)
    (stands : Stands shared loop thread) (inactive : shared.childActive = false)
    (moved : txStep shared thread = some (after, next)) : Quiet after.header loop next := by
  rcases service_of_txStep stands moved with ⟨round, pass, rfl⟩ | ⟨pass, rfl⟩
  · obtain ⟨rfl, rfl⟩ := serve_txStep inactive (quiet.serve _ _ rfl) moved
    exact ⟨fun _ _ _ => .inl rfl, nofun, quiet.recheck, nofun⟩
  · obtain ⟨left, holding⟩ := retry_txStep stands moved
    refine ⟨nofun, nofun, nofun, fun _ _ holds => ?_⟩
    obtain ⟨held, response⟩ := holding (holds.resolve_left left)
    have outstanding := quiet.retry pass rfl held
    unfold BatchHeader.Outstanding at outstanding ⊢
    rwa [(txStep_sends moved).request, response]

theorem Calm.routine (calm : Calm shared.header loop thread) (stands : Stands shared loop thread)
    (inactive : shared.childActive = false)
    (moved : txStep shared thread = some (after, next)) : Calm after.header loop next := by
  rcases service_of_txStep stands moved with ⟨round, pass, rfl⟩ | ⟨pass, rfl⟩
  · obtain ⟨rfl, rfl⟩ := serve_txStep inactive (calm.serve _ _ rfl) moved
    exact ⟨calm.answered, fun _ _ _ => .inl rfl, nofun, calm.recheck, nofun⟩
  · obtain ⟨left, holding⟩ := retry_txStep stands moved
    obtain ⟨begun, unheld⟩ := calm.retry pass rfl
    have sends := txStep_sends moved
    have released : next.held = none := by
      by_contra holds
      exact (holding holds).1.elim begun fun held => held unheld
    have response : after.header.txResponseSequence = shared.header.txResponseSequence :=
      sends.response.elim id fun stores => by
        rw [stores] at unheld
        cases unheld
    refine ⟨?_, nofun, nofun, nofun, fun _ _ => ⟨left, released⟩⟩
    have answered := calm.answered
    unfold BatchHeader.Outstanding at answered ⊢
    rwa [sends.request, response]

end Routines

section Preserved

variable {state target : NetState Sender Ntfn} {net : LoopState Sender Ntfn} {hardware : Hardware}

theorem stands_of_edge {header : BatchHeader} {loop next : LoopThread} {thread : TxThread}
    (shared : TxShared) (edge : LoopEdge header loop next thread) :
    Stands shared next thread ∧ thread.held = none := by
  cases edge <;> exact ⟨by first | rfl | trivial, rfl⟩

/-- The poll thread goes along an edge of its loop. -/
theorem TeardownInv.loopMove (inv : TeardownInv state)
    (idle : state.net.ring.poll.thread = .idle) (move : LoopMove state.net net) :
    TeardownInv { state with net } := by
  obtain ⟨stands, unheld⟩ := stands_of_edge net.ring.shared move.edge
  refine ⟨?_, stands, ?_, ?_, engaged_of_unheld unheld, ?_, ?_, ?_, inv.mapping, ?_, ?_, ?_⟩
  · rw [move.main]
    exact inv.endpoint
  · intro out
    by_contra inside
    obtain ⟨before, within⟩ := move.driver out (by simpa using inside)
    simp [inv.driver before] at within
  · intro joined
    dsimp only
    rw [move.header, move.child]
    exact inv.handshake joined
  · intro gone
    exact move.active.trans (inv.inactive gone)
  · intro quiet
    have stood := inv.quiet quiet
    rw [idle] at stood
    dsimp only
    rw [move.header]
    exact stood.edge move.edge
  · intro gone
    obtain ⟨calm, disarmed⟩ := inv.calm gone
    rw [idle] at calm
    have timer : net.timer = state.net.timer := move.timer fun pass at_ =>
      (calm.recheck (by rw [at_]; rfl)).2.2 pass at_
    dsimp only
    rw [move.header, timer]
    exact ⟨calm.edge move.edge, disarmed⟩
  · intro splits
    dsimp only
    rw [move.header]
    exact inv.splits splits
  · dsimp only
    rw [move.child]
    exact inv.sound
  · dsimp only
    rw [move.header]
    exact inv.rest

/-- The poll thread goes on inside a routine. -/
theorem TeardownInv.routineMove (inv : TeardownInv state) (move : RoutineMove state.net net) :
    TeardownInv { state with net } := by
  have endpoint : net.ring.main.endpoint := by
    rw [move.main]
    exact inv.endpoint
  have driver : net.pollInDriver = false → net.loop.outside = true := by
    rw [move.driver, move.loop]
    exact inv.driver
  have sound : WorkerSound net.child.worker := by
    rw [move.child]
    exact inv.sound
  rcases move.service with ⟨idle, rests, header, active⟩ | served
  · have same : net.ring.poll.thread = state.net.ring.poll.thread := rests.trans idle.symm
    refine ⟨endpoint, ?_, driver, ?_, ?_, ?_, ?_, ?_, inv.mapping, ?_, sound, ?_⟩ <;> dsimp only
    · rw [move.loop, same]
      exact inv.stands.congr (congrArg _ header)
    · rw [header, move.child]
      exact inv.handshake
    · rw [header, same]
      exact inv.engaged
    · rw [active]
      exact inv.inactive
    · rw [header, move.loop, same]
      exact inv.quiet
    · intro gone
      rw [header, move.loop, same]
      refine (inv.calm gone).imp_right fun disarmed => ?_
      by_contra armed
      simp [move.armed (by simpa using armed)] at disarmed
    · rw [header]
      exact inv.splits
    · rw [header]
      exact inv.rest
  · have sends := txStep_sends served
    obtain ⟨engaged, response⟩ := txStep_engaged inv.engaged served
    have request : net.header.txRequestSequence = state.net.header.txRequestSequence :=
      sends.request
    refine ⟨endpoint, ?_, driver, ?_, engaged, ?_, ?_, ?_, inv.mapping, ?_, sound, ?_⟩ <;>
      dsimp only
    · rw [move.loop]
      exact stands_txStep inv.stands served
    · intro joined
      rw [request, move.child]
      rcases response with same | answers
      · rw [show net.header.txResponseSequence = _ from same]
        exact inv.handshake joined
      · exact .inl answers.symm
    · rw [sends.active]
      exact inv.inactive
    · intro quiet
      rw [move.loop]
      refine (inv.quiet quiet).routine inv.stands (inv.inactive (.inl ?_)) served
      cases at_ : state.main <;> first | rfl | (rw [at_] at quiet; cases quiet)
    · intro gone
      rw [move.loop]
      obtain ⟨calm, disarmed⟩ := inv.calm gone
      refine ⟨calm.routine inv.stands (inv.inactive ?_) served, ?_⟩
      · unfold NetState.gone at gone
        rw [Bool.or_eq_true] at gone
        refine gone.symm.imp_left fun signals => ?_
        rw [eq_of_beq signals]
        rfl
      · by_contra armed
        simp [move.armed (by simpa using armed)] at disarmed
    · intro splits
      exact request.trans (inv.splits splits)
    · intro stopped joined
      rw [request]
      exact response.elim (fun same => (inv.rest stopped joined).trans same.symm) Eq.symm

/-- The child stores its next request once the last one is answered. -/
structure Advance (header after : BatchHeader) : Prop where
  response : after.txResponseSequence = header.txResponseSequence
  request : after.txRequestSequence = header.txRequestSequence ∨
    header.txRequestSequence = header.txResponseSequence

theorem Advance.outstanding {header after : BatchHeader} (advance : Advance header after)
    (outstanding : header.Outstanding) : after.Outstanding := by
  have same := advance.request.resolve_right outstanding.2
  unfold BatchHeader.Outstanding
  rw [same, advance.response]
  exact outstanding

theorem Engaged.advance {header after : BatchHeader} {thread : TxThread}
    (engaged : Engaged header thread) (advance : Advance header after) : Engaged after thread := by
  have either : ∀ sequence, sequence = header.txRequestSequence ∨
      sequence = header.txResponseSequence →
      sequence = after.txRequestSequence ∨ sequence = after.txResponseSequence := by
    rw [advance.response]
    rintro sequence (current | response)
    · exact advance.request.imp (fun same => current.trans same.symm) current.trans
    · exact .inr response
  cases thread with
  | notifyResponse sequence => exact either sequence engaged
  | retryResponse sequence => exact either sequence engaged
  | _ =>
      intro sequence holds
      obtain ⟨current, differs⟩ := engaged sequence holds
      rw [advance.request.resolve_right differs, advance.response]
      exact ⟨current, differs⟩

theorem Quiet.advance {header after : BatchHeader} {loop : LoopThread} {thread : TxThread}
    (quiet : Quiet header loop thread) (advance : Advance header after) :
    Quiet after loop thread where
  serve := quiet.serve
  loaded round pass request loads := by
    obtain ⟨nonzero, current | response⟩ := quiet.loaded round pass request loads
    · refine ⟨nonzero, ?_⟩
      rw [advance.response]
      exact advance.request.imp (fun same => current.trans same.symm) current.trans
    · exact ⟨nonzero, .inr (response.trans advance.response.symm)⟩
  recheck rechecking := advance.outstanding (quiet.recheck rechecking)
  retry pass at_ holds := advance.outstanding (quiet.retry pass at_ holds)

theorem Calm.congr {header after : BatchHeader} {loop : LoopThread} {thread : TxThread}
    (calm : Calm header loop thread)
    (request : after.txRequestSequence = header.txRequestSequence)
    (response : after.txResponseSequence = header.txResponseSequence) : Calm after loop thread := by
  obtain ⟨answered, serve, loaded, recheck, retry⟩ := calm
  unfold BatchHeader.Outstanding at answered
  rw [← request, ← response] at answered
  rw [← request, ← response] at loaded
  rw [← request] at recheck
  exact ⟨answered, serve, loaded, recheck, retry⟩

/-- A step beside the poll thread. -/
theorem TeardownInv.beside (inv : TeardownInv state) (beside : Beside state.net net)
    (advance : Advance state.net.header net.header)
    (handshake : state.main.splits = false →
      net.header.txRequestSequence = net.header.txResponseSequence ∨
        ∃ count, net.child.worker.awaits = some (count, net.header.txRequestSequence))
    (sound : WorkerSound net.child.worker)
    (kept : state.gone = true ∨ state.childRuns = false →
      net.header.txRequestSequence = state.net.header.txRequestSequence) :
    TeardownInv { state with net } := by
  refine ⟨beside.main, ?_, ?_, handshake, ?_, ?_, ?_, ?_, inv.mapping, ?_, sound, ?_⟩ <;> dsimp only
  · rw [beside.loop, beside.thread]
    exact inv.stands.congr beside.accepted
  · rw [beside.driver, beside.loop]
    exact inv.driver
  · rw [beside.thread]
    exact inv.engaged.advance advance
  · rw [beside.active]
    exact inv.inactive
  · intro quiet
    rw [beside.loop, beside.thread]
    exact (inv.quiet quiet).advance advance
  · intro gone
    obtain ⟨calm, disarmed⟩ := inv.calm gone
    rw [beside.loop, beside.thread]
    refine ⟨calm.congr (kept (.inl gone)) beside.response, ?_⟩
    by_contra armed
    simp [beside.armed (by simpa using armed)] at disarmed
  · intro splits
    have mapping : state.main.mapping = true := by
      cases at_ : state.main <;> first | rfl | (rw [at_] at splits; cases splits)
    exact (kept (.inr (inv.mapping mapping).1)).trans (inv.splits splits)
  · intro stopped joined
    rw [kept (.inr stopped), beside.response]
    exact inv.rest stopped joined

theorem TeardownInv.worker (inv : TeardownInv state) (beside : Beside state.net net)
    (runs : state.childRuns = true) (quiet : state.gone = true →
      state.net.child.worker.stores = false)
    (spec : ChildSpec state.net.child state.net.ring.shared net.child net.ring.shared) :
    TeardownInv { state with net } := by
  have joined : state.main.splits = false := by
    cases at_ : state.main with
    | resetResponse activate =>
        have stopped := (inv.mapping (by rw [at_]; rfl)).1
        rw [stopped] at runs
        cases runs
    | _ => rfl
  have handshake := inv.handshake joined
  have advance : Advance state.net.header net.header := by
    refine ⟨beside.response, spec.request.imp_right ?_⟩
    rintro ⟨count, stores, _⟩
    refine handshake.resolve_right ?_
    rintro ⟨count, awaits⟩
    rw [stores] at awaits
    cases awaits
  refine inv.beside beside advance (fun _ => ?_) ⟨?_, ?_⟩ ?_
  · rcases spec.request with same | ⟨count, _, stored⟩
    · have request : net.header.txRequestSequence = state.net.header.txRequestSequence := same
      rw [request, beside.response]
      rcases handshake with answered | ⟨count, awaits⟩
      · exact .inl answered
      · exact (spec.settled _ awaits).symm.imp Eq.symm fun awaits => ⟨count, awaits⟩
    · exact .inr ⟨count, by rw [stored]; rfl⟩
  · intro count next stores
    exact (spec.sequence count next stores).elim id (inv.sound.1 count next)
  · intro entry awaits
    exact (spec.awaits entry awaits).elim (inv.sound.2 entry) (inv.sound.1 entry.1 entry.2)
  · rintro (gone | stopped)
    · refine spec.request.elim id ?_
      rintro ⟨count, stores, _⟩
      have silent := quiet gone
      rw [stores] at silent
      cases silent
    · rw [stopped] at runs
      cases runs

/-- Where the main thread stands is of no interest to the sequences. -/
theorem TeardownInv.moveMain (inv : TeardownInv state) {shared : TxShared} {main : MainThread}
    (header : shared.header = state.net.header)
    (active : main.inactive = true ∨ state.detached = true → shared.childActive = false)
    (joined : main.splits = false) (before : state.main.splits = false)
    (quiet : main.quiet = true → Quiet state.net.header state.net.loop state.net.ring.poll.thread)
    (signals : main ≠ .signalTx)
    (mapping : main.mapping = true → state.childRuns = false ∧ state.detached = true) :
    TeardownInv (state.shared main shared) where
  endpoint := inv.endpoint
  stands := inv.stands.congr (congrArg _ header)
  driver := inv.driver
  handshake _ := by
    show shared.header.txRequestSequence = shared.header.txResponseSequence ∨
      ∃ count, state.net.child.worker.awaits = some (count, shared.header.txRequestSequence)
    rw [header]
    exact inv.handshake before
  engaged := by
    show Engaged shared.header state.net.ring.poll.thread
    rw [header]
    exact inv.engaged
  inactive := active
  quiet quietly := by
    show Quiet shared.header state.net.loop state.net.ring.poll.thread
    rw [header]
    exact quiet quietly
  calm gone := by
    show Calm shared.header state.net.loop state.net.ring.poll.thread ∧ _
    rw [header]
    refine inv.calm ?_
    unfold NetState.gone at gone ⊢
    rw [Bool.or_eq_true] at gone ⊢
    exact .inl (gone.resolve_right fun here => signals (eq_of_beq here))
  mapping := mapping
  splits splits := by
    rw [show main.splits = true from splits] at joined
    cases joined
  sound := inv.sound
  rest stopped _ := by
    show shared.header.txRequestSequence = shared.header.txResponseSequence
    rw [header]
    exact inv.rest stopped before

theorem Calm.unheld {header : BatchHeader} {shared : TxShared} {loop : LoopThread}
    {thread : TxThread} (calm : Calm header loop thread) (stands : Stands shared loop thread) :
    thread.held = none := by
  cases loop with
  | serve round pass =>
      rcases calm.serve round pass rfl with rfl | rfl
      · rfl
      · rfl
  | retry pass => exact (calm.retry pass rfl).2
  | _ =>
      rw [show thread = .idle from stands]
      rfl

theorem Stands.unheld {shared after : TxShared} {loop : LoopThread} {thread : TxThread}
    (stands : Stands shared loop thread) (unheld : thread.held = none) :
    Stands after loop thread := by
  cases loop with
  | serve round pass =>
      cases thread with
      | storeResponse sequence => cases unheld
      | _ => exact stands
  | _ => exact stands

/-- A step of `luna_network_map_child` before the child is activated. -/
theorem TeardownInv.map (inv : TeardownInv state) (mapping : state.main.mapping = true)
    {ring : RingState} {main : MainThread} (poll : ring.poll = state.net.ring.poll)
    (thread : ring.main = state.net.ring.main)
    (active : ring.shared.childActive = state.net.ring.shared.childActive)
    (next : main.mapping = true)
    (calm : Calm ring.shared.header state.net.loop state.net.ring.poll.thread)
    (rest : main.splits = false →
      ring.shared.header.txRequestSequence = ring.shared.header.txResponseSequence)
    (splits : main.splits = true → ring.shared.header.txRequestSequence = 0) :
    TeardownInv { state with
      net := { state.net with ring }
      main := main } := by
  obtain ⟨stopped, detached⟩ := inv.mapping mapping
  have gone : state.gone = true := by
    unfold NetState.gone
    rw [detached]
    rfl
  have unheld := (inv.calm gone).1.unheld inv.stands
  refine ⟨?_, ?_, inv.driver, fun joined => .inl (rest joined), ?_, ?_, ?_, ?_,
    fun _ => ⟨stopped, detached⟩, splits, inv.sound, fun _ => rest⟩ <;> dsimp only
  · rw [thread]
    exact inv.endpoint
  · rw [poll]
    exact inv.stands.unheld unheld
  · rw [poll]
    exact engaged_of_unheld unheld
  · rw [active]
    exact fun _ => inv.inactive (.inr detached)
  · intro quiet
    cases main <;> first | (cases quiet; done) | cases next
  · rw [poll]
    exact fun _ => ⟨calm, (inv.calm gone).2⟩

/-- A step of `luna_network_map_child` that leaves the sequences alone. -/
theorem TeardownInv.mapRing (inv : TeardownInv state) (mapping : state.main.mapping = true)
    {ring : RingState} {main : MainThread} (poll : ring.poll = state.net.ring.poll)
    (thread : ring.main = state.net.ring.main)
    (active : ring.shared.childActive = state.net.ring.shared.childActive)
    (request : ring.shared.header.txRequestSequence = state.net.header.txRequestSequence)
    (response : ring.shared.header.txResponseSequence = state.net.header.txResponseSequence)
    (next : main.mapping = true) (joined : main.splits = false)
    (before : state.main.splits = false) :
    TeardownInv { state with
      net := { state.net with ring }
      main := main } := by
  have gone : state.gone = true := by
    unfold NetState.gone
    rw [(inv.mapping mapping).2]
    rfl
  refine inv.map mapping poll thread active next ((inv.calm gone).1.congr request response) ?_ ?_
  · intro _
    rw [request, response]
    exact inv.rest (inv.mapping mapping).1 before
  · intro splits
    rw [joined] at splits
    cases splits

theorem TeardownInv.resetRequest {activate : Bool} (inv : TeardownInv state)
    (at_ : state.main = .resetRequest activate) :
    TeardownInv (state.shared (.resetResponse activate) { state.net.ring.shared with
      header := { state.net.ring.shared.header with txRequestSequence := 0 } }) := by
  have mapping : state.main.mapping = true := by rw [at_]; rfl
  have gone : state.gone = true := by
    unfold NetState.gone
    rw [(inv.mapping mapping).2]
    rfl
  have calm := (inv.calm gone).1
  refine inv.map mapping rfl rfl rfl rfl ⟨fun outstanding => outstanding.1 rfl, calm.serve,
    fun _ _ _ => .inr rfl, fun rechecking => ⟨rfl, (calm.recheck rechecking).2⟩, calm.retry⟩
    nofun fun _ => rfl

theorem TeardownInv.resetResponse {activate : Bool} (inv : TeardownInv state)
    (at_ : state.main = .resetResponse activate) :
    TeardownInv (state.shared (.resetAccepted activate) { state.net.ring.shared with
      header := { state.net.ring.shared.header with txResponseSequence := 0 } }) := by
  have mapping : state.main.mapping = true := by rw [at_]; rfl
  have gone : state.gone = true := by
    unfold NetState.gone
    rw [(inv.mapping mapping).2]
    rfl
  have calm := (inv.calm gone).1
  have zero : state.net.header.txRequestSequence = 0 := inv.splits (by rw [at_]; rfl)
  exact inv.map mapping rfl rfl rfl rfl ⟨fun outstanding => outstanding.1 zero, calm.serve,
    fun _ _ _ => .inr zero, fun rechecking => ⟨zero, (calm.recheck rechecking).2⟩, calm.retry⟩
    (fun _ => zero) nofun

/-- `luna_timer_manager_cancel_network` in `luna_network_deactivate_child`. -/
theorem TeardownInv.cancelTimer {answers : Answers} (inv : TeardownInv state)
    (at_ : state.main = .cancelTimer) (answered : ¬ state.net.header.Outstanding) :
    TeardownInv { state with
      net := { state.net with timer := (state.net.timer.cancelNetwork hardware answers).1 }
      main := .signalTx } where
  endpoint := inv.endpoint
  stands := inv.stands
  driver := inv.driver
  handshake _ := inv.handshake (by rw [at_]; rfl)
  engaged := inv.engaged
  inactive _ := inv.inactive (.inl (by rw [at_]; rfl))
  quiet := nofun
  calm _ := ⟨(inv.quiet (by rw [at_]; rfl)).calm answered,
    state.net.timer.cancelNetwork_network hardware answers⟩
  mapping := nofun
  splits := nofun
  sound := inv.sound
  rest stopped _ := inv.rest stopped (by rw [at_]; rfl)

theorem TeardownInv.timerDeactivate {pitSucceeds : Bool} (inv : TeardownInv state)
    (at_ : state.main = .timerDeactivate) :
    TeardownInv { state with
      net := { state.net with timer := state.net.timer.deactivate pitSucceeds }
      main := .storeInactive } where
  endpoint := inv.endpoint
  stands := inv.stands
  driver := inv.driver
  handshake _ := inv.handshake (by rw [at_]; rfl)
  engaged := inv.engaged
  inactive gone := inv.inactive (gone.imp_left nofun)
  quiet := nofun
  calm gone := ⟨(inv.calm (by
    unfold NetState.gone at gone ⊢
    rw [Bool.or_eq_true] at gone ⊢
    exact .inl (gone.resolve_right nofun))).1, rfl⟩
  mapping := nofun
  splits := nofun
  sound := inv.sound
  rest stopped _ := inv.rest stopped (by rw [at_]; rfl)

theorem TeardownInv.signalTx (inv : TeardownInv state) (at_ : state.main = .signalTx) :
    TeardownInv { state.shared .serving { state.net.ring.shared with txNtfn := true } with
      detached := true } where
  endpoint := inv.endpoint
  stands := inv.stands.congr rfl
  driver := inv.driver
  handshake _ := inv.handshake (by rw [at_]; rfl)
  engaged := inv.engaged
  inactive _ := inv.inactive (.inl (by rw [at_]; rfl))
  quiet := nofun
  calm _ := inv.calm (by
    unfold NetState.gone
    rw [at_]
    simp)
  mapping := nofun
  splits := nofun
  sound := inv.sound
  rest stopped _ := inv.rest stopped (by rw [at_]; rfl)

theorem TeardownInv.storeActive {activate : Bool} (inv : TeardownInv state)
    (at_ : state.main = .storeActive activate) :
    TeardownInv { state.shared (if activate then .kickActive else .serving)
        { state.net.ring.shared with childActive := activate } with
      detached := !activate } where
  endpoint := inv.endpoint
  stands := inv.stands.congr rfl
  driver := inv.driver
  handshake _ := inv.handshake (by rw [at_]; rfl)
  engaged := inv.engaged
  inactive gone := by
    cases activate with
    | true => exact gone.elim nofun nofun
    | false => rfl
  quiet quiet := by cases activate <;> cases quiet
  calm gone := by
    cases activate with
    | true => cases gone
    | false =>
        refine inv.calm ?_
        unfold NetState.gone
        rw [(inv.mapping (by rw [at_]; rfl)).2]
        rfl
  mapping mapping := by cases activate <;> cases mapping
  splits splits := by cases activate <;> cases splits
  sound := inv.sound
  rest stopped _ := inv.rest stopped (by rw [at_]; rfl)

/-- The main thread looks at what the poll thread shares, and goes on. -/
theorem TeardownInv.look (inv : TeardownInv state) {main : MainThread}
    (inactive : state.main.inactive = true) (joined : main.splits = false)
    (before : state.main.splits = false)
    (quiet : main.quiet = true → Quiet state.net.header state.net.loop state.net.ring.poll.thread)
    (signals : main ≠ .signalTx) (mapping : main.mapping = false) :
    TeardownInv { state with main := main } :=
  inv.moveMain rfl (fun _ => inv.inactive (.inl inactive)) joined before quiet signals
    fun maps => by
      rw [mapping] at maps
      cases maps

theorem TeardownInv.stepMainThread {answers : Answers} (inv : TeardownInv state)
    (leaves : state.main = .cancelTimer → ¬ state.net.header.Outstanding)
    (moved : stepMainThread hardware state answers = some target) : TeardownInv target := by
  unfold Net.stepMainThread at moved
  have detached : state.detached = true → state.net.ring.shared.childActive = false :=
    fun detached => inv.inactive (.inr detached)
  cases at_ : state.main <;> simp only [at_] at moved
  case serving => cases moved
  case timerDeactivate =>
    cases moved
    exact inv.timerDeactivate at_
  case storeInactive =>
    cases moved
    exact inv.moveMain rfl (fun _ => rfl) rfl (by rw [at_]; rfl) nofun nofun nofun
  case storeGate | kickPoll =>
    cases moved
    exact inv.moveMain rfl (fun _ => inv.inactive (.inl (by rw [at_]; rfl))) rfl
      (by rw [at_]; rfl) nofun nofun nofun
  case checkDriver =>
    cases moved
    by_cases driver : state.net.pollInDriver = true
    · rw [if_pos driver]
      exact inv.look (by rw [at_]; rfl) rfl (by rw [at_]; rfl) nofun nofun rfl
    · rw [if_neg driver]
      have outside := inv.driver (by simpa using driver)
      exact inv.look (by rw [at_]; rfl) rfl (by rw [at_]; rfl) (fun _ => .of_outside outside)
        nofun rfl
  case checkPending | checkQueue =>
    cases moved
    have quiet := inv.quiet (by rw [at_]; rfl)
    split
    · exact inv.look (by rw [at_]; rfl) rfl (by rw [at_]; rfl) (fun _ => quiet) nofun rfl
    · exact inv.look (by rw [at_]; rfl) rfl (by rw [at_]; rfl) nofun nofun rfl
  case waitIdle =>
    cases moved
    exact inv.look (by rw [at_]; rfl) rfl (by rw [at_]; rfl) nofun nofun rfl
  case cancelTimer =>
    cases moved
    exact inv.cancelTimer at_ (leaves at_)
  case signalTx =>
    cases moved
    exact inv.signalTx at_
  case resetRequest =>
    cases moved
    exact inv.resetRequest at_
  case resetResponse =>
    cases moved
    exact inv.resetResponse at_
  case storeActive =>
    cases moved
    exact inv.storeActive at_
  case kickActive =>
    cases moved
    exact inv.moveMain rfl (fun gone => detached (gone.resolve_left nofun)) rfl (by rw [at_]; rfl)
      nofun nofun nofun
  all_goals
    cases moved
    exact inv.mapRing (by rw [at_]; rfl) rfl rfl rfl rfl rfl rfl rfl (by rw [at_]; rfl)

variable [DecidableEq Sender] [DecidableEq Ntfn]

theorem TeardownInv.netStep {action : LoopAction Sender Ntfn} (inv : TeardownInv state)
    (allowed : state.allows action = true) (leaves : LeavesNoRequest state (.net action))
    (moved : loopNext hardware state.net action = some net) :
    TeardownInv { state with net } := by
  by_cases polls : ∃ more answers, action = .poll more answers
  · obtain ⟨more, answers, rfl⟩ := polls
    replace moved : stepPoll hardware state.net more answers = some net := moved
    unfold stepPoll at moved
    split at moved
    next stands => exact inv.loopMove (by rw [stands]; rfl) (loopStep_move stands moved)
    next => exact inv.routineMove (routineStep_move moved)
  · obtain ⟨beside, moves⟩ := beside_of_loopNext inv.endpoint
      (fun more answers same => polls ⟨more, answers, same⟩)
      (fun active same => by
        rw [same] at allowed
        cases allowed) moved
    rcases moves with ⟨rfl, spec⟩ | ⟨worker, request⟩
    · exact inv.worker beside allowed leaves spec
    · refine inv.beside beside ⟨beside.response, .inl request⟩ (fun joined => ?_) ?_
        fun _ => request
      · rw [request, beside.response, worker]
        exact inv.handshake joined
      · rw [worker]
        exact inv.sound

theorem TeardownInv.next {action : NetAction Sender Ntfn} (inv : TeardownInv state)
    (leaves : LeavesNoRequest state action)
    (moved : netNext hardware state action = some target) : TeardownInv target := by
  have free : state.free = true → state.main = .serving := by
    intro free
    unfold NetState.free at free
    rw [Bool.and_eq_true] at free
    exact eq_of_beq free.1
  have served : ∀ {main : MainThread}, state.main = .serving → main.inactive = false →
      main.quiet = false → main.splits = false →
      (main.mapping = true → state.childRuns = false ∧ state.detached = true) →
      TeardownInv { state with main := main } := by
    intro main serving inactive quiet joined mapping
    refine inv.moveMain rfl ?_ joined (by rw [serving]; rfl) ?_ ?_ mapping
    · intro gone
      refine inv.inactive (.inr (gone.resolve_left ?_))
      simp [inactive]
    · intro quietly
      rw [quiet] at quietly
      cases quietly
    · rintro rfl
      cases inactive
  cases action with
  | net action =>
      simp only [netNext] at moved
      split at moved
      next allowed =>
        obtain ⟨net, stepped, rfl⟩ := Option.map_eq_some_iff.mp moved
        exact inv.netStep allowed leaves stepped
      next => cases moved
  | destroy =>
      simp only [netNext] at moved
      split at moved <;> cases moved
      next here => exact served (free here) rfl rfl rfl nofun
  | suspend =>
      simp only [netNext, Bool.and_eq_true] at moved
      split at moved <;> cases moved
      next here =>
        refine ⟨inv.endpoint, inv.stands, inv.driver, inv.handshake, inv.engaged, inv.inactive,
          inv.quiet, inv.calm, fun mapping => ⟨rfl, here.2⟩, inv.splits, inv.sound, ?_⟩
        intro _ joined
        have answered := (inv.calm (by unfold NetState.gone; rw [here.2]; rfl)).1.answered
        refine (inv.handshake joined).elim id fun ⟨count, awaits⟩ => ?_
        by_contra differs
        exact answered ⟨inv.sound.2 _ awaits, differs⟩
  | map activate =>
      simp only [netNext, Bool.and_eq_true, Bool.not_eq_true'] at moved
      split at moved <;> cases moved
      next here => exact served (free here.1.1) rfl rfl rfl fun _ => ⟨here.2, here.1.2⟩
  | spawn child =>
      simp only [netNext, Bool.and_eq_true, Bool.not_eq_true'] at moved
      split at moved <;> cases moved
      next here =>
        have serving := free here.1.1
        have worker : child.worker = .workDown := eq_of_beq here.2
        have rest := inv.rest here.1.2 (by rw [serving]; rfl)
        refine ⟨inv.endpoint, inv.stands, inv.driver, fun _ => .inl rest, inv.engaged, inv.inactive,
          inv.quiet, inv.calm, ?_, inv.splits, ?_, nofun⟩
        · intro mapping
          rw [serving] at mapping
          cases mapping
        · show WorkerSound child.worker
          rw [worker]
          exact ⟨nofun, nofun⟩
  | main answers => exact inv.stepMainThread leaves moved

omit [DecidableEq Sender] [DecidableEq Ntfn] in
theorem NetInitial.inv (initial : NetInitial state) : TeardownInv state where
  endpoint := by
    rw [initial.net.main]
    exact ⟨rfl, nofun, nofun, nofun⟩
  stands := by
    rw [initial.net.loop, initial.net.poll]
    rfl
  driver _ := by
    rw [initial.net.loop]
    rfl
  handshake _ := .inl (initial.net.request.trans initial.net.response.symm)
  engaged := by
    rw [initial.net.poll]
    exact nofun
  inactive _ := initial.active
  quiet quiet := by
    rw [initial.main] at quiet
    cases quiet
  calm _ := by
    refine ⟨(Quiet.of_outside (by rw [initial.net.loop]; rfl)).calm ?_, ?_⟩
    · exact fun outstanding => outstanding.1 initial.net.request
    · rw [initial.net.timer]
      rfl
  mapping _ := ⟨initial.childRuns, initial.detached⟩
  splits _ := initial.net.request
  sound := by
    rw [initial.net.worker]
    exact ⟨nofun, nofun⟩
  rest _ _ := initial.net.request.trans initial.net.response.symm

/-- In every run in which each child leaves no request behind, the network timer
is disarmed while there is no active child. -/
theorem timer_detached_of_leavesNoRequest (hardware : Hardware) {state : NetState Sender Ntfn}
    (reached : (netSystem Sender Ntfn hardware).Reach LeavesNoRequest state) :
    TimerDetached state := by
  have inv : TeardownInv state := System.Reach.invariant TeardownInv
    (fun _ (initial : NetInitial _) => initial.inv)
    (fun _ _ _ inv leaves moved => inv.next leaves moved) reached
  intro detached
  exact (inv.calm (by unfold NetState.gone; rw [detached]; rfl)).2

end Preserved

def netStart : NetState Unit Unit where
  net := loopStart
  main := .serving
  childRuns := false
  detached := true

theorem netStart_initial : NetInitial netStart :=
  ⟨⟨rfl, rfl, rfl, rfl, rfl, rfl, rfl, rfl, rfl, rfl⟩, rfl, rfl, rfl, rfl, rfl⟩

/-- The child is mapped and started, and submits one packet. -/
def mapAndSubmit : List (NetAction Unit Unit) :=
  .map true :: List.replicate 11 (.main ⟨5, 5, true⟩) ++ .spawn txStart.child ::
    submitOne.map .net

/-- `luna_timer_manager_deactivate` and `luna_network_deactivate_child`. -/
def destroyChild : List (NetAction Unit Unit) :=
  .destroy :: List.replicate 9 (.main ⟨5, 5, true⟩)

def pollSteps (count : Nat) : List (NetAction Unit Unit) :=
  List.replicate count (.net (.poll false ⟨5, 5, true⟩))

/-- The child's packet is answered and sent before the child is taken down. -/
theorem timer_detached_answered :
    ∃ state, (netSystem Unit Unit TimerManager.pitHardware).Reach LeavesNoRequest state ∧
      (state.detached = true ∧ state.net.loop = .wait ∧ state.net.ring.handed = [[7]] ∧
        state.net.header.txResponseSequence = 1) ∧
      TimerDetached state := by
  obtain ⟨state, reached, ends⟩ := System.exists_reach_of_exec
    (netSystem Unit Unit TimerManager.pitHardware) LeavesNoRequest netStart
    (mapAndSubmit ++ pollSteps 30 ++ [.net (.rawTx .complete)] ++ pollSteps 11 ++ destroyChild ++
      pollSteps 15)
    (fun state => decide (state.detached = true ∧ state.net.loop = .wait ∧
      state.net.ring.handed = [[7]] ∧ state.net.header.txResponseSequence = 1))
    netStart_initial (by decide +kernel)
  exact ⟨state, reached, of_decide_eq_true ends,
    timer_detached_of_leavesNoRequest TimerManager.pitHardware reached⟩

/-- The child is taken down before its request is answered.  The poll thread, woken
by `luna_network_deactivate_child` itself, finds the request after the cancel and
arms the timer. -/
theorem timer_survives_child : ¬ ∀ state,
    (netSystem Unit Unit TimerManager.pitHardware).Reachable state → TimerDetached state := by
  intro always
  obtain ⟨state, reached, ends⟩ := System.exists_reach_of_exec
    (netSystem Unit Unit TimerManager.pitHardware) (fun _ _ => True) netStart
    (mapAndSubmit ++ destroyChild ++ pollSteps 27)
    (fun state => decide (state.detached = true ∧ state.net.timer.networkArmed = true))
    netStart_initial (by decide +kernel)
  obtain ⟨detached, armed⟩ := of_decide_eq_true ends
  have disarmed := always state reached detached
  rw [armed] at disarmed
  cases disarmed

end Luna.Net
