import Luna.Child.Boot

/-!
# Neither side sees a message it does not wait for

The scripts of the manager and of `main` fit together step by step, and the lock keeps the
callers of the services apart.  A caller that waits for an answer is the only receiver at the
command endpoint, since the threads start after START, the last command `main` waits for, and
`main` does not wait for a command while it works.
-/

namespace Luna.Child

open Interleaving

/-! ## Scripts that fit -/

/-- What the manager sends when `main` waits for a command. -/
def BootSetting.message (setting : BootSetting) : Configure → CommandMessage
  | .slot index => sendResourceSlot setting index
  | .sync index => sendSyncSlot setting index
  | .console => sendConsoleResource setting
  | .disk => sendDiskResource
  | .net => sendNetResource setting
  | .start => sendStart setting

/-- What `main` has to know in the end. -/
def BootSetting.configuration (setting : BootSetting) : Configuration where
  resources index :=
    ⟨(setting.resources.slots index).childTcb, (setting.addresses index).stackTop,
      (setting.addresses index).stackSize, (setting.addresses index).ipcBufferAddr,
      (setting.resources.slots index).childJoinNtfn⟩
  sync index := (setting.resources.sync index).childNtfn
  consoleIoPort := setting.resources.console.childIoPort
  netRxNtfn := setting.resources.netCaps.childRxNtfn
  netTxNtfn := setting.resources.netCaps.childTxNtfn
  netTxSubmitNtfn := setting.resources.netCaps.childTxSubmitNtfn
  tscFrequency := setting.tscFrequency

/-- `start_child` fails unless it has copied these capabilities, and the frequency of the
counter is known. -/
structure BootSetting.Complete (setting : BootSetting) : Prop where
  console : setting.resources.console.childIoPort ≠ 0
  netRx : setting.resources.netCaps.childRxNtfn ≠ 0
  netTx : setting.resources.netCaps.childTxNtfn ≠ 0
  netTxSubmit : setting.resources.netCaps.childTxSubmitNtfn ≠ 0
  frequency : setting.tscFrequency ≠ 0

/-- Every message one side sends is the one the other waits for, and the manager answers the
services while `main` works. -/
inductive Fits (setting : BootSetting) : List ManagerStep → List ChildStep → Prop
  | nil : Fits setting [] []
  | work {steps : List ManagerStep} {rest : List ChildStep} (busy : steps ≠ [])
      (noSend : ∀ message after, steps ≠ .send message :: after)
      (fits : Fits setting steps rest) : Fits setting steps (.work :: rest)
  | verifyIrq {steps : List ManagerStep} {rest : List ChildStep} {expected : Event}
      {alternative : Option Event}
      (fits : Fits setting (.receive expected alternative :: steps) rest) :
      Fits setting (.verifyIrq :: .receive expected alternative :: steps) rest
  | event {steps : List ManagerStep} {rest : List ChildStep} {expected first : Event}
      {alternative instead : Option Event}
      (expects : ∀ event, event = first ∨ some event = instead →
        event = expected ∨ some event = alternative)
      (fits : Fits setting steps rest) :
      Fits setting (.receive expected alternative :: steps) (.send first instead :: rest)
  | configure {steps : List ManagerStep} {rest : List ChildStep} (what : Configure)
      (accepts : what.accepts (setting.message what) = true)
      (fits : Fits setting steps rest) :
      Fits setting (.send (setting.message what) :: steps) (.receive what :: rest)

theorem BootSetting.Complete.accepts {setting : BootSetting} (complete : setting.Complete)
    (what : Configure) : what.accepts (setting.message what) = true := by
  obtain ⟨console, netRx, netTx, netTxSubmit, frequency⟩ := complete
  cases what with
  | slot index =>
      simp [Configure.accepts, BootSetting.message, sendResourceSlot, CommandMessage.length,
        CommandMessage.word]
  | sync index =>
      simp [Configure.accepts, BootSetting.message, sendSyncSlot, CommandMessage.length,
        CommandMessage.word]
  | console =>
      simp [Configure.accepts, BootSetting.message, sendConsoleResource, CommandMessage.length,
        CommandMessage.word, console]
  | disk => rfl
  | net =>
      simp [Configure.accepts, BootSetting.message, sendNetResource, CommandMessage.length,
        CommandMessage.word, netRx, netTx, netTxSubmit]
  | start =>
      simp [Configure.accepts, BootSetting.message, sendStart, CommandMessage.length,
        CommandMessage.word, frequency]

section Scripts

variable {setting : BootSetting} {steps : List ManagerStep} {rest : List ChildStep}

/-- The events on both sides are the same. -/
theorem Fits.same (event : Event) (instead : Option Event) (fits : Fits setting steps rest) :
    Fits setting (.receive event instead :: steps) (.send event instead :: rest) :=
  .event (fun _ either => either) fits

theorem Fits.working {expected : Event} {alternative : Option Event}
    (fits : Fits setting (.receive expected alternative :: steps) rest) :
    Fits setting (.receive expected alternative :: steps) (.work :: rest) :=
  .work (by simp) (by simp) fits

theorem Fits.configures (complete : setting.Complete) {Index : Type} (what : Index → Configure)
    (indices : List Index) (fits : Fits setting steps rest) :
    Fits setting
      (indices.map (fun index => .send (setting.message (what index))) ++ steps)
      (indices.map (fun index => .receive (what index)) ++ rest) := by
  induction indices with
  | nil => exact fits
  | cons index indices inductionHypothesis =>
      exact .configure (what index) (complete.accepts _) inductionHypothesis

theorem Fits.worked (fits : Fits setting steps (.work :: rest)) : Fits setting steps rest := by
  generalize shape : ChildStep.work :: rest = child at fits
  induction fits with
  | work busy noSend fits =>
      cases shape
      exact fits
  | verifyIrq fits inductionHypothesis => exact .verifyIrq (inductionHypothesis shape)
  | nil | event | configure => cases shape

theorem Fits.verified (fits : Fits setting (.verifyIrq :: steps) rest) :
    Fits setting steps rest ∧ ∃ expected alternative after,
      steps = .receive expected alternative :: after := by
  generalize shape : ManagerStep.verifyIrq :: steps = manager at fits
  induction fits with
  | work busy noSend fits inductionHypothesis =>
      obtain ⟨later, expected, alternative, after, rfl⟩ := inductionHypothesis shape
      exact ⟨later.working, expected, alternative, after, rfl⟩
  | verifyIrq fits =>
      cases shape
      exact ⟨fits, _, _, _, rfl⟩
  | nil | event | configure => cases shape

/-- The manager fits a child that is told its mode. -/
theorem manageChild_fits (complete : setting.Complete) :
    Fits setting (manageChild setting) (childMain setting.mode) := by
  have boots : ∀ {steps : List ManagerStep} {rest : List ChildStep}, Fits setting steps rest →
      Fits setting
        ([receiveEvent .ready, receiveEvent .lklLinked] ++
          ((List.finRange lunaResourceSlots).map
            (fun index => .send (sendResourceSlot setting index)) ++
          ((List.finRange lunaSyncSlots).map (fun index => .send (sendSyncSlot setting index)) ++
          ([.send (sendConsoleResource setting), .send sendDiskResource,
            .send (sendNetResource setting), receiveEvent .resourceConfigured,
            .send (sendStart setting), receiveEvent .resourceOk, receiveEvent .allocatorOk,
            receiveEvent .syncTlsOk, receiveEvent .threadTimerOk, receiveEvent .lklInitOk,
            receiveEvent .lklBootOk] ++ steps))))
        ([sendEvent .ready, sendEvent .lklLinked] ++
          ((List.finRange lunaResourceSlots).map (fun index => .receive (.slot index)) ++
          ((List.finRange lunaSyncSlots).map (fun index => .receive (.sync index)) ++
          ([.receive .console, .receive .disk, .receive .net, .work, sendEvent .resourceConfigured,
            .receive .start, .work, sendEvent .resourceOk, .work, sendEvent .allocatorOk, .work,
            sendEvent .syncTlsOk, .work, sendEvent .threadTimerOk, .work, sendEvent .lklInitOk,
            .work, sendEvent .lklBootOk] ++ rest)))) := by
    intro steps rest fits
    refine .same _ _ (.same _ _ ?_)
    refine .configures complete .slot _ (.configures complete .sync _ ?_)
    refine .configure .console (complete.accepts _) (.configure .disk (complete.accepts _) ?_)
    refine .configure .net (complete.accepts _) (.working (.same _ _ ?_))
    refine .configure .start (complete.accepts _) (.working (.same _ _ ?_))
    exact .working (.same _ _ (.working (.same _ _ (.working (.same _ _
      (.working (.same _ _ (.working (.same _ _ fits)))))))))
  unfold manageChild bootChild childMain finishChild waitChildHalt
  cases setting.mode with
  | fault =>
      simp only [reduceCtorEq, if_false, if_true, List.append_assoc]
      refine boots (.working (.same _ _ ?_))
      exact .working (.same _ _ (.same _ _ .nil))
  | stress =>
      simp only [reduceCtorEq, if_false, List.append_assoc]
      refine boots (.working (.same _ _ ?_))
      exact .working (.same _ _ (.same _ _ (.same _ _ .nil)))
  | clean =>
      simp only [reduceCtorEq, if_false, if_true, List.append_assoc]
      refine boots (.working (.same _ _ (.same _ _ (.working (.same _ _ ?_)))))
      refine .working (.same _ _ (.same _ _ (.working (.same _ _ (.working (.same _ _ ?_))))))
      refine .work (by simp) (by simp) (.verifyIrq (.same _ _ (.same _ _ ?_)))
      exact .working (.working (.same _ _ (.same _ _ (.same _ _ .nil))))

end Scripts

/-! ## The invariant -/

def ManagerPc.rest : ManagerPc → Option (List ManagerStep)
  | .run rest | .serve _ rest | .answer _ _ rest => some rest
  | .failed => none

/-- The manager has received a request and not answered it. -/
def ManagerPc.busy : ManagerPc → Bool
  | .serve _ _ | .answer _ _ _ => true
  | _ => false

def ChildStep.receives : ChildStep → Bool
  | .receive _ => true
  | _ => false

/-- START is the last command. -/
def StartsLast (steps : List ChildStep) : Prop :=
  steps.Pairwise fun first second => first = .receive .start → second.receives = false

/-- What a command brings has been stored. -/
def Configuration.Knows (configuration : Configuration) (setting : BootSetting) :
    Configure → Prop
  | .slot index => configuration.resources index = setting.configuration.resources index
  | .sync index => configuration.sync index = setting.configuration.sync index
  | .console => configuration.consoleIoPort = setting.configuration.consoleIoPort
  | .disk => True
  | .net => configuration.netRxNtfn = setting.configuration.netRxNtfn ∧
      configuration.netTxNtfn = setting.configuration.netTxNtfn ∧
      configuration.netTxSubmitNtfn = setting.configuration.netTxSubmitNtfn
  | .start => configuration.tscFrequency = setting.configuration.tscFrequency

variable {Thread : Type}

/-- The results are the manager's answers, but for one that is on its way to its caller. -/
def Paired (state : BootState Thread) : Prop :=
  match state.manager with
  | .serve request _ =>
      state.results = state.served.map (fun entry => (entry.1, some entry.2)) ∧
        ∃ caller, state.callers caller = .wait request
  | .answer message _ _ => ∃ caller request front reply, state.callers caller = .wait request ∧
      state.served = front ++ [(request, reply)] ∧
      state.results = front.map (fun entry => (entry.1, some entry.2)) ∧
      request.service.result message = some reply
  | _ => state.results = state.served.map fun entry => (entry.1, some entry.2)

structure Booting (setting : BootSetting) (state : BootState Thread) : Prop where
  fits : ∀ steps rest, state.manager.rest = some steps → state.main = .run rest →
    Fits setting steps rest
  receiving : state.manager.busy = true → ∃ expected alternative steps,
    state.manager.rest = some (.receive expected alternative :: steps)
  held : ∀ caller, state.callers caller ≠ .idle ↔ state.lock = some caller
  may : ∀ caller, state.callers caller ≠ .idle → state.mayCall caller = true
  waiting : ∀ caller request, state.callers caller = .wait request →
    state.manager.busy = true ∨ state.manager = .failed
  paired : Paired state
  late : state.started = true → ∀ rest, state.main = .run rest →
    ∀ step ∈ rest, step.receives = false
  starts : ∀ rest, state.main = .run rest → StartsLast rest
  knows : ∀ rest, state.main = .run rest → ∀ what, .receive what ∉ rest →
    state.configuration.Knows setting what
  told : state.started = true → state.configuration = setting.configuration

theorem Configuration.eq_of_knows {configuration : Configuration} {setting : BootSetting}
    (knows : ∀ what, configuration.Knows setting what) :
    configuration = setting.configuration := by
  have resources : configuration.resources = setting.configuration.resources :=
    funext fun index => knows (.slot index)
  have sync : configuration.sync = setting.configuration.sync :=
    funext fun index => knows (.sync index)
  have console := knows .console
  have net := knows .net
  have start := knows .start
  obtain ⟨_, _, _, _, _, _, _⟩ := configuration
  simp only [Configuration.Knows] at resources sync console net start
  rw [resources, sync, console, net.1, net.2.1, net.2.2, start]

/-- A command is stored, and leaves what other commands have brought. -/
theorem Configuration.Knows.store {configuration : Configuration} {setting : BootSetting}
    {what other : Configure} (knows : other ≠ what → configuration.Knows setting other) :
    (configuration.store (setting.message what) what).Knows setting other := by
  by_cases same : other = what
  · subst same
    cases other with
    | slot index => exact Function.update_self _ _ _
    | sync index => exact Function.update_self _ _ _
    | disk => trivial
    | net => exact ⟨rfl, rfl, rfl⟩
    | console | start => rfl
  · have before := knows same
    cases other with
    | slot index =>
        cases what with
        | slot told =>
            have elsewhere : index ≠ told := fun equal => same (by rw [equal])
            exact (Function.update_of_ne elsewhere _ _).trans before
        | _ => exact before
    | sync index =>
        cases what with
        | sync told =>
            have elsewhere : index ≠ told := fun equal => same (by rw [equal])
            exact (Function.update_of_ne elsewhere _ _).trans before
        | _ => exact before
    | disk => trivial
    | console =>
        cases what with
        | console => exact absurd rfl same
        | _ => exact before
    | net =>
        cases what with
        | net => exact absurd rfl same
        | _ => exact before
    | start =>
        cases what with
        | start => exact absurd rfl same
        | _ => exact before

/-- The child waits for the answer that the service sends. -/
theorem Service.result_answer (service : Service) (reply : Reply) :
    service.result (service.answer reply) = some ⟨reply.error,
      if (service.answer reply).command = .netResult then reply.response else 0⟩ := by
  cases service <;> rfl

section Steps

variable {setting : BootSetting} {state target : BootState Thread}

theorem Booting.idle (inv : Booting setting state) (free : state.lock = none)
    (caller : Option Thread) : state.callers caller = .idle := by
  by_contra engaged
  have taken := (inv.held caller).mp engaged
  rw [free] at taken
  cases taken

/-- Only one caller is engaged. -/
theorem Booting.only (inv : Booting setting state) {caller other : Option Thread}
    (first : state.callers caller ≠ .idle) (second : state.callers other ≠ .idle) :
    caller = other := by
  have taken := (inv.held caller).mp first
  rw [(inv.held other).mp second] at taken
  exact (Option.some.inj taken).symm

/-- No caller waits while the manager can receive or `main` waits for a command. -/
theorem Booting.main_waits (inv : Booting setting state) {what : Configure}
    {rest : List ChildStep} (at_ : state.main = .run (.receive what :: rest))
    (caller : Option Thread) : state.callers caller = .idle := by
  by_contra engaged
  have may := inv.may caller engaged
  cases caller with
  | none => simp [BootState.mayCall, at_] at may
  | some thread =>
      have late := inv.late may _ at_ (.receive what) List.mem_cons_self
      cases late

variable [DecidableEq Thread]

/-- One caller moves on without giving the lock back. -/
theorem Booting.held_call (inv : Booting setting state) {caller : Option Thread} {pc : CallerPc}
    (before : state.callers caller ≠ .idle) (after : pc ≠ .idle) (other : Option Thread) :
    (state.call caller pc).callers other ≠ .idle ↔ state.lock = some other := by
  by_cases here : other = caller
  · subst here
    simp only [BootState.call, Function.update_self]
    exact ⟨fun _ => (inv.held other).mp before, fun _ => after⟩
  · simp only [BootState.call, Function.update_of_ne here]
    exact inv.held other

omit [DecidableEq Thread] in
theorem Booting.work (inv : Booting setting state) {rest : List ChildStep} {succeeds : Bool}
    (at_ : state.main = .run (.work :: rest)) (idle : state.callers none = .idle) :
    Booting setting { state with main := if succeeds then .run rest else .stuck } := by
  have onward : ∀ steps, (if succeeds then MainPc.run rest else .stuck) = .run steps →
      steps = rest := by
    intro steps same
    cases succeeds with
    | true => exact (MainPc.run.inj same).symm
    | false => cases same
  refine { inv with
    fits := ?_
    may := ?_
    paired := inv.paired
    late := ?_
    starts := ?_
    knows := ?_ }
  · intro steps left manager main
    rw [onward left main]
    exact (inv.fits steps _ manager at_).worked
  · intro caller engaged
    cases caller with
    | none => exact absurd idle engaged
    | some thread => exact inv.may (some thread) engaged
  · intro started left main step member
    rw [onward left main] at member
    exact inv.late started _ at_ step (List.mem_cons_of_mem _ member)
  · intro left main
    rw [onward left main]
    exact (List.pairwise_cons.mp (inv.starts _ at_)).2
  · intro left main what absent
    rw [onward left main] at absent
    refine inv.knows _ at_ what fun member => ?_
    rcases List.mem_cons.mp member with same | member
    · cases same
    · exact absent member

omit [DecidableEq Thread] in
theorem Booting.verifyIrq (inv : Booting setting state) {steps : List ManagerStep}
    {succeeds : Bool} (at_ : state.manager = .run (.verifyIrq :: steps)) :
    Booting setting { state with manager := if succeeds then .run steps else .failed } := by
  have still : ∀ caller request, state.callers caller ≠ .wait request := by
    intro caller request waits
    rcases inv.waiting caller request waits with busy | failed
    · rw [at_] at busy
      cases busy
    · rw [at_] at failed
      cases failed
  have paired := inv.paired
  simp only [Paired, at_] at paired
  refine { inv with
    fits := ?_
    receiving := ?_
    may := inv.may
    waiting := fun caller request waits => absurd waits (still caller request)
    paired := ?_ }
  · intro left rest manager main
    cases succeeds with
    | true =>
        cases manager
        exact (inv.fits _ rest (by rw [at_]; rfl) main).verified.1
    | false => cases manager
  · intro busy
    cases succeeds <;> cases busy
  · cases succeeds <;> exact paired

theorem Booting.begin (inv : Booting setting state) {caller : Option Thread} {request : Request}
    (may : state.mayCall caller = true) (idle : state.callers caller = .idle)
    (free : state.lock = none) :
    Booting setting { state.call caller (.send request) with lock := some caller } := by
  have elsewhere : ∀ other, other ≠ caller →
      (state.call caller (.send request)).callers other = state.callers other :=
    fun other different => Function.update_of_ne different _ _
  have here : (state.call caller (.send request)).callers caller = .send request :=
    Function.update_self _ _ _
  have moved : ∀ other called, (state.call caller (.send request)).callers other = .wait called →
      state.callers other = .wait called := by
    intro other called waits
    by_cases same : other = caller
    · rw [same, here] at waits
      cases waits
    · rwa [elsewhere other same] at waits
  refine { inv with
    held := ?_
    may := ?_
    waiting := fun other called waits => inv.waiting other called (moved other called waits)
    paired := ?_ }
  · intro other
    by_cases same : other = caller
    · subst same
      exact ⟨fun _ => rfl, fun _ => by simp [here]⟩
    · simp only [elsewhere other same, inv.idle free other]
      exact ⟨fun engaged => absurd rfl engaged, fun taken => absurd (Option.some.inj taken).symm same⟩
  · intro other engaged
    by_cases same : other = caller
    · rw [same]
      exact may
    · rw [elsewhere other same, inv.idle free other] at engaged
      exact absurd rfl engaged
  · have paired := inv.paired
    simp only [Paired] at paired ⊢
    have nobody : ∀ other called, state.callers other ≠ .wait called := by
      intro other called waits
      rw [inv.idle free other] at waits
      cases waits
    cases at_ : state.manager <;> simp only [at_] at paired
    case serve =>
      obtain ⟨-, other, waits⟩ := paired
      exact absurd waits (nobody other _)
    case answer =>
      obtain ⟨other, called, -, -, waits, -⟩ := paired
      exact absurd waits (nobody other called)
    all_goals
      simp only [BootState.call, at_]
      exact paired

omit [DecidableEq Thread] in
/-- The manager receives an event. -/
theorem Booting.event (inv : Booting setting state) {event first expected : Event}
    {instead alternative : Option Event} {rest : List ChildStep} {steps : List ManagerStep}
    {accepted : Bool} (at_ : state.main = .run (.send first instead :: rest))
    (manager : state.manager = .run (.receive expected alternative :: steps)) :
    Booting setting { state with
      main := .run rest
      manager := if (event = expected ∨ some event = alternative) ∧ accepted then .run steps
        else .failed } := by
  have fits := inv.fits _ _ (by rw [manager]; rfl) at_
  have paired := inv.paired
  simp only [Paired, manager] at paired
  have still : ∀ caller request, state.callers caller ≠ .wait request := by
    intro caller request waits
    rcases inv.waiting caller request waits with busy | failed
    · rw [manager] at busy
      cases busy
    · rw [manager] at failed
      cases failed
  refine { inv with
    fits := ?_
    receiving := ?_
    may := ?_
    waiting := fun caller request waits => absurd waits (still caller request)
    paired := ?_
    late := ?_
    starts := ?_
    knows := ?_ }
  · intro left later went main
    cases main
    cases fits with
    | event expects fits =>
        split at went
        next =>
          cases went
          exact fits
        next => cases went
  · intro busy
    split at busy <;> cases busy
  · intro caller engaged
    have may := inv.may caller engaged
    cases caller with
    | none => simp [BootState.mayCall, at_] at may
    | some thread => exact may
  · split <;> exact paired
  · intro started left main step member
    cases main
    exact inv.late started _ at_ step (List.mem_cons_of_mem _ member)
  · intro left main
    cases main
    exact (List.pairwise_cons.mp (inv.starts _ at_)).2
  · intro left main what absent
    cases main
    refine inv.knows _ at_ what fun member => ?_
    rcases List.mem_cons.mp member with same | member
    · cases same
    · exact absent member

/-- The manager receives a request. -/
theorem Booting.request (inv : Booting setting state) {caller : Option Thread} {request : Request}
    {expected : Event} {alternative : Option Event} {steps : List ManagerStep}
    (at_ : state.callers caller = .send request)
    (manager : state.manager = .run (.receive expected alternative :: steps)) :
    Booting setting { state.call caller (.wait request) with
      manager := if request.answered then .serve request (.receive expected alternative :: steps)
        else .failed } := by
  have engaged : state.callers caller ≠ .idle := by simp [at_]
  have here : (state.call caller (.wait request)).callers caller = .wait request :=
    Function.update_self _ _ _
  have paired := inv.paired
  simp only [Paired, manager] at paired
  refine { inv with
    fits := ?_
    receiving := ?_
    held := inv.held_call engaged (by simp)
    may := ?_
    waiting := ?_
    paired := ?_ }
  · intro left rest went main
    refine inv.fits left rest ?_ main
    rw [manager]
    split at went
    next => exact went
    next => cases went
  · intro busy
    split at busy
    next answered => exact ⟨expected, alternative, steps, by simp [answered, ManagerPc.rest]⟩
    next => cases busy
  · intro other moving
    have taken : state.lock = some other := (inv.held_call engaged (by simp) other).mp moving
    exact inv.may other ((inv.held other).mpr taken)
  · intro other called waits
    split
    next => exact .inl rfl
    next => exact .inr rfl
  · unfold Paired
    split
    next served request' rest' shape =>
      split at shape
      next =>
        cases shape
        exact ⟨paired, caller, here⟩
      next => cases shape
    next message fatal rest' shape => split at shape <;> cases shape
    next => exact paired

omit [DecidableEq Thread] in
/-- A service answers. -/
theorem Booting.service (inv : Booting setting state) {request : Request} {reply : Reply}
    {rest : List ManagerStep} (at_ : state.manager = .serve request rest) :
    Booting setting { state with
      manager := .answer (request.service.answer reply) (request.service.fatal reply) rest
      served := state.served ++ [(request, ⟨reply.error,
        if (request.service.answer reply).command = .netResult then reply.response else 0⟩)] } := by
  have paired := inv.paired
  simp only [Paired, at_] at paired
  obtain ⟨results, caller, waits⟩ := paired
  have receiving := inv.receiving
  rw [at_] at receiving
  refine { inv with
    fits := ?_
    receiving := fun _ => receiving rfl
    may := inv.may
    waiting := fun _ _ _ => .inl rfl
    paired := ⟨caller, request, state.served, _, waits, rfl, results,
      request.service.result_answer reply⟩ }
  intro left later went main
  exact inv.fits left later (by rw [at_]; exact went) main

omit [DecidableEq Thread] in
/-- A message that reaches `main` is the one it waits for. -/
theorem Booting.sends_main (inv : Booting setting state) {what : Configure}
    {rest : List ChildStep} {message : CommandMessage} {manager : ManagerPc}
    (at_ : state.main = .run (.receive what :: rest))
    (sends : state.manager.sends = some (message, manager)) :
    ∃ steps, state.manager = .run (.send (setting.message what) :: steps) ∧
      message = setting.message what ∧ manager = .run steps ∧
      what.accepts (setting.message what) = true ∧ Fits setting steps rest := by
  have paired := inv.paired
  cases here : state.manager with
  | failed =>
      rw [here] at sends
      cases sends
  | serve request left =>
      rw [here] at sends
      cases sends
  | answer answered fatal left =>
      simp only [Paired, here] at paired
      obtain ⟨caller, request, -, -, waits, -⟩ := paired
      rw [inv.main_waits at_ caller] at waits
      cases waits
  | run steps =>
      have fits := inv.fits steps _ (by rw [here]; rfl) at_
      rw [here] at sends
      cases fits with
      | verifyIrq fits => cases sends
      | configure what accepts fits =>
          cases sends
          exact ⟨_, rfl, rfl, rfl, accepts, fits⟩

omit [DecidableEq Thread] in
theorem Booting.configure (inv : Booting setting state) {what : Configure}
    {rest : List ChildStep} {message : CommandMessage} {manager : ManagerPc}
    (at_ : state.main = .run (.receive what :: rest))
    (sends : state.manager.sends = some (message, manager)) :
    Booting setting (({ state with manager } : BootState Thread).configured what rest message) := by
  obtain ⟨steps, here, rfl, rfl, accepts, fits⟩ := inv.sends_main at_ sends
  have paired := inv.paired
  simp only [Paired, here] at paired
  have idle := inv.main_waits at_
  have notStarted : state.started = false := by
    cases started : state.started with
    | false => rfl
    | true =>
        have late := inv.late started _ at_ (.receive what) List.mem_cons_self
        cases late
  have last : (state.started || decide (what = .start)) = true →
      ∀ step ∈ rest, step.receives = false := by
    intro started
    rw [notStarted, Bool.false_or] at started
    have isStart := of_decide_eq_true started
    exact fun step member => (List.pairwise_cons.mp (inv.starts _ at_)).1 step member
      (by rw [isStart])
  have knows : ∀ other, .receive other ∉ rest →
      (state.configuration.store (setting.message what) what).Knows setting other := by
    refine fun other absent => .store fun different => inv.knows _ at_ other fun member => ?_
    rcases List.mem_cons.mp member with same | member
    · exact different (ChildStep.receive.inj same)
    · exact absent member
  unfold BootState.configured
  rw [if_pos accepts]
  refine {
    fits := fun left later went main => ?_
    receiving := fun busy => by cases busy
    held := inv.held
    may := fun caller engaged => absurd (idle caller) engaged
    waiting := fun caller request waits => ?_
    paired := paired
    late := fun started left main => ?_
    starts := fun left main => ?_
    knows := fun left main other absent => ?_
    told := fun started => Configuration.eq_of_knows fun other => knows other fun member => ?_ }
  · cases main
    cases went
    exact fits
  · rw [show state.callers caller = .idle from idle caller] at waits
    cases waits
  · cases main
    exact last started
  · cases main
    exact (List.pairwise_cons.mp (inv.starts _ at_)).2
  · cases main
    exact knows other absent
  · have receives := last started _ member
    cases receives

/-- The answer reaches the caller it is for. -/
theorem Booting.reply (inv : Booting setting state) {caller : Option Thread} {request : Request}
    {message : CommandMessage} {manager : ManagerPc} (at_ : state.callers caller = .wait request)
    (sends : state.manager.sends = some (message, manager)) :
    Booting setting { state.call caller .unlock with
      manager, results := state.results ++ [(request, request.service.result message)] } := by
  have engaged : state.callers caller ≠ .idle := by simp [at_]
  have paired := inv.paired
  have busy := inv.waiting caller request at_
  cases here : state.manager with
  | failed =>
      rw [here] at sends
      cases sends
  | serve served left =>
      rw [here] at sends
      cases sends
  | run steps =>
      rw [here] at busy
      rcases busy with busy | busy <;> cases busy
  | answer answered fatal left =>
      simp only [Paired, here] at paired
      obtain ⟨other, called, front, reply, waits, served, results, result⟩ := paired
      have same : other = caller := inv.only (by simp [waits]) engaged
      rw [same, at_] at waits
      cases waits
      rw [here] at sends
      cases sends
      refine { inv with
        fits := ?_
        receiving := ?_
        held := inv.held_call engaged (by simp)
        may := ?_
        waiting := ?_
        paired := ?_ }
      · intro steps rest went main
        refine inv.fits steps rest ?_ main
        rw [here]
        cases fatal with
        | true => cases went
        | false => exact went
      · intro busy
        cases fatal <;> cases busy
      · intro other moving
        have taken : state.lock = some other := (inv.held_call engaged (by simp) other).mp moving
        exact inv.may other ((inv.held other).mpr taken)
      · intro other called waits
        by_cases same : other = caller
        · simp [BootState.call, same] at waits
        · simp only [BootState.call, Function.update_of_ne same] at waits
          exact absurd (inv.only (by simp [waits]) engaged) same
      · have all : state.results ++ [(request, request.service.result message)] =
            state.served.map fun entry => (entry.1, some entry.2) := by
          rw [served, results, result, List.map_append]
          rfl
        cases fatal <;> exact all

theorem Booting.unlock (inv : Booting setting state) {caller : Option Thread}
    (at_ : state.callers caller = .unlock) :
    Booting setting { state.call caller .idle with lock := none } := by
  have engaged : state.callers caller ≠ .idle := by simp [at_]
  have free : ∀ other, (state.call caller .idle).callers other = .idle := by
    intro other
    by_cases same : other = caller
    · simp [BootState.call, same]
    · simp only [BootState.call, Function.update_of_ne same]
      by_contra moving
      exact same (inv.only moving engaged)
  refine { inv with
    held := fun other => ⟨fun moving => absurd (free other) moving, fun taken => by cases taken⟩
    may := fun other moving => absurd (free other) moving
    waiting := fun other request waits => ?_
    paired := ?_ }
  · rw [show (state.call caller .idle).callers other = .idle from free other] at waits
    cases waits
  · have paired := inv.paired
    simp only [Paired, BootState.call] at paired ⊢
    cases here : state.manager with
    | serve request left =>
        rw [here] at paired
        obtain ⟨-, other, waits⟩ := paired
        have same : other = caller := inv.only (by simp [waits]) engaged
        rw [same, at_] at waits
        cases waits
    | answer message fatal left =>
        rw [here] at paired
        obtain ⟨other, called, -, -, waits, -⟩ := paired
        have same : other = caller := inv.only (by simp [waits]) engaged
        rw [same, at_] at waits
        cases waits
    | _ =>
        rw [here] at paired
        exact paired

theorem bootNext_booting (inv : Booting setting state) {action : BootAction Thread}
    (moved : bootNext state action = some target) : Booting setting target := by
  cases action with
  | work succeeds =>
      simp only [bootNext] at moved
      split at moved
      next rest at_ =>
        split at moved
        next idle =>
          cases moved
          exact inv.work at_ idle
        next => cases moved
      next => cases moved
  | verifyIrq succeeds =>
      simp only [bootNext] at moved
      split at moved
      next steps at_ =>
        cases moved
        exact inv.verifyIrq at_
      next => cases moved
  | begin caller request =>
      simp only [bootNext] at moved
      split at moved
      next may =>
        cases moved
        exact inv.begin may.1 may.2.1 may.2.2
      next => cases moved
  | event event accepted =>
      simp only [bootNext] at moved
      split at moved
      next first instead rest expected alternative steps at_ manager =>
        split at moved
        next =>
          cases moved
          exact inv.event at_ manager
        next => cases moved
      next => cases moved
  | request caller =>
      simp only [bootNext] at moved
      split at moved
      next request expected alternative steps at_ manager =>
        cases moved
        exact inv.request at_ manager
      next => cases moved
  | service reply =>
      simp only [bootNext] at moved
      split at moved
      next request rest at_ =>
        cases moved
        exact inv.service at_
      next => cases moved
  | configure =>
      simp only [bootNext] at moved
      split at moved
      next what rest message manager at_ sends =>
        cases moved
        exact inv.configure at_ sends
      next => cases moved
  | reply caller =>
      simp only [bootNext] at moved
      split at moved
      next request message manager at_ sends =>
        cases moved
        exact inv.reply at_ sends
      next => cases moved
  | unlock caller =>
      simp only [bootNext] at moved
      split at moved
      next at_ =>
        cases moved
        exact inv.unlock at_
      next => cases moved

end Steps

/-! ## The beginning -/

theorem StartsLast.append {front rest : List ChildStep}
    (before : ∀ step ∈ front, step ≠ .receive .start) (last : StartsLast rest) :
    StartsLast (front ++ rest) := by
  induction front with
  | nil => exact last
  | cons first front inductionHypothesis =>
      refine List.pairwise_cons.mpr ⟨fun _ _ isStart => ?_, ?_⟩
      · exact absurd isStart (before first List.mem_cons_self)
      · exact inductionHypothesis fun step member => before step (List.mem_cons_of_mem _ member)

theorem childMain_startsLast (mode : Mode) : StartsLast (childMain mode) := by
  unfold childMain
  simp only [List.append_assoc]
  refine .append (by simp [sendEvent]) (.append (by simp) (.append (by simp) ?_))
  unfold StartsLast
  cases mode <;> decide +kernel

theorem childMain_receives (mode : Mode) (what : Configure) :
    .receive what ∈ childMain mode := by
  cases what <;> simp [childMain, sendEvent]

section Runs

variable [DecidableEq Thread] {setting : BootSetting} {state : BootState Thread}

omit [DecidableEq Thread] in
theorem BootInitial.booting (complete : setting.Complete) (initial : BootInitial setting state) :
    Booting setting state where
  fits steps rest manager main := by
    rw [initial.manager] at manager
    rw [initial.main] at main
    cases manager
    cases main
    exact manageChild_fits complete
  receiving busy := by
    rw [initial.manager] at busy
    cases busy
  held caller := by simp [initial.callers, initial.lock]
  may caller engaged := absurd (initial.callers caller) engaged
  waiting caller request waits := by
    rw [initial.callers] at waits
    cases waits
  paired := by simp [Paired, initial.manager, initial.history]
  late started := by
    rw [initial.started] at started
    cases started
  starts rest main := by
    rw [initial.main] at main
    cases main
    exact childMain_startsLast setting.mode
  knows rest main what absent := by
    rw [initial.main] at main
    cases main
    exact absurd (childMain_receives setting.mode what) absent
  told started := by
    rw [initial.started] at started
    cases started

/-- The callers get the manager's answers to their own requests, in the order in which it has
given them; whoever waits at the command endpoint waits there alone; and once it has started,
`main` knows what the manager has told it. -/
structure BootSound (setting : BootSetting) (state : BootState Thread) : Prop where
  answers : ∃ rest, state.served.map (fun entry => (entry.1, some entry.2)) =
    state.results ++ rest ∧ rest.length ≤ 1
  alone : ∀ caller request, state.callers caller = .wait request →
    (∀ other called, state.callers other = .wait called → other = caller) ∧
      ∀ what rest, state.main ≠ .run (.receive what :: rest)
  configured : state.started = true → state.configuration = setting.configuration

theorem boot_sound (complete : setting.Complete)
    (reached : (bootSystem Thread setting).Reachable state) : BootSound setting state := by
  have inv : Booting setting state :=
    System.Reachable.invariant (Booting setting)
      (fun _ initial => BootInitial.booting complete initial)
      (fun _ _ _ inv moved => bootNext_booting inv moved) reached
  refine ⟨?_, fun caller request waits => ⟨fun other called calls => ?_, ?_⟩, inv.told⟩
  · have paired := inv.paired
    cases here : state.manager <;> simp only [Paired, here] at paired
    case answer =>
      obtain ⟨caller, request, front, reply, -, served, results, -⟩ := paired
      refine ⟨[(request, some reply)], ?_, Nat.le_refl 1⟩
      rw [served, results, List.map_append]
      rfl
    case serve => exact ⟨[], by rw [paired.1, List.append_nil], Nat.zero_le 1⟩
    all_goals exact ⟨[], by rw [paired, List.append_nil], Nat.zero_le 1⟩
  · exact inv.only (by simp [calls]) (by simp [waits])
  · intro what rest at_
    rw [inv.main_waits at_ caller] at waits
    cases waits

end Runs

/-! ## Completion -/

/-- The work of the child and the services succeed, the callers ask for what the manager
answers, and its heap accounting accepts the events. -/
def Fortunate (state : BootState Thread) : BootAction Thread → Prop
  | .work succeeds | .verifyIrq succeeds => succeeds = true
  | .begin _ request => request.answered = true
  | .event _ accepted => accepted = true
  | .service reply =>
      match state.manager with
      | .serve request _ => request.service.fatal reply = false
      | _ => True
  | _ => True

/-- Neither side has given up, nor is about to. -/
structure Healthy (state : BootState Thread) : Prop where
  manager : state.manager ≠ .failed
  main : state.main ≠ .stuck
  answers : ∀ message fatal rest, state.manager = .answer message fatal rest → fatal = false
  asks : ∀ caller request, state.callers caller = .send request → request.answered = true

def CallerPc.cost : CallerPc → Nat
  | .idle => 0
  | .send _ => 5
  | .wait _ => 3
  | .unlock => 1

def ManagerPc.cost : ManagerPc → Nat
  | .run rest | .answer _ _ rest => 8 * rest.length
  | .serve _ rest => 8 * rest.length + 1
  | .failed => 0

def MainPc.cost : MainPc → Nat
  | .run rest => 8 * rest.length
  | .stuck => 0

/-- A bound for the steps to the end when no caller begins a request any more. -/
def BootState.cost (state : BootState Thread) : Nat :=
  state.manager.cost + state.main.cost +
    state.lock.elim 0 fun caller => (state.callers caller).cost

section Completion

variable [DecidableEq Thread] {setting : BootSetting} {state target : BootState Thread}

theorem bootNext_healthy (inv : Booting setting state) (healthy : Healthy state)
    {action : BootAction Thread} (fortunate : Fortunate state action)
    (moved : bootNext state action = some target) : Healthy target := by
  cases action with
  | work succeeds =>
      simp only [bootNext] at moved
      split at moved
      next rest at_ =>
        split at moved
        next =>
          cases moved
          rw [show succeeds = true from fortunate, if_pos rfl]
          exact { healthy with main := by simp }
        next => cases moved
      next => cases moved
  | verifyIrq succeeds =>
      simp only [bootNext] at moved
      split at moved
      next =>
        cases moved
        rw [show succeeds = true from fortunate, if_pos rfl]
        exact { healthy with manager := by simp, answers := by simp }
      next => cases moved
  | begin caller request =>
      simp only [bootNext] at moved
      split at moved
      next =>
        cases moved
        refine { healthy with asks := fun other asked sends => ?_ }
        by_cases same : other = caller
        · simp only [BootState.call, same, Function.update_self, CallerPc.send.injEq] at sends
          rw [← sends]
          exact fortunate
        · simp only [BootState.call, Function.update_of_ne same] at sends
          exact healthy.asks other asked sends
      next => cases moved
  | event event accepted =>
      simp only [bootNext] at moved
      split at moved
      next first instead rest expected alternative steps at_ manager =>
        split at moved
        next sent =>
          cases moved
          have fits := inv.fits _ _ (by rw [manager]; rfl) at_
          cases fits with
          | event expects fits =>
              rw [if_pos ⟨expects event sent, fortunate⟩]
              exact { healthy with manager := by simp, main := by simp, answers := by simp }
        next => cases moved
      next => cases moved
  | request caller =>
      simp only [bootNext] at moved
      split at moved
      next request expected alternative steps at_ manager =>
        cases moved
        rw [if_pos (healthy.asks caller request at_)]
        refine { healthy with
          manager := by simp
          answers := by simp
          asks := fun other asked sends => ?_ }
        by_cases same : other = caller
        · simp [BootState.call, same] at sends
        · simp only [BootState.call, Function.update_of_ne same] at sends
          exact healthy.asks other asked sends
      next => cases moved
  | service reply =>
      simp only [bootNext] at moved
      split at moved
      next request rest at_ =>
        cases moved
        simp only [Fortunate, at_] at fortunate
        refine { healthy with manager := by simp, answers := fun message fatal left same => ?_ }
        cases same
        exact fortunate
      next => cases moved
  | configure =>
      simp only [bootNext] at moved
      split at moved
      next what rest message manager at_ sends =>
        cases moved
        obtain ⟨steps, here, rfl, rfl, accepts, fits⟩ := inv.sends_main at_ sends
        unfold BootState.configured
        rw [if_pos accepts]
        exact { healthy with manager := by simp, main := by simp, answers := by simp }
      next => cases moved
  | reply caller =>
      simp only [bootNext] at moved
      split at moved
      next request message manager at_ sends =>
        cases moved
        have onward : ∃ steps, manager = .run steps := by
          cases here : state.manager with
          | failed => exact absurd here healthy.manager
          | serve request rest =>
              rw [here] at sends
              cases sends
          | answer answered fatal rest =>
              rw [here, healthy.answers answered fatal rest here] at sends
              cases sends
              exact ⟨rest, rfl⟩
          | run steps =>
              rcases inv.waiting caller request at_ with busy | failed
              · rw [here] at busy
                cases busy
              · exact absurd failed healthy.manager
        obtain ⟨steps, rfl⟩ := onward
        refine { healthy with
          manager := by simp
          answers := by simp
          asks := fun other asked sends => ?_ }
        by_cases same : other = caller
        · simp [BootState.call, same] at sends
        · simp only [BootState.call, Function.update_of_ne same] at sends
          exact healthy.asks other asked sends
      next => cases moved
  | unlock caller =>
      simp only [bootNext] at moved
      split at moved
      next =>
        cases moved
        refine { healthy with asks := fun other asked sends => ?_ }
        by_cases same : other = caller
        · simp [BootState.call, same] at sends
        · simp only [BootState.call, Function.update_of_ne same] at sends
          exact healthy.asks other asked sends
      next => cases moved

/-- Some step brings the parties closer to the end. -/
def Advances (state : BootState Thread) : Prop :=
  ∃ action, Fortunate state action ∧
    ∃ target, bootNext state action = some target ∧ target.cost < state.cost

/-- The manager has a receiver for its answer. -/
theorem Booting.answer_step (inv : Booting setting state) {message : CommandMessage}
    {rest : List ManagerStep} (at_ : state.manager = .answer message false rest) :
    Advances state := by
  have paired := inv.paired
  simp only [Paired, at_] at paired
  obtain ⟨caller, request, -, -, waits, -⟩ := paired
  have taken := (inv.held caller).mp (by simp [waits])
  refine ⟨.reply caller, trivial, ?_⟩
  simp only [bootNext, waits, at_, ManagerPc.sends]
  refine ⟨_, rfl, ?_⟩
  simp [BootState.cost, BootState.call, at_, taken, waits, ManagerPc.cost, CallerPc.cost]

/-- The caller that holds the lock asks the manager, or gives the lock back. -/
theorem Booting.caller_step (inv : Booting setting state) {expected : Event}
    {alternative : Option Event} {steps : List ManagerStep} {caller : Option Thread}
    (at_ : state.manager = .run (.receive expected alternative :: steps))
    (healthy : Healthy state) (taken : state.lock = some caller) : Advances state := by
  have engaged := (inv.held caller).mpr taken
  cases pc : state.callers caller with
  | idle => exact absurd pc engaged
  | send request =>
      refine ⟨.request caller, trivial, ?_⟩
      simp only [bootNext, pc, at_]
      refine ⟨_, rfl, ?_⟩
      simp [BootState.cost, BootState.call, at_, taken, pc, ManagerPc.cost, CallerPc.cost,
        healthy.asks caller request pc]
      omega
  | wait request =>
      rcases inv.waiting caller request pc with busy | failed
      · rw [at_] at busy
        cases busy
      · exact absurd failed healthy.manager
  | unlock =>
      refine ⟨.unlock caller, trivial, ?_⟩
      simp only [bootNext, pc, if_true]
      refine ⟨_, rfl, ?_⟩
      simp [BootState.cost, BootState.call, taken, pc, CallerPc.cost]

/-- The child works or sends the event that the manager waits for. -/
theorem Booting.receive_step (inv : Booting setting state) {expected : Event}
    {alternative : Option Event} {steps : List ManagerStep} {rest : List ChildStep}
    (at_ : state.manager = .run (.receive expected alternative :: steps))
    (main : state.main = .run rest) (healthy : Healthy state) : Advances state := by
  cases taken : state.lock with
  | some caller => exact inv.caller_step at_ healthy taken
  | none =>
      have idle := inv.idle taken none
      have fits := inv.fits _ rest (by rw [at_]; rfl) main
      cases fits with
      | work busy noSend fits =>
          refine ⟨.work true, rfl, ?_⟩
          simp only [bootNext, main, idle, if_true]
          refine ⟨_, rfl, ?_⟩
          simp [BootState.cost, main, taken, MainPc.cost]
      | @event _ later _ first _ instead expects fits =>
          have accepted := expects first (.inl rfl)
          refine ⟨.event first true, rfl, ?_⟩
          simp only [bootNext, main, at_, true_or, if_true, accepted, true_and]
          refine ⟨_, rfl, ?_⟩
          simp [BootState.cost, main, at_, taken, MainPc.cost, ManagerPc.cost]
          omega

/-- Until both scripts are over, some step brings the parties closer to the end. -/
theorem Booting.advances (inv : Booting setting state) (healthy : Healthy state)
    (unfinished : ¬ (state.manager = .run [] ∧ state.main = .run [])) : Advances state := by
  cases at_ : state.manager with
  | failed => exact absurd at_ healthy.manager
  | serve request rest =>
      have fine : request.service.fatal ⟨0, 0⟩ = false := by
        cases request.service <;> rfl
      refine ⟨.service ⟨0, 0⟩, by simpa only [Fortunate, at_] using fine, ?_⟩
      simp only [bootNext, at_]
      refine ⟨_, rfl, ?_⟩
      simp [BootState.cost, at_, ManagerPc.cost]
  | answer message fatal rest =>
      have fine := healthy.answers message fatal rest at_
      subst fine
      exact inv.answer_step at_
  | run steps =>
      cases main : state.main with
      | stuck => exact absurd main healthy.main
      | run rest =>
          have fits := inv.fits steps rest (by rw [at_]; rfl) main
          cases steps with
          | nil =>
              cases fits with
              | nil => exact absurd ⟨at_, main⟩ unfinished
              | work busy noSend fits => exact absurd rfl busy
          | cons step steps =>
              cases step with
              | receive expected alternative => exact inv.receive_step at_ main healthy
              | verifyIrq =>
                  refine ⟨.verifyIrq true, rfl, ?_⟩
                  simp only [bootNext, at_, if_true]
                  refine ⟨_, rfl, ?_⟩
                  simp [BootState.cost, at_, ManagerPc.cost]
              | send message =>
                  cases fits with
                  | work busy noSend fits => exact absurd rfl (noSend _ _)
                  | configure what accepts fits =>
                      refine ⟨.configure, trivial, ?_⟩
                      simp only [bootNext, main, at_, ManagerPc.sends]
                      refine ⟨_, rfl, ?_⟩
                      simp [BootState.cost, BootState.configured, main, at_, accepts,
                        MainPc.cost, ManagerPc.cost]
                      omega

/-- The manager and the child can go on to the end, and then the child knows what it has
been told. -/
def Completes (setting : BootSetting) (state : BootState Thread) : Prop :=
  ∃ final, (bootSystem Thread setting).Leads Fortunate state final ∧
    final.manager = .run [] ∧ final.main = .run [] ∧
      final.configuration = setting.configuration

theorem Booting.completes (inv : Booting setting state) (healthy : Healthy state) :
    Completes setting state := by
  induction bound : state.cost using Nat.strong_induction_on generalizing state with
  | _ cost inductionHypothesis =>
      by_cases finished : state.manager = .run [] ∧ state.main = .run []
      · refine ⟨state, .refl, finished.1, finished.2, ?_⟩
        exact Configuration.eq_of_knows fun what =>
          inv.knows [] finished.2 what List.not_mem_nil
      · obtain ⟨action, fortunate, target, moved, less⟩ := inv.advances healthy finished
        rw [bound] at less
        obtain ⟨final, leads, ends⟩ := inductionHypothesis target.cost less
          (bootNext_booting inv moved) (bootNext_healthy inv healthy fortunate moved) rfl
        exact ⟨final, (System.Leads.next action fortunate moved).trans leads, ends⟩

/-- While nothing else fails, neither side gives up and both can go on to the end. -/
structure BootCompletes (setting : BootSetting) (state : BootState Thread) : Prop where
  manager : state.manager ≠ .failed
  main : state.main ≠ .stuck
  completes : Completes setting state

omit [DecidableEq Thread] in
theorem BootInitial.healthy (initial : BootInitial setting state) : Healthy state := by
  constructor <;> simp [initial.manager, initial.main, initial.callers]

theorem boot_completes (complete : setting.Complete)
    (reached : (bootSystem Thread setting).Reach Fortunate state) :
    BootCompletes setting state := by
  have inv : Booting setting state ∧ Healthy state :=
    System.Reach.invariant (fun state => Booting setting state ∧ Healthy state)
      (fun _ initial => ⟨BootInitial.booting complete initial, BootInitial.healthy initial⟩)
      (fun _ _ _ inv fortunate moved => ⟨bootNext_booting inv.1 moved,
        bootNext_healthy inv.1 inv.2 fortunate moved⟩) reached
  exact ⟨inv.2.manager, inv.2.main, inv.1.completes inv.2⟩

end Completion

/-- A stress child with some capabilities. -/
def stressSetting : BootSetting where
  resources := { console := { childIoPort := 1 }, netCaps := ⟨2, 3, 4⟩ }
  addresses _ := ⟨0x1000, 64, 0x2000⟩
  mode := .stress
  tscFrequency := 1000000000

theorem stressSetting_complete : stressSetting.Complete := by
  constructor <;> simp [stressSetting]

/-- A child that has just been started. -/
def startedChild (setting : BootSetting) : BootState Thread where
  manager := .run (manageChild setting)
  main := .run (childMain setting.mode)
  started := false
  lock := none
  callers _ := .idle
  configuration := ⟨fun _ => ⟨0, 0, 0, 0, 0⟩, fun _ => 0, 0, 0, 0, 0, 0⟩
  served := []
  results := []

theorem startedChild_initial (setting : BootSetting) :
    BootInitial setting (startedChild setting : BootState Thread) :=
  ⟨rfl, rfl, rfl, rfl, fun _ => rfl, rfl, rfl⟩

theorem boot_completes_stress :
    BootCompletes stressSetting (startedChild stressSetting : BootState Bool) :=
  boot_completes stressSetting_complete (.init (startedChild_initial _))

/-- A caller asks a service and gets its answer. -/
def serviceCall (caller : Option Bool) (request : Request) (reply : Reply) :
    List (BootAction Bool) :=
  [.begin caller request, .request caller, .service reply, .reply caller, .unlock caller]

def workedUpTo (event : Event) : List (BootAction Bool) := [.work true, .event event true]

/-- A whole life of a child, in which a thread reads from the disk and `main` receives. -/
def stressLife : List (BootAction Bool) :=
  [.event .ready true, .event .lklLinked true] ++
    List.replicate (lunaResourceSlots + lunaSyncSlots + 3) .configure ++
    workedUpTo .resourceConfigured ++ [.configure] ++ workedUpTo .resourceOk ++
    serviceCall (some true) ⟨.diskRead, 0, 512⟩ ⟨0, 0⟩ ++
    serviceCall none ⟨.netRxBatch, 16, 0⟩ ⟨0, 7⟩ ++
    workedUpTo .allocatorOk ++ workedUpTo .syncTlsOk ++ workedUpTo .threadTimerOk ++
    workedUpTo .lklInitOk ++ workedUpTo .lklBootOk ++ workedUpTo .virtioBlockOk ++
    workedUpTo .lklHaltOk ++ [.event .allocatorReleased true, .event .done true]

theorem boot_sound_stress : ∃ state : BootState Bool, state.manager = .run [] ∧
    state.main = .run [] ∧ state.results = [(⟨.diskRead, 0, 512⟩, some ⟨0, 0⟩),
      (⟨.netRxBatch, 16, 0⟩, some ⟨0, 7⟩)] ∧ BootSound stressSetting state := by
  obtain ⟨state, reached, ends⟩ := System.exists_reach_of_exec (bootSystem Bool stressSetting)
    (fun _ _ => True) (startedChild stressSetting) stressLife
    (fun state => decide (state.manager = .run [] ∧ state.main = .run [] ∧
      state.results = [(⟨.diskRead, 0, 512⟩, some ⟨0, 0⟩),
        (⟨.netRxBatch, 16, 0⟩, some ⟨0, 7⟩)])) (startedChild_initial _) (by decide +kernel)
  obtain ⟨manager, main, results⟩ := of_decide_eq_true ends
  exact ⟨state, manager, main, results, boot_sound stressSetting_complete reached⟩

end Luna.Child
