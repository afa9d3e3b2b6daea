import Luna.Lib.Interleaving
import Luna.Child.Start

/-!
# The manager and a child

`boot_child`, `wait_child_halt` and what `luna_isolation_smoke` expects besides, next to `main`
of the child and to the threads of the child that call `luna_lkl_task_manager_request_value`.
The parties meet at two endpoints: a send waits for a receiver and a receive for a sender.
All senders at the control endpoint and all receivers at the command endpoint are equal to the
kernel, so a message may go to any of them.

Label and badge, which are 0 and the child's own in every message, and the detail of an event,
which is the mode on both sides, are left out.  What the services answer, and whether the
manager's heap accounting accepts an event, is a choice of the run.
-/

namespace Luna.Child

open Interleaving

/-! ## Messages -/

/-- The part of `enum luna_isolation_event` that tells how far the child is. -/
inductive Event where
  | ready
  | lklLinked
  | resourceConfigured
  | resourceOk
  | allocatorOk
  | syncTlsOk
  | threadTimerOk
  | lklInitOk
  | lklBootOk
  | virtioNetOk
  | networkIpv4Ok
  | virtioBlockOk
  | networkIcmpOk
  | networkIcmpUnavailable
  | networkTcpOk
  | networkPressureOk
  | networkTxPressureOk
  | userProgramOk
  | lklShellReady
  | lklHaltOk
  | allocatorReleased
  | done
  deriving DecidableEq, Repr

/-- The part of `enum luna_isolation_event` that asks for a service. -/
inductive Service where
  | memoryMap
  | memoryUnmap
  | diskRead
  | diskWrite
  | diskFlush
  | diskSubmitBatch
  | netTx
  | netRx
  | netTxBatch
  | netRxBatch
  | netWake
  | netControl
  | netStats
  | netTxStats
  | netTxStress
  | netDebug
  | timerArm
  | timerCancel
  deriving DecidableEq, Repr

/-- `enum luna_manager_command`. -/
inductive Command where
  | configureSlot
  | configureSync
  | configureConsole
  | start
  | memoryResult
  | configureDisk
  | diskResult
  | configureNet
  | netResult
  | timerResult
  deriving DecidableEq, Repr

/-- A message at the command endpoint: register 0 and the ones behind it. -/
structure CommandMessage where
  command : Command
  words : List Nat
  deriving DecidableEq, Repr

/-- `seL4_MessageInfo_get_length`. -/
def CommandMessage.length (message : CommandMessage) : Nat := message.words.length + 1

/-- `seL4_GetMR`, from register 1 on. -/
def CommandMessage.word (message : CommandMessage) (register : Nat) : Nat :=
  message.words.getD (register - 1) 0

structure Request where
  service : Service
  value1 : Nat
  value2 : Nat
  deriving DecidableEq, Repr

/-- The result of a request and its `response_value`. -/
structure Reply where
  error : Nat
  response : Nat
  deriving DecidableEq, Repr

/-! ## What the manager does -/

def lunaDiskIoBase : Nat := 0x24000000
def lunaDiskIoBytes : Nat := 64 * 1024
def lunaPersistentDiskSize : Nat := 16 * 1024 * 1024
def lunaNetIoBase : Nat := 0x25000000
def lunaNetIoBytes : Nat := 4096 + 2 * 16 * 2048
def lunaNetMacWord0 : Nat := 0x12005452
def lunaNetMacWord1 : Nat := 0x00005634
def lunaNetTxRetry : Nat := 1

/-- The fields of `sel4utils_thread_t` that a child is told. -/
structure ThreadAddresses where
  stackTop : Nat
  stackSize : Nat
  ipcBufferAddr : Nat
  deriving DecidableEq, Repr

/-- `enum luna_isolation_mode`. -/
inductive Mode where
  | fault
  | clean
  | stress
  deriving DecidableEq, Repr

/-- What `boot_child` has got from `start_child` and its caller. -/
structure BootSetting where
  resources : Resources
  addresses : Fin lunaResourceSlots → ThreadAddresses
  mode : Mode
  tscFrequency : Nat

inductive ManagerStep where
  | receive (expected : Event) (alternative : Option Event)
  | send (message : CommandMessage)
  | verifyIrq
  deriving DecidableEq, Repr

def sendResourceSlot (setting : BootSetting) (index : Fin lunaResourceSlots) : CommandMessage :=
  let slot := setting.resources.slots index
  let thread := setting.addresses index
  ⟨.configureSlot, [index, lunaResourceSlots, slot.childTcb, thread.stackTop, thread.stackSize,
    thread.ipcBufferAddr, slot.childJoinNtfn]⟩

def sendSyncSlot (setting : BootSetting) (index : Fin lunaSyncSlots) : CommandMessage :=
  ⟨.configureSync, [index, lunaSyncSlots, (setting.resources.sync index).childNtfn]⟩

def sendConsoleResource (setting : BootSetting) : CommandMessage :=
  ⟨.configureConsole, [setting.resources.console.childIoPort]⟩

def sendDiskResource : CommandMessage :=
  ⟨.configureDisk, [lunaDiskIoBase, lunaDiskIoBytes, lunaPersistentDiskSize]⟩

def sendNetResource (setting : BootSetting) : CommandMessage :=
  ⟨.configureNet, [lunaNetIoBase, lunaNetIoBytes, lunaNetMacWord0, lunaNetMacWord1,
    setting.resources.netCaps.childRxNtfn, setting.resources.netCaps.childTxNtfn,
    setting.resources.netCaps.childTxSubmitNtfn]⟩

def sendStart (setting : BootSetting) : CommandMessage := ⟨.start, [setting.tscFrequency]⟩

def receiveEvent (expected : Event) : ManagerStep := .receive expected none

/-- `boot_child`, once `start_child` has succeeded. -/
def bootChild (setting : BootSetting) : List ManagerStep :=
  [receiveEvent .ready, receiveEvent .lklLinked] ++
    (List.finRange lunaResourceSlots).map (fun index => .send (sendResourceSlot setting index)) ++
    (List.finRange lunaSyncSlots).map (fun index => .send (sendSyncSlot setting index)) ++
    [.send (sendConsoleResource setting), .send sendDiskResource,
      .send (sendNetResource setting), receiveEvent .resourceConfigured,
      .send (sendStart setting), receiveEvent .resourceOk, receiveEvent .allocatorOk,
      receiveEvent .syncTlsOk, receiveEvent .threadTimerOk, receiveEvent .lklInitOk,
      receiveEvent .lklBootOk] ++
    (if setting.mode = .clean then [receiveEvent .virtioNetOk, receiveEvent .networkIpv4Ok]
      else []) ++
    [receiveEvent .virtioBlockOk]

def waitChildHalt : List ManagerStep := [receiveEvent .lklHaltOk, receiveEvent .allocatorReleased]

/-- What `luna_isolation_smoke` does with a child of a mode. -/
def manageChild (setting : BootSetting) : List ManagerStep :=
  bootChild setting ++
    match setting.mode with
    | .fault => waitChildHalt
    | .stress => waitChildHalt ++ [receiveEvent .done]
    | .clean =>
        [.receive .networkIcmpOk (some .networkIcmpUnavailable), receiveEvent .networkTcpOk,
          receiveEvent .networkPressureOk, receiveEvent .networkTxPressureOk, .verifyIrq,
          receiveEvent .userProgramOk, receiveEvent .lklShellReady] ++ waitChildHalt ++
          [receiveEvent .done]

/-- The requests that `receive_event_variant` answers. -/
def Request.answered (request : Request) : Bool :=
  match request.service with
  | .diskSubmitBatch | .netTx | .netRx | .netTxBatch | .netRxBatch | .netWake | .netControl
  | .netStats | .netTxStats | .netTxStress | .netDebug => request.value2 = 0
  | _ => true

/-- The message of a service, which answers before it returns. -/
def Service.answer (service : Service) (reply : Reply) : CommandMessage :=
  match service with
  | .memoryMap | .memoryUnmap => ⟨.memoryResult, [reply.error]⟩
  | .diskRead | .diskWrite | .diskFlush | .diskSubmitBatch => ⟨.diskResult, [reply.error]⟩
  | .timerArm | .timerCancel => ⟨.timerResult, [reply.error]⟩
  | _ => ⟨.netResult, [reply.error, reply.response]⟩

/-- The service returns an error, on which the manager gives up the child. -/
def Service.fatal (service : Service) (reply : Reply) : Bool :=
  match service with
  | .memoryMap | .memoryUnmap | .diskRead | .diskWrite | .diskFlush | .diskSubmitBatch
  | .timerArm | .timerCancel => reply.error ≠ 0
  | _ => reply.error ≠ 0 ∧ reply.error ≠ lunaNetTxRetry

/-! ## What the child does -/

/-- What `main` waits for at the command endpoint. -/
inductive Configure where
  | slot (index : Fin lunaResourceSlots)
  | sync (index : Fin lunaSyncSlots)
  | console
  | disk
  | net
  | start
  deriving DecidableEq, Repr

/-- `receive_command` and the checks behind it. -/
def Configure.accepts (message : CommandMessage) : Configure → Bool
  | .slot index => message.command = .configureSlot ∧ message.length = 8 ∧
      message.word 1 = index ∧ message.word 2 = lunaResourceSlots
  | .sync index => message.command = .configureSync ∧ message.length = 4 ∧
      message.word 1 = index ∧ message.word 2 = lunaSyncSlots
  | .console => message.command = .configureConsole ∧ message.length = 2 ∧ message.word 1 ≠ 0
  | .disk => message.command = .configureDisk ∧ message.length = 4 ∧
      message.word 1 = lunaDiskIoBase ∧ message.word 2 = lunaDiskIoBytes ∧
      message.word 3 = lunaPersistentDiskSize
  | .net => message.command = .configureNet ∧ message.length = 8 ∧
      message.word 1 = lunaNetIoBase ∧ message.word 2 = lunaNetIoBytes ∧
      message.word 3 = lunaNetMacWord0 ∧ message.word 4 = lunaNetMacWord1 ∧
      message.word 5 ≠ 0 ∧ message.word 6 ≠ 0 ∧ message.word 7 ≠ 0
  | .start => message.command = .start ∧ message.length = 2 ∧ message.word 1 ≠ 0

/-- `struct luna_task_thread_resource`. -/
structure TaskThreadResource where
  tcb : Nat
  stackTop : Nat
  stackPages : Nat
  ipcBufferAddr : Nat
  joinNtfn : Nat
  deriving DecidableEq, Repr

/-- The variables of `main`. -/
structure Configuration where
  resources : Fin lunaResourceSlots → TaskThreadResource
  sync : Fin lunaSyncSlots → Nat
  consoleIoPort : Nat
  netRxNtfn : Nat
  netTxNtfn : Nat
  netTxSubmitNtfn : Nat
  tscFrequency : Nat

/-- `main` stores what a command brings. -/
def Configuration.store (configuration : Configuration) (message : CommandMessage) :
    Configure → Configuration
  | .slot index => { configuration with
      resources := Function.update configuration.resources index
        ⟨message.word 3, message.word 4, message.word 5, message.word 6, message.word 7⟩ }
  | .sync index => { configuration with
      sync := Function.update configuration.sync index (message.word 3) }
  | .console => { configuration with consoleIoPort := message.word 1 }
  | .disk => configuration
  | .net => { configuration with
      netRxNtfn := message.word 5, netTxNtfn := message.word 6
      netTxSubmitNtfn := message.word 7 }
  | .start => { configuration with tscFrequency := message.word 1 }

/-- During `work` the child may call the services; one of the events is sent. -/
inductive ChildStep where
  | work
  | send (event : Event) (instead : Option Event)
  | receive (what : Configure)
  deriving DecidableEq, Repr

def sendEvent (event : Event) : ChildStep := .send event none

/-- `finish_child`; a child of mode FAULT faults before it sends anything else. -/
def finishChild (mode : Mode) : List ChildStep :=
  [sendEvent .lklHaltOk, sendEvent .allocatorReleased] ++
    (if mode = .fault then [] else [sendEvent .done])

/-- `main` of the child. -/
def childMain (mode : Mode) : List ChildStep :=
  [sendEvent .ready, sendEvent .lklLinked] ++
    (List.finRange lunaResourceSlots).map (fun index => .receive (.slot index)) ++
    (List.finRange lunaSyncSlots).map (fun index => .receive (.sync index)) ++
    [.receive .console, .receive .disk, .receive .net, .work, sendEvent .resourceConfigured,
      .receive .start, .work, sendEvent .resourceOk, .work, sendEvent .allocatorOk, .work,
      sendEvent .syncTlsOk, .work, sendEvent .threadTimerOk, .work, sendEvent .lklInitOk, .work,
      sendEvent .lklBootOk] ++
    (if mode = .clean then [.work, sendEvent .virtioNetOk, sendEvent .networkIpv4Ok] else []) ++
    [.work, sendEvent .virtioBlockOk] ++
    (if mode = .clean then
      [.work, .send .networkIcmpOk (some .networkIcmpUnavailable), sendEvent .networkTcpOk, .work,
        sendEvent .networkPressureOk, .work, sendEvent .networkTxPressureOk, .work,
        sendEvent .userProgramOk, sendEvent .lklShellReady, .work]
      else []) ++
    [.work] ++ finishChild mode

/-- The command and the length `luna_lkl_task_manager_request_value` waits for. -/
def Service.expected : Service → Command × Nat
  | .memoryMap | .memoryUnmap => (.memoryResult, 2)
  | .netTx | .netRx | .netTxBatch | .netRxBatch | .netWake | .netControl | .netStats
  | .netTxStats | .netTxStress | .netDebug => (.netResult, 3)
  | .timerArm | .timerCancel => (.timerResult, 2)
  | _ => (.diskResult, 2)

/-- What `luna_lkl_task_manager_request_value` makes of a message; `none` is its -1. -/
def Service.result (service : Service) (message : CommandMessage) : Option Reply :=
  let (command, length) := service.expected
  if message.command ≠ command ∨ message.length ≠ length then none
  else some ⟨message.word 1, if length > 2 then message.word 2 else 0⟩

/-! ## The system -/

inductive ManagerPc where
  | run (rest : List ManagerStep)
  | serve (request : Request) (rest : List ManagerStep)
  | answer (message : CommandMessage) (fatal : Bool) (rest : List ManagerStep)
  | failed
  deriving DecidableEq, Repr

inductive MainPc where
  | run (rest : List ChildStep)
  | stuck
  deriving DecidableEq, Repr

/-- A caller of the services, which hold `task_manager_lock_word` for it. -/
inductive CallerPc where
  | idle
  | send (request : Request)
  | wait (request : Request)
  | unlock
  deriving DecidableEq, Repr

/-- The parties.  A caller is a thread, or `main` for `none`.  The manager's services have
given `served` and the callers have got `results`. -/
structure BootState (Thread : Type) where
  manager : ManagerPc
  main : MainPc
  started : Bool
  lock : Option (Option Thread)
  callers : Option Thread → CallerPc
  configuration : Configuration
  served : List (Request × Reply)
  results : List (Request × Option Reply)

inductive BootAction (Thread : Type) where
  | work (succeeds : Bool)
  | verifyIrq (succeeds : Bool)
  | begin (caller : Option Thread) (request : Request)
  | event (event : Event) (accepted : Bool)
  | request (caller : Option Thread)
  | service (reply : Reply)
  | configure
  | reply (caller : Option Thread)
  | unlock (caller : Option Thread)

section Steps

variable {Thread : Type} [DecidableEq Thread]

def BootState.call (state : BootState Thread) (caller : Option Thread) (pc : CallerPc) :
    BootState Thread :=
  { state with callers := Function.update state.callers caller pc }

/-- The threads of the child start after START, and `main` calls the services only from
the work between two messages. -/
def BootState.mayCall (state : BootState Thread) : Option Thread → Bool
  | some _ => state.started
  | none =>
      match state.main with
      | .run (.work :: _) => true
      | _ => false

/-- The message the manager sends at the command endpoint, and where it goes on. -/
def ManagerPc.sends : ManagerPc → Option (CommandMessage × ManagerPc)
  | .run (.send message :: rest) => some (message, .run rest)
  | .answer message fatal rest => some (message, if fatal then .failed else .run rest)
  | _ => none

/-- A message reaches `main`, which never comes back from a wrong one. -/
def BootState.configured (state : BootState Thread) (what : Configure) (rest : List ChildStep)
    (message : CommandMessage) : BootState Thread :=
  if what.accepts message then
    { state with
      main := .run rest
      started := state.started || what = .start
      configuration := state.configuration.store message what }
  else { state with main := .stuck }

/-- A step of the parties. -/
def bootNext (state : BootState Thread) : BootAction Thread → Option (BootState Thread)
  | .work succeeds =>
      match state.main with
      | .run (.work :: rest) =>
          if state.callers none = .idle then
            some { state with main := if succeeds then .run rest else .stuck }
          else none
      | _ => none
  | .verifyIrq succeeds =>
      match state.manager with
      | .run (.verifyIrq :: rest) =>
          some { state with manager := if succeeds then .run rest else .failed }
      | _ => none
  | .begin caller request =>
      if state.mayCall caller ∧ state.callers caller = .idle ∧ state.lock = none then
        some { state.call caller (.send request) with lock := some caller }
      else none
  | .event event accepted =>
      match state.main, state.manager with
      | .run (.send first instead :: rest), .run (.receive expected alternative :: after) =>
          if event = first ∨ some event = instead then
            some { state with
              main := .run rest
              manager := if (event = expected ∨ some event = alternative) ∧ accepted then
                .run after else .failed }
          else none
      | _, _ => none
  | .request caller =>
      match state.callers caller, state.manager with
      | .send request, .run (.receive expected alternative :: after) =>
          some { state.call caller (.wait request) with
            manager := if request.answered then
              .serve request (.receive expected alternative :: after) else .failed }
      | _, _ => none
  | .service reply =>
      match state.manager with
      | .serve request rest =>
          let message := request.service.answer reply
          some { state with
            manager := .answer message (request.service.fatal reply) rest
            served := state.served ++ [(request, ⟨reply.error,
              if message.command = .netResult then reply.response else 0⟩)] }
      | _ => none
  | .configure =>
      match state.main, state.manager.sends with
      | .run (.receive what :: rest), some (message, manager) =>
          some (({ state with manager } : BootState Thread).configured what rest message)
      | _, _ => none
  | .reply caller =>
      match state.callers caller, state.manager.sends with
      | .wait request, some (message, manager) =>
          some { state.call caller .unlock with
            manager, results := state.results ++ [(request, request.service.result message)] }
      | _, _ => none
  | .unlock caller =>
      if state.callers caller = .unlock then
        some { state.call caller .idle with lock := none }
      else none

/-- The child runs and the manager has just returned from `start_child`. -/
structure BootInitial (setting : BootSetting) (state : BootState Thread) : Prop where
  manager : state.manager = .run (manageChild setting)
  main : state.main = .run (childMain setting.mode)
  started : state.started = false
  lock : state.lock = none
  callers : ∀ caller, state.callers caller = .idle
  history : state.served = [] ∧ state.results = []

def bootSystem (Thread : Type) [DecidableEq Thread] (setting : BootSetting) :
    System (BootState Thread) (BootAction Thread) :=
  ⟨BootInitial setting, bootNext⟩

end Steps

end Luna.Child
