import TelAF.MngdPower

/-!
# The managed power service

Clients ask for a shutdown or a restart, the driver of the vehicle side is asked first, and the
power management service notifies the power states that follow. The clients that want to know are
told of each state and acknowledge it; their answer goes back to the power management service.
-/

namespace TelAF.MngdPm

open PmService (PowerState)

/-- `hal_pm_PowerMode_t`; a driver may send other values. -/
inductive HalPowerMode where
  | shutdownModeNormal
  | shutdownModeGraceful
  | restartModeNadReboot
  | restartModeSystemOffOnNadOff
  | suspendModeFull
  | other (value : Nat)
deriving DecidableEq

/-- `hal_pm_RspReason_t`. -/
inductive HalRspReason where
  | ready
  | notReady
  | timeout
  | invalidRequest
  | other (value : Nat)
deriving DecidableEq

inductive RequestedState where
  | systemNormalShutdown
  | restartWithNadPowerOffOn
  | restartWithNadReboot
  | asyncReqUnknownSt
deriving DecidableEq

inductive RestartMode where
  | systemOffOn
  | nadReboot
  | other (value : Nat)

def RestartMode.requestedState : RestartMode → Option RequestedState
  | systemOffOn => some .restartWithNadPowerOffOn
  | nadReboot => some .restartWithNadReboot
  | other _ => none

inductive Response where
  | ready
  | notReady
  | timeout
  | invalidRequest
deriving DecidableEq

inductive NodePowerState where
  | resume
  | suspendPrepare
  | shutdownPrepare
  | restartPrepare
deriving DecidableEq

/-- `hal_pm_Inf_t`: which of the two calls the driver has. -/
structure PmInf where
  nodeStateChangePrepareAsync : Bool
  nodeStateChangeReqAsync : Bool

inductive PrepareRespType where
  | shutdown
  | restart
deriving DecidableEq

/-- `vhalPrepareRespPayload_t`. -/
structure PrepareResp where
  type : PrepareRespType
  mode : HalPowerMode
  rsp : HalRspReason

/-- The handler of a request: its context is a new one for every request. -/
structure Callback where
  contextPtr : Nat
  sessionRef : Nat

structure Window where
  statePtr : RequestedState
  vhalRespHandled : Bool
  vhalAckTimerRuns : Bool
  shutdownCB : Option Callback
  restartCB : Option Callback
  nextContext : Nat

/-- `taf_mngdPm_NodePowerStateCtxt_t`. -/
structure Handler where
  sessionRef : Nat
  powerStateMask : BitVec 32
  initialRef : Option Nat

/-- `taf_mngdPm_NodePowerStateChangeCtxt_t`. -/
structure Record where
  nodeStateRef : Nat
  sessionRef : Nat
  state : NodePowerState
  isAcked : Bool

/-- The node power states: who is told, and who has acknowledged. `nodePowerStateChange` are the
reported events, the oldest first. -/
structure NodeStates where
  nodePowerStateHandlerList : RefMap Handler
  regClientrecrd : List Record
  ackClientrecrdSize : BitVec 8
  clientSize : BitVec 8
  currentStateChange : NodePowerState
  stateChangeAckTimerRuns : Bool
  nextNodeStateRef : Nat
  nodePowerStateChange : List NodePowerState
  currentNodePowerState : NodePowerState
  powerStateRef : Nat

/-- `tafMngdPMSvc`. -/
structure State where
  clients : List Nat
  power : Power
  window : Window
  nodeStates : NodeStates
  pmInf : Option PmInf
  handlerRef : Bool
  crashed : Bool

/-- What the service sends: to the power management service, to the driver, and to its clients. -/
inductive Message where
  | setAllVMPowerState (state : PowerState) (accepted : Bool)
  | sendStateChangeAck (powerStateRef : Nat) (state : PowerState) (ready : Bool)
  | nodeStateChangePrepare (mode : HalPowerMode)
  | nodeStateChangeReq (mode : HalPowerMode)
  | answer (contextPtr : Nat) (response : Response) (result : Result)
  | nodePowerState (handlerRef session nodeStateRef : Nat) (state : NodePowerState)
deriving DecidableEq

structure Outcome where
  state : State
  messages : List Message := []

/-- The state after `COMPONENT_INIT`. -/
def start (handlerRef : Bool) (currentNodePowerState : NodePowerState) : State where
  clients := []
  power := {
    wsRefList := .empty
    nodeWsRefList := .empty
    vhalWsAcquired := false
    wsCount := 0
    wsNodeCount := 0
    powerMode := ⟨false, false, false, false, false, false, false⟩
    stateMachine := ⟨.resume, .unknown⟩
    targetedPowerMode := .resume
    stayAwakeReasonMask := authorizeAll
    previousStayAwakeReasonMask := 0
    bootTimer := .notStarted
    pmsHolds := false
    pmsPending := false }
  window := ⟨.asyncReqUnknownSt, false, false, none, none, 0⟩
  nodeStates := {
    nodePowerStateHandlerList := .empty
    regClientrecrd := []
    ackClientrecrdSize := 0
    clientSize := 0
    currentStateChange := .resume
    stateChangeAckTimerRuns := false
    nextNodeStateRef := 0
    nodePowerStateChange := []
    currentNodePowerState := currentNodePowerState
    powerStateRef := 0 }
  pmInf := none
  handlerRef := handlerRef
  crashed := false

namespace RequestedState

/-- The flag of the power mode that a request sets. -/
def setFlag (value : Bool) (m : PowerMode) : RequestedState → PowerMode
  | systemNormalShutdown => { m with isForceful := value }
  | restartWithNadPowerOffOn => { m with isShutDown := value }
  | restartWithNadReboot => { m with isRestart := value }
  | asyncReqUnknownSt => m

def flag (m : PowerMode) : RequestedState → Bool
  | systemNormalShutdown => m.isForceful
  | restartWithNadPowerOffOn => m.isShutDown
  | restartWithNadReboot => m.isRestart
  | asyncReqUnknownSt => false

def halMode : RequestedState → HalPowerMode
  | systemNormalShutdown => .shutdownModeNormal
  | restartWithNadPowerOffOn => .restartModeSystemOffOnNadOff
  | restartWithNadReboot => .restartModeNadReboot
  | asyncReqUnknownSt => .other 0

/-- The power state that the node is set to for a request. -/
def powerState : RequestedState → PowerState
  | restartWithNadReboot => .restart
  | _ => .shutdown

end RequestedState

def modeToRequestedState : HalPowerMode → RequestedState
  | .shutdownModeNormal => .systemNormalShutdown
  | .restartModeSystemOffOnNadOff => .restartWithNadPowerOffOn
  | .restartModeNadReboot => .restartWithNadReboot
  | _ => .asyncReqUnknownSt

namespace Window

def callback (w : Window) : RequestedState → Option Callback
  | .systemNormalShutdown => w.shutdownCB
  | .restartWithNadPowerOffOn | .restartWithNadReboot => w.restartCB
  | .asyncReqUnknownSt => none

def setCallback (w : Window) (cb : Option Callback) : RequestedState → Window
  | .systemNormalShutdown => { w with shutdownCB := cb }
  | .restartWithNadPowerOffOn | .restartWithNadReboot => { w with restartCB := cb }
  | .asyncReqUnknownSt => w

/-- The timer is started with the window; starting a timer that runs changes nothing. -/
def openFor (w : Window) (requested : RequestedState) (cb : Callback) : Window :=
  setCallback { w with statePtr := requested, vhalRespHandled := false, vhalAckTimerRuns := true }
    (some cb) requested

end Window

/-- The state machine follows a power state that was accepted. -/
def Outcome.thenChange (o : Outcome) (toState : MachineState) (env : PmsEnv) : Outcome :=
  if env.nad then
    { o with state := { o.state with power := o.state.power.processStateChange toState } }
  else o

namespace State

variable (s : State)

/-! ## Setting the node -/

def setPower (p : Power) : State := { s with power := p }

def setNad (state : PowerState) (env : PmsEnv) : Outcome :=
  ⟨s.setPower (s.power.setAllVMPowerState env.nad), [.setAllVMPowerState state env.nad]⟩

/-- The power mode changes if the power state is accepted. -/
def setNadMode (state : PowerState) (change : PowerMode → PowerMode) (env : PmsEnv) : Outcome :=
  let o := s.setNad state env
  { o with state := if env.nad then o.state.setPower (o.state.power.setPowerMode change) else o.state }

/-! ## Windows -/

def answerCB (requested : RequestedState) (response : Response) : List Message :=
  match s.window.callback requested with
  | some cb => [.answer cb.contextPtr response .ok]
  | none => []

def revertPendingWindow (env : PmsEnv) : State := s.setPower (s.power.revertPendingWindow env)

/-- The window is closed and the node stays up. -/
def revert (requested : RequestedState) (answers : List Message) (env : PmsEnv) : Outcome :=
  ⟨s.setPower ((s.power.revertPendingWindow env).setPowerMode fun m => requested.setFlag false m),
    answers⟩

/-- The driver is ready. The node is set after its client is told. -/
def proceed (requested : RequestedState) (env : PmsEnv) : Outcome :=
  let o := s.setNadMode requested.powerState (fun m =>
    if requested = .restartWithNadReboot then m else { m with isGraceful := false }) env
  { o with messages := s.answerCB requested .ready ++ o.messages }

/-- The branches on the reason are the same for all three requests. -/
def handleReason (requested : RequestedState) (rsp : HalRspReason) (env : PmsEnv) : Outcome :=
  match rsp with
  | .ready => s.proceed requested env
  | .notReady => s.revert requested (s.answerCB requested .notReady) env
  | .invalidRequest => s.revert requested (s.answerCB requested .invalidRequest) env
  | _ => s.revert requested [] env

def dropCallback (requested : RequestedState) : State :=
  { s with window := s.window.setCallback none requested }

def handleShutdownPrepareResp (payload : PrepareResp) (env : PmsEnv) : Outcome :=
  let o := if payload.mode = .shutdownModeNormal then
      s.handleReason .systemNormalShutdown payload.rsp env
    else s.revert .systemNormalShutdown [] env
  { o with state := o.state.dropCallback .systemNormalShutdown }

def handleRestartPrepareResp (payload : PrepareResp) (env : PmsEnv) : Outcome :=
  let o := if payload.mode = .restartModeSystemOffOnNadOff then
      s.handleReason .restartWithNadPowerOffOn payload.rsp env
    else if payload.mode = .restartModeNadReboot then
      s.handleReason .restartWithNadReboot payload.rsp env
    else ⟨s.revertPendingWindow env, []⟩
  { o with state := o.state.dropCallback .restartWithNadReboot }

/-- The window is closed by the first of the response and the timer. -/
def closeWindow : State :=
  { s with window := { s.window with vhalRespHandled := true, vhalAckTimerRuns := false } }

def vhalPrepareRespHandler (payload : PrepareResp) (env : PmsEnv) : Outcome :=
  if s.window.vhalRespHandled then ⟨s, []⟩
  else if modeToRequestedState payload.mode ≠ s.window.statePtr then ⟨s, []⟩
  else match payload.type with
  | .shutdown => s.closeWindow.handleShutdownPrepareResp payload env
  | .restart => s.closeWindow.handleRestartPrepareResp payload env

def vhalAckTimerHandler (env : PmsEnv) : Outcome :=
  if s.window.vhalRespHandled then
    ⟨{ s with window := { s.window with vhalAckTimerRuns := false } }, []⟩
  else
    let pendingWindow := s.window.statePtr
    let o := s.closeWindow.revert pendingWindow (s.answerCB pendingWindow .timeout) env
    { o with state := o.state.dropCallback pendingWindow }

/-- The window is opened and the driver is asked. -/
def sendPrepare (requested : RequestedState) (cb : Callback) : Outcome :=
  ⟨{ s with
      power := s.power.setPowerMode fun m => requested.setFlag true m
      window := s.window.openFor requested cb },
    [.nodeStateChangePrepare requested.halMode]⟩

def preparesAsync : Bool := s.pmInf.any PmInf.nodeStateChangePrepareAsync

def newContext : State :=
  { s with window := { s.window with nextContext := s.window.nextContext + 1 } }

def shutdownReqAsync (session reason : Nat) (env : PmsEnv) : Outcome :=
  let cb : Callback := ⟨s.window.nextContext, session⟩
  let s := s.newContext
  let current := s.power.stateMachine.currentState
  if session ∉ s.clients ∨ 1 < reason ∧ reason < 15 then
    ⟨s, [.answer cb.contextPtr .notReady .unsupported]⟩
  else if current = .shuttingDown ∨ current = .shutdown then
    ⟨s, [.answer cb.contextPtr .notReady .busy]⟩
  else if s.power.requestStateChange .shuttingDown = false then
    ⟨s, [.answer cb.contextPtr .notReady .ok]⟩
  else
    let s := s.setPower ((s.power.setPowerMode fun m => { m with isForceful := true })
      |>.processStateChange .shuttingDown)
    if s.preparesAsync then s.sendPrepare .systemNormalShutdown cb
    else
      let o := s.setNadMode .shutdown (fun m => { m with isGraceful := false }) env
      { o with messages := o.messages ++ [.answer cb.contextPtr .ready .ok] }

/-- A restart once its state is taken, or with a mode that is none. -/
def restartPrepare (mode : RestartMode) (cb : Callback) (env : PmsEnv) : Outcome :=
  match mode.requestedState with
  | none => if s.preparesAsync then ⟨s, []⟩ else ⟨s, [.answer cb.contextPtr .ready .ok]⟩
  | some requested =>
    if s.preparesAsync then s.sendPrepare requested cb
    else
      let o := s.setNadMode requested.powerState (fun m =>
        { requested.setFlag true m with isGraceful := false }) env
      { o with messages := o.messages ++ [.answer cb.contextPtr .ready .ok] }

/-- One of the two restart modes: the states it is refused in, and the one it takes. -/
def restartFrom (mode : RestartMode) (transient final : MachineState) (cb : Callback)
    (env : PmsEnv) : Outcome :=
  let current := s.power.stateMachine.currentState
  if current = transient ∨ current = final then ⟨s, [.answer cb.contextPtr .notReady .busy]⟩
  else if s.power.requestStateChange transient = false then
    ⟨s, [.answer cb.contextPtr .notReady .ok]⟩
  else (s.setPower (s.power.processStateChange transient)).restartPrepare mode cb env

def restartReqAsync (session : Nat) (mode : RestartMode) (reason : Nat) (env : PmsEnv) : Outcome :=
  let cb : Callback := ⟨s.window.nextContext, session⟩
  let s := s.newContext
  if session ∉ s.clients ∨ 2 < reason ∧ reason < 15 then
    ⟨s, [.answer cb.contextPtr .notReady .unsupported]⟩
  else if s.handlerRef = false then ⟨s, []⟩
  else match mode with
  | .systemOffOn => s.restartFrom .systemOffOn .shuttingDown .shutdown cb env
  | .nadReboot => s.restartFrom .nadReboot .restarting .restart cb env
  | .other value => s.restartPrepare (.other value) cb env

def shutdownNode (env : PmsEnv) : Outcome :=
  s.setNadMode .shutdown (fun m => { m with isShutDown := true }) env

def restartNode (env : PmsEnv) : Outcome :=
  s.setNadMode .restart (fun m => { m with isRestart := true }) env

/-! ## Node power states -/

def isSameAsCurrentState (tafState : MachineState) : NodePowerState → Bool
  | .shutdownPrepare => tafState = .shutdown
  -- the source compares with the state of a shutdown here, too
  | .restartPrepare => tafState = .shutdown
  | .suspendPrepare => tafState = .suspend
  | .resume => tafState = .resume

def isConfiguredBitMask (stateMask : BitVec 32) : NodePowerState → Bool
  | .shutdownPrepare => stateMask.getLsbD 0
  | .restartPrepare => stateMask.getLsbD 1
  | .suspendPrepare => stateMask.getLsbD 2
  | .resume => stateMask.getLsbD 3

def toPowerState : NodePowerState → PowerState
  | .shutdownPrepare => .shutdown
  | .restartPrepare => .restart
  | .suspendPrepare => .suspend
  | .resume => .resume

/-- The acknowledgement carries the reference of the last notification. -/
def sendAckToPms (state : NodePowerState) (ready : Bool) : Message :=
  .sendStateChangeAck s.nodeStates.powerStateRef (toPowerState state) ready

def setNodeStates (n : NodeStates) : State := { s with nodeStates := n }

/-- The handlers that are told of the state, the last one first. -/
def configuredHandlers (state : NodePowerState) : List (Nat × Handler) :=
  (s.nodeStates.nodePowerStateHandlerList.entries.filter fun e =>
    isConfiguredBitMask e.2.powerStateMask state).reverse

/-- The handlers with the references that are made for them. -/
def numbered (state : NodePowerState) : List ((Nat × Handler) × Nat) :=
  (s.configuredHandlers state).zipIdx s.nodeStates.nextNodeStateRef

def callNodePowerStateHandlerFunc (state : NodePowerState) : Outcome :=
  let told := s.numbered state
  let n := { s.nodeStates with
    regClientrecrd := told.map fun e => ⟨e.2, e.1.2.sessionRef, state, false⟩
    ackClientrecrdSize := 0
    clientSize := BitVec.ofNat 8 told.length
    nextNodeStateRef := s.nodeStates.nextNodeStateRef + told.length }
  let messages := told.map fun e => .nodePowerState e.1.1 e.1.2.sessionRef e.2 state
  if n.clientSize = 0 then
    ⟨s.setNodeStates n, messages ++ [s.sendAckToPms state true]⟩
  else
    ⟨s.setNodeStates { n with currentStateChange := state, stateChangeAckTimerRuns := true }, messages⟩

def nodePowerStateChanged : Outcome :=
  match s.nodeStates.nodePowerStateChange with
  | [] => ⟨s, []⟩
  | state :: rest =>
    (s.setNodeStates { s.nodeStates with
      nodePowerStateChange := rest
      currentNodePowerState := state }).callNodePowerStateHandlerFunc state

/-- A client that has not acknowledged is looked up to be named, and there is no record of it. -/
def missesSession : Bool :=
  s.nodeStates.regClientrecrd.any fun client => !client.isAcked && client.sessionRef ∉ s.clients

def stateChangeAckTimerHandler : Outcome :=
  let n := { s.nodeStates with stateChangeAckTimerRuns := false }
  if s.missesSession then ⟨{ s.setNodeStates n with crashed := true }, []⟩
  else ⟨s.setNodeStates { n with clientSize := 0, ackClientrecrdSize := 0 },
    [s.sendAckToPms n.currentStateChange true]⟩

/-- The first record of the session is the one that is marked. -/
def markAcked (session : Nat) : List Record → Option (List Record)
  | [] => some []
  | client :: rest =>
    if client.sessionRef = session then
      if client.isAcked then none else some ({ client with isAcked := true } :: rest)
    else (markAcked session rest).map (client :: ·)

/-- An acknowledgement of a client that is in the records, in the state it was told of. -/
def acknowledge (session : Nat) (state : NodePowerState) (ready : Bool) : Outcome :=
  let n := s.nodeStates
  if n.stateChangeAckTimerRuns = false then ⟨s, []⟩
  else if ready = false then ⟨s, [s.sendAckToPms state false]⟩
  else match markAcked session n.regClientrecrd with
  | none => ⟨s, []⟩
  | some records =>
    let n := { n with regClientrecrd := records, ackClientrecrdSize := n.ackClientrecrdSize + 1 }
    if BitVec.ofNat 8 records.length = n.ackClientrecrdSize then
      ⟨s.setNodeStates { n with
          stateChangeAckTimerRuns := false, clientSize := 0, ackClientrecrdSize := 0 },
        [s.sendAckToPms state true]⟩
    else ⟨s.setNodeStates n, []⟩

/-- The record of the session with the reference. -/
def findRecord (session ref : Nat) : Option Record :=
  s.nodeStates.regClientrecrd.find? fun client =>
    client.nodeStateRef = ref ∧ client.sessionRef = session

/-- The reference is that of the state that a handler was told of when it was added. -/
def isInitialRef (ref : Nat) : Bool :=
  s.nodeStates.nodePowerStateHandlerList.values.any fun handler => handler.initialRef = some ref

def sendNodePowerStateChangeAck (session ref : Nat) (ready : Bool) : Outcome :=
  if session ∉ s.clients then ⟨s, []⟩
  else if s.isInitialRef ref then ⟨s, []⟩
  else match s.findRecord session ref with
  | none => ⟨s, []⟩
  | some client =>
    if isSameAsCurrentState s.power.stateMachine.currentState client.state then
      s.acknowledge session client.state ready
    else ⟨s, []⟩

/-- A handler that is not told at once has `old` in place of the reference: what was in its memory
before. -/
def addNodePowerStateChangeHandler (session : Nat) (stateMask : BitVec 32) (old : Option Nat) :
    Outcome :=
  let n := s.nodeStates
  if session ∉ s.clients ∨ stateMask = 0 ∨ stateMask &&& ~~~0xF#32 ≠ 0 then ⟨s, []⟩
  else if isConfiguredBitMask stateMask n.currentNodePowerState then
    let ref := n.nextNodeStateRef
    ⟨s.setNodeStates { n with
        nodePowerStateHandlerList :=
          n.nodePowerStateHandlerList.create ⟨session, stateMask, some ref⟩
        nextNodeStateRef := ref + 1 },
      [.nodePowerState n.nodePowerStateHandlerList.next session ref n.currentNodePowerState]⟩
  else
    ⟨s.setNodeStates { n with
        nodePowerStateHandlerList :=
          n.nodePowerStateHandlerList.create ⟨session, stateMask, old⟩ },
      []⟩

def removeNodePowerStateChangeHandler (handlerRef : Nat) : State :=
  s.setNodeStates { s.nodeStates with
    nodePowerStateHandlerList := s.nodeStates.nodePowerStateHandlerList.erase handlerRef }

/-! ## Notifications of the power management service -/

def reportNodePowerStateChange (state : NodePowerState) : State :=
  s.setNodeStates { s.nodeStates with
    nodePowerStateChange := s.nodeStates.nodePowerStateChange ++ [state] }

/-- The power state that was accepted is there. -/
def enter (toState : MachineState) : State :=
  s.setPower { s.power.processStateChange toState with pmsPending := false }

def allWakelocksReleased (env : PmsEnv) : Outcome :=
  if s.power.targetedPowerMode = .shutdown then
    (s.setNadMode .shutdown (fun m => { m with isGraceful := true }) env).thenChange .shuttingDown env
  else if s.power.wsCount = 0 then
    (s.setNadMode .suspend (fun m => { m with isSuspend := true }) env).thenChange .suspending env
  else ⟨s, []⟩

/-- The driver is told of the power mode, if the node is in the state for it. -/
def tellMode (clear : PowerMode → PowerMode)
    (modes : MachineState → Option HalPowerMode) : Outcome :=
  ⟨s.setPower (s.power.setPowerMode clear),
    (modes s.power.stateMachine.currentState).toList.map .nodeStateChangeReq⟩

def allAcked : Outcome :=
  let m := s.power.powerMode
  if m.isGraceful then
    s.tellMode (fun m => { m with isGraceful := false }) fun current =>
      if current = .suspend then some .suspendModeFull
      else if current = .shutdown then some .shutdownModeGraceful else none
  else if m.isShutDown then
    s.tellMode (fun m => { m with isShutDown := false }) fun current =>
      if current = .shutdown then some .restartModeSystemOffOnNadOff else none
  else if m.isRestart then
    s.tellMode (fun m => { m with isRestart := false }) fun current =>
      if current = .restart then some .restartModeNadReboot else none
  else if m.isSuspend then
    s.tellMode (fun m => { m with isSuspend := false }) fun current =>
      if current = .suspend then some .suspendModeFull else none
  else if m.isForceful then
    s.tellMode (fun m => { m with isForceful := false }) fun current =>
      if current = .shutdown then some .shutdownModeNormal else none
  else ⟨s, []⟩

def suspendNotified (env : PmsEnv) : Outcome :=
  if s.power.wsCount ≠ 0 then
    if s.power.powerMode.isWsAcquired then ⟨s, []⟩
    else ⟨s.setPower (if env.stayAwake then s.power.pmsStayAwake else s.power),
      [.sendStateChangeAck s.nodeStates.powerStateRef .suspend false]⟩
  else ⟨(s.enter .suspend).reportNodePowerStateChange .suspendPrepare, []⟩

def shutdownNotified : State :=
  let m := s.power.powerMode
  if m.isShutDown ∨ m.isForceful ∨ m.isGraceful then
    (s.enter .shutdown).reportNodePowerStateChange .shutdownPrepare
  else s.enter .shutdown

def restartNotified : State :=
  if s.power.powerMode.isRestart then
    (s.enter .restart).reportNodePowerStateChange .restartPrepare
  else s.enter .restart

def resumeNotified (env : PmsEnv) : State :=
  let p := (s.enter .resume).power
  if p.wsCount = 0 then
    s.setPower (if p.powerMode.isWsAcquired ∧ env.relax then p.pmsRelax else p)
  else (s.enter .resume).reportNodePowerStateChange .resume

def setPowerStateRef (psRef : Nat) : State :=
  s.setNodeStates { s.nodeStates with powerStateRef := psRef }

def stateChangeExHandler (psRef : Nat) (state : PowerState) (env : PmsEnv) : Outcome :=
  let s := s.setPowerStateRef psRef
  match state with
  | .allAcked =>
    match s.pmInf with
    | none => ⟨s, [.sendStateChangeAck psRef .allAcked true]⟩
    | some pmInf => if pmInf.nodeStateChangeReqAsync then s.allAcked else ⟨s, []⟩
  | .allWakelocksReleased => s.allWakelocksReleased env
  | .suspend => s.suspendNotified env
  | .shutdown => ⟨s.shutdownNotified, []⟩
  | .restart => ⟨s.restartNotified, []⟩
  | .resume => ⟨s.resumeNotified env, []⟩
  | .unknown => ⟨s, []⟩

/-! ## Sessions -/

def clientConnection (session : Nat) (allocated : Bool) : State :=
  if allocated then { s with clients := s.clients ++ [session] } else s

def clientDisconnection (session : Nat) (env : Nat → PmsEnv) (nodeOk : Nat → Bool) : State :=
  if session ∉ s.clients then s
  else
    let keep (cb : Option Callback) := cb.filter fun cb => cb.sessionRef ≠ session
    let n := s.nodeStates
    { s with
      clients := s.clients.filter (· ≠ session)
      window := { s.window with
        restartCB := keep s.window.restartCB
        shutdownCB := keep s.window.shutdownCB }
      nodeStates := { n with
        regClientrecrd := n.regClientrecrd.filter fun client => client.sessionRef ≠ session
        nodePowerStateHandlerList :=
          n.nodePowerStateHandlerList.filterRefs fun _ handler => handler.sessionRef ≠ session }
      power := s.power.disconnect session env nodeOk }

/-- What a client asks for, if its session is known. -/
def ofClient (session : Nat) (f : Power → Power) : State :=
  if session ∈ s.clients then s.setPower (f s.power) else s

end State

/-! ## Runs -/

/-- Everything the service handles, one at a time: its clients, the driver, the timers, the reported
node power states, and the notifications of the power management service. -/
inductive Action where
  | clientConnection (session : Nat) (allocated : Bool)
  | clientDisconnection (session : Nat) (env : Nat → PmsEnv) (nodeOk : Nat → Bool)
  | pmVhalReady (pmInf : Option PmInf) (env : PmsEnv)
  | wakeSourceTimer (env : PmsEnv)
  | createWakeupSource (session reason : Nat)
  | deleteWakeupSource (session wsRef : Nat)
  | stayAwake (session wsRef : Nat) (env : PmsEnv)
  | relax (session wsRef : Nat) (env : PmsEnv)
  | authorizeStayAwakeReason (mask : BitVec 32) (env : PmsEnv)
  | createNodeWakeupSource (session : Nat) (wsTag : List Char)
  | deleteNodeWakeupSource (session wsRef : Nat)
  | stayAwakeNode (session wsRef : Nat) (ok : Bool)
  | relaxNode (session wsRef : Nat) (ok : Bool)
  | setNodeTargetedPowerMode (session : Nat) (target : TargetedPowerMode) (env : PmsEnv)
  | vhalStayAwake (env : PmsEnv)
  | vhalRelax (env : PmsEnv)
  | shutdownReqAsync (session reason : Nat) (env : PmsEnv)
  | restartReqAsync (session : Nat) (mode : RestartMode) (reason : Nat) (env : PmsEnv)
  | shutdownNode (session : Nat) (env : PmsEnv)
  | restartNode (session : Nat) (env : PmsEnv)
  | vhalPrepareResp (payload : PrepareResp) (env : PmsEnv)
  | vhalAckTimer (env : PmsEnv)
  | vhalStateChangeResp
  | stateChangeEx (psRef : Nat) (state : PowerState) (env : PmsEnv)
  | nodePowerStateChanged
  | addHandler (session : Nat) (stateMask : BitVec 32) (old : Option Nat)
  | removeHandler (handlerRef : Nat)
  | sendAck (session ref : Nat) (ready : Bool)
  | stateChangeAckTimer

open State in
def perform (s : State) : Action → Outcome
  | .clientConnection session allocated => ⟨s.clientConnection session allocated, []⟩
  | .clientDisconnection session env nodeOk => ⟨s.clientDisconnection session env nodeOk, []⟩
  | .pmVhalReady pmInf env =>
    ⟨{ s with pmInf := pmInf, power := s.power.waitWakeSourceTimer env }, []⟩
  | .wakeSourceTimer env => ⟨s.setPower (s.power.wakeSourceTimer env), []⟩
  | .createWakeupSource session reason =>
    ⟨s.ofClient session fun p => p.createWakeupSource session reason, []⟩
  | .deleteWakeupSource session wsRef =>
    ⟨s.ofClient session fun p => (p.deleteWakeupSource session wsRef).1, []⟩
  | .stayAwake session wsRef env =>
    ⟨s.ofClient session fun p => (p.stayAwake session wsRef env).1, []⟩
  | .relax session wsRef env => ⟨s.ofClient session fun p => (p.relax session wsRef env).1, []⟩
  | .authorizeStayAwakeReason mask env =>
    ⟨s.setPower (s.power.authorizeStayAwakeReason mask env), []⟩
  | .createNodeWakeupSource session wsTag =>
    ⟨s.ofClient session fun p => p.createNodeWakeupSource session wsTag, []⟩
  | .deleteNodeWakeupSource session wsRef =>
    ⟨s.ofClient session fun p => (p.deleteNodeWakeupSource session wsRef).1, []⟩
  | .stayAwakeNode session wsRef ok =>
    ⟨s.ofClient session fun p => (p.stayAwakeNode session wsRef ok).1, []⟩
  | .relaxNode session wsRef ok =>
    ⟨s.ofClient session fun p => (p.relaxNode session wsRef ok).1, []⟩
  | .setNodeTargetedPowerMode session target env =>
    ⟨s.ofClient session fun p => (p.setTargetedPowerMode target env).1, []⟩
  | .vhalStayAwake env => ⟨s.setPower (s.power.vhalStayAwake env), []⟩
  | .vhalRelax env => ⟨s.setPower (s.power.vhalRelax env), []⟩
  | .shutdownReqAsync session reason env => s.shutdownReqAsync session reason env
  | .restartReqAsync session mode reason env => s.restartReqAsync session mode reason env
  | .shutdownNode session env => if session ∈ s.clients then s.shutdownNode env else ⟨s, []⟩
  | .restartNode session env => if session ∈ s.clients then s.restartNode env else ⟨s, []⟩
  | .vhalPrepareResp payload env => s.vhalPrepareRespHandler payload env
  | .vhalAckTimer env => s.vhalAckTimerHandler env
  | .vhalStateChangeResp => ⟨s, [.sendStateChangeAck s.nodeStates.powerStateRef .allAcked true]⟩
  | .stateChangeEx psRef state env => s.stateChangeExHandler psRef state env
  | .nodePowerStateChanged => s.nodePowerStateChanged
  | .addHandler session stateMask old => s.addNodePowerStateChangeHandler session stateMask old
  | .removeHandler handlerRef => ⟨s.removeNodePowerStateChangeHandler handlerRef, []⟩
  | .sendAck session ref ready => s.sendNodePowerStateChangeAck session ref ready
  | .stateChangeAckTimer => s.stateChangeAckTimerHandler

/-- A session that opens is a new one, the boot timer is started once, a timer must run to expire,
and an event must be reported to be handled. A service that crashed handles nothing. -/
def enabled (s : State) (a : Action) : Bool :=
  !s.crashed && match a with
  | .clientConnection session _ => session ∉ s.clients
  | .pmVhalReady .. => s.power.bootTimer = .notStarted
  | .wakeSourceTimer _ => s.power.bootTimer = .running
  | .vhalAckTimer _ => s.window.vhalAckTimerRuns
  | .nodePowerStateChanged => s.nodeStates.nodePowerStateChange ≠ []
  | .stateChangeAckTimer => s.nodeStates.stateChangeAckTimerRuns
  | _ => true

def step (s : State) (a : Action) : Option State :=
  if enabled s a then some (perform s a).state else none

def allOk : PmsEnv := ⟨true, true, true⟩

end TelAF.MngdPm
