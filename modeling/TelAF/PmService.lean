import TelAF.RefMap
import TelAF.TransitionRuns

/-!
# The power management service

Clients keep the system awake with wake sources, ask for power states, and are told of power
state changes that they must acknowledge. The platform indicates the changes and is answered when
the acknowledgements are in.
-/

namespace TelAF.PmService

/-- A C string. -/
abbrev Name := List Char

/-- `taf_pm_State_t`. -/
inductive PowerState where
  | unknown
  | resume
  | suspend
  | shutdown
  | restart
  | allAcked
  | allWakelocksReleased
deriving DecidableEq

inductive PowerMode where
  | lowPower
  | normal
deriving DecidableEq

inductive Result where
  | ok
  | badParameter
  | notPermitted
  | fault
  | capNotImplemented
  | capUnsupported

inductive PaResult where
  | ok
  | notImplemented
  | unsupported
  | fault
  | timeout
deriving DecidableEq

def PaResult.toSvcResult : PaResult → Result
  | .ok => .ok
  | .notImplemented => .capNotImplemented
  | .unsupported => .capUnsupported
  | _ => .fault

/-- `taf_pm_NadVm_t`: only the PVM is supported. -/
inductive NadVm where
  | pvm
  | other
deriving DecidableEq

/-- `taf_pm_ClientAck_t`, and any value that it does not have. -/
inductive ClientAck where
  | ready
  | notReady
  | invalid
deriving DecidableEq

inductive Ack where
  | ack
  | nack
deriving DecidableEq

structure Interface where
  tagLen : Nat
  refCount : Nat

structure Client where
  pid : Nat
  name : Name

/-- The text `taf_<tag>_<session>`. -/
structure WakeSrcName where
  tag : Name
  session : Nat
deriving DecidableEq

structure WakeSrc where
  name : WakeSrcName
  pid : Nat
  acquired : BitVec 32
  isRef : Bool
deriving DecidableEq

structure ApiHandler where
  session : Nat
  ismpm : Bool

/-- `AckCollection_t`, the one record that all acknowledgements are collected in. -/
structure AckCollection where
  state : PowerState
  hasNack : Bool
  nAlreadySent : Nat
  nAlreadyAcked : Nat
  safeRef : Option Nat

/-- `taf_PM`. Every reference of `ackNeededClients` leads to `ackCollection`; `stateEvents` are the
reported events of `evt_StateChangedAckNeeded`, the oldest first. -/
structure State where
  clients : Nat → Option Client
  wakeSrcs : RefMap WakeSrc
  totalWakeupSrc : BitVec 32
  powerMode : PowerMode
  currentState : PowerState
  handlers : RefMap ApiHandler
  ackNeededClients : RefMap Unit
  ackCollection : AckCollection
  restartTimerRuns : Bool
  stateEvents : List PowerState

/-- What the service sends: requests and answers to the platform, power states to its clients, and
the reboot of the system. -/
inductive Message where
  | setPowerStateAsMaster (state : PowerState) (machineName : Name)
  | ackForStateUpdate (state : PowerState) (answer : Ack)
  | stateChange (session powerStateRef : Nat) (state : PowerState)
  | reboot
deriving DecidableEq

structure Outcome where
  state : State
  messages : List Message := []
  result : Result := .ok

/-- The state after `COMPONENT_INIT`. -/
def start (mode : PowerMode) : State where
  clients := fun _ => none
  wakeSrcs := .empty
  totalWakeupSrc := 0
  powerMode := mode
  currentState := .resume
  handlers := .empty
  ackNeededClients := .empty
  ackCollection := ⟨.unknown, false, 0, 0, none⟩
  restartTimerRuns := false
  stateEvents := []

namespace State

def isClientMPMS (s : State) (session : Nat) : Bool :=
  match s.clients session with
  | none => false
  | some client => client.name = "tafMngdPMSvc".toList

/-- The platform is asked for the state, which is the current one if that succeeds. -/
def setPowerStateAsMaster (s : State) (state : PowerState) (machineName : Name) (paRst : PaResult) :
    Outcome where
  state := if paRst = .ok then { s with currentState := state } else s
  messages := [.setPowerStateAsMaster state machineName]
  result := paRst.toSvcResult

def setPowerState (s : State) (state : PowerState) (machineName : Name) (paRst : PaResult) :
    Outcome :=
  match state with
  | .suspend =>
    if s.powerMode = .lowPower ∨ s.totalWakeupSrc = 0 then
      s.setPowerStateAsMaster .suspend machineName paRst
    else { state := s }
  | .resume => s.setPowerStateAsMaster .resume machineName paRst
  | .shutdown => s.setPowerStateAsMaster .shutdown machineName paRst
  | .restart =>
    { state := { s with
        currentState := .restart
        stateEvents := s.stateEvents ++ [.restart]
        restartTimerRuns := true } }
  | _ => { state := s, result := .badParameter }

def setPowerMode (s : State) : Option PowerMode → Outcome
  | some mode => { state := { s with powerMode := mode } }
  | none => { state := s, result := .badParameter }

/-- No reference is returned for a bad tag, an unknown client or a name that exists; the outcome
does not tell. -/
def newWakeupSource (I : Interface) (s : State) (session options : Nat) (tag : Name) : Outcome :=
  if tag = [] ∨ I.tagLen < tag.length then { state := s }
  else match s.clients session with
  | none => { state := s }
  | some client =>
    match s.wakeSrcs.search fun ws => ws.name = ⟨tag, session⟩ with
    | some _ => { state := s }
    | none =>
      { state := { s with
          wakeSrcs := s.wakeSrcs.create ⟨⟨tag, session⟩, client.pid, 0, options &&& I.refCount ≠ 0⟩ } }

def setAcquired (s : State) (ref : Nat) (acquired : BitVec 32) : State :=
  { s with wakeSrcs := s.wakeSrcs.modify ref fun ws => { ws with acquired := acquired } }

/-- The part of `StayAwake` after the count of the source. -/
def increaseTotal (s : State) (paRst : PaResult) : Outcome :=
  if s.totalWakeupSrc + 1 = 0 then { state := s, result := .fault }
  else
    let counted := { s with totalWakeupSrc := s.totalWakeupSrc + 1 }
    if counted.currentState ≠ .resume then
      counted.setPowerState .resume "ALL_MACHINES".toList paRst
    else { state := counted }

def stayAwake (s : State) (session wsRef : Nat) (paRst : PaResult) : Outcome :=
  match s.wakeSrcs.lookup wsRef with
  | none => { state := s, result := .badParameter }
  | some ws =>
    if s.powerMode = .lowPower ∧ ¬ s.isClientMPMS session then
      { state := s, result := .notPermitted }
    else if ws.isRef = false ∧ ws.acquired ≠ 0 then { state := s }
    else if ws.acquired + 1 = 0 then { state := s, result := .fault }
    else (s.setAcquired wsRef (ws.acquired + 1)).increaseTotal paRst

/-- The end of `Relax`: the last wake lock was released. -/
def checkReleased (s : State) : State :=
  if s.totalWakeupSrc = 0 then
    { s with stateEvents := s.stateEvents ++ [.allWakelocksReleased] }
  else s

def relax (s : State) (wsRef : Nat) : Outcome :=
  match s.wakeSrcs.lookup wsRef with
  | none => { state := s, result := .badParameter }
  | some ws =>
    if ws.acquired = 0 then { state := s }
    else
      let acquired := ws.acquired - 1
      let total := s.totalWakeupSrc - 1
      if ws.isRef then
        let counted := { s.setAcquired wsRef acquired with totalWakeupSrc := total }
        if acquired ≠ 0 then { state := counted } else { state := counted.checkReleased }
      else
        let counted := { s.setAcquired wsRef 0 with totalWakeupSrc := total - acquired }
        { state := counted.checkReleased }

/-- The platform takes answers to `suspend` and `shutdown` only. -/
def sendAckToPaLayer (state : PowerState) (answer : Ack) : List Message :=
  if state ≠ .suspend ∧ state ≠ .shutdown then [] else [.ackForStateUpdate state answer]

/-- The clients that are told of the internal states. -/
def mpmNames : List Name :=
  ["tafMngdPMSvc".toList, "tafRpcProxy".toList, "tafPMUnitTest".toList, "tafPMIntgTest".toList]

def addStateChangeExHandler (s : State) (session : Nat) : Outcome :=
  match s.clients session with
  | none => { state := s }
  | some client =>
    { state := { s with handlers := s.handlers.create ⟨session, client.name ∈ mpmNames⟩ } }

def removeStateChangeExHandler (s : State) (handlerRef : Nat) : Outcome :=
  { state := { s with handlers := s.handlers.erase handlerRef } }

/-- `PaHandler_evt_PowerStateUpdate`: only these states are reported. -/
def powerStateUpdate (s : State) (state : PowerState) : Outcome :=
  match state with
  | .suspend | .resume | .shutdown => { state := { s with stateEvents := s.stateEvents ++ [state] } }
  | _ => { state := s }

/-- The handler is not told of the internal states. -/
def skips (reportState : PowerState) (h : ApiHandler) : Bool :=
  (reportState = .allWakelocksReleased ∨ reportState = .allAcked) ∧ h.ismpm = false

/-- One handler is told, with a reference of its own. -/
def notify (reportState : PowerState) (o : Outcome) (h : ApiHandler) : Outcome :=
  if skips reportState h then o
  else
    let ref := o.state.ackNeededClients.next
    { o with
      state := { o.state with
        ackNeededClients := o.state.ackNeededClients.create ()
        ackCollection := { o.state.ackCollection with
          safeRef := some ref
          nAlreadySent := o.state.ackCollection.nAlreadySent + 1 } }
      messages := o.messages ++ [.stateChange h.session ref reportState] }

/-- The collection is reset; the last reference to it is deleted. -/
def resetCollection (s : State) (reportState : PowerState) : State :=
  { s with
    ackNeededClients := match s.ackCollection.safeRef with
      | some ref => s.ackNeededClients.erase ref
      | none => s.ackNeededClients
    ackCollection := ⟨reportState, false, 0, 0, none⟩ }

def handleStateChangedAckNeeded (s : State) (reportState : PowerState) : Outcome :=
  if s.handlers.entries = [] then
    { state := s, messages := sendAckToPaLayer reportState .ack }
  else s.handlers.values.foldl (notify reportState) { state := s.resetCollection reportState }

/-- The checks of `SendStateChangeAck` that an acknowledgement must pass. -/
def acceptsAck (s : State) (powerStateRef : Nat) (state : PowerState) (vmId : NadVm)
    (ackType : ClientAck) : Bool :=
  (s.ackNeededClients.lookup powerStateRef).isSome ∧ state = s.ackCollection.state ∧
    vmId = .pvm ∧ ackType ≠ .invalid ∧ s.ackCollection.hasNack = false

/-- A client is ready; the last one makes the service report the internal event. -/
def countAck (s : State) : State :=
  let acked := s.ackCollection.nAlreadyAcked + 1
  let counted := { s with ackCollection := { s.ackCollection with nAlreadyAcked := acked } }
  if acked = s.ackCollection.nAlreadySent then
    { counted with
      restartTimerRuns := false
      stateEvents := s.stateEvents ++ [.allAcked] }
  else counted

def sendStateChangeAck (s : State) (powerStateRef : Nat) (state : PowerState) (vmId : NadVm)
    (ackType : ClientAck) : Outcome :=
  if s.acceptsAck powerStateRef state vmId ackType = false then { state := s }
  else if state = .allAcked then
    if s.currentState = .restart then { state := s, messages := [.reboot] }
    else { state := s, messages := sendAckToPaLayer s.currentState .ack }
  else if s.currentState = state then
    if ackType = .notReady then
      if state = .restart then { state := s }
      else
        { state := { s with ackCollection := { s.ackCollection with hasNack := true } }
          messages := sendAckToPaLayer s.currentState .nack }
    else { state := s.countAck }
  else { state := s }

/-- `Handle_evt_RestartTimerExpired`; the timer runs once. -/
def restartTimerExpired (s : State) : Outcome :=
  { state := { s with
      restartTimerRuns := false
      stateEvents := s.stateEvents ++ [.allAcked] } }

/-- A session that is stored already is rejected. -/
def clientConnected (s : State) (session : Nat) (client : Client) : Outcome :=
  match s.clients session with
  | some _ => { state := s }
  | none => { state := { s with clients := Function.update s.clients session (some client) } }

/-- The source counts once, so that one `Relax` releases all it has acquired. -/
def uncount (s : State) (ref : Nat) : State :=
  { s with wakeSrcs := s.wakeSrcs.modify ref fun ws => { ws with isRef := false } }

/-- One wake source of a client that is gone. -/
def removeWakeSrc (s : State) (ref : Nat) : State :=
  match s.wakeSrcs.lookup ref with
  | none => s
  | some ws =>
    let released := if ws.acquired ≠ 0 then ((s.uncount ref).relax ref).state else s
    { released with wakeSrcs := released.wakeSrcs.erase ref }

/-- The wake sources of the process, in the order of the map. -/
def wakeSrcsOf (s : State) (pid : Nat) : List Nat :=
  (s.wakeSrcs.entries.filter fun e => e.2.pid = pid).map Prod.fst

def clientDisconnected (s : State) (session : Nat) : Outcome :=
  let s := { s with handlers := s.handlers.filterRefs fun _ h => h.session ≠ session }
  match s.clients session with
  | none => { state := s }
  | some client =>
    let s := { s with clients := Function.update s.clients session none }
    { state := (s.wakeSrcsOf client.pid).foldl removeWakeSrc s }

end State

/-- The calls of the clients, what the platform and the timer do, and the handling of the oldest
event; the platform's results are part of the action. -/
inductive Action where
  | connect (session : Nat) (client : Client)
  | disconnect (session : Nat)
  | newWakeupSource (session options : Nat) (tag : Name)
  | stayAwake (session wsRef : Nat) (paRst : PaResult)
  | relax (wsRef : Nat)
  | setPowerState (state : PowerState) (machineName : Name) (paRst : PaResult)
  | setPowerMode (mode : Option PowerMode)
  | addStateChangeExHandler (session : Nat)
  | removeStateChangeExHandler (handlerRef : Nat)
  | powerStateUpdate (state : PowerState)
  | handleStateEvent
  | restartTimerExpired
  | sendStateChangeAck (session powerStateRef : Nat) (state : PowerState) (vmId : NadVm)
      (ackType : ClientAck)

/-- An event is handled only when there is one, and only a running timer expires. -/
def enabled (s : State) : Action → Bool
  | .handleStateEvent => s.stateEvents ≠ []
  | .restartTimerExpired => s.restartTimerRuns
  | _ => true

def perform (I : Interface) (s : State) : Action → Outcome
  | .connect session client => s.clientConnected session client
  | .disconnect session => s.clientDisconnected session
  | .newWakeupSource session options tag => s.newWakeupSource I session options tag
  | .stayAwake session wsRef paRst => s.stayAwake session wsRef paRst
  | .relax wsRef => s.relax wsRef
  | .setPowerState state machineName paRst => s.setPowerState state machineName paRst
  | .setPowerMode mode => s.setPowerMode mode
  | .addStateChangeExHandler session => s.addStateChangeExHandler session
  | .removeStateChangeExHandler handlerRef => s.removeStateChangeExHandler handlerRef
  | .powerStateUpdate state => s.powerStateUpdate state
  | .handleStateEvent =>
    match s.stateEvents with
    | [] => { state := s }
    | state :: rest => { s with stateEvents := rest }.handleStateChangedAckNeeded state
  | .restartTimerExpired => s.restartTimerExpired
  | .sendStateChangeAck _ powerStateRef state vmId ackType =>
    s.sendStateChangeAck powerStateRef state vmId ackType

def step (I : Interface) (s : State) (a : Action) : Option State :=
  if enabled s a then some (perform I s a).state else none

end TelAF.PmService
