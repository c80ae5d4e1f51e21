import Mathlib.Data.UInt
import TelAF.TransitionRuns

/-!
# Managed connectivity

A data object of the configuration has a context: the state of its connection, its timers and the
clients that have started it. The events of the state machine are handled one after the other. A
handler changes the context of its data object and may report further events, dispatch a
connectivity test, notify the applications or call the data service; what it does is collected in a
`Work`. This module has the handlers of the data connection and of the connectivity tests.
-/

namespace TelAF.MngdConn

inductive Result where
  | ok
  | notFound
  | notPossible
  | notPermitted
  | fault
  | timeout
  | busy
  | duplicate
  | inProgress
  | unsupported
  | badParameter
deriving DecidableEq

inductive RecoveryOperation where
  | none
  | radioOffOn
  | simOffOn
  | nadReboot
deriving DecidableEq

inductive RecoveryEvent where
  | scheduled
  | started
  | canceled
  | failed
deriving DecidableEq

inductive DataState where
  | disconnected
  | connected
  | connectionFailed
  | connectionStalled
deriving DecidableEq

inductive AdminState where
  | adminInit
  | adminError
  | notConnectedSimReady
  | notConnectedSimNotReady
  | notConnectedNwRegistered
  | notConnectedNwNotRegistered
  | notConnected
  | notConnectedRetrying
  | notConnectedFailed
  | connectedActive
  | connectedInactive
  | connectedInactiveRetrying
  | notConnectedInactiveRetrying
  | connectedIdle
  | startConnectionTestStart
  | startConnectionTestFailed
  | recoveryScheduledL1
  | recoveryStartedL1
  | recoveryCanceledL1
  | recoveryFailedL1
  | recoveryScheduledL2
  | recoveryStartedL2
  | recoveryCanceledL2
  | recoveryFailedL2
  | recoveryScheduledL3
  | recoveryStartedL3
  | recoveryCanceledL3
  | recoveryFailedL3
deriving DecidableEq

/-- `mcs_DataCtx_t`; a timer is represented by whether it runs. -/
structure DataCtx where
  slotId : Nat
  phoneId : Nat
  autoStart : Bool
  needReConn : Bool
  adminState : AdminState
  dataState : DataState
  dataRetry : Bool
  dataStartRetryCount : Nat
  maxdataRetryCount : Nat
  dataConnTestFailedRetryCount : Nat
  isDStartConnTestInProgress : Bool
  connTestGeneration : Nat
  connTestUrl : List Char
  connTestIpv4Addr : List Char
  connPeriodicTestUrl : List Char
  connPeriodicTestRetryCount : Nat
  connPeriodicTestMaxRetryCount : Nat
  isConnectivityRecoveryScheduled : Bool
  wasL1ConnectivityRecoveryDone : Bool
  wasL2ConnectivityRecoveryDone : Bool
  recoveryOperation : RecoveryOperation
  /-- The clients that have called `StartData`. -/
  clients : List Nat
  sessionRef : Nat
  dataStartRetryTimer : Bool
  periodicConnectivityTestTimer : Bool
  recoveryScheduleTimer : Bool
  recoveryRetryTimer : Bool
  radioOffOnIntervalTimer : Bool
  simOffOnIntervalTimer : Bool
  minTimeBetweenTriggers : Bool
  maxTimeBetweenTriggers : Bool

inductive RecoveryLevel where
  | none
  | l1
  | l2
  | l3
deriving DecidableEq

/-- What the handlers read of `mcs_Policy_t`, with the number of sessions the service has room
for. -/
structure Policy where
  level : RecoveryLevel
  allowCancel : Bool
  verifyCancelingApp : Bool
  retryWaitTime : Nat
  appMngdEnable : Bool
  verifyCallingApp : Bool
  maxSessions : Nat

/-- `mcs_EventType_t` with the fields of the event; the events that only configure the service are
left out. -/
inductive SmEvent where
  | simReady (slotId : Nat)
  | simNotReady (slotId : Nat)
  | radioPowerOn
  | networkRegState (phoneId : Nat)
  | networkUnregState (phoneId : Nat)
  | dataStart (dataId : Nat)
  | dataStartSync (dataId : Nat)
  | dataStartRetry (dataId : Nat)
  | dataStartRetryAppReq (dataId sessionRef : Nat)
  | dataStopSync (dataId : Nat)
  | dataStop (dataId : Nat)
  | connected (dataId : Nat)
  | connectedActive (dataId : Nat)
  | disconnected (dataId : Nat)
  | startConnectionTest (dataId : Nat)
  | periodicConnectionTest (dataId : Nat)
  | startConnectionTestDone (dataId : Nat) (passed : Bool) (generation : Nat)
  | periodicConnectionTestDone (dataId : Nat) (passed : Bool) (generation : Nat)
  | recoveryScheduleL1 (dataId : Nat)
  | recoveryStartL1 (dataId : Nat)
  | recoveryScheduleL2 (dataId : Nat)
  | recoveryStartL2 (dataId : Nat)
  | recoveryScheduleL3 (dataId : Nat)
  | recoveryStartL3 (dataId : Nat)
  | recoveryCancel (dataId : Nat)
  | recoveryCancelSync (dataId : Nat)
  | recoveryCancelSendInd (dataId : Nat)
  | recoveryInterrupted (dataId : Nat)
deriving DecidableEq

/-- `mcs_ConnTestCtx_t`, whose event tells the two kinds of test apart. -/
structure ConnTest where
  dataId : Nat
  periodic : Bool
  generation : Nat
  url : List Char
  ipv4Addr : List Char

/-- The calls of a client that wait for the state machine. -/
inductive Call where
  | startData (client dataId : Nat)
  | stopData (client dataId : Nat)
  | startDataRetry (client dataId : Nat)
  | cancelRecovery (client dataId : Nat)

/-- What the applications are told and what is asked of the modem. -/
inductive Act where
  | answered (call : Call) (result : Result)
  | dataState (dataId : Nat) (state : DataState)
  | recovery (dataId : Nat) (event : RecoveryEvent) (operation : RecoveryOperation)
  | startData (dataId : Nat) (result : Result)
  | stopData (dataId : Nat) (result : Result)
  /-- The clients are forgotten, the connection having failed. -/
  | clearClients (dataId : Nat)
  | radioOff (dataId : Nat)
  | radioOn (dataId : Nat)
  | simOff (dataId : Nat)
  | simOn (dataId : Nat)
  | restart (dataId : Nat)

/-- What the other services answer while one event is handled. -/
structure Answers where
  startData : Result
  stopData : Result
  interfaceName : Bool
  dnsAddresses : Bool
  setDNS : Bool
  eCallInProgress : Bool
  restartReq : Bool
  /-- `radio.StartUp` by the data object it is called for. -/
  radioStartUp : Nat → Bool
  /-- A record for the retrying client can be allocated. -/
  retryClient : Bool

/-- The context that is handled, and what has been reported, dispatched and done meanwhile. -/
structure Work where
  ctx : DataCtx
  posted : List SmEvent := []
  tests : List ConnTest := []
  acts : List Act := []

namespace Work

variable (w : Work)

@[simp] def post (e : SmEvent) : Work := { w with posted := w.posted ++ [e] }

@[simp] def act (a : Act) : Work := { w with acts := w.acts ++ [a] }

@[simp] def update (f : DataCtx → DataCtx) : Work := { w with ctx := f w.ctx }

@[simp] def setState (state : AdminState) : Work := w.update fun c => { c with adminState := state }

@[simp] def reconnect (need : Bool) : Work := w.update fun c => { c with needReConn := need }

def reportAndUpdateDataState (dataId : Nat) (newstate : DataState) : Work :=
  if w.ctx.dataState = newstate then w
  else
    let w := (w.act (.dataState dataId newstate)).update fun c => { c with dataState := newstate }
    if w.ctx.adminState = .notConnectedFailed ∧ newstate = .connectionFailed then
      w.post (.recoveryScheduleL1 dataId)
    else if w.ctx.adminState = .connectedActive ∧ newstate = .connected then
      w.post (.connectedActive dataId)
    else w

@[simp] def reportRecoveryEvent (event : RecoveryEvent) (dataId : Nat)
    (operation : RecoveryOperation) : Work :=
  w.act (.recovery dataId event operation)

/-- The clients of a failed connection are forgotten, unless it may still be recovered. -/
def clearClients (p : Policy) (dataId : Nat) : Work :=
  if w.ctx.clients ≠ [] ∧ p.level = .none then
    (w.act (.clearClients dataId)).update fun c => { c with clients := [] }
  else w

variable {w : Work} {p : Policy} {dataId : Nat} {newstate : DataState}

@[simp] theorem ctx_reportDataState :
    (w.reportAndUpdateDataState dataId newstate).ctx = { w.ctx with dataState := newstate } := by
  unfold reportAndUpdateDataState
  dsimp only
  split_ifs with hsame
  · rw [← hsame]
  all_goals rfl

@[simp] theorem tests_reportDataState :
    (w.reportAndUpdateDataState dataId newstate).tests = w.tests := by
  unfold reportAndUpdateDataState
  dsimp only
  split_ifs
  all_goals rfl

@[simp] theorem ctx_clearClients : (w.clearClients p dataId).ctx =
    { w.ctx with clients := if p.level = .none then [] else w.ctx.clients } := by
  unfold clearClients
  by_cases hcls : w.ctx.clients = []
  · rw [if_neg fun h => h.1 hcls]
    simp [← hcls]
  by_cases hlvl : p.level = .none
  · rw [if_pos ⟨hcls, hlvl⟩, if_pos hlvl]
    rfl
  · rw [if_neg fun h => hlvl h.2, if_neg hlvl]

end Work

/-- `ResetDataRetryPeriodicConnCheckValues` of one data object. -/
def DataCtx.resetDataRetryPeriodicConnCheckValues (c : DataCtx) : DataCtx :=
  { c with
    dataStartRetryTimer := false
    dataStartRetryCount := 0
    periodicConnectivityTestTimer := false
    connPeriodicTestRetryCount := 1 }

/-- `EventStartData`; the interface that is set before the data call has no part in the outcome. -/
def eventStartData (dataId : Nat) (a : Answers) (w : Work) : Result × Work :=
  match w.ctx.adminState with
  | .notConnectedNwNotRegistered => (.inProgress, w.reportAndUpdateDataState dataId .disconnected)
  | .notConnectedSimNotReady => (.fault, w)
  | .notConnectedRetrying | .notConnectedNwRegistered | .notConnected | .notConnectedFailed
  | .recoveryCanceledL1 | .recoveryCanceledL2 | .recoveryCanceledL3
  | .recoveryFailedL1 | .recoveryFailedL2 | .recoveryFailedL3 =>
    let w := w.act (.startData dataId a.startData)
    match a.startData with
    | .ok => (.ok, w.setState .connectedInactive)
    -- The data service sends no event for a session that was up already.
    | .duplicate => (.duplicate, (w.setState .connectedInactive).post (.connected dataId))
    | .timeout => (.timeout, w)
    | _ => (.inProgress, ((w.setState .notConnectedRetrying).reportAndUpdateDataState dataId
        .disconnected).post (.dataStartRetry dataId))
  | .connectedActive | .connectedInactive => (.duplicate, w)
  | _ => (.fault, w)

def Work.fail (p : Policy) (dataId : Nat) (w : Work) : Work :=
  ((w.setState .notConnectedFailed).clearClients p dataId).reportAndUpdateDataState dataId
    .connectionFailed

def eventStartDataRetry (p : Policy) (dataId : Nat) (w : Work) : Work :=
  if w.ctx.dataRetry = false then w.fail p dataId
  else
    let w := w.update fun c => { c with dataStartRetryTimer := false }
    if w.ctx.dataStartRetryCount ≥ w.ctx.maxdataRetryCount then w.fail p dataId
    else
      w.update fun c => { c with
        dataStartRetryCount := (c.dataStartRetryCount + 1) % 256
        dataStartRetryTimer := true }

/-- `EventStartDataRetryAppReq`; `retryClients` is the table of the clients with their flags. -/
def eventStartDataRetryAppReq (p : Policy) (dataId sessionRef : Nat) (a : Answers)
    (retryClients : Nat → Option Bool) (w : Work) : Result × Work × (Nat → Option Bool) :=
  if p.appMngdEnable = false then (.notPermitted, w, retryClients)
  else if p.verifyCallingApp = true ∧
    sessionRef ∉ w.ctx.clients then (.notPermitted, w, retryClients)
  else if w.ctx.minTimeBetweenTriggers = true then (.notPossible, w, retryClients)
  else
    let w := w.update fun c => { c with periodicConnectivityTestTimer := false }
    if w.ctx.maxTimeBetweenTriggers = true then
      if retryClients sessionRef = some true then
        (.ok, w.post (.recoveryScheduleL1 dataId), retryClients)
      else (.busy, w, retryClients)
    else if w.ctx.adminState = .connectedActive then
      let w := w.update fun c => { c with
        sessionRef := sessionRef
        minTimeBetweenTriggers := true
        maxTimeBetweenTriggers := true }
      if a.retryClient = false then (.fault, w, retryClients)
      else
        (.ok, (w.setState .connectedInactiveRetrying).post (.dataStop dataId),
          Function.update retryClients sessionRef (some true))
    else (.ok, w, retryClients)

/-- What follows a stop in `CONNECTED_INACTIVE_RETRYING` that succeeded. -/
def Work.stoppedForRetry (p : Policy) (dataId : Nat) (w : Work) : Result × Work :=
  let w := (w.setState .notConnectedInactiveRetrying).reportAndUpdateDataState dataId .disconnected
  if w.ctx.dataConnTestFailedRetryCount ≥ w.ctx.maxdataRetryCount then
    (.notPossible, (w.update fun c => { c with dataConnTestFailedRetryCount := 0 }).fail p dataId)
  else
    let w := w.update fun c => { c with
      dataStartRetryCount := c.dataConnTestFailedRetryCount
      dataConnTestFailedRetryCount := (c.dataConnTestFailedRetryCount + 1) % 256
      needReConn := false }
    (.ok, (w.setState .notConnectedRetrying).post (.dataStartRetry dataId))

def eventStopData (p : Policy) (dataId : Nat) (a : Answers) (w : Work) : Result × Work :=
  if w.ctx.autoStart = true ∧ w.ctx.adminState ≠ .connectedInactiveRetrying then (.notPermitted, w)
  else
    match w.ctx.adminState with
    | .connectedInactiveRetrying =>
      let w := w.act (.stopData dataId a.stopData)
      match a.stopData with
      | .ok => w.stoppedForRetry p dataId
      | .timeout => (.ok, w)
      | .notFound => (.ok, (w.setState .notConnected).reportAndUpdateDataState dataId .disconnected)
      | _ => (.fault, (w.setState .notConnected).reportAndUpdateDataState dataId .disconnected)
    | .connectedActive =>
      let w := w.act (.stopData dataId a.stopData)
      match a.stopData with
      | .ok =>
        (.ok, ((w.setState .notConnected).reportAndUpdateDataState dataId .disconnected).reconnect false)
      | .timeout => (.ok, w)
      | _ => (.fault, (w.setState .notConnected).reportAndUpdateDataState dataId .disconnected)
    | .notConnectedRetrying =>
      (.ok, (((w.setState .notConnected).reportAndUpdateDataState dataId .disconnected).reconnect
        false).update fun c => { c with dataStartRetryTimer := false })
    | .recoveryScheduledL1 | .recoveryScheduledL2 | .recoveryScheduledL3 => (.ok, w)
    | _ => (.fault, w)

/-- `EventSetRadioPowerOn` of one data object. -/
def eventSetRadioPowerOn (dataId : Nat) (a : Answers) (w : Work) : Work :=
  if a.radioStartUp dataId = true then w.reportAndUpdateDataState dataId .disconnected else w

/-- `EventSimReadyState` of one data object. -/
def eventSimReadyState (slotId dataId : Nat) (a : Answers) (w : Work) : Work :=
  if slotId = w.ctx.slotId then
    if w.ctx.adminState = .notConnectedSimNotReady ∨
      w.ctx.adminState = .notConnectedNwNotRegistered then
      let w := w.setState .notConnectedSimReady
      if a.radioStartUp dataId = true then w.reportAndUpdateDataState dataId .disconnected else w
    else w.reportAndUpdateDataState dataId .disconnected
  else w

/-- `EventSimNotReadyState` of one data object. -/
def eventSimNotReadyState (slotId dataId : Nat) (w : Work) : Work :=
  if slotId = w.ctx.slotId then
    let w :=
      if w.ctx.adminState = .notConnectedSimReady then w.setState .notConnectedSimNotReady else w
    w.reportAndUpdateDataState dataId .disconnected
  else w

/-- `EventNetworkRegState` of one data object. -/
def eventNetworkRegState (phoneId dataId : Nat) (w : Work) : Work :=
  if phoneId = w.ctx.phoneId then
    match w.ctx.adminState with
    | .notConnectedSimNotReady | .notConnectedNwNotRegistered | .notConnectedSimReady
    | .notConnectedRetrying =>
      if w.ctx.autoStart = true ∨ w.ctx.needReConn = true then
        (w.setState .notConnectedNwRegistered).post (.dataStart dataId)
      else w.setState .notConnected
    | _ => w
  else w

/-- `EventNetworkUnregState` of one data object. -/
def eventNetworkUnregState (phoneId dataId : Nat) (w : Work) : Work :=
  if phoneId = w.ctx.phoneId then
    let w := if w.ctx.adminState = .notConnectedRetrying then
      w.update fun c => { c with dataStartRetryTimer := false } else w
    (w.setState .notConnectedNwNotRegistered).reportAndUpdateDataState dataId .disconnected
  else w

def eventDataConnected (dataId : Nat) (a : Answers) (w : Work) : Work :=
  if a.interfaceName = false then
    (w.setState .connectedInactiveRetrying).post (.dataStop dataId)
  else if a.dnsAddresses = false then w
  else if a.setDNS = false then w
  else (w.setState .startConnectionTestStart).post (.startConnectionTest dataId)

def eventDataConnectedActive (w : Work) : Work :=
  let w := w.update fun c => { c with wasL1ConnectivityRecoveryDone := false }
  if w.ctx.connPeriodicTestUrl ≠ [] then
    w.update fun c => { c with periodicConnectivityTestTimer := true }
  else w

def eventDataDisconnected (dataId : Nat) (w : Work) : Work :=
  match w.ctx.adminState with
  | .notConnectedInactiveRetrying =>
    ((w.setState .notConnectedRetrying).reportAndUpdateDataState dataId .disconnected).post
      (.dataStartRetry dataId)
  | .connectedInactive | .connectedActive =>
    if w.ctx.autoStart = true ∨ w.ctx.needReConn = true then
      ((w.setState .notConnectedRetrying).reportAndUpdateDataState dataId .disconnected).post
        (.dataStartRetry dataId)
    else (w.setState .notConnected).reportAndUpdateDataState dataId .disconnected
  | _ => w

def Work.scheduleConnectivityTest (dataId : Nat) (periodic : Bool) (w : Work) : Work :=
  let w := w.update fun c => { c with connTestGeneration := (c.connTestGeneration + 1) % 2 ^ 32 }
  { w with tests := w.tests ++ [{
      dataId := dataId
      periodic := periodic
      generation := w.ctx.connTestGeneration
      url := if periodic then w.ctx.connPeriodicTestUrl else w.ctx.connTestUrl
      ipv4Addr := if periodic then [] else w.ctx.connTestIpv4Addr }] }

/-- The data object is connected, and is to be connected again when it is lost. -/
def Work.connect (dataId : Nat) (w : Work) : Work :=
  ((w.setState .connectedActive).reportAndUpdateDataState dataId .connected).reconnect true

def eventDataStartConnectionTest (dataId : Nat) (w : Work) : Work :=
  if w.ctx.connTestUrl = [] ∧ w.ctx.connTestIpv4Addr = [] then w.connect dataId
  else
    (w.update fun c => { c with isDStartConnTestInProgress := true }).scheduleConnectivityTest dataId
      false

def eventDataStartConnectionTestDone (dataId : Nat) (passed : Bool) (generation : Nat) (w : Work) :
    Work :=
  -- A newer test still runs and keeps the flag.
  if generation ≠ w.ctx.connTestGeneration then w
  else
    let obsolete := w.ctx.adminState ≠ .startConnectionTestStart
    let w := w.update fun c => { c with isDStartConnTestInProgress := false }
    if obsolete then w
    else if passed then w.connect dataId
    else (w.setState .connectedInactiveRetrying).post (.dataStop dataId)

def eventDataPeriodicConnectivityTest (dataId : Nat) (w : Work) : Work :=
  if w.ctx.connPeriodicTestUrl = [] then
    w.update fun c => { c with periodicConnectivityTestTimer := false }
  else w.scheduleConnectivityTest dataId true

def eventDataPeriodicConnectivityTestDone (dataId : Nat) (passed : Bool)
    (generation : Nat) (w : Work) :
    Work :=
  if generation ≠ w.ctx.connTestGeneration then w
  else if w.ctx.adminState ≠ .connectedActive then w
  else if passed then
    let w := w.update fun c => { c with
      connPeriodicTestRetryCount := 1
      periodicConnectivityTestTimer := true }
    if w.ctx.dataState = .connectionStalled then
      (w.setState .connectedActive).reportAndUpdateDataState dataId .connected
    else w
  else
    let w := w.reportAndUpdateDataState dataId .connectionStalled
    let w := w.update fun c => { c with
      connPeriodicTestRetryCount := (c.connPeriodicTestRetryCount + 1) % 256 }
    if w.ctx.connPeriodicTestRetryCount ≤ w.ctx.connPeriodicTestMaxRetryCount then
      w.update fun c => { c with periodicConnectivityTestTimer := true }
    else (w.setState .connectedInactiveRetrying).post (.dataStop dataId)

end TelAF.MngdConn
