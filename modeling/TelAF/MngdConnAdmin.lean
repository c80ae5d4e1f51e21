import Mathlib.Data.List.Nodup
import Mathlib.Logic.Function.Basic
import TelAF.MngdConn

/-!
# The state machine of managed connectivity

The recovery of a failed connection has three levels: the radio is switched off and on, the SIM is,
the device restarts. A level is scheduled, starts when its timer expires and may be cancelled
before. This module has the handlers of the recovery events and the machine as a whole: the queue of
events, the timers, the worker that runs the connectivity tests, and the thread that serves the
clients, which waits for the machine in the synchronous calls.
-/

namespace TelAF.MngdConn

open Function List

namespace Work

variable (dataId : Nat) (w : Work)

/-- The schedule timer is started anew, and it is remembered that a recovery is scheduled. -/
@[simp] def armSchedule : Work := w.update fun c => { c with
  recoveryScheduleTimer := true
  isConnectivityRecoveryScheduled := true }

@[simp] def operate (operation : RecoveryOperation) : Work :=
  w.update fun c => { c with recoveryOperation := operation }

/-- The recovery is interrupted in the given state, and is to be tried again. -/
@[simp] def interrupt (state : AdminState) : Work :=
  ((w.setState state).reconnect true).post (.recoveryInterrupted dataId)

end Work

def eventL1ConnRecoverySchedule (p : Policy) (dataId : Nat) (w : Work) : Work :=
  if p.level = .none then w
  else if w.ctx.adminState = .notConnectedFailed ∨ w.ctx.adminState = .recoveryCanceledL1 then
    if w.ctx.wasL1ConnectivityRecoveryDone = false then
      (((w.setState .recoveryScheduledL1).operate .radioOffOn).reportRecoveryEvent .scheduled dataId
        .radioOffOn).armSchedule
    else
      ((w.setState .recoveryFailedL1).reportRecoveryEvent .failed dataId .radioOffOn).post
        (.recoveryScheduleL2 dataId)
  else w.interrupt dataId .recoveryCanceledL1

def eventL2ConnRecoverySchedule (p : Policy) (dataId : Nat) (w : Work) : Work :=
  if p.level ≠ .l2 ∧ p.level ≠ .l3 then w
  else if w.ctx.adminState = .recoveryFailedL1 ∨ w.ctx.adminState = .recoveryFailedL2 ∨
      w.ctx.adminState = .recoveryCanceledL2 then
    let w :=
      if w.ctx.wasL2ConnectivityRecoveryDone = false then
        (((w.setState .recoveryScheduledL2).operate .simOffOn).reportRecoveryEvent .scheduled dataId
          .simOffOn).armSchedule
      else
        ((w.setState .recoveryFailedL2).reportRecoveryEvent .failed dataId .simOffOn).post
          (.recoveryScheduleL3 dataId)
    -- This follows in both cases.
    w.armSchedule.reportRecoveryEvent .scheduled dataId .simOffOn
  else w.interrupt dataId .recoveryCanceledL2

def eventL3ConnRecoverySchedule (p : Policy) (dataId : Nat) (w : Work) : Work :=
  if p.level ≠ .l3 then w
  else if w.ctx.adminState = .recoveryFailedL2 ∨ w.ctx.adminState = .recoveryFailedL3 ∨
      w.ctx.adminState = .recoveryCanceledL3 then
    (((w.setState .recoveryScheduledL3).operate .nadReboot).armSchedule).reportRecoveryEvent .scheduled
      dataId .nadReboot
  else w

/-- The state of a recovery that is cancelled, by the remembered operation. -/
def AdminState.canceled (state : AdminState) : RecoveryOperation → AdminState
  | .radioOffOn => .recoveryCanceledL1
  | .simOffOn => .recoveryCanceledL2
  | .nadReboot => .recoveryCanceledL3
  | .none => state

/-- What both handlers of a cancellation do with the context. -/
@[simp] def Work.cancel (w : Work) : Work := w.update fun c => { c with
  recoveryScheduleTimer := false
  isConnectivityRecoveryScheduled := false
  adminState := c.adminState.canceled c.recoveryOperation
  needReConn := true }

def eventConnRecoveryCancel (dataId : Nat) (w : Work) : Work :=
  w.cancel.post (.recoveryInterrupted dataId)

/-- `EventConnRecoveryCancelSync`; a timer that runs can be stopped. -/
def eventConnRecoveryCancelSync (w : Work) : Result × Work :=
  (if w.ctx.recoveryScheduleTimer = true then .ok else .notFound, w.cancel)

def eventConnRecoveryCancelSendInd (dataId : Nat) (w : Work) : Work :=
  match w.ctx.recoveryOperation with
  | .none => w
  | operation => w.reportRecoveryEvent .canceled dataId operation

/-- The states in which a recovery of this operation has been interrupted. -/
def RecoveryOperation.Interrupted : RecoveryOperation → AdminState → Prop
  | .radioOffOn, state => state = .recoveryFailedL1 ∨ state = .recoveryCanceledL1
  | .simOffOn, state => state = .recoveryFailedL2 ∨ state = .recoveryCanceledL2
  | .nadReboot, state => state = .recoveryFailedL3 ∨ state = .recoveryCanceledL3
  | .none, _ => True

instance : DecidableRel RecoveryOperation.Interrupted := fun operation state => by
  cases operation
  all_goals unfold RecoveryOperation.Interrupted; infer_instance

def eventConnRecoveryInterrupted (p : Policy) (dataId : Nat) (w : Work) : Work :=
  if w.ctx.recoveryOperation.Interrupted w.ctx.adminState then
    let w := if p.retryWaitTime > 0 ∧ w.ctx.needReConn = true then
      w.update fun c => { c with recoveryRetryTimer := true } else w
    w.post (.recoveryCancelSendInd dataId)
  else w

/-- `EventL1ConnRecoveryStart`, without the mark in the other contexts. -/
def eventL1ConnRecoveryStart (dataId : Nat) (a : Answers) (w : Work) : Work :=
  let w := (w.update fun c => { c with isConnectivityRecoveryScheduled := false }).reconnect true
  if a.eCallInProgress = true then
    (w.setState .recoveryFailedL1).post (.recoveryInterrupted dataId)
  else
    let w := (w.update fun c => { c with wasL1ConnectivityRecoveryDone := true }).reportRecoveryEvent
      .started dataId .radioOffOn
    (w.act (.radioOff dataId)).update fun c => { c with radioOffOnIntervalTimer := true }

/-- `EventL2ConnRecoveryStart`, without the mark in the other contexts. -/
def eventL2ConnRecoveryStart (dataId : Nat) (a : Answers) (w : Work) : Work :=
  let w := (w.update fun c => { c with isConnectivityRecoveryScheduled := false }).reconnect true
  if a.eCallInProgress = true then
    (w.setState .recoveryFailedL2).post (.recoveryInterrupted dataId)
  else
    let w := (w.update fun c => { c with wasL2ConnectivityRecoveryDone := true }).reportRecoveryEvent
      .started dataId .simOffOn
    (w.act (.simOff dataId)).update fun c => { c with simOffOnIntervalTimer := true }

/-- The mark that the start of a recovery leaves in the contexts of the sessions that are up. -/
def DataCtx.markReconnect (c : DataCtx) : DataCtx :=
  if c.adminState = .connectedActive ∨ c.adminState = .connectedInactive ∨
      c.adminState = .connectedInactiveRetrying ∨ c.adminState = .connectedIdle then
    { c with needReConn := true }
  else c

def eventL3ConnRecoveryStart (dataId : Nat) (a : Answers) (w : Work) : Work :=
  if a.eCallInProgress = true then
    (w.setState .recoveryFailedL3).post (.recoveryInterrupted dataId)
  else if w.ctx.adminState = .recoveryStartedL3 then
    let w := (w.reportRecoveryEvent .started dataId .nadReboot).act (.restart dataId)
    if a.restartReq = true then
      w.update fun c => { c with isConnectivityRecoveryScheduled := false }
    else (w.reportRecoveryEvent .failed dataId .nadReboot).interrupt dataId .recoveryFailedL3
  else (w.reportRecoveryEvent .failed dataId .nadReboot).interrupt dataId .recoveryFailedL3

def recoveryScheduleTimerHandler (dataId : Nat) (w : Work) : Work :=
  let w := w.update fun c => { c with recoveryScheduleTimer := false }
  match w.ctx.adminState with
  | .recoveryScheduledL1 => (w.setState .recoveryStartedL1).post (.recoveryStartL1 dataId)
  | .recoveryScheduledL2 => (w.setState .recoveryStartedL2).post (.recoveryStartL2 dataId)
  | .recoveryScheduledL3 => (w.setState .recoveryStartedL3).post (.recoveryStartL3 dataId)
  | _ => w

def recoveryRetryTimerHandler (dataId : Nat) (w : Work) : Work :=
  let w := w.update fun c => { c with recoveryRetryTimer := false }
  match w.ctx.adminState with
  | .recoveryCanceledL1 | .recoveryFailedL1 => w.post (.recoveryScheduleL1 dataId)
  | .recoveryCanceledL2 | .recoveryFailedL2 => w.post (.recoveryScheduleL2 dataId)
  | .recoveryCanceledL3 | .recoveryFailedL3 => w.post (.recoveryScheduleL3 dataId)
  | _ => w

def radioOffOnIntervalTimerHandler (dataId : Nat) (w : Work) : Work :=
  (w.update fun c => { c with radioOffOnIntervalTimer := false }).act (.radioOn dataId)

def simOffOnIntervalTimerHandler (dataId : Nat) (w : Work) : Work :=
  (w.update fun c => { c with simOffOnIntervalTimer := false }).act (.simOn dataId)

def dataRetryTimerHandler (dataId : Nat) (w : Work) : Work :=
  let w := w.update fun c => { c with dataStartRetryTimer := false }
  if w.ctx.adminState = .notConnectedRetrying then w.post (.dataStart dataId) else w

def periodicConnectivityTestTimerHandler (dataId : Nat) (w : Work) : Work :=
  (w.update fun c => { c with periodicConnectivityTestTimer := false }).post
    (.periodicConnectionTest dataId)

inductive Timer where
  | dataStartRetry
  | periodicConnectivityTest
  | recoverySchedule
  | recoveryRetry
  | radioOffOnInterval
  | simOffOnInterval
  | minTimeBetweenTriggers
  | maxTimeBetweenTriggers
deriving DecidableEq

def DataCtx.isRunning (c : DataCtx) : Timer → Bool
  | .dataStartRetry => c.dataStartRetryTimer
  | .periodicConnectivityTest => c.periodicConnectivityTestTimer
  | .recoverySchedule => c.recoveryScheduleTimer
  | .recoveryRetry => c.recoveryRetryTimer
  | .radioOffOnInterval => c.radioOffOnIntervalTimer
  | .simOffOnInterval => c.simOffOnIntervalTimer
  | .minTimeBetweenTriggers => c.minTimeBetweenTriggers
  | .maxTimeBetweenTriggers => c.maxTimeBetweenTriggers

/-- The handlers of the timers; that of `maxTimeBetweenTriggers` also forgets the retrying
client. -/
def timerHandler (dataId : Nat) : Timer → Work → Work
  | .dataStartRetry => dataRetryTimerHandler dataId
  | .periodicConnectivityTest => periodicConnectivityTestTimerHandler dataId
  | .recoverySchedule => recoveryScheduleTimerHandler dataId
  | .recoveryRetry => recoveryRetryTimerHandler dataId
  | .radioOffOnInterval => radioOffOnIntervalTimerHandler dataId
  | .simOffOnInterval => simOffOnIntervalTimerHandler dataId
  | .minTimeBetweenTriggers => fun w => w.update fun c => { c with minTimeBetweenTriggers := false }
  | .maxTimeBetweenTriggers => fun w => w.update fun c => { c with maxTimeBetweenTriggers := false }

structure State where
  /-- The data objects, in the order of `DataCtxList`. -/
  dataIds : List Nat
  ctx : Nat → Option DataCtx
  /-- The events of the state machine. -/
  events : List SmEvent
  /-- The connectivity tests the worker has not run yet. -/
  tests : List ConnTest
  retryClients : Nat → Option Bool
  /-- The open sessions. -/
  sessions : List Nat
  /-- The sessions the service has a record of. -/
  connectedClients : List Nat
  /-- The call that is waited for, and its result. -/
  call : Option (Call × Option Result)
  /-- The restarts whose callback is outstanding. -/
  restarts : List Nat
  acts : List Act

namespace State

variable (p : Policy) (s : State)

/-- The outcome of a handler for one data object. -/
def put (dataId : Nat) (w : Work) : State :=
  { s with
    ctx := Function.update s.ctx dataId (some w.ctx)
    events := s.events ++ w.posted
    tests := s.tests ++ w.tests
    acts := s.acts ++ w.acts }

/-- A handler runs for the context of a data object, where there is one. -/
def onCtx (dataId : Nat) (f : Work → Work) : State :=
  match s.ctx dataId with
  | none => s
  | some c => s.put dataId (f { ctx := c })

/-- A handler runs for every context of the list in turn. -/
def forAll (f : Nat → Work → Work) : State :=
  s.dataIds.foldl (fun s dataId => s.onCtx dataId (f dataId)) s

/-- `ResetDataRetryPeriodicConnCheckValues`. -/
def resetAll : State := s.forAll fun _ w => w.update DataCtx.resetDataRetryPeriodicConnCheckValues

def reset (dataId : Nat) : State :=
  s.onCtx dataId fun w => w.update DataCtx.resetDataRetryPeriodicConnCheckValues

/-- `FulfillCmdSynchronousPromise`. -/
def fulfill (r : Result) : State :=
  match s.call with
  | some (call, none) => { s with call := some (call, some r) }
  | _ => s

/-- A handler with a result, which is `r` where there is no context. -/
def onCtxSync (dataId : Nat) (r : Result) (f : Work → Result × Work) : State :=
  match s.ctx dataId with
  | none => s.fulfill r
  | some c => (s.put dataId (f { ctx := c }).2).fulfill (f { ctx := c }).1

/-- `EventStartDataRetryAppReq` with its table. -/
def startDataRetryAppReq (dataId sessionRef : Nat) (a : Answers) : State :=
  match s.ctx dataId with
  | none => s.fulfill .fault
  | some c =>
    let (r, w, retryClients) :=
      eventStartDataRetryAppReq p dataId sessionRef a s.retryClients { ctx := c }
    { s.put dataId w with retryClients := retryClients }.fulfill r

/-- The start of a recovery, which marks the sessions that are up unless an eCall is in progress. -/
def startRecovery (dataId : Nat) (a : Answers) (f : Work → Work) : State :=
  match s.ctx dataId with
  | none => s
  | some _ =>
    let s := s.onCtx dataId f
    if a.eCallInProgress = true then s else s.forAll fun _ w => w.update DataCtx.markReconnect

/-- The restart that is requested answers later. -/
def startL3 (dataId : Nat) (a : Answers) : State :=
  match s.ctx dataId with
  | none => s
  | some c =>
    let s := s.onCtx dataId (eventL3ConnRecoveryStart dataId a)
    if a.eCallInProgress = false ∧ c.adminState = .recoveryStartedL3 ∧ a.restartReq = true then
      { s with restarts := s.restarts ++ [dataId] }
    else s

/-- `StateMachineEvtHandlerFunc`. -/
def handle (a : Answers) : SmEvent → State
  | .radioPowerOn => s.resetAll.forAll fun dataId => eventSetRadioPowerOn dataId a
  | .dataStartSync dataId => s.onCtxSync dataId .fault (eventStartData dataId a)
  | .dataStart dataId => s.onCtx dataId fun w => (eventStartData dataId a w).2
  | .dataStartRetry dataId => s.onCtx dataId (eventStartDataRetry p dataId)
  | .dataStartRetryAppReq dataId sessionRef => s.startDataRetryAppReq p dataId sessionRef a
  | .dataStopSync dataId => (s.reset dataId).onCtxSync dataId .fault (eventStopData p dataId a)
  | .dataStop dataId => (s.reset dataId).onCtx dataId fun w => (eventStopData p dataId a w).2
  | .periodicConnectionTest dataId => s.onCtx dataId (eventDataPeriodicConnectivityTest dataId)
  | .simReady slotId => s.resetAll.forAll fun dataId => eventSimReadyState slotId dataId a
  | .simNotReady slotId => s.forAll fun dataId => eventSimNotReadyState slotId dataId
  | .networkRegState phoneId => s.resetAll.forAll fun dataId => eventNetworkRegState phoneId dataId
  | .networkUnregState phoneId => s.resetAll.forAll fun dataId =>
    eventNetworkUnregState phoneId dataId
  | .connected dataId => (s.reset dataId).onCtx dataId (eventDataConnected dataId a)
  | .connectedActive dataId => s.onCtx dataId eventDataConnectedActive
  | .disconnected dataId => s.onCtx dataId (eventDataDisconnected dataId)
  | .startConnectionTest dataId => s.onCtx dataId (eventDataStartConnectionTest dataId)
  | .startConnectionTestDone dataId passed generation =>
    s.onCtx dataId (eventDataStartConnectionTestDone dataId passed generation)
  | .periodicConnectionTestDone dataId passed generation =>
    s.onCtx dataId (eventDataPeriodicConnectivityTestDone dataId passed generation)
  | .recoveryScheduleL1 dataId => s.onCtx dataId (eventL1ConnRecoverySchedule p dataId)
  | .recoveryCancel dataId => s.onCtx dataId (eventConnRecoveryCancel dataId)
  | .recoveryCancelSync dataId => s.onCtxSync dataId .notFound eventConnRecoveryCancelSync
  | .recoveryCancelSendInd dataId => s.onCtx dataId (eventConnRecoveryCancelSendInd dataId)
  | .recoveryInterrupted dataId => s.onCtx dataId (eventConnRecoveryInterrupted p dataId)
  | .recoveryStartL1 dataId => s.startRecovery dataId a (eventL1ConnRecoveryStart dataId a)
  | .recoveryScheduleL2 dataId => s.onCtx dataId (eventL2ConnRecoverySchedule p dataId)
  | .recoveryStartL2 dataId => s.startRecovery dataId a (eventL2ConnRecoveryStart dataId a)
  | .recoveryScheduleL3 dataId => s.onCtx dataId (eventL3ConnRecoverySchedule p dataId)
  | .recoveryStartL3 dataId => s.startL3 dataId a

/-- The thread of the clients reports an event and waits for its result. -/
def await (e : SmEvent) (call : Call) : State :=
  { s with events := s.events ++ [e], call := some (call, none) }

def answer (call : Call) (r : Result) : State := { s with acts := s.acts ++ [.answered call r] }

/-- `Startdata` up to the result of the state machine. -/
def startdata (client dataId : Nat) : State :=
  match s.ctx dataId with
  | none => s.answer (.startData client dataId) .fault
  | some c =>
    if c.adminState = .connectedInactiveRetrying ∨ c.adminState = .notConnectedRetrying then
      s.answer (.startData client dataId) .inProgress
    else s.await (.dataStartSync dataId) (.startData client dataId)

end State

def DataCtx.insertClient (client : Nat) (c : DataCtx) : DataCtx :=
  { c with clients := if client ∈ c.clients then c.clients else c.clients ++ [client] }

def DataCtx.eraseClient (client : Nat) (c : DataCtx) : DataCtx :=
  { c with clients := c.clients.filter (· ≠ client) }

/-- The client of a session that has been started, or that is being retried, is remembered. -/
def Work.started (client : Nat) (r : Result) (w : Work) : Work :=
  let w := if (r = .ok ∨ r = .duplicate ∨ r = .timeout) ∧ w.ctx.autoStart = false then
    w.update (DataCtx.insertClient client) else w
  if r ≠ .ok ∧ w.ctx.dataRetry = true ∧ w.ctx.dataStartRetryCount > 0 then
    (w.update (DataCtx.insertClient client)).reconnect true
  else w

/-- The operation that is cancelled in a state; elsewhere the one that is remembered. -/
def DataCtx.operationToCancel (c : DataCtx) : RecoveryOperation :=
  match c.adminState with
  | .recoveryScheduledL1 | .recoveryStartedL1 => .radioOffOn
  | .recoveryScheduledL2 | .recoveryStartedL2 => .simOffOn
  | .recoveryScheduledL3 | .recoveryStartedL3 => .nadReboot
  | _ => c.recoveryOperation

/-- A recovery that is scheduled is to be cancelled. -/
def Work.requestCancel (dataId : Nat) (w : Work) : Work :=
  if w.ctx.isConnectivityRecoveryScheduled = true then
    (w.update fun c => { c with
      recoveryOperation := c.operationToCancel
      isConnectivityRecoveryScheduled := false }).post (.recoveryCancel dataId)
  else w

/-- The states in which the session is stopped when its last client disconnects. -/
def AdminState.StopsWithLastClient (state : AdminState) : Prop :=
  state = .connectedActive ∨ state = .connectedInactive ∨ state = .connectedInactiveRetrying ∨
    state = .connectedIdle ∨ state = .notConnectedRetrying
deriving Decidable

/-- `OnClientDisconnect` for one data object. -/
def clientDisconnected (client dataId : Nat) (w : Work) : Work :=
  if w.ctx.autoStart = false then
    let w := w.update (DataCtx.eraseClient client)
    if w.ctx.clients = [] then
      let w := if w.ctx.adminState.StopsWithLastClient then w.post (.dataStop dataId) else w
      (w.requestCancel dataId).reconnect false
    else w
  else w

/-- The states in which `CancelRecovery` accepts to cancel the remembered operation. -/
def RecoveryOperation.Cancelable : RecoveryOperation → AdminState → Prop
  | .radioOffOn, state => state = .recoveryScheduledL1
  | .simOffOn, state => state = .recoveryScheduledL2
  | .nadReboot, state => state = .recoveryScheduledL3
  | .none, _ => True

instance : DecidableRel RecoveryOperation.Cancelable := fun operation state => by
  cases operation
  all_goals unfold RecoveryOperation.Cancelable; infer_instance

namespace State

variable (p : Policy) (s : State)

/-- `Stopdata` up to the result of the state machine. -/
def stopdata (client dataId : Nat) : State :=
  match s.ctx dataId with
  | none => s.answer (.stopData client dataId) .fault
  | some c =>
    if c.isDStartConnTestInProgress = true then s.answer (.stopData client dataId) .notPossible
    else
      let s := s.onCtx dataId fun w => w.update (DataCtx.eraseClient client)
      if (c.eraseClient client).clients ≠ [] then s.answer (.stopData client dataId) .ok
      else s.await (.dataStopSync dataId) (.stopData client dataId)

/-- `StartDataRetry` up to the result of the state machine. -/
def startDataRetry (client dataId : Nat) : State :=
  match s.ctx dataId with
  | none => s.answer (.startDataRetry client dataId) .notFound
  | some c =>
    if c.dataState = .disconnected ∧ c.autoStart = false then
      s.answer (.startDataRetry client dataId) .notPermitted
    else s.await (.dataStartRetryAppReq dataId client) (.startDataRetry client dataId)

/-- `CancelRecovery` up to the result of the state machine. -/
def cancelRecovery (client dataId : Nat) : State :=
  match s.ctx dataId with
  | none => s.answer (.cancelRecovery client dataId) .notFound
  | some c =>
    if p.level = .none then s.answer (.cancelRecovery client dataId) .notPossible
    else if p.allowCancel = false then s.answer (.cancelRecovery client dataId) .notPermitted
    else if p.verifyCancelingApp = true ∧ client ∉ c.clients then
      s.answer (.cancelRecovery client dataId) .notPermitted
    else if ¬ c.recoveryOperation.Cancelable c.adminState then
      s.answer (.cancelRecovery client dataId) .notPossible
    else s.await (.recoveryCancelSync dataId) (.cancelRecovery client dataId)

/-- What a call still does when it has its result. -/
def finish (call : Call) (r : Result) : State :=
  let s := match call with
    | .startData client dataId => s.onCtx dataId (Work.started client r)
    | .stopData _ dataId => s.onCtx dataId fun w =>
      if w.ctx.autoStart = false then w.requestCancel dataId else w
    | .startDataRetry _ _ => s
    | .cancelRecovery _ dataId =>
      { s with events := s.events ++ [SmEvent.recoveryInterrupted dataId] }
  { s with call := none }.answer call r

/-- `OnClientConnect`; there is a record for so many sessions. -/
def onClientConnect (client : Nat) : State :=
  { s with
    sessions := s.sessions ++ [client]
    connectedClients :=
      if s.connectedClients.length < p.maxSessions then s.connectedClients ++ [client]
      else s.connectedClients }

def onClientDisconnect (client : Nat) : State :=
  let s := { s with sessions := s.sessions.filter (· ≠ client) }
  if client ∈ s.connectedClients then
    { s with connectedClients := s.connectedClients.filter (· ≠ client) }.forAll
      (clientDisconnected client)
  else s

def expire (dataId : Nat) (timer : Timer) : Option State :=
  (s.ctx dataId).bind fun c =>
    if c.isRunning timer then
      let s := if timer = .maxTimeBetweenTriggers then
        { s with retryClients := Function.update s.retryClients c.sessionRef none } else s
      some (s.onCtx dataId (timerHandler dataId timer))
    else none

/-- `ConnTestEvtHandlerFunc`: the worker runs the next test, with these outcomes by URL and by
address. -/
def runTest (url ipv4Addr : Bool) : Option State :=
  match s.tests with
  | [] => none
  | test :: rest =>
    let passed := if test.url ≠ [] then url || (test.ipv4Addr ≠ [] && ipv4Addr)
      else test.ipv4Addr ≠ [] && ipv4Addr
    let e := if test.periodic then
        SmEvent.periodicConnectionTestDone test.dataId passed test.generation
      else .startConnectionTestDone test.dataId passed test.generation
    some { s with tests := rest, events := s.events ++ [e] }

def restartReqAsyncCallBack (ready : Bool) : Option State :=
  match s.restarts with
  | [] => none
  | dataId :: rest =>
    some ({ s with restarts := rest }.onCtx dataId fun w =>
      if ready then w.setState .recoveryStartedL3
      else (w.setState .recoveryFailedL3).post (.recoveryInterrupted dataId))

end State

variable {P : State → Prop}

namespace State

variable {s : State} {dataId other : Nat} {f : Work → Work}
  {g : Nat → Work → Work} {c : DataCtx}

theorem onCtx_of_none (h : s.ctx dataId = none) : s.onCtx dataId f = s := by
  unfold onCtx
  rw [h]

theorem onCtx_of_some (h : s.ctx dataId = some c) :
    s.onCtx dataId f = s.put dataId (f { ctx := c }) := by
  unfold onCtx
  rw [h]

theorem ctx_put {w : Work} : (s.put dataId w).ctx other =
    if other = dataId then some w.ctx else s.ctx other := by
  simp [put, update_apply]

/-- The work of a handler, where it has a context. -/
def worked (s : State) (dataId : Nat) (f : Work → Work) : Option Work :=
  (s.ctx dataId).map fun c => f { ctx := c }

theorem ctx_onCtx : (s.onCtx dataId f).ctx other =
    if other = dataId then (s.worked dataId f).map Work.ctx else s.ctx other := by
  unfold worked
  cases h : s.ctx dataId with
  | none =>
    rw [onCtx_of_none h]
    split
    · rename_i heq
      rw [heq, h]
      rfl
    · rfl
  | some c =>
    rw [onCtx_of_some h, ctx_put]
    rfl

theorem ctx_onCtx_eq_some : (s.onCtx dataId f).ctx dataId = some c ↔
    ∃ b, s.ctx dataId = some b ∧ (f { ctx := b }).ctx = c := by
  rw [ctx_onCtx, if_pos rfl]
  unfold worked
  rw [Option.map_map]
  exact Option.map_eq_some_iff

theorem events_onCtx :
    (s.onCtx dataId f).events = s.events ++ (s.worked dataId f).elim [] Work.posted := by
  unfold worked
  cases h : s.ctx dataId with
  | none =>
    rw [onCtx_of_none h]
    exact (append_nil _).symm
  | some c =>
    rw [onCtx_of_some h]
    rfl

theorem acts_onCtx : (s.onCtx dataId f).acts = s.acts ++ (s.worked dataId f).elim [] Work.acts := by
  unfold worked
  cases h : s.ctx dataId with
  | none =>
    rw [onCtx_of_none h]
    exact (append_nil _).symm
  | some c =>
    rw [onCtx_of_some h]
    rfl

/-- What `put` leaves alone, a handler does. -/
theorem onCtx_keeps {α : Type*} (get : State → α) (hput : ∀ w, get (s.put dataId w) = get s) :
    get (s.onCtx dataId f) = get s := by
  cases h : s.ctx dataId with
  | none => rw [onCtx_of_none h]
  | some c =>
    rw [onCtx_of_some h]
    exact hput _

theorem fulfill_keeps {α : Type*} {r : Result} (get : State → α)
    (hcall : ∀ call, get { s with call := call } = get s) : get (s.fulfill r) = get s := by
  unfold fulfill
  split
  · exact hcall _
  · rfl

@[simp] theorem dataIds_onCtx : (s.onCtx dataId f).dataIds = s.dataIds :=
  onCtx_keeps State.dataIds fun _ => rfl

@[simp] theorem call_onCtx : (s.onCtx dataId f).call = s.call := onCtx_keeps State.call fun _ => rfl

/-- What every handler of a round preserves, the round preserves. -/
theorem forAll_induction (hstep : ∀ s dataId, P s → P (s.onCtx dataId (g dataId)))
    (h : P s) : P (s.forAll g) := by
  unfold forAll
  generalize s.dataIds = ids
  induction ids generalizing s with
  | nil => exact h
  | cons dataId rest ih => exact ih (hstep s dataId h)

theorem forAll_spec (hnd : s.dataIds.Nodup) :
    (∀ other, (s.forAll g).ctx other =
      if other ∈ s.dataIds then (s.worked other (g other)).map Work.ctx else s.ctx other) ∧
    (s.forAll g).events =
      s.events ++
        s.dataIds.flatMap fun dataId => (s.worked dataId (g dataId)).elim [] Work.posted := by
  unfold forAll
  generalize s.dataIds = ids at hnd
  induction ids generalizing s with
  | nil => exact ⟨fun _ => rfl, (append_nil _).symm⟩
  | cons dataId rest ih =>
    obtain ⟨hnoti, hrest⟩ := nodup_cons.1 hnd
    obtain ⟨hctx, hevs⟩ := ih (s := s.onCtx dataId (g dataId)) hrest
    have hwork (other : Nat) (hoth : other ∈ rest) :
        (s.onCtx dataId (g dataId)).worked other (g other) = s.worked other (g other) := by
      have hne : other ≠ dataId := fun heq => hnoti (heq ▸ hoth)
      unfold worked
      rw [ctx_onCtx, if_neg hne]
    constructor
    · intro other
      rw [foldl_cons, hctx, ctx_onCtx]
      by_cases hoth : other ∈ rest
      · rw [if_pos hoth, hwork other hoth, if_pos (mem_cons_of_mem _ hoth)]
      rw [if_neg hoth]
      by_cases heq : other = dataId
      · rw [if_pos heq, if_pos (mem_cons.2 (Or.inl heq)), heq]
      · rw [if_neg heq, if_neg fun hin => (mem_cons.1 hin).elim heq hoth]
    · rw [foldl_cons, hevs, events_onCtx, append_assoc]
      congr 2
      exact flatMap_congr fun other hoth => by rw [hwork other hoth]

end State

/-- What happens next: at a client, at the state machine, at a timer, the worker or another
service. -/
inductive Event where
  | connect (client : Nat)
  | disconnect (client : Nat)
  | startData (client dataId : Nat)
  | stopData (client dataId : Nat)
  | startDataRetry (client dataId : Nat)
  | cancelRecovery (client dataId : Nat)
  /-- The thread of the clients goes on with the result it has waited for. -/
  | resume
  /-- The state machine takes its next event. -/
  | handle (a : Answers)
  | expire (dataId : Nat) (timer : Timer)
  | runTest (url ipv4Addr : Bool)
  | restartResponse (ready : Bool)
  | sessionConnected (dataId : Nat)
  | sessionDisconnected (dataId : Nat)
  | registered (phoneId : Nat)
  | unregistered (phoneId : Nat)
  | simReady (slotId : Nat)
  | simNotReady (slotId : Nat)

namespace State

variable (p : Policy) (s : State)

def report (e : SmEvent) : State := { s with events := s.events ++ [e] }

/-- One step; the thread of the clients takes none while it waits. -/
def step : Event → Option State
  | .connect client =>
    if s.call = none ∧ client ∉ s.sessions then some (s.onClientConnect p client) else none
  | .disconnect client =>
    if s.call = none ∧ client ∈ s.sessions then some (s.onClientDisconnect client) else none
  | .startData client dataId =>
    if s.call = none ∧ client ∈ s.sessions then some (s.startdata client dataId) else none
  | .stopData client dataId =>
    if s.call = none ∧ client ∈ s.sessions then some (s.stopdata client dataId) else none
  | .startDataRetry client dataId =>
    if s.call = none ∧ client ∈ s.sessions then some (s.startDataRetry client dataId) else none
  | .cancelRecovery client dataId =>
    if s.call = none ∧ client ∈ s.sessions then some (s.cancelRecovery p client dataId) else none
  | .resume =>
    match s.call with
    | some (call, some r) => some (s.finish call r)
    | _ => none
  | .handle a =>
    match s.events with
    | [] => none
    | e :: rest => some ({ s with events := rest }.handle p a e)
  | .expire dataId timer => s.expire dataId timer
  | .runTest url ipv4Addr => s.runTest url ipv4Addr
  | .restartResponse ready => s.restartReqAsyncCallBack ready
  | .sessionConnected dataId => some (s.report (.connected dataId))
  | .sessionDisconnected dataId => some (s.report (.disconnected dataId))
  | .registered phoneId => some (s.report (.networkRegState phoneId))
  | .unregistered phoneId => some (s.report (.networkUnregState phoneId))
  | .simReady slotId => some (s.report (.simReady slotId))
  | .simNotReady slotId => some (s.report (.simNotReady slotId))

end State

/-- What the configuration says of a data object, with the state of its SIM and its network. -/
structure DataConfig where
  dataId : Nat
  slotId : Nat
  phoneId : Nat
  autoStart : Bool
  connTestUrl : List Char
  connTestIpv4Addr : List Char
  dataRetry : Bool
  maxdataRetryCount : Nat
  connPeriodicTestUrl : List Char
  connPeriodicTestMaxRetryCount : Nat
  simReady : Bool
  registered : Bool

/-- `CreateDataCtx`; the fields it does not set are those of the memory pool, which starts as
zeros. -/
def createDataCtx (d : DataConfig) : DataCtx where
  slotId := d.slotId
  phoneId := d.phoneId
  autoStart := d.autoStart
  needReConn := false
  adminState := .adminInit
  dataState := .disconnected
  dataRetry := false
  dataStartRetryCount := 0
  maxdataRetryCount := 0
  dataConnTestFailedRetryCount := 0
  isDStartConnTestInProgress := false
  connTestGeneration := 0
  connTestUrl := d.connTestUrl
  connTestIpv4Addr := d.connTestIpv4Addr
  connPeriodicTestUrl := []
  connPeriodicTestRetryCount := 1
  connPeriodicTestMaxRetryCount := 0
  isConnectivityRecoveryScheduled := false
  wasL1ConnectivityRecoveryDone := false
  wasL2ConnectivityRecoveryDone := false
  recoveryOperation := .none
  clients := []
  sessionRef := 0
  dataStartRetryTimer := false
  periodicConnectivityTestTimer := false
  recoveryScheduleTimer := false
  recoveryRetryTimer := false
  radioOffOnIntervalTimer := false
  simOffOnIntervalTimer := false
  minTimeBetweenTriggers := false
  maxTimeBetweenTriggers := false

/-- The settings that `InitializeStates` writes to a context, new or not. -/
def DataCtx.configure (d : DataConfig) (c : DataCtx) : DataCtx :=
  { c with
    clients := []
    maxdataRetryCount := d.maxdataRetryCount
    dataRetry := d.dataRetry
    connPeriodicTestUrl :=
      if d.connPeriodicTestUrl ≠ [] then d.connPeriodicTestUrl else c.connPeriodicTestUrl
    connPeriodicTestMaxRetryCount := d.connPeriodicTestMaxRetryCount }

def Work.initializeAdminState (d : DataConfig) (w : Work) : Work :=
  if d.simReady = false then w.setState .notConnectedSimNotReady
  else
    let w := (w.post .radioPowerOn).setState
      (if d.registered then .notConnectedNwRegistered else .notConnectedNwNotRegistered)
    if d.autoStart = true then w.post (.dataStart d.dataId)
    else if d.registered then
      (w.setState .notConnected).reportAndUpdateDataState d.dataId .disconnected
    else w

/-- `InitializeStates` for one entry of the configuration. -/
def State.initializeState (s : State) (d : DataConfig) : State :=
  let s := match s.ctx d.dataId with
    | some _ => s
    | none => { s with
        dataIds := s.dataIds ++ [d.dataId]
        ctx := Function.update s.ctx d.dataId (some (createDataCtx d)) }
  s.onCtx d.dataId fun w => (w.update (DataCtx.configure d)).initializeAdminState d

/-- The state machine before the configuration is read. -/
def State.empty : State where
  dataIds := []
  ctx := fun _ => none
  events := []
  tests := []
  retryClients := fun _ => none
  sessions := []
  connectedClients := []
  call := none
  restarts := []
  acts := []

/-- `InitializeStates`, for the entries it reaches. -/
def State.initial (config : List DataConfig) : State :=
  config.foldl State.initializeState State.empty

variable {config : List DataConfig}

/-- What every entry of the configuration preserves, the initialization does. -/
theorem initial_induction (hemp : P State.empty)
    (hstep : ∀ s d, P s → P (s.initializeState d)) : P (State.initial config) := by
  unfold State.initial
  generalize State.empty = s at hemp
  induction config generalizing s with
  | nil => exact hemp
  | cons d rest ih => exact ih _ (hstep s d hemp)

theorem initial_ctx {Q : Nat → DataCtx → Prop}
    (hinit : ∀ d b, b = createDataCtx d ∨ Q d.dataId b →
      Q d.dataId ((Work.update { ctx := b } (DataCtx.configure d)).initializeAdminState d).ctx)
    {dataId : Nat} {c : DataCtx} (hc : (State.initial config).ctx dataId = some c) : Q dataId c := by
  revert dataId c
  apply initial_induction (P := fun s => ∀ {dataId c}, s.ctx dataId = some c → Q dataId c)
  · exact fun hc => nomatch hc
  intro s d h dataId c hc
  unfold State.initializeState at hc
  dsimp only at hc
  by_cases heq : dataId = d.dataId
  · subst dataId
    obtain ⟨b, hb, rfl⟩ := State.ctx_onCtx_eq_some.1 hc
    apply hinit
    split at hb
    · exact Or.inr (h hb)
    · have hnew := (update_self d.dataId (some (createDataCtx d)) s.ctx).symm.trans hb
      exact Or.inl (Option.some.inj hnew).symm
  · rw [State.ctx_onCtx, if_neg heq] at hc
    split at hc
    · exact h hc
    · exact h ((update_of_ne heq (some (createDataCtx d)) s.ctx).symm.trans hc)

structure State.Listed (s : State) : Prop where
  nodup : s.dataIds.Nodup
  mem_iff : ∀ dataId, dataId ∈ s.dataIds ↔ ∃ c, s.ctx dataId = some c

theorem State.Listed.onCtx {s : State} {dataId : Nat} {f : Work → Work} (h : s.Listed) :
    (s.onCtx dataId f).Listed where
  nodup := by
    rw [dataIds_onCtx]
    exact h.nodup
  mem_iff := by
    intro other
    rw [dataIds_onCtx, h.mem_iff]
    by_cases heq : other = dataId
    · subst other
      exact ⟨fun ⟨b, hb⟩ => ⟨_, ctx_onCtx_eq_some.2 ⟨b, hb, rfl⟩⟩,
        fun ⟨c, hc⟩ => (ctx_onCtx_eq_some.1 hc).imp fun _ hb => hb.1⟩
    · rw [ctx_onCtx, if_neg heq]

theorem listed_initial : (State.initial config).Listed := by
  apply initial_induction
  · exact ⟨nodup_nil, fun dataId => ⟨fun h => absurd h not_mem_nil, fun ⟨c, hc⟩ => nomatch hc⟩⟩
  intro s d h
  unfold State.initializeState
  apply State.Listed.onCtx
  cases hd : s.ctx d.dataId with
  | some c => exact h
  | none =>
    have hnoti : d.dataId ∉ s.dataIds := fun hin => by
      obtain ⟨c, hc⟩ := (h.mem_iff d.dataId).1 hin
      rw [hd] at hc
      cases hc
    refine ⟨nodup_append.2 ⟨h.nodup, nodup_singleton _, ?_⟩, fun other => ?_⟩
    · rintro x hx y hy rfl
      exact hnoti (mem_singleton.1 hy ▸ hx)
    rw [mem_append, h.mem_iff]
    by_cases heq : other = d.dataId
    all_goals simp [heq]

/-- `EventStartDataRetry` gives the connection up. -/
def DataCtx.GivesUp (c : DataCtx) : Prop :=
  c.dataRetry = false ∨ c.dataStartRetryCount ≥ c.maxdataRetryCount
deriving Decidable

/-- All is well but for the result of a data call. -/
def answering (result : Result) : Answers where
  startData := result
  stopData := .ok
  interfaceName := true
  dnsAddresses := true
  setDNS := true
  eCallInProgress := false
  restartReq := true
  radioStartUp := fun _ => true
  retryClient := true

end TelAF.MngdConn
