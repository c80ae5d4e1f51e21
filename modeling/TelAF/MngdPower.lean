import TelAF.PmService

/-!
# Demand and wake lock of the managed power service

Clients, the vehicle side and the boot timer keep the node awake. Their demand is counted, and the
service holds one wake lock of the power management service while there is demand; near a suspend, a
shutdown or a restart the lock follows the demand later. Authorization decides which stay-awake
reasons count.
-/

namespace TelAF.MngdPm

open PmService (PowerState)

/-- The states `TAF_MNGDPM_STATE_...` of the service. -/
inductive MachineState where
  | unknown
  | resume
  | suspend
  | shutdown
  | restart
  | restarting
  | releasingWakeSource
  | suspending
  | shuttingDown
  | wakingUp
deriving DecidableEq

structure StateMachine where
  currentState : MachineState
  prevState : MachineState

inductive TargetedPowerMode where
  | resume
  | suspend
  | shutdown
deriving DecidableEq

inductive Result where
  | ok
  | badParameter
  | notPermitted
  | notFound
  | unsupported
  | unavailable
  | duplicate
  | busy
  | fault
deriving DecidableEq

structure PowerMode where
  isGraceful : Bool
  isForceful : Bool
  isShutDown : Bool
  isRestart : Bool
  isSuspend : Bool
  isWsAcquired : Bool
  isWsNodeAcquired : Bool

/-- `taf_wsRefCtx_t`. -/
structure WakeSource where
  sessionRef : Nat
  reason : Nat
  acquired : Bool

/-- `taf_nodeWsRefCtx_t`. -/
structure NodeWakeSource where
  wsTag : List Char
  sessionRef : Nat
  isAcquiredLock : Bool

/-- The timer that keeps the node awake until the apps have started. -/
inductive BootTimer where
  | notStarted
  | running
  | expired
deriving DecidableEq

/-- What decides whether the node is awake. `pmsHolds` is the wake lock as the power management
service has it. `pmsPending` tells that it has accepted a power state and none was entered since;
a notification of SUSPEND that finds demand enters none. -/
structure Power where
  wsRefList : RefMap WakeSource
  nodeWsRefList : RefMap NodeWakeSource
  vhalWsAcquired : Bool
  wsCount : BitVec 8
  wsNodeCount : BitVec 8
  powerMode : PowerMode
  stateMachine : StateMachine
  targetedPowerMode : TargetedPowerMode
  stayAwakeReasonMask : BitVec 32
  previousStayAwakeReasonMask : BitVec 32
  bootTimer : BootTimer
  pmsHolds : Bool
  pmsPending : Bool

/-- What the calls of the power management service return. -/
structure PmsEnv where
  stayAwake : Bool
  relax : Bool
  nad : Bool
deriving DecidableEq

/-- The reasons that can be authorized: the first five and those of vendors. -/
def authorizeAll : BitVec 32 := 0xFFFF001F#32

namespace Power

variable (p : Power)

def requestStateChange (requestedState : MachineState) : Bool :=
  let current := p.stateMachine.currentState
  if current = requestedState then true
  else match requestedState with
  | .releasingWakeSource | .wakingUp => current ≠ .shutdown ∧ current ≠ .restart
  | .suspending | .restarting | .shuttingDown => current = .releasingWakeSource ∨ current = .resume
  | _ => false

/-- The state that is really taken: a change in a suspend, shutdown or restart is not seen. -/
def foldState (current : MachineState) : MachineState → MachineState
  | .wakingUp =>
    if current = .resume ∨ current = .releasingWakeSource ∨ current = .suspending ∨
      current = .shuttingDown ∨ current = .restarting then current else .wakingUp
  | .releasingWakeSource =>
    if current = .suspending ∨ current = .suspend ∨ current = .wakingUp ∨
      current = .shuttingDown ∨ current = .restarting then current else .releasingWakeSource
  | toState => toState

def processStateChange (toState : MachineState) : Power :=
  let current := p.stateMachine.currentState
  let toState := foldState current toState
  if toState ≠ current then { p with stateMachine := ⟨toState, current⟩ } else p

/-- `taf_pm_StayAwake` and what is kept of it. -/
def pmsStayAwake : Power :=
  { p with pmsHolds := true, powerMode := { p.powerMode with isWsAcquired := true } }

/-- `taf_pm_Relax` and what is kept of it. -/
def pmsRelax : Power :=
  { p with pmsHolds := false, powerMode := { p.powerMode with isWsAcquired := false } }

def increment : Power := { p with wsCount := p.wsCount + 1 }

def decrement : Power := if p.wsCount = 0 then p else { p with wsCount := p.wsCount - 1 }

/-- The states in which demand takes the lock at once. -/
def acquiresLock (state : MachineState) : Bool :=
  state = .suspend ∨ state = .resume ∨ state = .releasingWakeSource ∨ state = .wakingUp

/-- The states in which demand is only counted. -/
def defersLock (state : MachineState) : Bool :=
  state = .suspending ∨ state = .shuttingDown ∨ state = .restarting

def acquireWakeLock (env : PmsEnv) : Power × Bool :=
  if acquiresLock p.stateMachine.currentState then
    if p.powerMode.isWsAcquired then (p.increment, true)
    else if env.stayAwake then (p.pmsStayAwake.increment, true)
    else (p, false)
  else if defersLock p.stateMachine.currentState then (p.increment, true)
  else (p, true)

/-- The states in which the lock is given back with the last demand, if it is held. -/
def releasesLock (state : MachineState) : Bool :=
  state = .resume ∨ state = .releasingWakeSource ∨ state = .suspending ∨ state = .suspend

def releaseWakeLock (env : PmsEnv) : Power × Bool :=
  if p.decrement.wsCount = 0 ∧ releasesLock p.stateMachine.currentState ∧
      p.powerMode.isWsAcquired then
    if env.relax then (p.decrement.pmsRelax, true) else (p.decrement, false)
  else (p.decrement, p.wsCount ≠ 0)

def isAuthorizedStayAwakeReason (reason : Nat) (mask : BitVec 32) : Bool :=
  if reason < 32 then mask.getLsbD reason else true

def counts (w : WakeSource) : Bool :=
  w.acquired && isAuthorizedStayAwakeReason w.reason p.stayAwakeReasonMask

def setAcquired (wsRef : Nat) (acquired : Bool) : Power :=
  { p with wsRefList := p.wsRefList.modify wsRef fun w => { w with acquired := acquired } }

/-- The wake source under the reference, if the session has created it. -/
def findWakeSource (session wsRef : Nat) : Option WakeSource :=
  (p.wsRefList.lookup wsRef).filter fun w => w.sessionRef = session

def createWakeupSource (session reason : Nat) : Power :=
  if 4 < reason ∧ reason ≤ 15 then p
  else { p with wsRefList := p.wsRefList.create ⟨session, reason, false⟩ }

def acquireWakeSource (wsRef : Nat) (env : PmsEnv) : Power × Result :=
  if p.requestStateChange .wakingUp = false then (p, .notPermitted)
  else match p.acquireWakeLock env with
  | (q, true) => ((q.setAcquired wsRef true).processStateChange .wakingUp, .ok)
  | (q, false) => (q, .fault)

def stayAwake (session wsRef : Nat) (env : PmsEnv) : Power × Result :=
  match p.findWakeSource session wsRef with
  | none => (p, .fault)
  | some w =>
    if w.acquired then (p, .duplicate)
    else if isAuthorizedStayAwakeReason w.reason p.stayAwakeReasonMask then
      p.acquireWakeSource wsRef env
    else if p.stateMachine.currentState = .suspend then (p, .notPermitted)
    else (p.setAcquired wsRef true, .ok)

def releaseWakeSource (wsRef : Nat) (env : PmsEnv) : Power × Result :=
  if p.requestStateChange .releasingWakeSource = false then (p, .notPermitted)
  else match p.releaseWakeLock env with
  | (q, true) => ((q.processStateChange .releasingWakeSource).setAcquired wsRef false, .ok)
  | (q, false) => (q, .fault)

def relax (session wsRef : Nat) (env : PmsEnv) : Power × Result :=
  match p.findWakeSource session wsRef with
  | none => (p, .fault)
  | some w =>
    if w.acquired = false then (p, .unavailable)
    else if isAuthorizedStayAwakeReason w.reason p.stayAwakeReasonMask then
      p.releaseWakeSource wsRef env
    else (p.setAcquired wsRef false, .ok)

def deleteWakeupSource (session wsRef : Nat) : Power × Result :=
  match p.findWakeSource session wsRef with
  | none => (p, .notFound)
  | some w =>
    if w.acquired then (p, .notPermitted)
    else ({ p with wsRefList := p.wsRefList.erase wsRef }, .ok)

/-- One source counts now, or does not count any longer. -/
def recount (mask previous : BitVec 32) (w : WakeSource) (count : BitVec 8) : BitVec 8 :=
  if w.acquired then
    if isAuthorizedStayAwakeReason w.reason previous = false ∧
        isAuthorizedStayAwakeReason w.reason mask then count + 1
    else if isAuthorizedStayAwakeReason w.reason previous ∧
        isAuthorizedStayAwakeReason w.reason mask = false then count - 1
    else count
  else count

/-- After the sources are counted again, from the last one on. -/
def refreshLock (env : PmsEnv) : Power :=
  let current := p.stateMachine.currentState
  if current = .shuttingDown ∨ current = .restarting then p
  else if p.wsCount = 0 then (p.releaseWakeLock env).1
  else if p.powerMode.isWsAcquired = false ∧ current = .suspend ∧
    env.stayAwake then p.pmsStayAwake
  else p

def refreshWakeSources (env : PmsEnv) : Power :=
  let count := p.wsRefList.values.foldr
    (recount p.stayAwakeReasonMask p.previousStayAwakeReasonMask) p.wsCount
  refreshLock { p with wsCount := count } env

def authorizeStayAwakeReason (mask : BitVec 32) (env : PmsEnv) : Power :=
  refreshWakeSources { p with
    previousStayAwakeReasonMask := p.stayAwakeReasonMask
    stayAwakeReasonMask := mask &&& authorizeAll } env

/-- The result of the call for the node's own wake source is `ok`. -/
def acquireNodeWakeLock (ok : Bool) : Power × Bool :=
  if p.powerMode.isWsNodeAcquired then ({ p with wsNodeCount := p.wsNodeCount + 1 }, true)
  else if ok then
    ({ p with
        wsNodeCount := p.wsNodeCount + 1
        powerMode := { p.powerMode with isWsNodeAcquired := true } }, true)
  else (p, false)

def releaseNodeWakeLock (ok : Bool) : Power × Bool :=
  let counted := if p.wsNodeCount = 0 then p else { p with wsNodeCount := p.wsNodeCount - 1 }
  if counted.wsNodeCount ≠ 0 then (counted, true)
  else if p.powerMode.isWsNodeAcquired = false then (counted, false)
  else if ok then
    ({ counted with powerMode := { p.powerMode with isWsNodeAcquired := false } }, true)
  else (counted, false)

def setAcquiredLock (wsRef : Nat) (isAcquiredLock : Bool) : Power :=
  { p with
    nodeWsRefList :=
      p.nodeWsRefList.modify wsRef fun w => { w with isAcquiredLock := isAcquiredLock } }

def findNodeWakeSource (session wsRef : Nat) : Option NodeWakeSource :=
  (p.nodeWsRefList.lookup wsRef).filter fun w => w.sessionRef = session

def createNodeWakeupSource (session : Nat) (wsTag : List Char) : Power :=
  match p.nodeWsRefList.search fun w => w.sessionRef = session ∧ w.wsTag = wsTag with
  | some _ => p
  | none => { p with nodeWsRefList := p.nodeWsRefList.create ⟨wsTag, session, false⟩ }

def deleteNodeWakeupSource (session wsRef : Nat) : Power × Result :=
  match p.findNodeWakeSource session wsRef with
  | none => (p, .notFound)
  | some w =>
    if w.isAcquiredLock then (p, .notPermitted)
    else ({ p with nodeWsRefList := p.nodeWsRefList.erase wsRef }, .ok)

def stayAwakeNode (session wsRef : Nat) (ok : Bool) : Power × Result :=
  match p.findNodeWakeSource session wsRef with
  | none => (p, .fault)
  | some w =>
    if w.isAcquiredLock then (p, .duplicate)
    else match p.acquireNodeWakeLock ok with
    | (q, true) => (q.setAcquiredLock wsRef true, .ok)
    | (q, false) => (q, .fault)

def relaxNode (session wsRef : Nat) (ok : Bool) : Power × Result :=
  match p.findNodeWakeSource session wsRef with
  | none => (p, .fault)
  | some w =>
    if w.isAcquiredLock = false then (p, .unavailable)
    else match p.releaseNodeWakeLock ok with
    | (q, true) => (q.setAcquiredLock wsRef false, .ok)
    | (q, false) => (q, .fault)

def vhalRelax (env : PmsEnv) : Power :=
  if p.requestStateChange .releasingWakeSource = false then p
  else if p.vhalWsAcquired = false then p
  else match p.releaseWakeLock env with
  | (q, true) => { q.processStateChange .releasingWakeSource with vhalWsAcquired := false }
  | (q, false) => q

def vhalStayAwake (env : PmsEnv) : Power :=
  if p.requestStateChange .wakingUp = false then p
  else if p.vhalWsAcquired then p
  else match p.acquireWakeLock env with
  | (q, true) => { q.processStateChange .wakingUp with vhalWsAcquired := true }
  | (q, false) => q

/-- The timer is started whether the lock could be acquired or not. -/
def waitWakeSourceTimer (env : PmsEnv) : Power :=
  { (p.acquireWakeLock env).1 with bootTimer := .running }

def wakeSourceTimer (env : PmsEnv) : Power :=
  (releaseWakeLock { p with bootTimer := .expired } env).1

/-- The wake lock is taken and given back, to be told of the last wake source. -/
def setTargetedPowerMode (target : TargetedPowerMode) (env : PmsEnv) : Power × Result :=
  let p := { p with targetedPowerMode := target }
  if target ≠ .resume ∧ p.requestStateChange .releasingWakeSource = false then (p, .notPermitted)
  else
    let p := if target = .resume then p
      else { p with powerMode := { p.powerMode with isGraceful := true } }
    let q := (p.acquireWakeLock env).1.releaseWakeLock env
    (q.1, if q.2 then .ok else .fault)

def dropWakeSource (env : Nat → PmsEnv) (wsRef : Nat) (p : Power) : Power :=
  match p.wsRefList.lookup wsRef with
  | none => p
  | some w =>
    let q := if p.counts w then (p.releaseWakeLock (env wsRef)).1 else p
    { q with wsRefList := q.wsRefList.erase wsRef }

def dropNodeWakeSource (ok : Nat → Bool) (wsRef : Nat) (p : Power) : Power :=
  match p.nodeWsRefList.lookup wsRef with
  | none => p
  | some w =>
    let q := if w.isAcquiredLock then (p.releaseNodeWakeLock (ok wsRef)).1 else p
    { q with nodeWsRefList := q.nodeWsRefList.erase wsRef }

def wakeSourcesOf (session : Nat) : List Nat :=
  (p.wsRefList.entries.filter fun e => e.2.sessionRef = session).map Prod.fst

def nodeWakeSourcesOf (session : Nat) : List Nat :=
  (p.nodeWsRefList.entries.filter fun e => e.2.sessionRef = session).map Prod.fst

/-- The wake sources of the session go, the last one first. -/
def disconnect (session : Nat) (env : Nat → PmsEnv) (nodeOk : Nat → Bool) : Power :=
  let q := (p.wakeSourcesOf session).foldr (dropWakeSource env) p
  (q.nodeWakeSourcesOf session).foldr (dropNodeWakeSource nodeOk) q

/-- The state after a window: only the two stable ones are taken. -/
def revertTarget : MachineState :=
  let stable := if p.wsCount = 0 then .releasingWakeSource else .resume
  match p.stateMachine.prevState with
  | .resume => .resume
  | _ => stable

def reconcile (env : PmsEnv) : Power :=
  if p.wsCount ≠ 0 ∧ p.powerMode.isWsAcquired = false then
    if env.stayAwake then p.pmsStayAwake else p
  else if p.wsCount = 0 ∧ p.powerMode.isWsAcquired then
    if env.relax then p.pmsRelax else p
  else p

def revertPendingWindow (env : PmsEnv) : Power :=
  reconcile { p with stateMachine := ⟨p.revertTarget, p.stateMachine.currentState⟩ } env

def setPowerMode (change : PowerMode → PowerMode) : Power :=
  { p with powerMode := change p.powerMode }

/-- The power management service accepts a power state. -/
def setAllVMPowerState (accepted : Bool) : Power := { p with pmsPending := p.pmsPending || accepted }

end Power

end TelAF.MngdPm
