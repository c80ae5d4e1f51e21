import TelAF.UdsResponses
import TelAF.SecAccThread

/-!
# The UDS manager, its timers and the security-access thread together

Three threads share one `UdsManager`. The main thread handles requests, responses and
disconnects, and waits for the security-access thread where the source does; `MainTask`
is the handler in which it waits. The timer thread takes timer events from a queue of
its own and runs the handlers of the timers, of which `S3TimeoutHandler` is split
between its report and its write of the session. What the timer thread hands back for
P2* is queued to the main thread. The security-access thread dispatches one signal a
step and reads the manager when it does.

Requests carry numbers in order of reception, which the source does not have. `current`
is the number of the request in the reception buffer and `pending` of the one that was
forwarded and not yet answered. The log observes a run and no step reads it.
-/

namespace TelAF.UdsSystem

open DiagConfiguration UdsState UdsIndications UdsDiagIndication UdsResponses SecurityAccess
  SecAccThread

/-- What the diagnostic service passes to `SendUDSResp`. -/
structure Response where
  serviceId : UInt8
  err : UInt8
  data : Option (List UInt8)
  /-- The DoIP stack accepts the packed message. -/
  sendable : Bool
deriving DecidableEq

/-- The handler in which the main thread waits for the security-access thread. -/
inductive MainTask where
  | idle
  | indicating
  | answering (origin : Nat) (resp : Response)
  | disconnecting
deriving DecidableEq

structure P2StarTimer where
  request : Nat
  expiries : Nat

structure P2StarNrc where
  request : Nat
  sid : UInt8
  errorCode : UInt8

structure Timers where
  events : List TimerEvent
  p2Star : Option P2StarTimer
  s3 : Bool
  auth : Bool
  authDelay : Bool
  /-- `S3TimeoutHandler` has reported the timeout but has not stored the session yet. -/
  s3Reported : Bool

inductive Event where
  | received (request : Nat) (data : List UInt8)
  /-- The service answers `request`, which asked for `data`. -/
  | answered (request : Nat) (data : List UInt8) (err : UInt8) (pending : Bool)
  /-- A message made for `origin` goes out while `target` stands in the buffer. -/
  | sent (origin target : Nat) (final : Bool)
  /-- The pending state or the length of `target` is reset on behalf of `origin`. -/
  | closed (origin target : Nat)
  | sessionReset
  | disconnected
  | aborted (reason : AbortReason)
deriving DecidableEq

structure System where
  mgr : UdsManager
  secAcc : Worker
  main : MainTask
  timers : Timers
  p2StarNrcs : List P2StarNrc
  /-- The application asked to cancel a file transfer while a request was handled. -/
  cancelRequested : Bool
  /-- Events with which the main thread is told to look for such a request. -/
  cancelEvents : Nat
  received : Nat
  current : Nat
  requests : Nat → List UInt8
  pending : Option Nat
  log : List Event

def initialTimers : Timers where
  events := []
  p2Star := none
  s3 := false
  auth := false
  authDelay := false
  s3Reported := false

/-- What the application sets through `SetUDSData`. -/
inductive UdsData where
  | role (value : UInt64)
  | fileXferState
  | pause
  | resume
deriving DecidableEq

inductive Action where
  | request (addr : AddrInfo) (msg : DiagMsg)
  | disconnect (addr : AddrInfo)
  | respond (origin : Nat) (resp : Response)
  | setData (data : UdsData)
  | cancelFileXfer
  | secAccHandles
  | waitTimesOut
  | delayTimerExpires
  | timerEvent
  | p2StarExpires
  | p2StarSendNrc
  | s3Expires
  | s3Completes
  | authExpires
  | authDelayExpires
  | reboot
deriving DecidableEq

namespace System
variable (s : System)

def observe (events : List Event) : System := { s with log := events ++ s.log }

def schedule (events : List TimerEvent) : System :=
  { s with timers := { s.timers with events := s.timers.events ++ events } }

def setMgr (m : UdsManager) : System := { s with mgr := m }

/-- The level that the state machine reports as unlocked. -/
def unlocked : Option Nat := s.secAcc.ao.unlocked.map SecurityLevel.securityLevel

/-- `SendNRC` for a message that was made for `origin`. -/
def sendNRC (origin target : Nat) (sid errorCode : UInt8) : System :=
  { s with
    mgr := UdsDiagIndication.sendNRC s.mgr sid errorCode
    log := .sent origin target
      (errorCode != requestCorrectlyReceivedResponsePending) :: s.log }

/-- `CheckAndSendInd` for the request in the buffer. -/
def forward : System :=
  { s with
    mgr := checkAndSendInd s.mgr
    pending := some s.current
    timers := { s.timers with events := s.timers.events ++ [.p2StarStart s.current] }
    log := .sent s.current s.current false :: s.log }

/-- A handled request keeps a session other than the default one alive. -/
def keepSession (sid : UInt8) : System :=
  if sid ≠ sessionControlRequestId ∧ s.mgr.sessionType ≠ defaultSession then
    s.schedule [.s3Start]
  else s

def awake : System := { s with main := .idle }

/-- A signal goes to the security-access thread and the main thread waits for it. -/
def handOver (sig : SecAccSignal) (task : MainTask) : System :=
  { s with secAcc := report s.secAcc sig true, main := task }

/-- `CheckAndSendCancelFileXferEvent` is called where a busy interface becomes ready. -/
def cancelEventsWhenReady : Nat :=
  if s.mgr.readyToRecvData then s.cancelEvents else s.cancelEvents + 1

/-- The pending request gets its final answer. -/
def close (origin : Nat) : System :=
  { s with
    mgr := { s.mgr with readyToRecvData := true }
    cancelEvents := s.cancelEventsWhenReady
    pending := none
    log := .closed origin s.current :: s.log }

def sendResponse (origin : Nat) (resp : Response) : System :=
  if resp.sendable then
    ((s.observe [.sent origin s.current true]).close origin).schedule [.p2StarStop]
  else s

end System

section
variable (c : DiagConf) (s : System)

def arrive (msg : DiagMsg) : System :=
  { s with
    received := s.received + 1
    log := .received (s.received + 1) msg.data :: s.log }

/-- A request that was copied into the reception buffer. -/
def taken (request : Nat) (data : List UInt8) (m : UdsManager) : System :=
  { s with
    mgr := m
    current := request
    requests := Function.update s.requests request data }

def takenRequest (sid : UInt8) (passed : Bool) : Verdict → System
  | .nrc errorCode =>
    let refused := s.sendNRC s.current s.current (s.mgr.recv 0) errorCode
    if passed then refused.keepSession sid else refused
  | .silent => s.keepSession sid
  | .indicate => (s.keepSession sid).forward
  | .secAcc sig => s.handOver sig .indicating

/-- A supported request restarts the timer of an authenticated tester. -/
def authTimers (msg : DiagMsg) : List TimerEvent :=
  match msg.data with
  | sid :: _ => if restartsAuthTimer c s.mgr sid then [.authRestart] else []
  | [] => []

/-- `DiagIndicationHandler` for a request. -/
def request (addr : AddrInfo) (msg : DiagMsg) : System :=
  let number := s.received + 1
  let sid := msg.data.getD 0 0
  match receiveIndication c s.unlocked s.timers.authDelay s.mgr addr msg with
  | .dropped => arrive s msg
  | .rejected sid errorCode =>
    ((arrive s msg).schedule (if sid = testerPresentRequestId then authTimers c s msg else [])).sendNRC
      number number sid errorCode
  | .testerPresent suppressed =>
    ((arrive s msg).schedule (authTimers c s msg)).observe
      (if suppressed then [] else [.sent number number true])
  | .taken m verdict =>
    takenRequest ((taken (arrive s msg) number msg.data m).schedule (authTimers c s msg)) sid
      (generalServerResp c s.mgr s.unlocked sid).isNone verdict

/-- The connection is gone, and with it the pending request. -/
def resetConnection (addr : AddrInfo) : System :=
  { s with
    mgr := ({ s.mgr with
      addrInfo := addr
      authState := .unknown
      readyToRecvData := true
      isXferActive := false } : UdsManager).clearRequest
    cancelEvents := s.cancelEventsWhenReady
    pending := none
    timers := { s.timers with
      events := s.timers.events ++ [.s3Stop, .p2StarStop, .authStop] }
    log := .disconnected :: .sessionReset :: s.log }

/-- `DiagIndicationHandler` for a deregistered source address. -/
def disconnect (addr : AddrInfo) : System :=
  if s.mgr.sessionType ≠ defaultSession then
    (resetConnection s addr).handOver .sessionControl .disconnecting
  else resetConnection s addr

/-- A positive session response stores the session and starts or stops its timer. -/
def changeSession : System :=
  let (m, timers, told) := sessionCtrlRespBegin c s.mgr
  ((s.setMgr m).schedule timers).observe
    (if told ∨ s.mgr.sessionType ≠ m.sessionType then [.sessionReset] else [])

/-- `SessionCtrlResp` up to its wait. -/
def respondSession (origin : Nat) (resp : Response) : System :=
  if resp.err ≠ positiveResponse then
    (s.setMgr (s.mgr.setNRC resp.serviceId resp.err)).sendResponse origin resp
  else if (sessionCtrlRespBegin c s.mgr).2.2 then
    (changeSession c s).handOver .sessionControl (.answering origin resp)
  else
    ((changeSession c s).setMgr (sessionCtrlRespEnd c (changeSession c s).mgr)).sendResponse
      origin resp

/-- `SecurityAccessResp` up to its wait. -/
def respondSecAcc (origin : Nat) (resp : Response) : System :=
  if dataSize resp.data > udsDataSize - 2 then s
  else s.handOver (securityAccessRespSignal s.mgr) (.answering origin resp)

/-- The process starts again with the counters that were stored. -/
def restartProcess (tree : Tree) (events : List Event) : System where
  mgr := { initialManager with
    authAttCnt := s.mgr.authAttCnt
    authDelayTime := s.mgr.authDelayTime }
  secAcc := SecAccThread.restart (sessionTable c) s.secAcc tree
  main := .idle
  timers := { initialTimers with
    events := if s.mgr.authAttCnt ≥ 10 then [.authDelayStart] else [] }
  p2StarNrcs := []
  cancelRequested := false
  cancelEvents := 0
  received := s.received
  current := s.current
  requests := s.requests
  pending := none
  log := events ++ .disconnected :: .sessionReset :: s.log

/-- A response without a wait. A fatal error ends the process. -/
def respondImmediate (origin : Nat) (resp : Response) : System :=
  let (m, status, timers) :=
    immediateResp c s.mgr resp.serviceId resp.err resp.data s.timers.authDelay
  let packed := (s.setMgr m).schedule timers
  match status with
  | .ok => packed.sendResponse origin resp
  | .fault => packed
  | .fatal => restartProcess c s s.secAcc.tree []

/-- The code of a response is stored before anything is checked. -/
def noteCode (err : UInt8) : System := s.setMgr { s.mgr with nrcCode := err }

/-- A response that is accepted for the request in the buffer. -/
def noteAnswer (origin : Nat) (resp : Response) : System :=
  (noteCode s resp.err).observe
    [.answered origin (s.requests origin) resp.err (s.pending == some origin)]

/-- `SendUDSResp`. -/
def respond (origin : Nat) (resp : Response) : System :=
  if acceptsResponse s.mgr resp.serviceId resp.data = false then noteCode s resp.err
  else if resp.serviceId = sessionControlRequestId then
    respondSession c (noteAnswer s origin resp) origin resp
  else if resp.serviceId = securityAccessRequestId then
    respondSecAcc (noteAnswer s origin resp) origin resp
  else respondImmediate c (noteAnswer s origin resp) origin resp

def setData : UdsData → System
  | .role value => s.setMgr { s.mgr with currentRoleVal := value }
  | .fileXferState =>
    if s.cancelRequested then s
    else if s.mgr.readyToRecvData then s.setMgr { s.mgr with isXferActive := false }
    else { s with cancelRequested := true }
  | .pause => s.setMgr { s.mgr with isPaused := true }
  | .resume => s.setMgr { s.mgr with isPaused := false }

/-- The main thread looks for a request to cancel that was put off. -/
def cancelFileXfer : Option System :=
  if s.cancelEvents = 0 then none
  else
    let taken := { s with cancelEvents := s.cancelEvents - 1 }
    some (if s.cancelRequested ∧ s.mgr.readyToRecvData then
        { taken with
          cancelRequested := false
          mgr := { s.mgr with isXferActive := false } }
      else taken)

/-- What the security-access thread itself does to the manager for a reply. -/
def applyReply : Reply → System
  | .responseNRC nrc =>
    if nrc ≠ positiveResponse then s.sendNRC s.current s.current s.mgr.recvSid nrc else s
  | .allZeroSeed seedByteSize =>
    (s.setMgr (responseAllZeroSeed s.mgr seedByteSize)).observe [.sent s.current s.current true]
  | .setResponseNRC nrc => s.setMgr { s.mgr with nrcCode := nrc }
  | .posted => s
  | .ignored => s

def finishResponse (origin : Nat) (resp : Response) : System :=
  let m :=
    if resp.serviceId = sessionControlRequestId then sessionCtrlRespEnd c s.mgr
    else securityAccessRespEnd s.mgr resp.serviceId resp.data
  (s.setMgr m).sendResponse origin resp

def resume (reply : Reply) : System :=
  match s.main with
  | .idle => s
  | .indicating =>
    let kept := s.awake.keepSession securityAccessRequestId
    if reply = .responseNRC positiveResponse then kept.forward else kept
  | .answering origin resp => finishResponse c s.awake origin resp
  | .disconnecting => s.awake.setMgr { s.mgr with sessionType := defaultSession }

/-- The security-access thread processes the first signal of its queue. -/
def secAccHandles : Option System :=
  match s.secAcc.queue with
  | [] => none
  | entry :: rest =>
    match dispatch (sessionTable c) s.secAcc.ao s.secAcc.tree s.mgr entry.sig with
    | .done ao tree reply =>
      let replied := applyReply
        { s with secAcc := finishSignal (sessionTable c) s.secAcc entry rest ao tree reply } reply
      some (if entry.awaited ∧ reply ≠ .ignored then resume c replied reply else replied)
    | .aborted tree reason => some (restartProcess c s tree [.aborted reason])

/-- A response stops waiting after three seconds and is not sent. -/
def waitTimesOut : Option System :=
  match s.main with
  | .answering _ _ => some { s with main := .idle, secAcc := abandon s.secAcc }
  | _ => none

end

/-- `UdsTimerHandler`; starting a timer that runs has no effect for P2* and restarts
the others. -/
def handleTimerEvent (t : Timers) : TimerEvent → Timers
  | .s3Stop => { t with s3 := false }
  | .s3Start => { t with s3 := true }
  | .p2StarStop => { t with p2Star := none }
  | .p2StarStart request => { t with p2Star := t.p2Star.or (some ⟨request, 0⟩) }
  | .authStop => { t with auth := false }
  | .authStart => { t with auth := true }
  | .authRestart => { t with auth := true }
  | .authDelayStart => { t with authDelay := true }

variable (c : DiagConf) (s : System)

def timerEvent : Option System :=
  match s.timers.events with
  | [] => none
  | event :: rest =>
    some { s with timers := handleTimerEvent { s.timers with events := rest } event }

/-- `P2StarTimeoutHandler`; the last repetition stops the timer, and no bound on the
repetitions lets it run on. -/
def p2StarExpires : Option System :=
  s.timers.p2Star.map fun timer =>
    let maxNumberOfRcrrp := c.commonProps.maxNumberOfRcrrp
    let expiries := timer.expiries + 1
    let runs := expiries < maxNumberOfRcrrp ∨ maxNumberOfRcrrp = 0
    { s with
      timers := { s.timers with
        p2Star := if runs then some { timer with expiries := expiries } else none }
      p2StarNrcs := s.p2StarNrcs ++ [⟨timer.request, s.mgr.recv 0,
        if expiries < maxNumberOfRcrrp then requestCorrectlyReceivedResponsePending
        else generalReject⟩] }

/-- `P2StarSendNrcInMainThread`. -/
def p2StarSendNrc : Option System :=
  match s.p2StarNrcs with
  | [] => none
  | nrc :: rest =>
    let replied := ({ s with p2StarNrcs := rest } : System).sendNRC nrc.request s.current
      nrc.sid nrc.errorCode
    some (if nrc.errorCode = requestCorrectlyReceivedResponsePending then replied
      else (replied.setMgr replied.mgr.clearRequest).close nrc.request)

/-- `S3TimeoutHandler` up to its report. -/
def s3Expires : System :=
  { s with
    timers := { s.timers with s3 := false, s3Reported := true }
    secAcc := report s.secAcc .sessionTimeout false
    log := .sessionReset :: s.log }

/-- The rest of `S3TimeoutHandler`. -/
def s3Completes : System :=
  let done := { s with timers := { s.timers with s3Reported := false } }
  if s.mgr.sessionType = defaultSession then done
  else (done.setMgr { s.mgr with sessionType := defaultSession }).observe [.sessionReset]

def authExpires : System :=
  { s with
    timers := { s.timers with auth := false }
    mgr := { s.mgr with authState := .deauthenticated, currentRoleVal := 0 } }

def authDelayExpires : System :=
  { s with
    timers := { s.timers with authDelay := false }
    mgr := { s.mgr with
      authAttCnt := 0
      authDelayTime := min (2 * s.mgr.authDelayTime) 960 } }

/-- One step. The main thread starts a handler only while it waits for nothing, and the
timer thread does nothing else while it is inside `S3TimeoutHandler`. -/
def step : Action → Option System
  | .request addr msg => if s.main = .idle then some (request c s addr msg) else none
  | .disconnect addr => if s.main = .idle then some (disconnect s addr) else none
  | .respond origin resp => if s.main = .idle then some (respond c s origin resp) else none
  | .setData data => if s.main = .idle then some (setData s data) else none
  | .cancelFileXfer => if s.main = .idle then cancelFileXfer s else none
  | .secAccHandles => secAccHandles c s
  | .waitTimesOut => waitTimesOut s
  | .delayTimerExpires => s.secAcc.ao.delayTimer.map fun interval =>
      { s with secAcc := expireDelay s.secAcc interval }
  | .timerEvent => if s.timers.s3Reported then none else timerEvent s
  | .p2StarExpires => if s.timers.s3Reported then none else p2StarExpires c s
  | .p2StarSendNrc => if s.main = .idle then p2StarSendNrc s else none
  | .s3Expires => if s.timers.s3 ∧ s.timers.s3Reported = false then some (s3Expires s) else none
  | .s3Completes => if s.timers.s3Reported then some (s3Completes s) else none
  | .authExpires =>
    if s.timers.auth ∧ s.timers.s3Reported = false then some (authExpires s) else none
  | .authDelayExpires =>
    if s.timers.authDelay ∧ s.timers.s3Reported = false then some (authDelayExpires s) else none
  | .reboot => some (restartProcess c s s.secAcc.tree [])

def initialSystem : System where
  mgr := initialManager
  secAcc := initialWorker (sessionTable c)
  main := .idle
  timers := initialTimers
  p2StarNrcs := []
  cancelRequested := false
  cancelEvents := 0
  received := 0
  current := 0
  requests := fun _ => []
  pending := none
  log := []

end TelAF.UdsSystem
