import TelAF.UdsDiagIndication

/-!
# Responses of the diagnostic service

`SendUDSResp` runs in the main thread when the diagnostic service answers a request.
It compares the service identifier with the request still in the reception buffer
and packs the response of that service. Two responses wait for the security-access
thread on the way: session control after a change of session and security access
always. Each of them is split here at the wait.

A response function returns the manager and how it ended. Failing functions keep
the fields they wrote before they failed.
-/

namespace TelAF.UdsResponses

open DiagConfiguration UdsState UdsIndications UdsDiagIndication

/-- Requests to the thread that owns the timers. The label of a P2* start names the
request that it is started for; the source has no such label. -/
inductive TimerEvent where
  | s3Stop
  | s3Start
  | p2StarStop
  | p2StarStart (request : Nat)
  | authStop
  | authStart
  | authRestart
  | authDelayStart
deriving DecidableEq

inductive RespStatus where
  | ok
  | fault
  | fatal
deriving DecidableEq

section
variable (c : DiagConf) (m : UdsManager) (serviceId err : UInt8) (data : Option (List UInt8))

def dataSize : Nat := (data.getD []).length

/-- A response header followed by the data of the service, if there is any. -/
def packResponse (header : List UInt8) : UdsManager := { m with sendBuf := header ++ data.getD [] }

/-- ECU reset (0x51); a hard reset may put the stack into its final state. -/
def ecuResetResp : UdsManager × RespStatus :=
  if err ≠ positiveResponse then (m.setNRC serviceId err, .ok)
  else
    ({ m with
        isResetInProgress := m.isResetInProgress ||
          (c.commonProps.ignoreRequestForHardreset && m.subFunction == 1)
        sendBuf := [0x51, m.subFunction] }, .ok)

def readDIDResp : UdsManager × RespStatus :=
  if err ≠ positiveResponse then (m.setNRC serviceId err, .ok)
  else if dataSize data > udsMaxDataSize - 1 ∨ dataSize data < 3 then (m, .fault)
  else (packResponse m data [0x62], .ok)

def writeDIDResp : UdsManager × RespStatus :=
  if err ≠ positiveResponse then (m.setNRC serviceId err, .ok)
  else ({ m with sendBuf := [0x6E, m.recv 1, m.recv 2] }, .ok)

def iocbidResp : UdsManager × RespStatus :=
  if err ≠ positiveResponse then (m.setNRC serviceId err, .ok)
  else if dataSize data > udsMaxDataSize - 4 then (m, .fault)
  else (packResponse m data [0x6F, m.recv 1, m.recv 2, m.recv 3], .ok)

def routineCtrlResp : UdsManager × RespStatus :=
  if dataSize data > udsMaxDataSize - 4 then (m, .fault)
  else if err ≠ positiveResponse then (m.setNRC serviceId err, .ok)
  else (packResponse m data [0x71, m.subFunction, m.recv 2, m.recv 3], .ok)

/-- Request download (0x74): the largest block is announced in two bytes. -/
def reqDwnldResp : UdsManager × RespStatus :=
  if err ≠ positiveResponse then (m.setNRC serviceId err, .ok)
  else if 4 + dataSize data > udsMaxDataSize then (m, .fault)
  else ({ m with sendBuf := [serviceId + 0x40, 0x20, 0x0F, 0xFB], isXferActive := true }, .ok)

def xferDataResp : UdsManager × RespStatus :=
  if dataSize data > udsMaxDataSize - 2 then (m, .fault)
  else if err ≠ positiveResponse then
    (({ m with isXferActive := false } : UdsManager).setNRC serviceId err, .ok)
  else (packResponse m data [0x76, m.recv 1], .ok)

def reqXferExitResp : UdsManager × RespStatus :=
  if err ≠ positiveResponse then (m.setNRC serviceId err, .ok)
  else ({ m with sendBuf := [0x77], isXferActive := false }, .ok)

/-- Request file transfer (0x78), by mode of operation. -/
def reqFileXferResp : UdsManager × RespStatus :=
  let mode := m.recv 1
  let dataFormatIdentifier := m.recv (4 + (m.recv16 2).toNat)
  let active := { m with isXferActive := true }
  let header := [serviceId + 0x40, mode, 0x02, 0x0F, 0xFB,
    if mode = 0x05 then 0x00 else dataFormatIdentifier]
  if err ≠ positiveResponse then (m.setNRC serviceId err, .ok)
  else if mode = 0x02 then ({ m with sendBuf := [serviceId + 0x40, mode] }, .ok)
  else if mode = 0x01 ∨ mode = 0x03 ∨ mode = 0x06 then
    if 6 + dataSize data > udsMaxDataSize then (active, .fault)
    else if mode = 0x06 ∧ data = none then (active, .fatal)
    else (packResponse active data header, .ok)
  else if mode = 0x04 ∨ mode = 0x05 then
    if data = none then (active, .fatal)
    else if 6 + dataSize data > udsMaxDataSize then (active, .fault)
    else (packResponse active data header, .ok)
  else (m, .ok)

def readDTCInfoResp : UdsManager × RespStatus :=
  if dataSize data > udsMaxDataSize - 2 then (m, .fault)
  else if err ≠ positiveResponse then (m.setNRC serviceId err, .ok)
  else (packResponse m data [0x59, m.subFunction], .ok)

def clearDiagInfoResp : UdsManager × RespStatus :=
  if err ≠ positiveResponse then (m.setNRC serviceId err, .ok)
  else ({ m with sendBuf := [0x54] }, .ok)

def ctrlDTCSettingResp : UdsManager × RespStatus :=
  if err ≠ positiveResponse then (m.setNRC serviceId err, .ok)
  else ({ m with sendBuf := [0xC5, m.subFunction] }, .ok)

def roeResp : UdsManager × RespStatus :=
  let subFunc := m.recv 1 &&& 0x3F
  if err ≠ positiveResponse then (m.setNRC serviceId err, .ok)
  else if dataSize data > udsMaxDataSize - 2 ∨
      dataSize data < (if subFunc = 0x04 then 1 else 2) then (m, .fault)
  else if data = none then (m, .fault)
  else (packResponse m data [0xC6, subFunc], .ok)

/-- A failed verification counts an attempt; the tenth one starts the delay timer. -/
def countAuthFailure (authDelayRunning : Bool) : UdsManager × List TimerEvent :=
  let counted := { m with
    authAttCnt := m.authAttCnt + 1
    authState := .deauthenticated }
  if counted.authAttCnt ≥ 10 then
    let limited := { counted with authAttCnt := 10 }
    if authDelayRunning then (limited, [])
    else (limited.setNRC serviceId exceededNumberOfAttempts, [.authDelayStart])
  else (counted, [])

def authenticationResp (authDelayRunning : Bool) :
    UdsManager × RespStatus × List TimerEvent :=
  let authSubFunc := m.subFunction
  let cleared := { m with authPreSucReq := authSubfuncUnknown }
  if err ≠ positiveResponse then
    let refused := cleared.setNRC serviceId err
    if authSubFunc = authSubfuncVerifyCertUnidir ∨ authSubFunc = authSubfuncPown then
      let (counted, timers) := countAuthFailure refused serviceId authDelayRunning
      (counted, .ok, timers)
    else (refused, .ok, [])
  else if dataSize data > udsMaxDataSize - 2 ∨ dataSize data < 1 then (m, .fault, [])
  else
    let packed := packResponse cleared data [0x69, authSubFunc]
    if authSubFunc = authSubfuncDeauthenticate then
      ({ packed with authState := .deauthenticated }, .ok, [.authStop])
    else if authSubFunc = authSubfuncVerifyCertUnidir then
      ({ packed with authPreSucReq := authSubfuncVerifyCertUnidir }, .ok, [])
    else if authSubFunc = authSubfuncPown then
      ({ packed with authState := .authenticated, authAttCnt := 0, authDelayTime := 60 },
        .ok, [.authStart])
    else (packed, .ok, [])

/-- The session of a request to change the session. -/
def requestedSession : UInt8 := m.recv 1 &&& 0x7F

def sessionMapped (sessionId : UInt8) : Bool :=
  c.getDiagnosticSessionMap.any fun pair => pair.2 == sessionId

/-- Session control up to the wait: the new session is stored before the
security-access thread is told. The last component says whether it is told. -/
def sessionCtrlRespBegin : UdsManager × List TimerEvent × Bool :=
  let newSession := requestedSession m
  let changed := { m with sessionType := newSession }
  if m.sessionType ≠ newSession then
    (changed, [if newSession = defaultSession then .s3Stop else .s3Start],
      sessionMapped c newSession)
  else (changed, [], newSession ≠ defaultSession)

/-- The timing parameters in the session response; the resolution of P2* is 10 ms. -/
def sessionTimings (newSession : UInt8) : Nat × Nat :=
  match c.getDiagnosticSession newSession with
  | none => (50, 5000)
  | some sess =>
    (if sess.p2ServerMax > 65535 then 50 else sess.p2ServerMax,
      if sess.p2StarServerMax > 655350 then 5000 else sess.p2StarServerMax)

def sessionCtrlRespEnd : UdsManager :=
  let (p2, p2Star) := sessionTimings c (requestedSession m)
  { m with sendBuf := [0x50, requestedSession m, UInt8.ofNat (p2 / 256), UInt8.ofNat p2,
      UInt8.ofNat (p2Star / 10 / 256), UInt8.ofNat (p2Star / 10)] }

/-- The signal of a security-access answer is chosen by the request in the buffer. -/
def securityAccessRespSignal : SecAccSignal :=
  if m.subFunction % 2 ≠ 0 then .requestSeedResponse else .sendKeyResponse

/-- Security access (0x67) after the wait; the state machine may have replaced the code. -/
def securityAccessRespEnd : UdsManager :=
  if m.nrcCode ≠ positiveResponse then m.setNRC serviceId m.nrcCode
  else packResponse m data [0x67, m.subFunction]

/-- The services that are answered without waiting. -/
def immediateResp (authDelayRunning : Bool) : UdsManager × RespStatus × List TimerEvent :=
  let plain (r : UdsManager × RespStatus) := (r.1, r.2, ([] : List TimerEvent))
  if serviceId = ecuResetRequestId then plain (ecuResetResp c m serviceId err)
  else if serviceId = readDidRequestId then plain (readDIDResp m serviceId err data)
  else if serviceId = writeDidRequestId then plain (writeDIDResp m serviceId err)
  else if serviceId = authenticationRequestId then
    authenticationResp m serviceId err data authDelayRunning
  else if serviceId = inputOutputControlRequestId then plain (iocbidResp m serviceId err data)
  else if serviceId = routineControlRequestId then plain (routineCtrlResp m serviceId err data)
  else if serviceId = requestDownloadRequestId then plain (reqDwnldResp m serviceId err data)
  else if serviceId = transferDataRequestId then plain (xferDataResp m serviceId err data)
  else if serviceId = requestTransferExitRequestId then plain (reqXferExitResp m serviceId err)
  else if serviceId = requestFileTransferRequestId then
    plain (reqFileXferResp m serviceId err data)
  else if serviceId = clearDiagInfoRequestId then plain (clearDiagInfoResp m serviceId err)
  else if serviceId = readDtcInfoRequestId then plain (readDTCInfoResp m serviceId err data)
  else if serviceId = controlDtcSettingRequestId then
    plain (ctrlDTCSettingResp m serviceId err)
  else if serviceId = responseOnEventRequestId then plain (roeResp m serviceId err data)
  else (m.setNRC serviceId serviceNotSupported, .ok, [])

/-- The checks of `SendUDSResp` before a response is packed. -/
def acceptsResponse : Bool :=
  m.recvDataLen != 0 && serviceId == m.recv 0 && decide (dataSize data ≤ udsMaxDataSize)

end

structure ResponseFrame (m m' : UdsManager) : Prop where
  recvBuf : m'.recvBuf = m.recvBuf
  recvDataLen : m'.recvDataLen = m.recvDataLen
  readyToRecvData : m'.readyToRecvData = m.readyToRecvData
  sessionType : m'.sessionType = m.sessionType
  recvSid : m'.recvSid = m.recvSid
  recvSubFunc : m'.recvSubFunc = m.recvSubFunc
  nrcCode : m'.nrcCode = m.nrcCode
  isPaused : m'.isPaused = m.isPaused

variable {c : DiagConf} {m : UdsManager} {serviceId err : UInt8} {data : Option (List UInt8)}

/-- One case of a response function or of the switch over them. -/
theorem responseFrame_case {p : Prop} [Decidable p] {β : Type} {a b : UdsManager × β}
    (ha : ResponseFrame m a.1) (hb : ResponseFrame m b.1) :
    ResponseFrame m (if p then a else b).1 := by
  split_ifs
  · exact ha
  · exact hb

theorem reqFileXferResp_frame : ResponseFrame m (reqFileXferResp m serviceId err data).1 := by
  repeat' (first
    | exact ⟨rfl, rfl, rfl, rfl, rfl, rfl, rfl, rfl⟩
    | apply responseFrame_case)

theorem countAuthFailure_frame (m : UdsManager) (serviceId : UInt8) (authDelayRunning : Bool) :
    ResponseFrame m (countAuthFailure m serviceId authDelayRunning).1 := by
  repeat' (first
    | exact ⟨rfl, rfl, rfl, rfl, rfl, rfl, rfl, rfl⟩
    | apply responseFrame_case)

theorem authResp_frame (authDelayRunning : Bool) :
    ResponseFrame m (authenticationResp m serviceId err data authDelayRunning).1 := by
  have hcnt := countAuthFailure_frame
    (({ m with authPreSucReq := authSubfuncUnknown } : UdsManager).setNRC serviceId err) serviceId
    authDelayRunning
  repeat' (first
    | exact ⟨rfl, rfl, rfl, rfl, rfl, rfl, rfl, rfl⟩
    | exact ⟨hcnt.1, hcnt.2, hcnt.3, hcnt.4, hcnt.5, hcnt.6, hcnt.7, hcnt.8⟩
    | apply responseFrame_case)

theorem immediateResp_frame (c : DiagConf) (m : UdsManager) (serviceId err : UInt8)
    (data : Option (List UInt8)) (authDelayRunning : Bool) :
    ResponseFrame m (immediateResp c m serviceId err data authDelayRunning).1 := by
  unfold immediateResp
  repeat' (first
    | exact ⟨rfl, rfl, rfl, rfl, rfl, rfl, rfl, rfl⟩
    | exact reqFileXferResp_frame
    | exact authResp_frame authDelayRunning
    | apply responseFrame_case)

end TelAF.UdsResponses
