import TelAF.DiagConfiguration

/-!
# The state of a UDS communication manager and its admission predicates

One `UdsCommunicationMgr` exists for each DoIP interface. `UdsManager` keeps the
fields through which its handlers communicate: the reception buffer with the
length of the last request, the packed response, the pending flag
`readyToRecvData`, the session type and the authentication record. The reception
buffer keeps stale bytes behind a shorter request, as the fixed array of the
source does. `sendBuf` is the packed message itself, that is the first
`sendDataLen` bytes of the array of the source.

The predicates take the level that the security-access state machine reports as
unlocked (`none` while locked). A configuration lookup that throws is answered as
the `catch` branch of the source answers it, which for most predicates means that
the check passes.
-/

namespace TelAF.UdsState

open DiagConfiguration

abbrev sessionControlRequestId : UInt8 := 0x10
abbrev ecuResetRequestId : UInt8 := 0x11
abbrev clearDiagInfoRequestId : UInt8 := 0x14
abbrev readDtcInfoRequestId : UInt8 := 0x19
abbrev readDidRequestId : UInt8 := 0x22
abbrev securityAccessRequestId : UInt8 := 0x27
abbrev authenticationRequestId : UInt8 := 0x29
abbrev writeDidRequestId : UInt8 := 0x2E
abbrev inputOutputControlRequestId : UInt8 := 0x2F
abbrev routineControlRequestId : UInt8 := 0x31
abbrev requestDownloadRequestId : UInt8 := 0x34
abbrev transferDataRequestId : UInt8 := 0x36
abbrev requestTransferExitRequestId : UInt8 := 0x37
abbrev requestFileTransferRequestId : UInt8 := 0x38
abbrev testerPresentRequestId : UInt8 := 0x3E
abbrev controlDtcSettingRequestId : UInt8 := 0x85
abbrev responseOnEventRequestId : UInt8 := 0x86

abbrev positiveResponse : UInt8 := 0x00
abbrev generalReject : UInt8 := 0x10
abbrev serviceNotSupported : UInt8 := 0x11
abbrev subfunctionNotSupported : UInt8 := 0x12
abbrev incorrectMsgLenOrInvalidFormat : UInt8 := 0x13
abbrev busyRepeatReq : UInt8 := 0x21
abbrev conditionsNotCorrect : UInt8 := 0x22
abbrev reqSequenceError : UInt8 := 0x24
abbrev reqOutOfRange : UInt8 := 0x31
abbrev securityAccessDeny : UInt8 := 0x33
abbrev authenticationRequired : UInt8 := 0x34
abbrev invalidKey : UInt8 := 0x35
abbrev exceededNumberOfAttempts : UInt8 := 0x36
abbrev requiredTimeDelayNotExpired : UInt8 := 0x37
abbrev requestCorrectlyReceivedResponsePending : UInt8 := 0x78
abbrev subfunctionNotSupportedInActiveSession : UInt8 := 0x7E
abbrev serviceNotSupportedInActiveSession : UInt8 := 0x7F

abbrev defaultSession : UInt8 := 0x01

abbrev authSubfuncDeauthenticate : UInt8 := 0x00
abbrev authSubfuncVerifyCertUnidir : UInt8 := 0x01
abbrev authSubfuncVerifyCertBidir : UInt8 := 0x02
abbrev authSubfuncPown : UInt8 := 0x03
abbrev authSubfuncTransmitCert : UInt8 := 0x04
abbrev authSubfuncReqChlngForAuth : UInt8 := 0x05
abbrev authSubfuncVerifyPownUnidir : UInt8 := 0x06
abbrev authSubfuncVerifyPownBidir : UInt8 := 0x07
abbrev authSubfuncAuthConf : UInt8 := 0x08
abbrev authSubfuncUnknown : UInt8 := 0xFF

abbrev udsDataSize : Nat := 4095
abbrev udsCertMaxLen : Nat := 8192
abbrev udsMaxDataSize : Nat := 16400

inductive TaType where
  | physical
  | functional
deriving DecidableEq

structure AddrInfo where
  sa : UInt16
  ta : UInt16
  taType : TaType
deriving DecidableEq

inductive AuthState where
  | deauthenticated
  | authenticated
  | unknown
deriving DecidableEq

structure UdsManager where
  recvBuf : List UInt8
  recvDataLen : Nat
  sendBuf : List UInt8
  recvSid : UInt8
  recvSubFunc : UInt8
  nrcCode : UInt8
  readyToRecvData : Bool
  isPaused : Bool
  isResetInProgress : Bool
  isXferActive : Bool
  sessionType : UInt8
  currentRoleVal : UInt64
  authState : AuthState
  authPreSucReq : UInt8
  authAttCnt : UInt8
  authDelayTime : Nat
  addrInfo : AddrInfo

namespace UdsManager
variable (m : UdsManager)

def recv (i : Nat) : UInt8 := m.recvBuf.getD i 0

/-- Two neighbouring bytes of the reception buffer in network order. -/
def recv16 (i : Nat) : UInt16 := UInt16.ofNat ((m.recv i).toNat * 256 + (m.recv (i + 1)).toNat)

/-- The sub-function byte without `suppressPosRspMsgIndicationBit`. -/
def subFunction : UInt8 := m.recv 1 &&& 0x7F

def setNRC (sid errorCode : UInt8) : UdsManager := { m with sendBuf := [0x7F, sid, errorCode] }

/-- The fields written when a request is copied into the reception buffer. -/
def takeRequest (addr : AddrInfo) (data : List UInt8) : UdsManager :=
  let copied := data.take udsMaxDataSize
  { m with
    addrInfo := addr
    recvBuf := copied ++ m.recvBuf.drop copied.length
    recvDataLen := data.length
    sendBuf := [] }

/-- The reception buffer is cleared after a disconnect and a final timeout. -/
def clearRequest : UdsManager := { m with recvBuf := [], recvDataLen := 0, sendBuf := [] }

end UdsManager

section
variable (c : DiagConf) (m : UdsManager) (unlocked : Option Nat)

def securityAccessIsUnlocked : Bool := unlocked.isSome

/-- The reported level is compared after truncation to eight bits. -/
def securityAccessIsLevelUnlocked (level : UInt8) : Bool :=
  match unlocked with
  | some securityLevel => level == UInt8.ofNat securityLevel
  | none => false

/-- One of the named levels is unlocked; `none` when a name reached before it is
not configured. -/
def anyLevelUnlocked : List String → Option Bool
  | [] => some false
  | levelName :: rest => do
    let levelId ← c.getSecurityLevelId levelName
    if securityAccessIsLevelUnlocked unlocked levelId then some true
    else anyLevelUnlocked rest

/-- The names that the session map resolves include the active session. -/
def activeSessionListed (sessNames : List String) : Bool :=
  (sessNames.filterMap fun name => c.getDiagnosticSessionMap.lookup name).contains m.sessionType

def isServiceIDSupported (sid : UInt8) : Bool :=
  match c.getServiceEntry sid with
  | some svc => svc.supported
  | none => false

def isAuthCheckOK (sid : UInt8) : Bool :=
  if sid = authenticationRequestId then true
  else
    match c.getServiceEntry sid with
    | some svc => if svc.authentication then m.authState == .authenticated else true
    | none => true

/-- Services that are never allowed in the default session. -/
def notInDefaultSession (sid : UInt8) : Bool :=
  sid == securityAccessRequestId || sid == inputOutputControlRequestId ||
    sid == transferDataRequestId || sid == requestTransferExitRequestId ||
    sid == requestFileTransferRequestId

def isValidSvcActiveSession (sid : UInt8) : Bool :=
  if m.sessionType = defaultSession ∧ notInDefaultSession sid then false
  else
    match c.getServiceAccess sid with
    | none => true
    | some access => if access.session.isEmpty then true else activeSessionListed c m access.session

/-- The part shared by the service and the sub-function security check. -/
def securityAccessMatched (access : Option Access) : Bool :=
  match access with
  | none => true
  | some access =>
    if access.securityType = securityAccessRequestId then
      if securityAccessIsUnlocked unlocked = false then false
      else if access.securityLevel.isEmpty then true
      else (anyLevelUnlocked c unlocked access.securityLevel).getD true
    else true

def isSvcSecAccessMatched (sid : UInt8) : Bool :=
  if sid = securityAccessRequestId then true
  else if m.sessionType = defaultSession then true
  else securityAccessMatched c unlocked (c.getServiceAccess sid)

def isSubFuncSupported (sid subFunc : UInt8) : Bool :=
  match c.getSubfunction sid subFunc with
  | some sub => sub.supported
  | none => false

def isSubFuncAuthCheckOK (sid subFunc : UInt8) : Bool :=
  match c.getSubfunction sid subFunc with
  | some sub => if sub.authentication then m.authState == .authenticated else true
  | none => true

def isSubFuncSessTypeValid (sid subFunc : UInt8) : Bool :=
  match c.getSubfunctionSessionList sid subFunc with
  | none => true
  | some sessNames => if sessNames.isEmpty then true else activeSessionListed c m sessNames

def isSubFuncSecAccessMatched (sid subFunc : UInt8) : Bool :=
  if m.sessionType = defaultSession then true
  else securityAccessMatched c unlocked (c.getSubfunctionAccess sid subFunc)

/-- The negative response code of the general server response behaviour, if any. -/
def generalServerResp (sid : UInt8) : Option UInt8 :=
  if isServiceIDSupported c sid = false then some serviceNotSupported
  else if isAuthCheckOK c m sid = false then some authenticationRequired
  else if isValidSvcActiveSession c m sid = false then some serviceNotSupportedInActiveSession
  else if isSvcSecAccessMatched c m unlocked sid = false then some securityAccessDeny
  else none

/-- A supported request restarts the authentication timer of an authenticated tester. -/
def restartsAuthTimer (sid : UInt8) : Bool :=
  isServiceIDSupported c sid && m.authState == .authenticated

def isAuthRoleMatchedImpl (roleNames : List String) : Bool :=
  if roleNames.isEmpty then true
  else
    (roleNames.any fun roleName =>
      match c.authRoles.lookup roleName with
      | some roleValue => (roleValue &&& m.currentRoleVal) != 0
      | none => false) && m.authState == .authenticated

/-- The pattern of a target session, or the empty name where it is not configured. -/
def getPattern (sessionId : UInt8) : String :=
  match c.getDiagnosticSession sessionId with
  | some sess => sess.executionAuthorizationPattern
  | none => ""

end

theorem isServiceIDSupported_iff (c : DiagConf) (sid : UInt8) :
    isServiceIDSupported c sid = true ↔
      ∃ svc, c.getServiceEntry sid = some svc ∧ svc.supported = true := by
  unfold isServiceIDSupported
  cases c.getServiceEntry sid <;> simp

theorem isSubFuncSupported_iff (c : DiagConf) (sid subFunc : UInt8) :
    isSubFuncSupported c sid subFunc = true ↔
      ∃ sub, c.getSubfunction sid subFunc = some sub ∧ sub.supported = true := by
  unfold isSubFuncSupported
  cases c.getSubfunction sid subFunc <;> simp

/-- The general behaviour lets a request pass exactly when its four checks hold. -/
theorem generalServerResp_eq_none (c : DiagConf) (m : UdsManager) (unlocked : Option Nat)
    (sid : UInt8) :
    generalServerResp c m unlocked sid = none ↔
      isServiceIDSupported c sid = true ∧ isAuthCheckOK c m sid = true ∧
        isValidSvcActiveSession c m sid = true ∧
        isSvcSecAccessMatched c m unlocked sid = true := by
  unfold generalServerResp
  split_ifs with h₁ h₂ h₃ h₄ <;> simp_all

end TelAF.UdsState
