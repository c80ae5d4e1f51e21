import TelAF.UdsState

/-!
# The request handlers of the UDS services

Each `indicate…` function repeats the checks of one `Indicate…Req` function on the
request in the reception buffer, in the order of the source, and says how the
handler ends: a negative response, no response, an indication to the diagnostic
service, or a hand-off to the security-access state machine. Handlers that write
other fields of the manager also return the manager.

Requests reach these functions through the DoIP stack, whose messages carry less
than 65536 bytes, so that the 16-bit `recvDataLen` of the source never wraps.
-/

namespace TelAF.UdsIndications

open DiagConfiguration UdsState UInt8

inductive SecAccSignal where
  | requestSeed
  | sendKey
  | requestSeedResponse
  | sendKeyResponse
  | delayTimerExpired
  | sessionControl
  | sessionTimeout
deriving DecidableEq

/-- How the security-access thread answers a request that the main thread waits on. -/
inductive SecAccAnswer where
  | toApplication
  | nrc (errorCode : UInt8)
  | allZeroSeed (seedByteSize : Nat)

inductive Verdict where
  | nrc (errorCode : UInt8)
  | silent
  | indicate
  | secAcc (sig : SecAccSignal)
deriving DecidableEq

section
variable (c : DiagConf) (unlocked : Option Nat) (m : UdsManager)

/-- Authentication, session and security check of a sub-function, in this order. -/
def subFuncChecks (sid subFunc : UInt8) (next : Verdict) : Verdict :=
  if isSubFuncAuthCheckOK c m sid subFunc = false then .nrc authenticationRequired
  else if isSubFuncSessTypeValid c m sid subFunc = false then
    .nrc subfunctionNotSupportedInActiveSession
  else if isSubFuncSecAccessMatched c m unlocked sid subFunc = false then
    .nrc securityAccessDeny
  else next

/-- The white list and the level list of a target session, decoded from the byte
sequence that the generator emits for its pattern. -/
def encodePattern (node : PatternNode) : List UInt8 :=
  UInt8.ofNat node.sessions.length :: node.sessions ++
    UInt8.ofNat node.levels.length :: node.levels

def patternSessions (bytes : List UInt8) : List UInt8 := (bytes.drop 1).take (bytes.getD 0 0).toNat

def patternLevels (bytes : List UInt8) : List UInt8 :=
  let totalOfSessions := (bytes.getD 0 0).toNat
  (bytes.drop (totalOfSessions + 2)).take (bytes.getD (totalOfSessions + 1) 0).toNat

def patternBytes (sessionId : UInt8) : Option (List UInt8) :=
  (c.finalPattern.lookup (getPattern c sessionId)).map encodePattern

def getPatternSessionsBySessionId (sessionId : UInt8) : List UInt8 :=
  match patternBytes c sessionId with
  | some bytes => patternSessions bytes
  | none => []

def getPatternLevelsBySessionId (sessionId : UInt8) : List UInt8 :=
  match patternBytes c sessionId with
  | some bytes => patternLevels bytes
  | none => []

def precheckForSwitchingSession (originalSession targetedSession : UInt8) : Bool :=
  if (getPatternSessionsBySessionId c targetedSession).isEmpty then true
  else if (getPatternSessionsBySessionId c targetedSession).contains originalSession = false then
    false
  else if (getPatternLevelsBySessionId c targetedSession).isEmpty then true
  else (getPatternLevelsBySessionId c targetedSession).any fun lvl =>
    securityAccessIsLevelUnlocked unlocked lvl

/-- Session control (0x10). The execution pattern is looked up with the whole
sub-function byte, every other check uses its low seven bits. -/
def indicateSessionCtrlReq : Verdict :=
  let sid := m.recv 0
  if m.recvDataLen < 2 then .nrc incorrectMsgLenOrInvalidFormat
  else if isSubFuncSupported c sid m.subFunction = false then .nrc subfunctionNotSupported
  else if m.recvDataLen ≠ 2 then .nrc incorrectMsgLenOrInvalidFormat
  else subFuncChecks c unlocked m sid m.subFunction <|
    if precheckForSwitchingSession c unlocked m.sessionType (m.recv 1) = false then
      .nrc conditionsNotCorrect
    else .indicate

def indicateECUResetReq : Verdict :=
  let sid := m.recv 0
  if m.recvDataLen < 2 then .nrc incorrectMsgLenOrInvalidFormat
  else if isSubFuncSupported c sid m.subFunction = false then .nrc subfunctionNotSupported
  else if m.recvDataLen ≠ 2 then .nrc incorrectMsgLenOrInvalidFormat
  else subFuncChecks c unlocked m sid m.subFunction .indicate

def indicateClearDiagInfoReq : Verdict :=
  if m.recvDataLen > 5 then .nrc incorrectMsgLenOrInvalidFormat
  else if m.recvDataLen < 4 then .nrc incorrectMsgLenOrInvalidFormat
  else if m.recvDataLen = 5 then .nrc incorrectMsgLenOrInvalidFormat
  else .indicate

/-- The exact request length that a ReadDTCInformation sub-function demands. -/
def readDtcInfoReqLen (subFunc : UInt8) : Option Nat :=
  if subFunc = 0x01 ∨ subFunc = 0x02 then some 3
  else if subFunc = 0x03 then some 2
  else if subFunc = 0x04 then some 6
  else if subFunc = 0x05 then some 3
  else if subFunc = 0x06 then some 6
  else if subFunc = 0x07 ∨ subFunc = 0x08 then some 4
  else if subFunc = 0x09 then some 5
  else if subFunc = 0x0A ∨ subFunc = 0x0B ∨ subFunc = 0x0C ∨
    subFunc = 0x0D ∨ subFunc = 0x0E ∨
    subFunc = 0x14 ∨ subFunc = 0x15 then some 2
  else if subFunc = 0x16 then some 3
  else if subFunc = 0x17 then some 4
  else if subFunc = 0x18 then some 7
  else if subFunc = 0x19 then some 7
  else if subFunc = 0x1A then some 3
  else if subFunc = 0x42 then some 5
  else if subFunc = 0x55 then some 3
  else if subFunc = 0x56 then some 4
  else none

def isReadDtcInfoReqLenCorrect (subFunc : UInt8) (recvDataLen : Nat) : Bool :=
  match readDtcInfoReqLen subFunc with
  | some len => recvDataLen == len
  | none => true

def indicateReadDTCInfoReq : Verdict :=
  let sid := m.recv 0
  if m.recvDataLen > udsDataSize then .nrc incorrectMsgLenOrInvalidFormat
  else if m.recvDataLen < 2 then .nrc incorrectMsgLenOrInvalidFormat
  else if isSubFuncSupported c sid m.subFunction = false then .nrc subfunctionNotSupported
  else if isReadDtcInfoReqLenCorrect m.subFunction m.recvDataLen = false then
    .nrc incorrectMsgLenOrInvalidFormat
  else subFuncChecks c unlocked m sid m.subFunction .indicate

/-- Security required by a data identifier rule outside the default session; `none`
when a level name is not configured. -/
def ruleUnlocked (rule : SecurityLevelRule) : Option Bool :=
  if m.sessionType = defaultSession then some true
  else if rule.security then anyLevelUnlocked c unlocked rule.securityLevel
  else some true

/-- The rules for the active session of a data identifier. -/
def didSessionRules (entry : DidEntry) : Option DiagnosticSession := do
  let curSes ← c.getDiagnosticSession m.sessionType
  entry.diagnosticSession.lookup curSes.shortName

inductive DidVerdict where
  | skip
  | accept
  | refuse (errorCode : UInt8)

/-- What the loop of ReadDataByIdentifier does with one configured identifier. -/
def checkReadDid (dataId : UInt16) : DidVerdict :=
  match c.getDidEntry dataId with
  | none => .skip
  | some entry =>
    if entry.readDid = false then .skip
    else
      match didSessionRules c m entry with
      | none => .skip
      | some rules =>
        match rules.R with
        | [] => .skip
        | (_, rule) :: _ =>
          if isAuthRoleMatchedImpl c m entry.readRole = false then .refuse authenticationRequired
          else
            match ruleUnlocked c unlocked m rule with
            | none => .skip
            | some false => .refuse securityAccessDeny
            | some true => .accept

structure ReadDidLoop where
  updatedRecvBuf : List UInt8
  funcAddrDidNum : Nat

/-- The loop over the identifiers at positions `i`, `i + 1`, … of the request. -/
def readDidLoop (addr : AddrInfo) : List Nat → ReadDidLoop → Except UInt8 ReadDidLoop
  | [], acc => .ok acc
  | i :: rest, acc =>
    let dataId := m.recv16 (i * 2 + 1)
    if addr.taType = .functional ∧ c.isDidFunctionalAddressed dataId = false then
      readDidLoop addr rest acc
    else
      let counted :=
        if addr.taType = .functional then { acc with funcAddrDidNum := acc.funcAddrDidNum + 1 }
        else acc
      match checkReadDid c unlocked m dataId with
      | .skip => readDidLoop addr rest counted
      | .refuse errorCode => .error errorCode
      | .accept =>
        readDidLoop addr rest
          { counted with
            updatedRecvBuf := counted.updatedRecvBuf ++ [m.recv (i * 2 + 1), m.recv (i * 2 + 2)] }

/-- Read data by identifier (0x22). The identifiers that pass are written back to
the front of the reception buffer. -/
def indicateReadDIDReq (addr : AddrInfo) : UdsManager × Verdict :=
  let sid := m.recv 0
  if m.recvDataLen < 3 then (m, .nrc incorrectMsgLenOrInvalidFormat)
  else if (m.recvDataLen - 1) % 2 ≠ 0 then (m, .nrc incorrectMsgLenOrInvalidFormat)
  else if m.recvDataLen > udsDataSize then (m, .nrc incorrectMsgLenOrInvalidFormat)
  else if (m.recvDataLen - 1) / 2 > 10 then (m, .nrc incorrectMsgLenOrInvalidFormat)
  else
    match readDidLoop c unlocked m addr (List.range ((m.recvDataLen - 1) / 2)) ⟨[sid], 0⟩ with
    | .error errorCode => (m, .nrc errorCode)
    | .ok acc =>
      if addr.taType = .physical ∧ acc.updatedRecvBuf.length = 1 then (m, .nrc reqOutOfRange)
      else if addr.taType = .functional ∧ acc.funcAddrDidNum = 0 then (m, .silent)
      else if addr.taType = .functional ∧ acc.updatedRecvBuf.length = 1 then
        (m, .nrc reqOutOfRange)
      else
        ({ m with
            recvBuf := acc.updatedRecvBuf ++ m.recvBuf.drop acc.updatedRecvBuf.length
            recvDataLen := acc.updatedRecvBuf.length }, .indicate)

def indicateWriteDIDReq : Verdict :=
  if m.recvDataLen < 4 then .nrc incorrectMsgLenOrInvalidFormat
  else
    let dataId := m.recv16 1
    match c.getDidEntry dataId with
    | none => .nrc reqOutOfRange
    | some entry =>
      if entry.writeDid = false then .nrc reqOutOfRange
      else
        match didSessionRules c m entry with
        | none => .nrc reqOutOfRange
        | some rules =>
          match rules.W with
          | [] => .nrc reqOutOfRange
          | (_, rule) :: _ =>
            if m.recvDataLen > udsDataSize then .nrc incorrectMsgLenOrInvalidFormat
            else if entry.didSize ≠ m.recvDataLen - 3 then .nrc incorrectMsgLenOrInvalidFormat
            else if isAuthRoleMatchedImpl c m entry.writeRole = false then
              .nrc authenticationRequired
            else
              match ruleUnlocked c unlocked m rule with
              | none => .nrc reqOutOfRange
              | some false => .nrc securityAccessDeny
              | some true =>
                if c.isForbidden dataId ((m.recvBuf.drop 3).take (m.recvDataLen - 3)) = some true
                then .nrc reqOutOfRange
                else .indicate

/-- Length and record check of an input-output control request. -/
def ioControlStateVerdict (entry : IOEntry) (dataId : UInt16) : Option UInt8 :=
  let ctrlEnableMaskRecordSize := DiagConf.getIoctrlEnMaskRecordSize dataId
  if m.recv 3 = 3 then
    let controlStateSize := entry.didSize % 2 ^ 16
    if m.recvDataLen ≠ controlStateSize + ctrlEnableMaskRecordSize + 4 then
      some incorrectMsgLenOrInvalidFormat
    else if m.recvDataLen < controlStateSize + 4 then some incorrectMsgLenOrInvalidFormat
    else if c.isForbidden dataId ((m.recvBuf.drop 4).take controlStateSize) = some true then
      some reqOutOfRange
    else none
  else if m.recvDataLen ≠ ctrlEnableMaskRecordSize + 4 then some incorrectMsgLenOrInvalidFormat
  else none

/-- Input-output control by identifier (0x2F). A security rule that cannot be
resolved lets the request pass. -/
def indicateIOCBIDReq : Verdict :=
  if m.recvDataLen < 4 then .nrc incorrectMsgLenOrInvalidFormat
  else if m.recvDataLen > udsDataSize then .nrc incorrectMsgLenOrInvalidFormat
  else
    let dataId := m.recv16 1
    match c.getIoEntry dataId with
    | none => .nrc reqOutOfRange
    | some entry =>
      match c.getDiagnosticSession m.sessionType with
      | none => .nrc reqOutOfRange
      | some currSess =>
        if entry.access.session.contains currSess.shortName = false then .nrc reqOutOfRange
        else if entry.ioControlParameter.contains (m.recv 3).toNat = false then
          .nrc reqOutOfRange
        else
          match ioControlStateVerdict c m entry dataId with
          | some errorCode => .nrc errorCode
          | none =>
            if isAuthRoleMatchedImpl c m entry.ioRole = false then .nrc authenticationRequired
            else
              match (entry.diagnosticSession.lookup currSess.shortName).bind
                (ruleUnlocked c unlocked m) with
              | some false => .nrc securityAccessDeny
              | _ => .indicate

/-- The routine is allowed in the active session; the names are resolved through the
keys of the session table. -/
def routineSessionMatched (entry : RoutineEntry) : Bool :=
  entry.access.session.isEmpty ||
    entry.access.session.any fun sessName =>
      match c.diagSession.lookup sessName with
      | some sess => sess.id == m.sessionType.toNat
      | none => false

def routineUnlocked (entry : RoutineEntry) : Bool :=
  entry.access.securityLevel.isEmpty ||
    entry.access.securityLevel.any fun lvlName =>
      match c.sessionSecurLevel.lookup lvlName with
      | some lvl => securityAccessIsLevelUnlocked unlocked (UInt8.ofNat lvl.levelId)
      | none => false

def isTotalLengthCheckValid (rid : UInt16) (subFunc : UInt8) (dataRecLen : Nat) : Bool :=
  if c.getRoutineRecord rid subFunc ≠ "null" then
    c.getRoutineRecordSize (c.getRoutineRecord rid subFunc) == dataRecLen
  else if c.diagFeatureA then true
  else dataRecLen == 0

def isControlOptionRecordValid (rid : UInt16) (subFunc : UInt8) (dataRec : List UInt8) : Bool :=
  if c.getRoutineRecord rid subFunc ≠ "null" then
    c.validateBaseRecord dataRec (c.getRoutineRecord rid subFunc) != some true
  else true

def indicateRoutinrCtrlReq : Verdict :=
  if m.recvDataLen < 4 then .nrc incorrectMsgLenOrInvalidFormat
  else
    let rid := m.recv16 2
    match c.routinesAll.find? fun pair => pair.2.identifier == rid.toNat with
    | none => .nrc reqOutOfRange
    | some (_, entry) =>
      if routineSessionMatched c m entry = false then .nrc reqOutOfRange
      else if isAuthRoleMatchedImpl c m entry.routineRole = false then .nrc authenticationRequired
      else if routineUnlocked c unlocked entry = false then .nrc securityAccessDeny
      else if entry.request.subFunction.contains m.subFunction.toNat = false then
        .nrc subfunctionNotSupported
      else if m.recvDataLen > udsDataSize then .nrc incorrectMsgLenOrInvalidFormat
      else if isTotalLengthCheckValid c rid m.subFunction (m.recvDataLen - 4) = false then
        .nrc incorrectMsgLenOrInvalidFormat
      else if m.recvDataLen - 4 > 0 ∧ isControlOptionRecordValid c rid m.subFunction
          ((m.recvBuf.drop 4).take (m.recvDataLen - 4)) = false then
        .nrc reqOutOfRange
      else .indicate

def indicateRxReqDwnldReq : Verdict :=
  if m.recvDataLen < 3 then .nrc incorrectMsgLenOrInvalidFormat
  else if m.recvDataLen - 3 ≠ (m.recv 2 &&& 0x0F).toNat + ((m.recv 2 >>> 4) &&& 0x0F).toNat then
    .nrc incorrectMsgLenOrInvalidFormat
  else if m.isXferActive then .nrc conditionsNotCorrect
  else .indicate

/-- Transfer data (0x36). A malformed block ends the running transfer. -/
def indicateRxXferDataReq : UdsManager × Verdict :=
  if m.recvDataLen < 2 then
    ({ m with isXferActive := false }, .nrc incorrectMsgLenOrInvalidFormat)
  else if m.recvDataLen > udsDataSize then
    ({ m with isXferActive := false }, .nrc incorrectMsgLenOrInvalidFormat)
  else if m.isXferActive = false then (m, .nrc reqSequenceError)
  else (m, .indicate)

def indicateRxXferExitReq : Verdict :=
  if m.recvDataLen < 1 then .nrc incorrectMsgLenOrInvalidFormat
  else if m.recvDataLen > udsDataSize then .nrc incorrectMsgLenOrInvalidFormat
  else if m.isXferActive = false then .nrc reqSequenceError
  else .indicate

/-- The loop of the source includes the byte behind the name. -/
def isAcsiiFormat (start arrLen : Nat) : Bool :=
  (List.range (arrLen + 1)).all fun i => decide ((m.recv (start + i)).toNat ≤ 127)

def valueOfFileSize (start length : Nat) : UInt32 :=
  (List.range length).foldl (fun result i => (result <<< 8) ||| (m.recv (start + i)).toUInt32) 0

def isDataFormatIdentifierValid (dataFormatIdentifier : UInt8) : Bool :=
  dataFormatIdentifier == 0x00 ||
    (c.diagFeatureA && (dataFormatIdentifier == 0x01 || dataFormatIdentifier == 0x10 ||
      dataFormatIdentifier == 0x11))

/-- Checks of the file sizes announced for adding, replacing or resuming a file. -/
def fileSizeVerdict (filePathAndNameLength : Nat) : Option UInt8 :=
  let fileSizeParameterLength := (m.recv (4 + filePathAndNameLength + 1)).toNat
  let dataFormatIdentifier := m.recv (4 + filePathAndNameLength)
  let fileSizes := 4 + filePathAndNameLength + 2
  let uncompressed := valueOfFileSize m fileSizes fileSizeParameterLength
  let compressed := valueOfFileSize m (fileSizes + fileSizeParameterLength) fileSizeParameterLength
  if fileSizeParameterLength > 4 ∨ fileSizeParameterLength = 0 then some reqOutOfRange
  else if m.recvDataLen ≠ 4 + filePathAndNameLength + 2 + fileSizeParameterLength * 2 then
    some incorrectMsgLenOrInvalidFormat
  else if isDataFormatIdentifierValid c dataFormatIdentifier = false then some reqOutOfRange
  else if compressed > uncompressed then some reqOutOfRange
  else if dataFormatIdentifier = 0x00 then
    if compressed ≠ uncompressed then some reqOutOfRange else none
  else if (dataFormatIdentifier &&& 0xF0) > 0 then
    if compressed = uncompressed then some reqOutOfRange else none
  else none

/-- The parameter checks that depend on the mode of operation. -/
def modeOfOperationVerdict (filePathAndNameLength : Nat) : Option UInt8 :=
  let mode := m.recv 1
  if mode = 0x02 ∨ mode = 0x05 then
    if filePathAndNameLength > udsDataSize - 4 ∨ filePathAndNameLength < 1 then
      some reqOutOfRange
    else if m.recvDataLen > udsDataSize ∨ m.recvDataLen ≠ 4 + filePathAndNameLength then
      some incorrectMsgLenOrInvalidFormat
    else none
  else if mode = 0x04 then
    if filePathAndNameLength > udsDataSize - 4 - 1 ∨ filePathAndNameLength < 1 then
      some reqOutOfRange
    else if m.recvDataLen > udsDataSize ∨ m.recvDataLen ≠ 4 + filePathAndNameLength + 1 then
      some incorrectMsgLenOrInvalidFormat
    else if isDataFormatIdentifierValid c (m.recv (4 + filePathAndNameLength)) = false then
      some reqOutOfRange
    else none
  else
    if filePathAndNameLength > udsDataSize - 4 - 1 - 1 ∨ filePathAndNameLength < 1 then
      some reqOutOfRange
    else if m.recvDataLen > udsDataSize ∨ m.recvDataLen < 4 + filePathAndNameLength + 1 + 1 then
      some incorrectMsgLenOrInvalidFormat
    else fileSizeVerdict c m filePathAndNameLength

def indicateRxFileXferReq : Verdict :=
  if m.recvDataLen < 5 then .nrc incorrectMsgLenOrInvalidFormat
  else if m.recv 1 < 0x01 ∨ m.recv 1 > 0x06 then .nrc reqOutOfRange
  else
    let filePathAndNameLength := (m.recv16 2).toNat
    match modeOfOperationVerdict c m filePathAndNameLength with
    | some errorCode => .nrc errorCode
    | none =>
      if isAcsiiFormat m 4 filePathAndNameLength = false then .nrc reqOutOfRange
      else if m.isXferActive then .nrc conditionsNotCorrect
      else .indicate

/-- The checks before a security-access request is handed to the state machine (0x27). -/
def indicateSecAccessReq : UdsManager × Verdict :=
  let sid := m.recv 0
  let subFunction := m.subFunction
  if m.recvDataLen < 2 then (m, .nrc incorrectMsgLenOrInvalidFormat)
  else if isSubFuncSupported c sid subFunction = false then (m, .nrc subfunctionNotSupported)
  else if subFunction % 2 = 1 ∧ m.recvDataLen < 2 then (m, .nrc incorrectMsgLenOrInvalidFormat)
  else if subFunction % 2 = 0 ∧ m.recvDataLen < 3 then (m, .nrc incorrectMsgLenOrInvalidFormat)
  else if m.recvDataLen > udsMaxDataSize then (m, .nrc incorrectMsgLenOrInvalidFormat)
  else if isSubFuncAuthCheckOK c m sid subFunction = false then (m, .nrc authenticationRequired)
  else if isSubFuncSessTypeValid c m sid subFunction = false then
    (m, .nrc subfunctionNotSupportedInActiveSession)
  else
    ({ m with recvSid := sid, recvSubFunc := m.recv 1 },
      .secAcc (if m.recv 1 % 2 = 1 then .requestSeed else .sendKey))

def isAuthSubFuncSupported (subFunc : UInt8) : Bool :=
  subFunc == authSubfuncDeauthenticate || subFunc == authSubfuncVerifyCertUnidir ||
    subFunc == authSubfuncPown || subFunc == authSubfuncTransmitCert ||
    subFunc == authSubfuncAuthConf

/-- The length rule of a certificate verification request. -/
def isVerifyCertLenCorrect : Bool :=
  let lengthOfCertificateData := (m.recv16 3).toNat
  let lengthOfChallengeClient := (m.recv16 (lengthOfCertificateData + 5)).toNat
  if m.recvDataLen ≤ 7 then false
  else if lengthOfCertificateData = 0 ∨ lengthOfCertificateData > udsCertMaxLen then false
  else if m.recvDataLen < 7 + lengthOfCertificateData then false
  else if lengthOfChallengeClient > udsCertMaxLen then false
  else m.recvDataLen == 7 + lengthOfCertificateData + lengthOfChallengeClient

def isPownLenCorrect : Bool :=
  let lenOfPownClient := (m.recv16 2).toNat
  let lengOfPubKeyClient := (m.recv16 (lenOfPownClient + 4)).toNat
  if m.recvDataLen ≤ 6 then false
  else if m.recvDataLen < 6 + lenOfPownClient then false
  else if lenOfPownClient = 0 ∨ lenOfPownClient > udsCertMaxLen then false
  else if lengOfPubKeyClient > udsCertMaxLen then false
  else m.recvDataLen == 6 + lenOfPownClient + lengOfPubKeyClient

/-- The length rule of a certificate transmission. -/
def isTransmitCertLenCorrect : Bool :=
  let lengthOfCertificateData := (m.recv16 4).toNat
  if m.recvDataLen ≤ 6 then false
  else if lengthOfCertificateData = 0 ∨ lengthOfCertificateData > udsCertMaxLen then false
  else m.recvDataLen == 6 + lengthOfCertificateData

def isAuthReqLenCorrect (subFunc : UInt8) : Bool :=
  if subFunc = authSubfuncDeauthenticate then m.recvDataLen == 2
  else if subFunc = authSubfuncVerifyCertUnidir then isVerifyCertLenCorrect m
  else if subFunc = authSubfuncVerifyCertBidir then decide (9 ≤ m.recvDataLen)
  else if subFunc = authSubfuncPown then isPownLenCorrect m
  else if subFunc = authSubfuncTransmitCert then isTransmitCertLenCorrect m
  else if subFunc = authSubfuncReqChlngForAuth then m.recvDataLen == 19
  else if subFunc = authSubfuncVerifyPownUnidir then decide (25 ≤ m.recvDataLen)
  else if subFunc = authSubfuncVerifyPownBidir then decide (26 ≤ m.recvDataLen)
  else if subFunc = authSubfuncAuthConf then m.recvDataLen == 2
  else true

/-- Authentication (0x29); `authDelayRunning` is the state of the delay timer. -/
def indicateAuthReq (authDelayRunning : Bool) : Verdict :=
  let sid := m.recv 0
  let subFunc := m.subFunction
  if m.recvDataLen > udsMaxDataSize then .nrc incorrectMsgLenOrInvalidFormat
  else if m.recvDataLen < 2 then .nrc incorrectMsgLenOrInvalidFormat
  else if isSubFuncSupported c sid subFunc = false then .nrc subfunctionNotSupported
  else if isAuthSubFuncSupported subFunc = false then .nrc subfunctionNotSupported
  else if isAuthReqLenCorrect m subFunc = false then .nrc incorrectMsgLenOrInvalidFormat
  else if isSubFuncSessTypeValid c m sid subFunc = false then
    .nrc subfunctionNotSupportedInActiveSession
  else if isSubFuncSecAccessMatched c m unlocked sid subFunc = false then .nrc securityAccessDeny
  else if authDelayRunning then .nrc requiredTimeDelayNotExpired
  else if subFunc = authSubfuncPown ∧ m.authPreSucReq ≠ authSubfuncVerifyCertUnidir then
    .nrc reqSequenceError
  else .indicate

def isROEReqLenCorrect (subFunc : UInt8) : Bool :=
  if subFunc = 0x01 then decide (7 ≤ m.recvDataLen) else true

def isROESubFuncSupported (subFunc : UInt8) : Bool := subFunc == 0x01

/-- The source names this check after the case it refuses; it returns true in range. -/
def isROEReqOutOfRange (subFunc : UInt8) : Bool :=
  if subFunc = 0x01 then
    if m.recv 2 = 0 ∨ m.recv 2 > 8 then false
    else if (m.recv 1 >>> 6) &&& 0x1 = 1 then false
    else if m.recv 5 &&& 0x80 ≠ 0 then false
    else m.recv 4 == readDtcInfoRequestId
  else true

/-- Response on event (0x86). Its sub-function has six bits. -/
def indicateROEReq : Verdict :=
  let sid := m.recv 0
  let subFunc := m.recv 1 &&& 0x3F
  if m.recvDataLen > udsMaxDataSize then .nrc incorrectMsgLenOrInvalidFormat
  else if m.recvDataLen < 3 then .nrc incorrectMsgLenOrInvalidFormat
  else if isROEReqLenCorrect m subFunc = false then .nrc incorrectMsgLenOrInvalidFormat
  else if isSubFuncSupported c sid subFunc = false then .nrc subfunctionNotSupported
  else if isROESubFuncSupported subFunc = false then .nrc subfunctionNotSupported
  else subFuncChecks c unlocked m sid subFunc <|
    if isROEReqOutOfRange m subFunc = false then .nrc reqOutOfRange else .indicate

end

section
variable (c : DiagConf) (unlocked : Option Nat) (m : UdsManager)

/-- A sub-function passes the three checks exactly when each of them holds. -/
theorem subFuncChecks_eq_indicate (sid subFunc : UInt8) (next : Verdict) :
    subFuncChecks c unlocked m sid subFunc next = .indicate ↔
      isSubFuncAuthCheckOK c m sid subFunc = true ∧
        isSubFuncSessTypeValid c m sid subFunc = true ∧
        isSubFuncSecAccessMatched c m unlocked sid subFunc = true ∧ next = .indicate := by
  unfold subFuncChecks
  split_ifs with h₁ h₂ h₃ <;> simp_all

/-- A session change goes to the service exactly when every check passes. -/
theorem sessionCtrlReq_eq_indicate :
    indicateSessionCtrlReq c unlocked m = .indicate ↔
      m.recvDataLen = 2 ∧ isSubFuncSupported c (m.recv 0) m.subFunction = true ∧
        subFuncChecks c unlocked m (m.recv 0) m.subFunction .indicate = .indicate ∧
        precheckForSwitchingSession c unlocked m.sessionType (m.recv 1) = true := by
  unfold indicateSessionCtrlReq
  dsimp only
  split_ifs with h₁ h₂ h₃ <;> simp_all [subFuncChecks_eq_indicate]
  omega

theorem indicateECUResetReq_eq_indicate :
    indicateECUResetReq c unlocked m = .indicate ↔
      m.recvDataLen = 2 ∧ isSubFuncSupported c (m.recv 0) m.subFunction = true ∧
        subFuncChecks c unlocked m (m.recv 0) m.subFunction .indicate = .indicate := by
  unfold indicateECUResetReq
  dsimp only
  split_ifs with h₁ h₂ h₃ <;> simp_all
  omega

theorem readDtcInfoReq_eq_indicate :
    indicateReadDTCInfoReq c unlocked m = .indicate ↔
      m.recvDataLen ≤ udsDataSize ∧ 2 ≤ m.recvDataLen ∧
        isSubFuncSupported c (m.recv 0) m.subFunction = true ∧
        isReadDtcInfoReqLenCorrect m.subFunction m.recvDataLen = true ∧
        subFuncChecks c unlocked m (m.recv 0) m.subFunction .indicate = .indicate := by
  have hlength : ∀ n : Nat, 1 < n ↔ 2 ≤ n := fun _ => Iff.rfl
  unfold indicateReadDTCInfoReq
  dsimp only
  split_ifs with h₁ h₂ h₃ h₄ <;> simp_all

theorem indicateROEReq_eq_indicate :
    indicateROEReq c unlocked m = .indicate ↔
      m.recvDataLen ≤ udsMaxDataSize ∧ 3 ≤ m.recvDataLen ∧
        isROEReqLenCorrect m (m.recv 1 &&& 0x3F) = true ∧
        isSubFuncSupported c (m.recv 0) (m.recv 1 &&& 0x3F) = true ∧
        isROESubFuncSupported (m.recv 1 &&& 0x3F) = true ∧
        subFuncChecks c unlocked m (m.recv 0) (m.recv 1 &&& 0x3F) .indicate = .indicate ∧
        isROEReqOutOfRange m (m.recv 1 &&& 0x3F) = true := by
  unfold indicateROEReq
  dsimp only
  split_ifs with h₁ h₂ h₃ h₄ h₅ <;> simp_all [subFuncChecks_eq_indicate]

end

/-! Only the security-access handler hands a request to the state machine. -/

section
variable (c : DiagConf) (unlocked : Option Nat) (m : UdsManager) (sig : SecAccSignal)

theorem subFuncChecks_ne_secAcc (sid subFunc : UInt8) {next : Verdict} (h : next ≠ .secAcc sig) :
    subFuncChecks c unlocked m sid subFunc next ≠ .secAcc sig := by
  unfold subFuncChecks
  split_ifs <;> simp [h]

theorem sessionCtrlReq_ne_secAcc : indicateSessionCtrlReq c unlocked m ≠ .secAcc sig := by
  unfold indicateSessionCtrlReq
  dsimp only
  split_ifs <;> simp [subFuncChecks_ne_secAcc]

theorem indicateECUResetReq_ne_secAcc : indicateECUResetReq c unlocked m ≠ .secAcc sig := by
  unfold indicateECUResetReq
  dsimp only
  split_ifs <;> simp [subFuncChecks_ne_secAcc]

theorem indicateClearDiagInfoReq_ne_secAcc : indicateClearDiagInfoReq m ≠ .secAcc sig := by
  unfold indicateClearDiagInfoReq
  split_ifs <;> simp

theorem readDtcInfoReq_ne_secAcc : indicateReadDTCInfoReq c unlocked m ≠ .secAcc sig := by
  unfold indicateReadDTCInfoReq
  dsimp only
  split_ifs <;> simp [subFuncChecks_ne_secAcc]

theorem readDIDReq_ne_secAcc (addr : AddrInfo) :
    (indicateReadDIDReq c unlocked m addr).2 ≠ .secAcc sig := by
  unfold indicateReadDIDReq
  dsimp only
  split_ifs
  iterate 4 simp
  split
  · simp
  · split_ifs <;> simp

theorem indicateAuthReq_ne_secAcc (authDelayRunning : Bool) :
    indicateAuthReq c unlocked m authDelayRunning ≠ .secAcc sig := by
  unfold indicateAuthReq
  dsimp only
  split_ifs <;> simp

theorem indicateWriteDIDReq_ne_secAcc : indicateWriteDIDReq c unlocked m ≠ .secAcc sig := by
  unfold indicateWriteDIDReq
  dsimp only
  repeat' (first | exact Verdict.noConfusion | split)

theorem indicateIOCBIDReq_ne_secAcc : indicateIOCBIDReq c unlocked m ≠ .secAcc sig := by
  unfold indicateIOCBIDReq
  dsimp only
  repeat' (first | exact Verdict.noConfusion | split)

theorem indicateRoutinrCtrlReq_ne_secAcc : indicateRoutinrCtrlReq c unlocked m ≠ .secAcc sig := by
  unfold indicateRoutinrCtrlReq
  dsimp only
  repeat' (first | exact Verdict.noConfusion | split)

theorem indicateRxReqDwnldReq_ne_secAcc : indicateRxReqDwnldReq m ≠ .secAcc sig := by
  unfold indicateRxReqDwnldReq
  split_ifs <;> simp

theorem xferDataReq_ne_secAcc : (indicateRxXferDataReq m).2 ≠ .secAcc sig := by
  unfold indicateRxXferDataReq
  split_ifs <;> simp

theorem indicateRxXferExitReq_ne_secAcc : indicateRxXferExitReq m ≠ .secAcc sig := by
  unfold indicateRxXferExitReq
  split_ifs <;> simp

theorem fileXferReq_ne_secAcc : indicateRxFileXferReq c m ≠ .secAcc sig := by
  unfold indicateRxFileXferReq
  dsimp only
  repeat' (first | exact Verdict.noConfusion | split)

theorem indicateROEReq_ne_secAcc : indicateROEReq c unlocked m ≠ .secAcc sig := by
  unfold indicateROEReq
  dsimp only
  split_ifs <;> simp [subFuncChecks_ne_secAcc]

end

/-- Decoding the generated byte sequence gives back the session list. -/
theorem patternSessions_encode (node : PatternNode) :
    patternSessions (encodePattern node) = node.sessions := by
  have h : (ofNat node.sessions.length).toNat = node.sessions.length :=
    toNat_ofNat_of_lt' node.sessions_fit
  simp [patternSessions, encodePattern, h]

/-- Decoding the generated byte sequence gives back the level list. -/
theorem patternLevels_encode (node : PatternNode) :
    patternLevels (encodePattern node) = node.levels := by
  have hs : (ofNat node.sessions.length).toNat = node.sessions.length :=
    toNat_ofNat_of_lt' node.sessions_fit
  have hl : (ofNat node.levels.length).toNat = node.levels.length :=
    toNat_ofNat_of_lt' node.levels_fit
  simp [patternLevels, encodePattern, hs, hl]

end TelAF.UdsIndications
