import Mathlib.Data.List.Basic

/-!
# The remote SIM service

The modem sends indications to the service, the service sends SAP requests to a client that
has the card, and the client answers with SAP messages of any bytes. The service remembers
in its state and sub-state which request is not answered yet. Indications are handled where
they arrive; messages of the client are queued to the main thread and handled there one by
one. The sizes of messages are constants of the interface and so are parameters here.
-/

namespace TelAF.RemoteSim

inductive SapState where
  | notConnected
  | connecting
  | connected
deriving DecidableEq

inductive SapSubState where
  | idle
  | apdu
  | atrReset
  | atrInsert
  | reset
  | powerOff
  | powerOn
  | disconnect
deriving DecidableEq

inductive Result where
  | ok
  | fault
  | formatError
  | unsupported
  | badParameter
deriving DecidableEq

/-- The limits of the interface on the size of a message. -/
structure Limits where
  maxMsgSize : Nat
  minMsgSize : Nat

def msgIdConnectReq : UInt8 := 0x00
def msgIdDisconnectReq : UInt8 := 0x02
def msgIdTransferApduReq : UInt8 := 0x05
def msgIdTransferAtrReq : UInt8 := 0x07
def msgIdPowerSimOffReq : UInt8 := 0x09
def msgIdPowerSimOnReq : UInt8 := 0x0B
def msgIdResetSimReq : UInt8 := 0x0D

inductive MsgId where
  | connectResp
  | disconnectResp
  | disconnectInd
  | transferApduResp
  | transferAtrResp
  | powerSimOffResp
  | powerSimOnResp
  | resetSimResp
  | statusInd
  | errorResp
  | transferCardReaderStatusResp
  | setTransportProtocolResp
  | unknown
deriving DecidableEq

def msgIdOf (id : UInt8) : MsgId :=
  if id = 0x06 then .transferApduResp
  else if id = 0x01 then .connectResp
  else if id = 0x04 then .disconnectInd
  else if id = 0x03 then .disconnectResp
  else if id = 0x0A then .powerSimOffResp
  else if id = 0x0C then .powerSimOnResp
  else if id = 0x0E then .resetSimResp
  else if id = 0x11 then .statusInd
  else if id = 0x08 then .transferAtrResp
  else if id = 0x12 then .errorResp
  else if id = 0x10 then .transferCardReaderStatusResp
  else if id = 0x14 then .setTransportProtocolResp
  else .unknown

def paramIdMaxMsgSize : UInt8 := 0x00
def paramIdConnectionStatus : UInt8 := 0x01
def paramIdResultCode : UInt8 := 0x02
def paramIdDisconnectionType : UInt8 := 0x03
def paramIdAtr : UInt8 := 0x06
def paramIdStatusChange : UInt8 := 0x08

def lengthSapHeader : Nat := 4
def lengthParam : Nat := 8

inductive ConnStatus where
  | ok
  | serverNok
  | maxMsgSizeNok
  | smallMaxMsgSize
  | okOngoingCall
  | unknown

def connStatusOf (code : UInt8) : ConnStatus :=
  if code = 0x00 then .ok
  else if code = 0x04 then .okOngoingCall
  else if code = 0x01 then .serverNok
  else if code = 0x02 then .maxMsgSizeNok
  else if code = 0x03 then .smallMaxMsgSize
  else .unknown

inductive ResultCode where
  | ok
  | errorNoReason
  | errorCardNok
  | errorCardOff
  | errorCardRemoved
  | errorCardOn
  | errorNoData
  | other

def resultCodeOf (code : UInt8) : ResultCode :=
  if code = 0x00 then .ok
  else if code = 0x01 then .errorNoReason
  else if code = 0x02 then .errorCardNok
  else if code = 0x03 then .errorCardOff
  else if code = 0x04 then .errorCardRemoved
  else if code = 0x05 then .errorCardOn
  else if code = 0x06 then .errorNoData
  else .other

inductive StatusChange where
  | unknownError
  | cardReset
  | cardNok
  | cardRemoved
  | cardInserted
  | cardRecovered
  | unknown

def statusChangeOf (code : UInt8) : StatusChange :=
  if code = 0x00 then .unknownError
  else if code = 0x01 then .cardReset
  else if code = 0x02 then .cardNok
  else if code = 0x03 then .cardRemoved
  else if code = 0x04 then .cardInserted
  else if code = 0x05 then .cardRecovered
  else .unknown

/-- A message of the client: the object from the pool that holds it, and its size. What lies
behind the message is what the memory held before. -/
structure ClientMsg where
  msg : Nat → UInt8
  msgSize : Nat

namespace ClientMsg

variable (m : ClientMsg)

def id : MsgId := msgIdOf (m.msg 0)

def read16 (pos : Nat) : Nat := (m.msg pos).toNat * 256 + (m.msg (pos + 1)).toNat

def verifyMessageLength (numberOfParam : Nat) : Bool :=
  decide (lengthSapHeader + numberOfParam * lengthParam ≤ m.msgSize)

def verifyParameterCount (numberOfParam : Nat) : Bool := decide (numberOfParam ≤ (m.msg 1).toNat)

def verifyParamId (paramId : UInt8) (parameter : Nat) : Bool :=
  decide (m.msg (lengthSapHeader + (parameter - 1) * lengthParam) = paramId)

def verifyParamLength (paramLength : Nat) (parameter : Nat) : Bool :=
  decide (m.read16 (lengthSapHeader + 2 + (parameter - 1) * lengthParam) = paramLength)

/-- The checks of a parameter with an identifier and a length of its own. -/
def verifyParameter (paramId : UInt8) (paramLength parameter : Nat) : Bool :=
  m.verifyParamId paramId parameter && m.verifyParamLength paramLength parameter

def verifyConnectionParameter : Bool := m.verifyParameter paramIdConnectionStatus 1 1
def verifyMaxMsgSizeParameter : Bool := m.verifyParameter paramIdMaxMsgSize 2 2
def verifyResultCodeParameter : Bool := m.verifyParameter paramIdResultCode 1 1
def verifyDisconnectParameter : Bool := m.verifyParameter paramIdDisconnectionType 1 1
def verifyStatusChangeParameter : Bool := m.verifyParameter paramIdStatusChange 1 1
def verifyATRParameter : Bool := m.verifyParamId paramIdAtr 2

/-- The checks at the head of a handler, with the one of its parameter. -/
def verified (parameter : Bool) : Bool :=
  m.verifyMessageLength 1 && m.verifyParameterCount 1 && parameter

def payload : List UInt8 := (List.range (m.read16 14)).map fun i => m.msg (16 + i)

end ClientMsg

inductive CardErrorCause where
  | unknown
  | powerDown
  | invalid
  | noLink

inductive ModemCall where
  | sendApdu (id : UInt8) (apdu : List UInt8)
  | sendCardReset (atr : List UInt8)
  | sendCardInserted (atr : List UInt8)
  | sendCardRemoved
  | sendCardError (cause : CardErrorCause)
  | sendCardWakeup

/-- The service. Beside its object stand the messages of the client still queued, the ones
reported to it, the calls to the modem and the results given to the callbacks. -/
structure Rsim where
  sapState : SapState
  sapSubState : SapSubState
  maxMsgSize : Nat
  clientMsgs : List ClientMsg
  reported : List (List UInt8)
  calls : List ModemCall
  results : List (MsgId × Result)

def init (limits : Limits) : Rsim where
  sapState := .notConnected
  sapSubState := .idle
  maxMsgSize := limits.maxMsgSize
  clientMsgs := []
  reported := []
  calls := []
  results := []

variable (limits : Limits) (s : Rsim) (m : ClientMsg)

def report (bytes : List UInt8) : Rsim := { s with reported := s.reported ++ [bytes] }

/-- The high and the low byte of a 16-bit number. -/
def highByte (n : Nat) : UInt8 := UInt8.ofNat (n / 256)
def lowByte (n : Nat) : UInt8 := UInt8.ofNat n

/-- Messages are filled up to a multiple of four bytes. -/
def apduLength (apdu : List UInt8) : Nat := (8 + apdu.length + 3) / 4 * 4

def apduRequest (id : UInt32) (apdu : List UInt8) : List UInt8 :=
  [msgIdTransferApduReq, 0x01, 0x00, 0x00, id.toUInt8, 0x00, highByte apdu.length,
    lowByte apdu.length] ++ apdu ++ List.replicate (apduLength apdu - (8 + apdu.length)) 0x00

def sendApduRequest (id : UInt32) (apdu : List UInt8) : Rsim × Result :=
  if apduLength apdu > s.maxMsgSize then (s, .fault)
  else (report { s with sapSubState := .apdu } (apduRequest id apdu), .ok)

def plainRequest (msgId : UInt8) : List UInt8 := [msgId, 0x00, 0x00, 0x00]

def sendATRRequest (subState : SapSubState) : Rsim × Result :=
  (report { s with sapSubState := subState } (plainRequest msgIdTransferAtrReq), .ok)

def connectRequest (maxMsgSize : Nat) : List UInt8 :=
  [msgIdConnectReq, 0x01, 0x00, 0x00, paramIdMaxMsgSize, 0x00, 0x00, 0x02,
    highByte maxMsgSize, lowByte maxMsgSize, 0x00, 0x00]

def sendCardConnectRequest : Rsim × Result :=
  if s.sapState = .connected then (s, .fault)
  else (report { s with sapState := .connecting } (connectRequest s.maxMsgSize), .ok)

def sendCardDisconnectRequest : Rsim × Result :=
  (report { s with sapSubState := .disconnect } (plainRequest msgIdDisconnectReq), .ok)

/-- The requests that need an idle connection. -/
def sendIdleRequest (subState : SapSubState) (msgId : UInt8) : Rsim × Result :=
  if s.sapState ≠ .connected ∨ s.sapSubState ≠ .idle then (s, .fault)
  else (report { s with sapSubState := subState } (plainRequest msgId), .ok)

def sendCardPowerUpRequest : Rsim × Result := sendIdleRequest s .powerOn msgIdPowerSimOnReq
def sendCardPowerDownRequest : Rsim × Result := sendIdleRequest s .powerOff msgIdPowerSimOffReq

def sendCardResetRequest : Rsim × Result :=
  if s.sapState ≠ .connected ∨ s.sapSubState = .powerOn ∨
    s.sapSubState = .powerOff then (s, .fault)
  else (report { s with sapSubState := .reset } (plainRequest msgIdResetSimReq), .ok)

variable (paOk : Bool)

/-- `paOk` says whether the platform adapter takes the call. -/
def callModem (call : ModemCall) : Rsim × Result :=
  ({ s with calls := s.calls ++ [call] }, if paOk then .ok else .fault)

def handleCardReset : Rsim × Result := callModem s paOk (.sendCardReset m.payload)
def handleCardInserted : Rsim × Result := callModem s paOk (.sendCardInserted m.payload)
def handleCardRemoved : Rsim × Result := callModem s paOk .sendCardRemoved
def handleCardError (cause : CardErrorCause) : Rsim × Result :=
  callModem s paOk (.sendCardError cause)
def handleCardWakeUp : Rsim × Result := callModem s paOk .sendCardWakeup

/-- The APDU goes to the modem through a thread of its own. -/
def sendApduResp : Rsim × Result :=
  if ¬ (m.verifyMessageLength 1 ∧ m.verifyParameterCount 1) then (s, .formatError)
  else if 16 + m.read16 14 > limits.maxMsgSize then (s, .formatError)
  else ({ s with calls := s.calls ++ [.sendApdu (m.msg 12) m.payload] }, .ok)

/-- The response that is awaited, if it is well formed, ends the sub-state and is handled by
its result code. -/
def handleResponse (awaited : SapSubState) (byResult : Rsim → ResultCode → Rsim × Result) :
    Rsim × Result :=
  if s.sapState ≠ .connected ∨ s.sapSubState ≠ awaited then (s, .fault)
  else if ¬ m.verified m.verifyResultCodeParameter then (s, .formatError)
  else byResult { s with sapSubState := .idle } (resultCodeOf (m.msg 8))

def handleApduTransfer : Rsim × Result :=
  handleResponse s m .apdu fun s code =>
    match code with
    | .ok => sendApduResp limits s m
    | .errorCardRemoved => handleCardRemoved s paOk
    | .errorNoReason | .errorCardNok => handleCardError s paOk .unknown
    | .errorCardOff => handleCardError s paOk .powerDown
    | _ => handleCardError s paOk .invalid

/-- The proposed size is looked at where the check of its parameter fails. -/
def proposeMaxMsgSize : Rsim × Result :=
  if ¬ (m.verifyMessageLength 2 ∧ m.verifyParameterCount 2 ∧ m.verifyMaxMsgSizeParameter) then
    let serverMaxMsgSize := m.read16 16
    if serverMaxMsgSize > limits.maxMsgSize then (s, .ok)
    else if serverMaxMsgSize < limits.minMsgSize then (s, .ok)
    else ((sendCardConnectRequest { s with maxMsgSize := serverMaxMsgSize }).1, .ok)
  else (s, .formatError)

/-- A link that is not established is an error of the card. -/
def noLink (r : Rsim × Result) : Rsim × Result := ((handleCardError r.1 paOk .noLink).1, r.2)

def handleCardConnect : Rsim × Result :=
  if s.sapState ≠ .connecting then (s, .fault)
  else if ¬ m.verified m.verifyConnectionParameter then (s, .formatError)
  else
    let s := { s with sapState := .notConnected }
    match connStatusOf (m.msg 8) with
    | .ok | .okOngoingCall => ({ s with sapState := .connected, sapSubState := .idle }, .ok)
    | .serverNok | .smallMaxMsgSize => noLink paOk (s, .ok)
    | .maxMsgSizeNok => noLink paOk (proposeMaxMsgSize limits s m)
    | .unknown => noLink paOk (s, .fault)

def handleStatusInd : Rsim × Result :=
  if s.sapState ≠ .connected then (s, .fault)
  else if ¬ m.verified m.verifyStatusChangeParameter then (s, .formatError)
  else
    let s := { s with sapSubState := .idle }
    match statusChangeOf (m.msg 8) with
    | .unknownError => handleCardError s paOk .unknown
    | .cardReset => sendATRRequest s .atrReset
    | .cardNok => handleCardError s paOk .powerDown
    | .cardRemoved => handleCardRemoved s paOk
    | .cardInserted => sendATRRequest s .atrInsert
    | .cardRecovered => handleCardWakeUp s paOk
    | .unknown => (s, .fault)

def handleCardDisconnectInd : Rsim × Result :=
  if s.sapState ≠ .connected then (s, .fault)
  else if ¬ m.verified m.verifyDisconnectParameter then (s, .formatError)
  else if m.msg 8 = 0x00 then ((sendCardDisconnectRequest s).1, .ok)
  else if m.msg 8 = 0x01 then ({ s with sapState := .notConnected, sapSubState := .idle }, .ok)
  else (s, .fault)

def handleCardDisconnectResp : Rsim × Result :=
  if s.sapState ≠ .connected ∨ s.sapSubState ≠ .disconnect then (s, .fault)
  else ({ s with
    sapState := .notConnected
    sapSubState := .idle
    maxMsgSize := limits.maxMsgSize }, .ok)

def handleCardPowerDown : Rsim × Result :=
  handleResponse s m .powerOff fun s code =>
    match code with
    | .ok => (s, .ok)
    | .errorCardRemoved => handleCardRemoved s paOk
    | .errorNoReason | .errorNoData => handleCardError s paOk .unknown
    | .errorCardOff => handleCardError s paOk .powerDown
    | _ => handleCardError s paOk .invalid

def handleCardPowerUp : Rsim × Result :=
  handleResponse s m .powerOn fun s code =>
    match code with
    | .ok => sendATRRequest s .atrReset
    | .errorCardRemoved => handleCardRemoved s paOk
    | .errorNoReason => handleCardError s paOk .unknown
    | .errorCardOff | .errorCardNok => handleCardError s paOk .powerDown
    | .errorCardOn => handleCardWakeUp s paOk
    | _ => handleCardError s paOk .invalid

def handleResetResponse : Rsim × Result :=
  handleResponse s m .reset fun s code =>
    match code with
    | .ok => sendATRRequest s .atrReset
    | .errorCardRemoved => handleCardRemoved s paOk
    | .errorNoReason | .errorNoData => handleCardError s paOk .unknown
    | .errorCardOff | .errorCardNok => handleCardError s paOk .powerDown
    | _ => handleCardError s paOk .invalid

/-- The ATR goes to the modem by the reason it was asked for. -/
def forwardATR : Rsim × Result :=
  if m.verifyMessageLength 2 ∧ m.verifyParameterCount 2 ∧ m.verifyATRParameter then
    if s.sapSubState = .atrReset then handleCardReset s m paOk
    else if s.sapSubState = .atrInsert then handleCardInserted s m paOk
    else handleCardError s paOk .unknown
  else (s, .formatError)

def leaveATR (r : Rsim × Result) : Rsim × Result :=
  if r.1.sapSubState = .atrReset ∨ r.1.sapSubState = .atrInsert then
    ({ r.1 with sapSubState := .idle }, r.2)
  else r

def handleATRResponse : Rsim × Result :=
  if s.sapState ≠ .connected ∨ (s.sapSubState ≠ .atrReset ∧
      s.sapSubState ≠ .atrInsert) then (s, .fault)
  else if ¬ m.verified m.verifyResultCodeParameter then (s, .formatError)
  else leaveATR
    (match resultCodeOf (m.msg 8) with
    | .ok => forwardATR s m paOk
    | .errorCardRemoved => handleCardRemoved s paOk
    | .errorNoReason | .errorNoData => handleCardError s paOk .unknown
    | .errorCardOff => handleCardError s paOk .powerDown
    | _ => handleCardError s paOk .invalid)

def handleErrorResp : Rsim × Result :=
  match s.sapState with
  | .notConnected => (s, .fault)
  | .connecting => ({ s with sapState := .notConnected }, .ok)
  | .connected => ({ s with sapSubState := .idle }, .ok)

def handleClientMsg : Rsim × Result :=
  match m.id with
  | .transferApduResp => handleApduTransfer limits s m paOk
  | .connectResp => handleCardConnect limits s m paOk
  | .disconnectInd => handleCardDisconnectInd s m
  | .disconnectResp => handleCardDisconnectResp limits s
  | .powerSimOffResp => handleCardPowerDown s m paOk
  | .powerSimOnResp => handleCardPowerUp s m paOk
  | .resetSimResp => handleResetResponse s m paOk
  | .statusInd => handleStatusInd s m paOk
  | .transferAtrResp => handleATRResponse s m paOk
  | .errorResp => handleErrorResp s
  | .transferCardReaderStatusResp | .setTransportProtocolResp => (s, .unsupported)
  | .unknown => (s, .badParameter)

/-- Indications of the modem, messages that a client sends, and messages of the client that
the main thread takes from its queue. -/
inductive Action where
  | apduTransfer (id : UInt32) (apdu : List UInt8)
  | cardConnect
  | cardDisconnect
  | cardPowerUp
  | cardPowerDown
  | cardReset
  | sendMessage (m : ClientMsg)
  | clientMsg (paOk : Bool)

/-- The callback of the client is given the result. -/
def answerClient (id : MsgId) (r : Rsim × Result) : Rsim :=
  { r.1 with results := r.1.results ++ [(id, r.2)] }

def step : Action → Option Rsim
  | .apduTransfer id apdu => some (sendApduRequest s id apdu).1
  | .cardConnect => some (sendCardConnectRequest s).1
  | .cardDisconnect => some (sendCardDisconnectRequest s).1
  | .cardPowerUp => some (sendCardPowerUpRequest s).1
  | .cardPowerDown => some (sendCardPowerDownRequest s).1
  | .cardReset => some (sendCardResetRequest s).1
  | .sendMessage m =>
    some (if s.maxMsgSize < m.msgSize then s else { s with clientMsgs := s.clientMsgs ++ [m] })
  | .clientMsg paOk =>
    match s.clientMsgs with
    | [] => none
    | m :: rest =>
      some (answerClient m.id (handleClientMsg limits { s with clientMsgs := rest } m paOk))

end TelAF.RemoteSim
