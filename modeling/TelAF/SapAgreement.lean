import Mathlib.Tactic.IntervalCases
import TelAF.SapProvider

/-!
# The messages of the provider as the remote SIM service reads them

What a message of the provider says is stated apart from its bytes, and so is what the service
does when it is told so. A message is understood when the handler of the service, given the
bytes in a memory of any other content, does what it does when it is told what the provider
says. For command APDUs it is the provider that reads what the service wrote.
-/

namespace TelAF.SapProvider

open RemoteSim ClientMsg List

deriving instance DecidableEq for ResultCode

/-- The constants of the two interfaces: a message the provider may build has a place in the
service, and a size of a message is a number of two bytes. -/
structure Interfaces extends Limits where
  sapMaxMsgSize : Nat
  sap_le : sapMaxMsgSize ≤ maxMsgSize
  min_le : minMsgSize ≤ maxMsgSize
  two_bytes : maxMsgSize < 65536

/-! ## What is said -/

inductive ConnectionStatus where
  | ok
  | serverNok
  | maxMsgSizeNok
  | smallMaxMsgSize
  | okOngoingCall
deriving DecidableEq

namespace ConnectionStatus

def byte : ConnectionStatus → UInt8
  | ok => 0x00
  | serverNok => 0x01
  | maxMsgSizeNok => 0x02
  | smallMaxMsgSize => 0x03
  | okOngoingCall => 0x04

def status : ConnectionStatus → ConnStatus
  | ok => .ok
  | serverNok => .serverNok
  | maxMsgSizeNok => .maxMsgSizeNok
  | smallMaxMsgSize => .smallMaxMsgSize
  | okOngoingCall => .okOngoingCall

@[simp] theorem connStatusOf_byte (c : ConnectionStatus) : connStatusOf c.byte = c.status := by
  cases c <;> rfl

end ConnectionStatus

inductive CardStatus where
  | unknownError
  | cardReset
  | cardNok
  | cardRemoved
  | cardInserted
  | cardRecovered

namespace CardStatus

def byte : CardStatus → UInt8
  | unknownError => 0x00
  | cardReset => 0x01
  | cardNok => 0x02
  | cardRemoved => 0x03
  | cardInserted => 0x04
  | cardRecovered => 0x05

def change : CardStatus → StatusChange
  | unknownError => .unknownError
  | cardReset => .cardReset
  | cardNok => .cardNok
  | cardRemoved => .cardRemoved
  | cardInserted => .cardInserted
  | cardRecovered => .cardRecovered

@[simp] theorem statusChangeOf_byte (c : CardStatus) : statusChangeOf c.byte = c.change := by
  cases c <;> rfl

end CardStatus

inductive Refusal where
  | noReason
  | cardNok
  | cardOff
  | cardRemoved
  | cardOn

namespace Refusal

def byte : Refusal → UInt8
  | noReason => resultCodeErrorNoReason
  | cardNok => resultCodeErrorCardNok
  | cardOff => resultCodeErrorCardOff
  | cardRemoved => resultCodeErrorCardRemoved
  | cardOn => resultCodeErrorCardOn

def code : Refusal → ResultCode
  | noReason => .errorNoReason
  | cardNok => .errorCardNok
  | cardOff => .errorCardOff
  | cardRemoved => .errorCardRemoved
  | cardOn => .errorCardOn

@[simp] theorem resultCodeOf_byte (r : Refusal) : resultCodeOf r.byte = r.code := by cases r <;> rfl

end Refusal

/-- The requests that are answered with a result code. -/
inductive CardRequest where
  | powerOn
  | powerOff
  | reset
  | apdu
  | atr
deriving DecidableEq

def CardRequest.respId : CardRequest → UInt8
  | powerOn => msgIdPowerSimOnResp
  | powerOff => msgIdPowerSimOffResp
  | reset => msgIdResetSimResp
  | apdu => msgIdTransferApduResp
  | atr => msgIdTransferAtrResp

inductive Said where
  | connection (status : ConnStatus) (proposed : Option Nat)
  | disconnected
  | disconnecting
  | result (request : CardRequest) (code : ResultCode)
  | apdu (apduId : UInt8) (bytes : List UInt8)
  | atr (bytes : List UInt8)
  | status (change : StatusChange)
  | error

/-! ## What the service does when it is told -/

variable (limits : Limits) (s : Rsim) (paOk : Bool)

def takeProposal : Option Nat → Rsim
  | none => s
  | some size =>
    if size > limits.maxMsgSize ∨ size < limits.minMsgSize then s
    else (sendCardConnectRequest { s with maxMsgSize := size }).1

def toldConnection (status : ConnStatus) (proposed : Option Nat) : Rsim × Result :=
  let s := { s with sapState := .notConnected }
  match status with
  | .ok | .okOngoingCall => ({ s with sapState := .connected, sapSubState := .idle }, .ok)
  | .serverNok | .smallMaxMsgSize => noLink paOk (s, .ok)
  | .maxMsgSizeNok => noLink paOk (takeProposal limits s proposed, .ok)
  | .unknown => noLink paOk (s, .fault)

def toldPowerOn : ResultCode → Rsim × Result
  | .ok => sendATRRequest s .atrReset
  | .errorCardRemoved => handleCardRemoved s paOk
  | .errorNoReason => handleCardError s paOk .unknown
  | .errorCardOff | .errorCardNok => handleCardError s paOk .powerDown
  | .errorCardOn => handleCardWakeUp s paOk
  | _ => handleCardError s paOk .invalid

def toldPowerOff : ResultCode → Rsim × Result
  | .ok => (s, .ok)
  | .errorCardRemoved => handleCardRemoved s paOk
  | .errorNoReason | .errorNoData => handleCardError s paOk .unknown
  | .errorCardOff => handleCardError s paOk .powerDown
  | _ => handleCardError s paOk .invalid

def toldReset : ResultCode → Rsim × Result
  | .ok => sendATRRequest s .atrReset
  | .errorCardRemoved => handleCardRemoved s paOk
  | .errorNoReason | .errorNoData => handleCardError s paOk .unknown
  | .errorCardOff | .errorCardNok => handleCardError s paOk .powerDown
  | _ => handleCardError s paOk .invalid

/-- No APDU is transferred without its bytes. -/
def toldNoApdu : ResultCode → Rsim × Result
  | .errorCardRemoved => handleCardRemoved s paOk
  | .errorNoReason | .errorCardNok => handleCardError s paOk .unknown
  | .errorCardOff => handleCardError s paOk .powerDown
  | _ => handleCardError s paOk .invalid

def toldNoATR : ResultCode → Rsim × Result
  | .errorCardRemoved => handleCardRemoved s paOk
  | .errorNoReason | .errorNoData => handleCardError s paOk .unknown
  | .errorCardOff => handleCardError s paOk .powerDown
  | _ => handleCardError s paOk .invalid

def toldATR (bytes : List UInt8) : Rsim × Result :=
  if s.sapSubState = .atrReset then callModem s paOk (.sendCardReset bytes)
  else callModem s paOk (.sendCardInserted bytes)

def toldStatus : StatusChange → Rsim × Result
  | .unknownError => handleCardError s paOk .unknown
  | .cardReset => sendATRRequest s .atrReset
  | .cardNok => handleCardError s paOk .powerDown
  | .cardRemoved => handleCardRemoved s paOk
  | .cardInserted => sendATRRequest s .atrInsert
  | .cardRecovered => handleCardWakeUp s paOk
  | .unknown => (s, .fault)

def toldError : Rsim :=
  if s.sapState = .connecting then { s with sapState := .notConnected }
  else { s with sapSubState := .idle }

def told : Said → Rsim × Result
  | .connection status proposed => toldConnection limits s paOk status proposed
  | .disconnected =>
    ({ s with sapState := .notConnected, sapSubState := .idle, maxMsgSize := limits.maxMsgSize }, .ok)
  | .disconnecting => ((sendCardDisconnectRequest s).1, .ok)
  | .result .powerOn code => toldPowerOn { s with sapSubState := .idle } paOk code
  | .result .powerOff code => toldPowerOff { s with sapSubState := .idle } paOk code
  | .result .reset code => toldReset { s with sapSubState := .idle } paOk code
  | .result .apdu code => toldNoApdu { s with sapSubState := .idle } paOk code
  | .result .atr code => leaveATR (toldNoATR s paOk code)
  | .apdu apduId bytes =>
    ({ s with sapSubState := .idle, calls := s.calls ++ [.sendApdu apduId bytes] }, .ok)
  | .atr bytes => leaveATR (toldATR s paOk bytes)
  | .status change => toldStatus { s with sapSubState := .idle } paOk change
  | .error => (toldError s, .ok)

/-! ## The messages of the provider -/

inductive Response where
  | connect (errorCode : ErrorCode) (status : ConnectionStatus)
  | disconnect (errorCode : ErrorCode)
  | powerOn (errorCode : ErrorCode)
  | powerDown (errorCode : ErrorCode)
  | cardReset (errorCode : ErrorCode)
  | apdu (data : List UInt8) (apduId : UInt8) (errorCode : ErrorCode)
  | atr (responseAtr : List UInt8) (errorCode : ErrorCode)
  | refused (request : CardRequest) (refusal : Refusal)
  | status (change : CardStatus)
  | error

namespace Response

def message (maxMsgSize : Nat) (sap : Sap) : Response → List UInt8
  | connect errorCode c => sendConnectResponse maxMsgSize errorCode c.byte
  | disconnect errorCode => sendDisconnectResponse errorCode
  | powerOn errorCode => sendPowerOnResponse errorCode
  | powerDown errorCode => (sendPowerDownResponse sap errorCode).2
  | cardReset errorCode => sendCardResetResponse sap errorCode
  | apdu data apduId errorCode => sendAPDUResponse data apduId errorCode
  | atr responseAtr errorCode => sendATRResponse responseAtr errorCode
  | refused request refusal => sendResultCodeResponse request.respId refusal.byte
  | status change => sendStatusInd change.byte
  | error => sendErrorResponse

/-- The result is told with the code the provider sets for it. Where it sets none for a
failure, any code of an error tells the failure. -/
def TellsResult (request : CardRequest) (errorCode : ErrorCode) (chosen : Option ResultCode)
    (said : Said) : Prop :=
  ∃ code, said = .result request code ∧
    (errorCode = .success → code = .ok) ∧
    (errorCode ≠ .success → code ≠ .ok ∧ ∀ c, chosen = some c → code = c)

def Says (maxMsgSize : Nat) (sap : Sap) : Response → Said → Prop
  | connect errorCode c, said =>
    said = .connection c.status
      (if errorCode ≠ .success ∧ c = .maxMsgSizeNok then some maxMsgSize else none)
  | disconnect errorCode, said =>
    said = if errorCode = .success then .disconnected else .disconnecting
  | powerOn errorCode, said => TellsResult .powerOn errorCode (some .errorNoReason) said
  | powerDown errorCode, said =>
    TellsResult .powerOff errorCode (if sap.cardpoweredOn then none else some .errorCardOn) said
  | cardReset errorCode, said =>
    TellsResult .reset errorCode (if sap.cardpoweredOn then some .errorCardOn else none) said
  | apdu data apduId errorCode, said =>
    said = if errorCode = .success then .apdu apduId data else .result .apdu .errorNoReason
  | atr responseAtr errorCode, said =>
    said =
      if errorCode = .success then
        if responseAtr = [] then .result .atr .errorNoData else .atr responseAtr
      else .result .atr .errorNoReason
  | refused request refusal, said => said = .result request refusal.code
  | status change, said => said = .status change.change
  | error, said => said = .error

end Response

def CardRequest.Awaited (s : Rsim) : CardRequest → Prop
  | powerOn => s.sapSubState = .powerOn
  | powerOff => s.sapSubState = .powerOff
  | reset => s.sapSubState = .reset
  | apdu => s.sapSubState = .apdu
  | atr => s.sapSubState = .atrReset ∨ s.sapSubState = .atrInsert

/-- The service is in the state that expects the message. -/
def Response.Awaited (s : Rsim) : Response → Prop
  | connect .. => s.sapState = .connecting
  | disconnect errorCode =>
    s.sapState = .connected ∧ (errorCode = .success → s.sapSubState = .disconnect)
  | powerOn _ => s.sapState = .connected ∧ CardRequest.Awaited s .powerOn
  | powerDown _ => s.sapState = .connected ∧ CardRequest.Awaited s .powerOff
  | cardReset _ => s.sapState = .connected ∧ CardRequest.Awaited s .reset
  | apdu .. => s.sapState = .connected ∧ CardRequest.Awaited s .apdu
  | atr .. => s.sapState = .connected ∧ CardRequest.Awaited s .atr
  | refused request _ => s.sapState = .connected ∧ CardRequest.Awaited s request
  | status .. => s.sapState = .connected
  | error => s.sapState ≠ .notConnected

/-- The message has the bytes, in a memory of any content behind them. -/
def Carries (m : ClientMsg) (bytes : List UInt8) : Prop :=
  m.msgSize = bytes.length ∧ ∀ i b, bytes[i]? = some b → m.msg i = b

/-- Told by the bytes or told by what the provider says, the service does the same. -/
def Understood (i : Interfaces) (sap : Sap) (s : Rsim) (paOk : Bool) (r : Response) : Prop :=
  ∀ m, Carries m (r.message i.sapMaxMsgSize sap) →
    ∃ said, r.Says i.sapMaxMsgSize sap said ∧
      handleClientMsg i.toLimits s m paOk = told i.toLimits s paOk said

/-- The message is not one of those that the two sides lay out differently, nor one that has no
code for a failure. -/
def Response.Consistent (sap : Sap) : Response → Prop
  | connect _ c => c ≠ .maxMsgSizeNok
  | powerOn errorCode => errorCode = .success
  | powerDown errorCode => errorCode = .success ∨ sap.cardpoweredOn = false
  | cardReset errorCode => errorCode = .success ∨ sap.cardpoweredOn = true
  | _ => True

/-! ## What is read of a message -/

section Carries

variable {m : ClientMsg} {msgId count paramId value : UInt8} {rest : List UInt8}

def plainMsg (bytes : List UInt8) : ClientMsg where
  msg i := bytes.getD i 0
  msgSize := bytes.length

theorem carries_plainMsg (bytes : List UInt8) : Carries (plainMsg bytes) bytes := by
  refine ⟨rfl, ?_⟩
  intro i b hb
  simp [plainMsg, hb]

section

variable (h : Carries m (sapMsg msgId count paramId value rest))
include h

theorem Carries.readRest (i : Nat) (b : UInt8) (hb : rest[i]? = some b) : m.msg (12 + i) = b := by
  apply h.2
  rw [sapMsg, getElem?_append_right (by simp)]
  simpa using hb

theorem Carries.readMsgId : m.msg 0 = msgId := h.2 0 msgId (by simp [sapMsg])

theorem Carries.readCount : m.msg 1 = count := h.2 1 count (by simp [sapMsg])

theorem Carries.readParamId : m.msg 4 = paramId := h.2 4 paramId (by simp [sapMsg])

theorem Carries.readValue : m.msg 8 = value := h.2 8 value (by simp [sapMsg])

theorem Carries.readParamLength : m.read16 6 = 1 := by
  have h6 : m.msg 6 = 0x00 := h.2 6 _ (by simp [sapMsg])
  have h7 : m.msg 7 = 0x01 := h.2 7 _ (by simp [sapMsg])
  simp [read16, h6, h7]

theorem Carries.readSize : m.msgSize = 12 + rest.length := by
  rw [h.1]
  simp [sapMsg]
  omega

theorem Carries.verified
    (hcnt : 1 ≤ count.toNat) : m.verified (m.verifyParameter paramId 1 1) = true := by
  have hsize := h.readSize
  simp [ClientMsg.verified, ClientMsg.verifyMessageLength, ClientMsg.verifyParameterCount,
    ClientMsg.verifyParameter, ClientMsg.verifyParamId, ClientMsg.verifyParamLength,
    lengthSapHeader, lengthParam, h.readParamId, h.readCount, h.readParamLength, hcnt]
  omega

end

theorem Carries.not_verified (h : Carries m (sapMsg msgId 0 paramId value rest))
    (parameter : Bool) : m.verified parameter = false := by
  simp [ClientMsg.verified, ClientMsg.verifyParameterCount, h.readCount]

theorem toNat_highByte {n : Nat} (h : n < 65536) : (highByte n).toNat = n / 256 := by
  simp [highByte]
  omega

theorem toNat_lowByte (n : Nat) : (lowByte n).toNat = n % 256 := by simp [lowByte]

theorem read16_of_bytes {pos n : Nat} (h : n < 65536) (hhigh : m.msg pos = highByte n)
    (hlow : m.msg (pos + 1) = lowByte n) : m.read16 pos = n := by
  rw [read16, hhigh, hlow, toNat_highByte h, toNat_lowByte]
  omega

variable {longId : UInt8} {data : List UInt8}

section

variable (h : Carries m (sapMsg msgId count paramId value (longParam longId data)))
include h

theorem Carries.readLongId : m.msg 12 = longId := h.readRest 0 longId (by simp [longParam])

theorem Carries.readLongLength (hdata : data.length < 65536) : m.read16 14 = data.length :=
  read16_of_bytes hdata (h.readRest 2 _ (by simp [longParam])) (h.readRest 3 _ (by simp [longParam]))

theorem Carries.payload (hdata : data.length < 65536) : m.payload = data := by
  apply ext_getElem
  · simp [ClientMsg.payload, h.readLongLength hdata]
  intro i _ hi
  have hread : m.msg (12 + (4 + i)) = data[i] := by
    apply h.readRest
    rw [longParam, append_assoc, getElem?_append_right (by simp)]
    rw [getElem?_append_left (by simpa using hi)]
    simp
  simpa [ClientMsg.payload, ← Nat.add_assoc] using hread

end

theorem length_longParam (longId : UInt8) (data : List UInt8) :
    (longParam longId data).length = 4 + (data.length + 3) / 4 * 4 := by
  simp [longParam]
  omega

end Carries

/-! ## The handlers told by bytes -/

section Handlers

variable {s : Rsim} {m : ClientMsg} {msgId count value : UInt8} {rest : List UInt8}

/-- A response that is awaited and counts its parameter is handled by its code. -/
theorem handleResponse_of_carries {awaited : SapSubState}
    {byResult : Rsim → ResultCode → Rsim × Result} (hs : s.sapState = .connected)
    (hsub : s.sapSubState = awaited) (hcnt : 1 ≤ count.toNat)
    (h : Carries m (sapMsg msgId count paramIdResultCode value rest)) :
    handleResponse s m awaited byResult =
      byResult { s with sapSubState := .idle } (resultCodeOf value) := by
  have hver : m.verified m.verifyResultCodeParameter = true := h.verified hcnt
  simp [handleResponse, hs, hsub, hver, h.readValue]

variable {limits : Limits} {paOk : Bool}

theorem handleATRResponse_of_carries (hs : s.sapState = .connected)
    (hsub : CardRequest.Awaited s .atr) (hcnt : 1 ≤ count.toNat)
    (h : Carries m (sapMsg msgId count paramIdResultCode value rest)) :
    handleATRResponse s m paOk =
      leaveATR (if resultCodeOf value = .ok then forwardATR s m paOk
        else toldNoATR s paOk (resultCodeOf value)) := by
  have hver : m.verified m.verifyResultCodeParameter = true := h.verified hcnt
  have hawt : ¬ (s.sapSubState ≠ .atrReset ∧ s.sapSubState ≠ .atrInsert) := by
    simp only [CardRequest.Awaited] at hsub
    tauto
  simp only [handleATRResponse, hs, hawt, hver, h.readValue]
  cases resultCodeOf value <;> simp [toldNoATR]

variable (limits paOk) in
theorem handle_result (request : CardRequest) (hs : s.sapState = .connected)
    (hawt : request.Awaited s) (hcnt : 1 ≤ count.toNat)
    (hdata : request = .apdu ∨ request = .atr → resultCodeOf value ≠ .ok)
    (h : Carries m (sapMsg request.respId count paramIdResultCode value rest)) :
    handleClientMsg limits s m paOk =
      told limits s paOk (.result request (resultCodeOf value)) := by
  have hid : m.id = msgIdOf request.respId := by rw [ClientMsg.id, h.readMsgId]
  cases request with
  | powerOn =>
    simp only [handleClientMsg, hid, handleCardPowerUp, handleResponse_of_carries hs hawt hcnt h]
    cases resultCodeOf value <;> rfl
  | powerOff =>
    simp only [handleClientMsg, hid, handleCardPowerDown, handleResponse_of_carries hs hawt hcnt h]
    cases resultCodeOf value <;> rfl
  | reset =>
    simp only [handleClientMsg, hid, handleResetResponse, handleResponse_of_carries hs hawt hcnt h]
    cases resultCodeOf value <;> rfl
  | apdu =>
    have hcode := hdata (.inl rfl)
    simp only [handleClientMsg, hid, handleApduTransfer, handleResponse_of_carries hs hawt hcnt h]
    cases hvalu : resultCodeOf value <;> first | exact absurd hvalu hcode | rfl
  | atr =>
    have hid : m.id = .transferAtrResp := hid
    have hcode := hdata (.inr rfl)
    simp only [handleClientMsg, hid, handleATRResponse_of_carries hs hawt hcnt h, if_neg hcode,
      told]

section

variable (hs : s.sapState = .connected)
include hs

/-- The bytes of an APDU and its identifier arrive, if the service has a place for them. -/
theorem handle_apdu {apduId : UInt8} {data : List UInt8}
    (hawt : CardRequest.Awaited s .apdu) (hdata : data.length < 65536)
    (hfits : 16 + data.length ≤ limits.maxMsgSize)
    (h : Carries m (sapMsg msgIdTransferApduResp 2 paramIdResultCode resultCodeOk
      (longParam apduId data))) :
    handleClientMsg limits s m paOk = told limits s paOk (.apdu apduId data) := by
  have hid : m.id = .transferApduResp := by rw [ClientMsg.id, h.readMsgId]; rfl
  have hver : m.verifyMessageLength 1 = true ∧ m.verifyParameterCount 1 = true := by
    have hv := h.verified (by decide)
    simp only [ClientMsg.verified, Bool.and_eq_true] at hv
    exact hv.1
  have hplc : ¬ 16 + m.read16 14 > limits.maxMsgSize := by
    rw [h.readLongLength hdata]
    omega
  have hok : resultCodeOf resultCodeOk = .ok := rfl
  simp [handleClientMsg, hid, handleApduTransfer, handleResponse_of_carries hs hawt (by decide) h,
    hok, sendApduResp, hver, hplc, h.readLongId, h.payload hdata, told]

theorem handle_atr {data : List UInt8}
    (hawt : CardRequest.Awaited s .atr) (hdata : data.length < 65536) (hne : data ≠ [])
    (h : Carries m (sapMsg msgIdTransferAtrResp 2 paramIdResultCode resultCodeOk
      (longParam paramIdAtr data))) :
    handleClientMsg limits s m paOk = told limits s paOk (.atr data) := by
  have hid : m.id = .transferAtrResp := by rw [ClientMsg.id, h.readMsgId]; rfl
  have hlen : m.verifyMessageLength 2 = true := by
    have hpos := length_pos_iff.2 hne
    have hsize := h.readSize
    rw [length_longParam] at hsize
    apply decide_eq_true
    simp only [lengthSapHeader, lengthParam]
    omega
  have hcnt : m.verifyParameterCount 2 = true := by
    simp [ClientMsg.verifyParameterCount, h.readCount]
  have hpara : m.verifyATRParameter = true := by
    simp [ClientMsg.verifyATRParameter, ClientMsg.verifyParamId, lengthSapHeader, lengthParam,
      h.readLongId]
  have hok : resultCodeOf resultCodeOk = .ok := rfl
  simp only [handleClientMsg, hid, handleATRResponse_of_carries hs hawt (by decide) h, hok,
    if_true, forwardATR, hlen, hcnt, hpara, and_self, told, toldATR, handleCardReset,
    handleCardInserted, h.payload hdata]
  obtain hrset | hinse := hawt
  · simp [hrset]
  · simp [hinse]

theorem handle_status {change : CardStatus} (h : Carries m (sendStatusInd change.byte)) :
    handleClientMsg limits s m paOk = told limits s paOk (.status change.change) := by
  have hid : m.id = .statusInd := by rw [ClientMsg.id, Carries.readMsgId h]; rfl
  have hver : m.verified m.verifyStatusChangeParameter = true := Carries.verified h (by decide)
  simp only [handleClientMsg, hid, handleStatusInd, hs, hver, Carries.readValue h,
    CardStatus.statusChangeOf_byte, told]
  cases change <;> rfl

theorem handle_disconnecting (h : Carries m sendDisconnectInd) :
    handleClientMsg limits s m paOk = told limits s paOk .disconnecting := by
  have hid : m.id = .disconnectInd := by rw [ClientMsg.id, Carries.readMsgId h]; rfl
  have hver : m.verified m.verifyDisconnectParameter = true := Carries.verified h (by decide)
  simp [handleClientMsg, hid, handleCardDisconnectInd, hs, hver, Carries.readValue h, told,
    disconnectTypeGraceful]

theorem handle_disconnected (hsub : s.sapSubState = .disconnect)
    (h : Carries m [msgIdDisconnectResp, 0x00, 0x00, 0x00]) :
    handleClientMsg limits s m paOk = told limits s paOk .disconnected := by
  have hread : m.msg 0 = msgIdDisconnectResp := h.2 0 _ (by simp)
  have hid : m.id = .disconnectResp := by rw [ClientMsg.id, hread]; rfl
  simp [handleClientMsg, hid, handleCardDisconnectResp, hs, hsub, told]

end

theorem handle_error (hs : s.sapState ≠ .notConnected) (h : Carries m sendErrorResponse) :
    handleClientMsg limits s m paOk = told limits s paOk .error := by
  have hread : m.msg 0 = msgIdErrorResp := h.2 0 _ (by simp [sendErrorResponse])
  have hid : m.id = .errorResp := by rw [ClientMsg.id, hread]; rfl
  cases hst : s.sapState with
  | notConnected => exact absurd hst hs
  | connecting | connected => simp [handleClientMsg, hid, handleErrorResp, hst, told, toldError]

variable (limits paOk) in
/-- Where no size is proposed, the status is all a connect response says. -/
theorem handle_connect (c : ConnectionStatus) (hs : s.sapState = .connecting)
    (hcnt : 1 ≤ count.toNat)
    (h : Carries m (sapMsg msgIdConnectResp count paramIdConnectionStatus c.byte rest)) :
    handleClientMsg limits s m paOk =
      if c = .maxMsgSizeNok then
        noLink paOk (proposeMaxMsgSize limits { s with sapState := .notConnected } m)
      else told limits s paOk (.connection c.status none) := by
  have hid : m.id = .connectResp := by rw [ClientMsg.id, h.readMsgId]; rfl
  have hver : m.verified m.verifyConnectionParameter = true := h.verified hcnt
  simp only [handleClientMsg, hid, handleCardConnect, hs, hver, h.readValue,
    ConnectionStatus.connStatusOf_byte, told]
  cases c <;> rfl

end Handlers

/-! ## Messages that are understood -/

section Understood

variable {i : Interfaces} {sap : Sap} {s : Rsim} {paOk : Bool}

theorem understood_of_told {r : Response} (said : Said) (htell : r.Says i.sapMaxMsgSize sap said)
    (htold : ∀ m, Carries m (r.message i.sapMaxMsgSize sap) →
      handleClientMsg i.toLimits s m paOk = told i.toLimits s paOk said) :
    Understood i sap s paOk r :=
  fun m h => ⟨said, htell, htold m h⟩

theorem length_dataMsg (msgId count paramId value longId : UInt8) (data : List UInt8) :
    data.length + 16 ≤ (sapMsg msgId count paramId value (longParam longId data)).length := by
  simp [sapMsg, length_longParam]
  omega

variable {data : List UInt8}

/-- What fits the provider's buffer is a payload the service has a place for. -/
theorem payload_fits {msgId count paramId value longId : UInt8}
    (hfits : (sapMsg msgId count paramId value (longParam longId data)).length ≤ i.sapMaxMsgSize) :
    16 + data.length ≤ i.maxMsgSize ∧ data.length < 65536 := by
  have hlen := length_dataMsg msgId count paramId value longId data
  have hsap := i.sap_le
  have htwo := i.two_bytes
  omega

theorem understood_powerOn (hawt : (Response.powerOn .success).Awaited s) :
    Understood i sap s paOk (.powerOn .success) := by
  apply understood_of_told (.result .powerOn .ok)
  · exact ⟨.ok, rfl, fun _ => rfl, fun h => absurd rfl h⟩
  · intro m h
    exact handle_result _ _ _ hawt.1 hawt.2 (by decide) (by simp) h

variable {e : ErrorCode}

theorem understood_powerDown (hawt : (Response.powerDown e).Awaited s)
    (hcode : e = .success ∨ sap.cardpoweredOn = false) :
    Understood i sap s paOk (.powerDown e) := by
  cases e with
  | success =>
    apply understood_of_told (.result .powerOff .ok)
    · exact ⟨.ok, rfl, fun _ => rfl, fun h => absurd rfl h⟩
    · intro m h
      exact handle_result _ _ _ hawt.1 hawt.2 (by decide) (by simp) h
  | genericFailure =>
    have hoff : sap.cardpoweredOn = false := by simpa using hcode
    apply understood_of_told (.result .powerOff .errorCardOn)
    · exact ⟨.errorCardOn, rfl, by simp, by simp [hoff]⟩
    intro m h
    simp only [Response.message, sendPowerDownResponse, hoff] at h
    exact handle_result _ _ _ hawt.1 hawt.2 (by decide) (by simp) h

theorem understood_cardReset (hawt : (Response.cardReset e).Awaited s)
    (hcode : e = .success ∨ sap.cardpoweredOn = true) :
    Understood i sap s paOk (.cardReset e) := by
  cases e with
  | success =>
    apply understood_of_told (.result .reset .ok)
    · exact ⟨.ok, rfl, fun _ => rfl, fun h => absurd rfl h⟩
    · intro m h
      exact handle_result _ _ _ hawt.1 hawt.2 (by decide) (by simp) h
  | genericFailure =>
    have hon : sap.cardpoweredOn = true := by simpa using hcode
    apply understood_of_told (.result .reset .errorCardOn)
    · exact ⟨.errorCardOn, rfl, by simp, by simp [hon]⟩
    intro m h
    simp only [Response.message, sendCardResetResponse, hon] at h
    exact handle_result _ _ _ hawt.1 hawt.2 (by decide) (by simp) h

theorem understood_apdu {apduId : UInt8} (hawt : (Response.apdu data apduId e).Awaited s)
    (hfits : ((Response.apdu data apduId e).message i.sapMaxMsgSize sap).length ≤ i.sapMaxMsgSize) :
    Understood i sap s paOk (.apdu data apduId e) := by
  cases e with
  | success =>
    have hplc := payload_fits hfits
    apply understood_of_told (.apdu apduId data)
    · rfl
    · intro m h
      exact handle_apdu hawt.1 hawt.2 hplc.2 hplc.1 h
  | genericFailure =>
    apply understood_of_told (.result .apdu .errorNoReason)
    · rfl
    · intro m h
      exact handle_result _ _ .apdu hawt.1 hawt.2 (by decide) (by decide) h

theorem understood_atr (hawt : (Response.atr data e).Awaited s)
    (hfits : ((Response.atr data e).message i.sapMaxMsgSize sap).length ≤ i.sapMaxMsgSize) :
    Understood i sap s paOk (.atr data e) := by
  cases e with
  | success =>
    by_cases hemp : data = []
    · apply understood_of_told (.result .atr .errorNoData)
      · simp [Response.Says, hemp]
      intro m h
      simp only [Response.message, sendATRResponse, hemp] at h
      exact handle_result _ _ .atr hawt.1 hawt.2 (by decide) (by decide) h
    simp only [Response.message, sendATRResponse, hemp] at hfits
    apply understood_of_told (.atr data)
    · simp [Response.Says, hemp]
    intro m h
    simp only [Response.message, sendATRResponse, hemp] at h
    exact handle_atr hawt.1 hawt.2 (payload_fits hfits).2 hemp h
  | genericFailure =>
    apply understood_of_told (.result .atr .errorNoReason)
    · rfl
    · intro m h
      exact handle_result _ _ .atr hawt.1 hawt.2 (by decide) (by decide) h

theorem understood_refused {request : CardRequest} {refusal : Refusal}
    (hawt : (Response.refused request refusal).Awaited s) :
    Understood i sap s paOk (.refused request refusal) := by
  apply understood_of_told (.result request refusal.code)
  · rfl
  intro m h
  have hcode : resultCodeOf refusal.byte ≠ .ok := by cases refusal <;> decide
  rw [← refusal.resultCodeOf_byte]
  exact handle_result _ _ _ hawt.1 hawt.2 (by decide) (fun _ => hcode) h

theorem understood_disconnect (hawt : (Response.disconnect e).Awaited s) :
    Understood i sap s paOk (.disconnect e) := by
  cases e with
  | success =>
    apply understood_of_told .disconnected
    · rfl
    · intro m h
      exact handle_disconnected hawt.1 (hawt.2 rfl) h
  | genericFailure =>
    apply understood_of_told .disconnecting
    · rfl
    · intro m h
      exact handle_disconnecting hawt.1 h

theorem understood_connect {c : ConnectionStatus}
    (hawt : (Response.connect e c).Awaited s) (hc : c ≠ .maxMsgSizeNok) :
    Understood i sap s paOk (.connect e c) := by
  have hbyte : c.byte ≠ connStatusMaxMsgSizeNok := by
    cases c <;> first | exact absurd rfl hc | decide
  apply understood_of_told (.connection c.status none)
  · simp [Response.Says, hc]
  intro m h
  simp only [Response.message, sendConnectResponse, hbyte, and_false, if_false] at h
  rw [handle_connect _ _ _ hawt (by decide) h, if_neg hc]

/-! ## Messages that are misunderstood -/

variable {m : ClientMsg}

theorem handle_powerOn_uncounted {value : UInt8} {rest : List UInt8}
    {limits : Limits} (hs : s.sapState = .connected) (hsub : s.sapSubState = .powerOn)
    (h : Carries m (sapMsg msgIdPowerSimOnResp 0 paramIdResultCode value rest)) :
    handleClientMsg limits s m paOk = (s, .formatError) := by
  have hid : m.id = .powerSimOnResp := by rw [ClientMsg.id, h.readMsgId]; rfl
  simp [handleClientMsg, hid, handleCardPowerUp, handleResponse, hs, hsub, h.not_verified]

theorem told_powerOn_format (limits : Limits) (s : Rsim) (paOk : Bool) (code : ResultCode) :
    (told limits s paOk (.result .powerOn code)).2 ≠ .formatError := by
  cases code <;> cases paOk <;> simp [told, toldPowerOn, sendATRRequest, handleCardRemoved,
    handleCardError, handleCardWakeUp, callModem]

theorem powerOn_misunderstood (hawt : (Response.powerOn e).Awaited s)
    (he : e ≠ .success) : ¬ Understood i sap s paOk (.powerOn e) := by
  intro hundr
  have hcarr := carries_plainMsg ((Response.powerOn e).message i.sapMaxMsgSize sap)
  obtain ⟨said, ⟨code, hsaid, -⟩, htold⟩ := hundr _ hcarr
  simp only [Response.message, sendPowerOnResponse, he, if_false] at hcarr
  rw [hsaid] at htold
  apply told_powerOn_format i.toLimits s paOk code
  rw [← htold]
  simp only [Response.message, sendPowerOnResponse, he, if_false]
  rw [handle_powerOn_uncounted hawt.1 hawt.2 hcarr]

theorem calls_told_failure (limits : Limits) (s : Rsim) (paOk : Bool) {code : ResultCode}
    (hcode : code ≠ .ok) :
    (told limits s paOk (.result .powerOff code)).1.calls ≠ s.calls ∧
      (told limits s paOk (.result .reset code)).1.calls ≠ s.calls := by
  cases code <;> simp [told, toldPowerOff, toldReset, handleCardRemoved, handleCardError,
    callModem] at hcode ⊢

theorem powerDown_misunderstood (hawt : (Response.powerDown e).Awaited s)
    (he : e ≠ .success) (hon : sap.cardpoweredOn = true) :
    ¬ Understood i sap s paOk (.powerDown e) := by
  intro hundr
  have hcarr := carries_plainMsg ((Response.powerDown e).message i.sapMaxMsgSize sap)
  obtain ⟨said, ⟨code, hsaid, -, hcode⟩, htold⟩ := hundr _ hcarr
  have hmsg : (Response.powerDown e).message i.sapMaxMsgSize sap =
      sapMsg CardRequest.powerOff.respId 1 paramIdResultCode 0x00 [] := by
    simp [Response.message, sendPowerDownResponse, he, hon, CardRequest.respId]
  rw [hmsg] at hcarr htold
  -- The zero of the buffer is the code of a success.
  have hok := handle_result i.toLimits paOk _ hawt.1 hawt.2 (by decide) (by simp) hcarr
  rw [hok, hsaid] at htold
  apply (calls_told_failure i.toLimits s paOk (hcode he).1).1
  rw [← htold]
  rfl

theorem cardReset_misunderstood (hawt : (Response.cardReset e).Awaited s)
    (he : e ≠ .success) (hoff : sap.cardpoweredOn = false) :
    ¬ Understood i sap s paOk (.cardReset e) := by
  intro hundr
  have hcarr := carries_plainMsg ((Response.cardReset e).message i.sapMaxMsgSize sap)
  obtain ⟨said, ⟨code, hsaid, -, hcode⟩, htold⟩ := hundr _ hcarr
  have hmsg : (Response.cardReset e).message i.sapMaxMsgSize sap =
      sapMsg CardRequest.reset.respId 1 paramIdResultCode 0x00 [] := by
    simp [Response.message, sendCardResetResponse, he, hoff, CardRequest.respId]
  rw [hmsg] at hcarr htold
  have hok := handle_result i.toLimits paOk _ hawt.1 hawt.2 (by decide) (by simp) hcarr
  rw [hok, hsaid] at htold
  apply (calls_told_failure i.toLimits s paOk (hcode he).1).2
  rw [← htold]
  rfl

/-- A size that is proposed in its parameter is taken for a fault of the format. -/
theorem proposal_refused (limits : Limits) (s : Rsim) {size : Nat}
    (h : Carries m (sapMsg msgIdConnectResp 2 paramIdConnectionStatus connStatusMaxMsgSizeNok
      [paramIdMaxMsgSize, 0x00, 0x00, 0x02, highByte size, lowByte size, 0x00, 0x00])) :
    proposeMaxMsgSize limits s m = (s, .formatError) := by
  have hsize := h.readSize
  have hlen : m.verifyMessageLength 2 = true := by
    simp [verifyMessageLength, hsize, lengthSapHeader, lengthParam]
  have hcnt : m.verifyParameterCount 2 = true := by
    simp [verifyParameterCount, h.readCount]
  have hid : m.msg 12 = paramIdMaxMsgSize := h.readRest 0 _ rfl
  have hhigh : m.msg 14 = highByte 2 := h.readRest 2 _ rfl
  have hlow : m.msg 15 = lowByte 2 := h.readRest 3 _ rfl
  have htwo : m.read16 14 = 2 := read16_of_bytes (by decide) hhigh hlow
  have hpara : m.verifyMaxMsgSizeParameter = true := by
    simp [verifyMaxMsgSizeParameter, verifyParameter, verifyParamId,
      verifyParamLength, lengthSapHeader, lengthParam, hid, htwo]
  simp [proposeMaxMsgSize, hlen, hcnt, hpara]

/-- Where the message ends before, the size is what the memory held. -/
theorem proposal_from_memory (hsize : m.msgSize = 12) (hread : m.read16 16 = i.maxMsgSize) :
    (proposeMaxMsgSize i.toLimits { s with sapState := .notConnected } m).1.sapState =
      .connecting := by
  have hlen : m.verifyMessageLength 2 = false := by
    simp [verifyMessageLength, hsize, lengthSapHeader, lengthParam]
  have hmin : ¬ i.maxMsgSize < i.minMsgSize := Nat.not_lt.2 i.min_le
  simp [proposeMaxMsgSize, hlen, hread, hmin, sendCardConnectRequest, report]

/-- A message with a size in the memory behind it. -/
def msgBefore (bytes : List UInt8) (size : Nat) : ClientMsg where
  msg n := if n = 16 then highByte size else if n = 17 then lowByte size else bytes.getD n 0
  msgSize := bytes.length

theorem carries_msgBefore (msgId count paramId value : UInt8) (size : Nat) :
    Carries (msgBefore (sapMsg msgId count paramId value []) size)
      (sapMsg msgId count paramId value []) := by
  refine ⟨rfl, ?_⟩
  intro n b hb
  have hn : n < 12 := (List.getElem?_eq_some_iff.1 hb).1
  have h16 : n ≠ 16 := by omega
  have h17 : n ≠ 17 := by omega
  simp [msgBefore, h16, h17, hb]

theorem read16_msgBefore (bytes : List UInt8) {size : Nat} (h : size < 65536) :
    (msgBefore bytes size).read16 16 = size :=
  read16_of_bytes h rfl rfl

theorem connect_misunderstood (hawt : (Response.connect e .maxMsgSizeNok).Awaited s) :
    ¬ Understood i sap s paOk (.connect e .maxMsgSizeNok) := by
  intro hundr
  cases e with
  | genericFailure =>
    have hcarr :=
      carries_plainMsg ((Response.connect .genericFailure .maxMsgSizeNok).message i.sapMaxMsgSize sap)
    obtain ⟨said, hsaid, htold⟩ := hundr _ hcarr
    have hprop := handle_connect i.toLimits paOk .maxMsgSizeNok hawt (by decide) hcarr
    rw [if_pos rfl, proposal_refused i.toLimits _ hcarr] at hprop
    rw [hprop, hsaid] at htold
    have hres : Result.formatError = Result.ok := congrArg Prod.snd htold
    cases hres
  | success =>
    have hcarr := carries_msgBefore msgIdConnectResp 1 paramIdConnectionStatus
      connStatusMaxMsgSizeNok i.maxMsgSize
    obtain ⟨said, hsaid, htold⟩ := hundr _ hcarr
    have hprop := handle_connect i.toLimits paOk .maxMsgSizeNok hawt (by decide) hcarr
    have hcong := proposal_from_memory (s := s) (i := i) hcarr.1
      (read16_msgBefore _ i.two_bytes)
    rw [hprop, hsaid] at htold
    have hst : SapState.connecting = SapState.notConnected :=
      hcong.symm.trans (congrArg (fun r => r.1.sapState) htold)
    cases hst

/-- A message that fits and is awaited is understood if and only if it is consistent. -/
theorem understood_iff {r : Response} (hawt : r.Awaited s)
    (hfits : (r.message i.sapMaxMsgSize sap).length ≤ i.sapMaxMsgSize) :
    Understood i sap s paOk r ↔ r.Consistent sap := by
  cases r with
  | connect e c =>
    constructor
    · intro h hc
      subst hc
      exact connect_misunderstood hawt h
    · exact understood_connect hawt
  | disconnect e => exact iff_of_true (understood_disconnect hawt) trivial
  | powerOn e =>
    constructor
    · intro h
      by_contra he
      exact powerOn_misunderstood hawt he h
    · intro he
      cases he
      exact understood_powerOn hawt
  | powerDown e =>
    constructor
    · intro h
      by_contra hcode
      simp only [Response.Consistent, not_or, Bool.not_eq_false] at hcode
      exact powerDown_misunderstood hawt hcode.1 hcode.2 h
    · exact understood_powerDown hawt
  | cardReset e =>
    constructor
    · intro h
      by_contra hcode
      simp only [Response.Consistent, not_or, Bool.not_eq_true] at hcode
      exact cardReset_misunderstood hawt hcode.1 hcode.2 h
    · exact understood_cardReset hawt
  | apdu data apduId e => exact iff_of_true (understood_apdu hawt hfits) trivial
  | atr data e => exact iff_of_true (understood_atr hawt hfits) trivial
  | refused request refusal => exact iff_of_true (understood_refused hawt) trivial
  | status change =>
    refine iff_of_true ?_ trivial
    apply understood_of_told (.status change.change)
    · rfl
    · intro m h
      exact handle_status hawt h
  | error =>
    refine iff_of_true ?_ trivial
    apply understood_of_told .error
    · rfl
    · intro m h
      exact handle_error hawt h

end Understood

/-! ## Command APDUs -/

structure ApduData where
  bytes : List UInt8
  nonempty : bytes ≠ []
  short : bytes.length < 256

/-- The four cases of a command, by what follows its header. -/
inductive CommandBody where
  | case1
  | case2 (le : UInt8)
  | case3 (data : ApduData)
  | case4 (data : ApduData) (le : UInt8)

structure CommandApdu where
  cla : UInt8
  instruction : UInt8
  p1 : UInt8
  p2 : UInt8
  body : CommandBody

namespace CommandBody

def data : CommandBody → List UInt8
  | case1 | case2 _ => []
  | case3 data | case4 data _ => data.bytes

def le : CommandBody → UInt8
  | case1 | case3 _ => 0
  | case2 le | case4 _ le => le

def bytes : CommandBody → List UInt8
  | case1 => []
  | case2 le => [le]
  | case3 data => UInt8.ofNat data.bytes.length :: data.bytes
  | case4 data le => UInt8.ofNat data.bytes.length :: (data.bytes ++ [le])

end CommandBody

namespace CommandApdu

variable (c : CommandApdu)

def bytes : List UInt8 := [c.cla, c.instruction, c.p1, c.p2] ++ c.body.bytes

/-- The fields of the command, as the provider should pass them on. -/
def request (id : UInt32) : ApduRequest where
  apduId := id.toUInt8
  cla := c.cla
  instruction := c.instruction
  p1 := c.p1
  p2 := c.p2
  lc := UInt8.ofNat c.body.data.length
  data := c.body.data
  le := c.body.le

/-- Le is looked for eight bytes before its place: in the length of the APDU, its header, Lc or
its data. -/
def LeFound : Prop :=
  match c.body with
  | .case4 data le =>
    ([0x00, 0x08, c.cla, c.instruction, c.p1, c.p2, 0x07] ++ data.bytes)[data.bytes.length - 1]? =
      some le
  | _ => True

end CommandApdu

/-- The bytes of a request lie in the buffer. -/
def Holds (buf : Nat → UInt8) (bytes : List UInt8) : Prop :=
  ∀ i b, bytes[i]? = some b → buf i = b

/-- With a card that is connected and has power, the request that the service reports is passed
on as the command it was built for. -/
def Transferred (s : Rsim) (id : UInt32) (c : CommandApdu) : Prop :=
  ∀ bytes buf, (sendApduRequest s id c.bytes).1.reported = s.reported ++ [bytes] →
    Holds buf bytes → sendApduToSim ⟨true, true⟩ false buf = .ok (c.request id)

section Transferred

variable {buf : Nat → UInt8} {id : UInt32} {c : CommandApdu}

theorem Holds.head {apdu : List UInt8} (h : Holds buf (RemoteSim.apduRequest id apdu)) :
    buf 4 = id.toUInt8 ∧ buf 6 = highByte apdu.length ∧ buf 7 = lowByte apdu.length := by
  refine ⟨h 4 _ ?_, h 6 _ ?_, h 7 _ ?_⟩ <;> simp [RemoteSim.apduRequest]

theorem Holds.apdu {apdu : List UInt8} (h : Holds buf (RemoteSim.apduRequest id apdu)) (n : Nat)
    (b : UInt8) (hb : apdu[n]? = some b) : buf (8 + n) = b := by
  have hn : n < apdu.length := (List.getElem?_eq_some_iff.1 hb).1
  apply h
  rw [RemoteSim.apduRequest, List.append_assoc, List.getElem?_append_right (by simp)]
  rw [List.getElem?_append_left (by simpa using hn)]
  simpa using hb

theorem Holds.length {apdu : List UInt8} (h : Holds buf (RemoteSim.apduRequest id apdu))
    (hlen : apdu.length < 65536) : SapProvider.apduLength buf = apdu.length := by
  rw [SapProvider.apduLength, h.head.2.1, h.head.2.2, toNat_highByte hlen, toNat_lowByte]
  omega

theorem length_body (c : CommandApdu) : c.body.bytes.length ≤ 257 := by
  cases hbody : c.body with
  | case1 | case2 le => simp [CommandBody.bytes]
  | case3 data | case4 data le =>
    have := data.short
    simp [CommandBody.bytes]
    omega

theorem data_lt_bytes (b : CommandBody) (hdata : b.data ≠ []) :
    b.data.length < b.bytes.length := by
  have hlt (n : Nat) : n < n + 1 + 1 := by omega
  cases b <;> simp [CommandBody.data, CommandBody.bytes, hlt] at hdata ⊢

variable (h : Holds buf (RemoteSim.apduRequest id c.bytes))
include h

theorem read_length : SapProvider.apduLength buf = 4 + c.body.bytes.length := by
  have hbody := length_body c
  have hlen : c.bytes.length = 4 + c.body.bytes.length := by
    simp [CommandApdu.bytes]
    omega
  rw [h.length (by omega), hlen]

theorem read_body (n : Nat) (b : UInt8) (hb : c.body.bytes[n]? = some b) : buf (12 + n) = b := by
  have hread := h.apdu (4 + n) b ?_
  · rwa [← Nat.add_assoc] at hread
  · rw [CommandApdu.bytes, getElem?_append_right (by simp)]
    simpa using hb

theorem read_header : buf 8 = c.cla ∧ buf 9 = c.instruction ∧ buf 10 = c.p1 ∧
      buf 11 = c.p2 := by
  refine ⟨h.apdu 0 _ ?_, h.apdu 1 _ ?_, h.apdu 2 _ ?_, h.apdu 3 _ ?_⟩ <;>
    simp [CommandApdu.bytes]

theorem read_lc_of_data {data : ApduData} (tail : List UInt8)
    (hbody : c.body.bytes = UInt8.ofNat data.bytes.length :: (data.bytes ++ tail)) :
    apduLc buf = UInt8.ofNat data.bytes.length ∧ (apduLc buf).toNat = data.bytes.length ∧
      apduData buf = data.bytes := by
  have hpos := length_pos_iff.2 data.nonempty
  have hsht := data.short
  have hlen : ¬ SapProvider.apduLength buf < 6 := by
    rw [read_length h, hbody]
    simp
    omega
  have hlc : apduLc buf = UInt8.ofNat data.bytes.length := by
    rw [apduLc, if_neg hlen]
    exact read_body h 0 _ (by simp [hbody])
  have hnat : (apduLc buf).toNat = data.bytes.length := by
    rw [hlc]
    simp
    omega
  refine ⟨hlc, hnat, ?_⟩
  apply ext_getElem
  · simp [apduData, hnat]
  intro n _ hn
  have hread := read_body h (1 + n) data.bytes[n] (by
    rw [hbody, Nat.add_comm, getElem?_cons_succ, getElem?_append_left hn]
    simp)
  have hplc : n + 13 = 12 + (1 + n) := by omega
  simpa [apduData, hplc] using hread

theorem read_lc_of_no_data (hlen : c.body.bytes.length < 2) : apduLc buf = 0 := by
  rw [apduLc, if_pos]
  rw [read_length h]
  omega

theorem read_data :
    apduLc buf = UInt8.ofNat c.body.data.length ∧ (apduLc buf).toNat = c.body.data.length ∧
      apduData buf = c.body.data := by
  cases hbody : c.body with
  | case1 | case2 le =>
    have hlc := read_lc_of_no_data h (by simp [hbody, CommandBody.bytes])
    simp [CommandBody.data, apduData, hlc]
  | case3 data => exact read_lc_of_data h [] (by simp [hbody, CommandBody.bytes])
  | case4 data le => exact read_lc_of_data h [le] (by simp [hbody, CommandBody.bytes])

theorem sendApduToSim_of_holds :
    sendApduToSim ⟨true, true⟩ false buf = .ok { c.request id with le := apduLe buf } := by
  obtain ⟨hlc, hnat, hdata⟩ := read_data h
  obtain ⟨hcla, hins, hp1, hp2⟩ := read_header h
  have hlong : ¬ (apduLc buf > 0 ∧ SapProvider.apduLength buf < (apduLc buf).toNat + 5) := by
    intro hcut
    have hpos : 0 < (apduLc buf).toNat := UInt8.lt_iff_toNat_lt.1 hcut.1
    have hsht := hcut.2
    have hroom := data_lt_bytes c.body (by simp [← length_pos_iff, ← hnat, hpos])
    rw [read_length h] at hsht
    omega
  rw [sendApduToSim, if_neg (by simp), if_neg (by simp), if_neg (by simp), if_neg hlong]
  simp [h.head.1, hcla, hins, hp1, hp2, hlc, hdata, CommandApdu.request]

/-- The byte that is taken for Le where the command has data and Le. -/
theorem read_le_of_data {data : ApduData} {le : UInt8} (hbody : c.body = .case4 data le) :
    ([0x00, 0x08, c.cla, c.instruction, c.p1, c.p2, 0x07] ++ data.bytes)[data.bytes.length - 1]? =
      some (buf (data.bytes.length + 5)) := by
  have hpos := length_pos_iff.2 data.nonempty
  have hlen : c.bytes.length = 6 + data.bytes.length := by
    simp [CommandApdu.bytes, hbody, CommandBody.bytes]
    omega
  obtain ⟨-, hhigh, hlow⟩ := h.head
  obtain ⟨hcla, hins, hp1, hp2⟩ := read_header h
  have hlc := read_body h 0 (UInt8.ofNat data.bytes.length) (by simp [hbody, CommandBody.bytes])
  by_cases hsht : data.bytes.length < 8
  · generalize hn : data.bytes.length = n at *
    interval_cases n <;> simp_all [highByte, lowByte]
  obtain ⟨n, hn⟩ := Nat.exists_eq_add_of_le (Nat.not_lt.1 hsht)
  have hin : n < data.bytes.length := by omega
  have hread := read_body h (1 + n) data.bytes[n] (by
    rw [hbody, CommandBody.bytes, Nat.add_comm, getElem?_cons_succ,
      getElem?_append_left hin]
    simp)
  have hplc : data.bytes.length + 5 = 12 + (1 + n) := by omega
  have hinde : data.bytes.length - 1 = 7 + n := by omega
  rw [hplc, hread, hinde, getElem?_append_right (by simp)]
  simp

theorem apduLe_iff : apduLe buf = c.body.le ↔ c.LeFound := by
  have hlen := read_length h
  obtain ⟨-, hlc, -⟩ := read_data h
  cases hbody : c.body with
  | case1 =>
    simp_all [apduLe, CommandBody.bytes, CommandBody.data, CommandBody.le, CommandApdu.LeFound]
  | case2 le =>
    have hread := read_body h 0 le (by simp [hbody, CommandBody.bytes])
    simp_all [apduLe, CommandBody.bytes, CommandBody.le, CommandApdu.LeFound]
  | case3 data =>
    have hpos := length_pos_iff.2 data.nonempty
    simp only [hbody, CommandBody.bytes, CommandBody.data, length_cons] at hlen hlc
    have h5 : SapProvider.apduLength buf ≠ 5 := by omega
    have hend : ¬ SapProvider.apduLength buf > (apduLc buf).toNat + 5 := by omega
    simp [apduLe, h5, hend, hbody, CommandBody.le, CommandApdu.LeFound]
  | case4 data le =>
    simp only [hbody, CommandBody.bytes, CommandBody.data, length_cons, length_append,
      length_nil] at hlen hlc
    have h5 : SapProvider.apduLength buf ≠ 5 := by omega
    have hend : SapProvider.apduLength buf > (apduLc buf).toNat + 5 := by omega
    simp only [CommandApdu.LeFound, hbody, read_le_of_data h hbody, Option.some_inj]
    rw [apduLe, if_neg h5, if_pos hend, hlc, CommandBody.le]

omit h in
theorem holds_getD (bytes : List UInt8) : Holds (fun n => bytes.getD n 0) bytes := by
  intro n b hb
  simp [hb]

omit h in
/-- A request that is built reaches the provider as its command if and only if Le is found. -/
theorem transferred_iff {s : Rsim} (hbuil : (sendApduRequest s id c.bytes).2 = .ok) :
    Transferred s id c ↔ c.LeFound := by
  have hrep : (sendApduRequest s id c.bytes).1.reported =
      s.reported ++ [RemoteSim.apduRequest id c.bytes] := by
    rw [sendApduRequest] at hbuil ⊢
    split_ifs at hbuil ⊢
    rfl
  constructor
  · intro htran
    have hhld := holds_getD (RemoteSim.apduRequest id c.bytes)
    have hpass := htran _ _ hrep hhld
    rw [sendApduToSim_of_holds hhld] at hpass
    rw [← apduLe_iff hhld]
    exact congrArg ApduRequest.le (Except.ok.inj hpass)
  · intro hfnd bytes buf hbyt hhld
    rw [hrep] at hbyt
    have heq : RemoteSim.apduRequest id c.bytes = bytes := by simpa using hbyt
    subst heq
    rw [sendApduToSim_of_holds hhld, (apduLe_iff hhld).2 hfnd]
    rfl

end Transferred

/-! ## The agreement of the two sides -/

/-- Of the messages that are awaited and fit, the service understands exactly the consistent
ones, and of its commands the provider passes on exactly those whose Le it finds. -/
theorem agreement_iff (i : Interfaces) (sap : Sap) (s : Rsim) (paOk : Bool) (id : UInt32) :
    (∀ r : Response, r.Awaited s → (r.message i.sapMaxMsgSize sap).length ≤ i.sapMaxMsgSize →
      (Understood i sap s paOk r ↔ r.Consistent sap)) ∧
    (∀ c : CommandApdu, (sendApduRequest s id c.bytes).2 = .ok →
      (Transferred s id c ↔ c.LeFound)) :=
  ⟨fun _ hawaited hfits => understood_iff hawaited hfits, fun _ hbuilt => transferred_iff hbuilt⟩

/-- Sizes of messages, for runs on fixed inputs. -/
def sizes : Interfaces where
  maxMsgSize := 276
  minMsgSize := 32
  sapMaxMsgSize := 276
  sap_le := by decide
  min_le := by decide
  two_bytes := by decide

/-- A service that waits for the answer to a request to power off. -/
def awaitingPowerOff : Rsim :=
  { init sizes.toLimits with sapState := .connected, sapSubState := .powerOff }

/-- A command with two bytes of data that asks for all there is to return. -/
def selectFile : CommandApdu where
  cla := 0x00
  instruction := 0xA4
  p1 := 0x00
  p2 := 0x04
  body := .case4 ⟨[0x3F, 0x00], by decide, by decide⟩ 0x00

theorem agreement_powerOff :
    Understood sizes ⟨true, true⟩ awaitingPowerOff true (.powerDown .success) ∧
      (Transferred awaitingPowerOff 1 selectFile ↔ selectFile.LeFound) := by
  have hagreement := agreement_iff sizes ⟨true, true⟩ awaitingPowerOff true 1
  constructor
  · exact (hagreement.1 (.powerDown .success) ⟨rfl, rfl⟩ (by decide)).2 (.inl rfl)
  · exact hagreement.2 selectFile (by decide)

/-- A power-off that fails while the card has power is told as a success, and Le of a command
with data is not passed on. -/
theorem agreement_fails :
    ((Response.powerDown .genericFailure).Awaited awaitingPowerOff ∧
      ((Response.powerDown .genericFailure).message 276 ⟨true, true⟩).length ≤ 276 ∧
      ¬ Understood sizes ⟨true, true⟩ awaitingPowerOff true (.powerDown .genericFailure)) ∧
    (sendApduRequest awaitingPowerOff 1 selectFile.bytes).2 = .ok ∧
      ¬ Transferred awaitingPowerOff 1 selectFile := by
  refine ⟨⟨⟨rfl, rfl⟩, by decide, ?_⟩, by decide, ?_⟩
  · exact powerDown_misunderstood ⟨rfl, rfl⟩ (by decide) rfl
  · rw [transferred_iff (by decide)]
    simp [CommandApdu.LeFound, selectFile]

end TelAF.SapProvider
