import TelAF.RemoteSim

/-!
# The SAP provider

The provider has a card and answers the SAP requests of a client. It builds a message byte by
byte in a buffer filled with zeros, with the result of the modem and what the modem returned,
and takes a command APDU from its positions in the request. Only the flags of the connection
and of the power are its state here.
-/

namespace TelAF.SapProvider

open RemoteSim (ClientMsg highByte lowByte paramIdMaxMsgSize paramIdConnectionStatus
  paramIdResultCode paramIdDisconnectionType paramIdAtr paramIdStatusChange)

inductive ErrorCode where
  | success
  | genericFailure
deriving DecidableEq

structure Sap where
  cardConnected : Bool
  cardpoweredOn : Bool

def msgIdConnectResp : UInt8 := 0x01
def msgIdDisconnectResp : UInt8 := 0x03
def msgIdDisconnectInd : UInt8 := 0x04
def msgIdTransferApduResp : UInt8 := 0x06
def msgIdTransferAtrResp : UInt8 := 0x08
def msgIdPowerSimOffResp : UInt8 := 0x0A
def msgIdPowerSimOnResp : UInt8 := 0x0C
def msgIdResetSimResp : UInt8 := 0x0E
def msgIdStatusInd : UInt8 := 0x11
def msgIdErrorResp : UInt8 := 0x12

def connStatusMaxMsgSizeNok : UInt8 := 0x02
def disconnectTypeGraceful : UInt8 := 0x00

def resultCodeOk : UInt8 := 0x00
def resultCodeErrorNoReason : UInt8 := 0x01
def resultCodeErrorCardNok : UInt8 := 0x02
def resultCodeErrorCardOff : UInt8 := 0x03
def resultCodeErrorCardRemoved : UInt8 := 0x04
def resultCodeErrorCardOn : UInt8 := 0x05
def resultCodeErrorNoData : UInt8 := 0x06

/-- A message whose first parameter is one byte: the header, the parameter in its eight bytes,
and what follows. -/
def sapMsg (msgId paramCount paramId value : UInt8) (rest : List UInt8) : List UInt8 :=
  [msgId, paramCount, 0x00, 0x00, paramId, 0x00, 0x00, 0x01, value, 0x00, 0x00, 0x00] ++ rest

/-- Bytes with an identifier and their length before them, filled up to a multiple of four. -/
def longParam (paramId : UInt8) (data : List UInt8) : List UInt8 :=
  [paramId, 0x00, highByte data.length, lowByte data.length] ++ data ++
    List.replicate ((data.length + 3) / 4 * 4 - data.length) 0x00

/-- `maxMsgSize` is the size the provider proposes, the largest that its interface allows. -/
def sendConnectResponse (maxMsgSize : Nat) (errorCode : ErrorCode) (connectionStatus : UInt8) :
    List UInt8 :=
  if errorCode ≠ .success ∧ connectionStatus = connStatusMaxMsgSizeNok then
    sapMsg msgIdConnectResp 2 paramIdConnectionStatus connectionStatus
      [paramIdMaxMsgSize, 0x00, 0x00, 0x02, highByte maxMsgSize, lowByte maxMsgSize, 0x00, 0x00]
  else sapMsg msgIdConnectResp 1 paramIdConnectionStatus connectionStatus []

def sendDisconnectInd : List UInt8 :=
  sapMsg msgIdDisconnectInd 1 paramIdDisconnectionType disconnectTypeGraceful []

def sendDisconnectResponse (errorCode : ErrorCode) : List UInt8 :=
  if errorCode = .success then [msgIdDisconnectResp, 0x00, 0x00, 0x00] else sendDisconnectInd

/-- The parameter is counted only for a success. -/
def sendPowerOnResponse (errorCode : ErrorCode) : List UInt8 :=
  if errorCode = .success then
    sapMsg msgIdPowerSimOnResp 1 paramIdResultCode resultCodeOk []
  else sapMsg msgIdPowerSimOnResp 0 paramIdResultCode resultCodeErrorNoReason []

/-- Where no code is set, the byte is the zero of the buffer. -/
def sendPowerDownResponse (sap : Sap) (errorCode : ErrorCode) : Sap × List UInt8 :=
  if errorCode = .success then
    ({ sap with cardpoweredOn := false },
      sapMsg msgIdPowerSimOffResp 1 paramIdResultCode resultCodeOk [])
  else if ¬ sap.cardpoweredOn then
    (sap, sapMsg msgIdPowerSimOffResp 1 paramIdResultCode resultCodeErrorCardOn [])
  else (sap, sapMsg msgIdPowerSimOffResp 1 paramIdResultCode 0x00 [])

def sendStatusInd (status : UInt8) : List UInt8 :=
  sapMsg msgIdStatusInd 1 paramIdStatusChange status []

def sendErrorResponse : List UInt8 := [msgIdErrorResp, 0x00, 0x00, 0x00]

/-- The second parameter has the identifier of the APDU in the place of its own. -/
def sendAPDUResponse (data : List UInt8) (apduId : UInt8) (errorCode : ErrorCode) : List UInt8 :=
  if errorCode = .success then
    sapMsg msgIdTransferApduResp 2 paramIdResultCode resultCodeOk (longParam apduId data)
  else sapMsg msgIdTransferApduResp 1 paramIdResultCode resultCodeErrorNoReason []

def sendResultCodeResponse (msgId resultStatus : UInt8) : List UInt8 :=
  sapMsg msgId 1 paramIdResultCode resultStatus []

def sendATRResponse (responseAtr : List UInt8) (errorCode : ErrorCode) : List UInt8 :=
  if errorCode = .success then
    if responseAtr = [] then
      sapMsg msgIdTransferAtrResp 1 paramIdResultCode resultCodeErrorNoData []
    else sapMsg msgIdTransferAtrResp 2 paramIdResultCode resultCodeOk (longParam paramIdAtr responseAtr)
  else sapMsg msgIdTransferAtrResp 1 paramIdResultCode resultCodeErrorNoReason []

def sendCardResetResponse (sap : Sap) (errorCode : ErrorCode) : List UInt8 :=
  if errorCode = .success then sapMsg msgIdResetSimResp 1 paramIdResultCode resultCodeOk []
  else if sap.cardpoweredOn then
    sapMsg msgIdResetSimResp 1 paramIdResultCode resultCodeErrorCardOn []
  else sapMsg msgIdResetSimResp 1 paramIdResultCode 0x00 []

structure ApduRequest where
  apduId : UInt8
  cla : UInt8
  instruction : UInt8
  p1 : UInt8
  p2 : UInt8
  lc : UInt8
  data : List UInt8
  le : UInt8

def apduLength (buf : Nat → UInt8) : Nat := (buf 6).toNat * 256 + (buf 7).toNat

def apduLc (buf : Nat → UInt8) : UInt8 := if apduLength buf < 6 then 0 else buf 12

def apduData (buf : Nat → UInt8) : List UInt8 :=
  (List.range (apduLc buf).toNat).map fun i => buf (i + 13)

/-- Le is read at the position it has in the APDU, not in the message. -/
def apduLe (buf : Nat → UInt8) : UInt8 :=
  if apduLength buf = 5 then buf 12
  else if apduLength buf > (apduLc buf).toNat + 5 then buf ((apduLc buf).toNat + 5)
  else 0

/-- A request that is refused is answered, except for one that is too short. -/
def sendApduToSim (sap : Sap) (simAbsent : Bool) (buf : Nat → UInt8) :
    Except (List (List UInt8)) ApduRequest :=
  if ¬ sap.cardConnected then
    .error [sendResultCodeResponse msgIdTransferApduResp resultCodeErrorCardNok]
  else if simAbsent then
    .error [sendResultCodeResponse msgIdTransferApduResp resultCodeErrorCardRemoved]
  else if ¬ sap.cardpoweredOn then
    .error [sendResultCodeResponse msgIdTransferApduResp resultCodeErrorCardOff]
  else if apduLc buf > 0 ∧ apduLength buf < (apduLc buf).toNat + 5 then .error []
  else .ok
    { apduId := buf 4
      cla := buf 8
      instruction := buf 9
      p1 := buf 10
      p2 := buf 11
      lc := apduLc buf
      data := apduData buf
      le := apduLe buf }

end TelAF.SapProvider
