import TelAF.RpcProxySessions

/-!
# Messages of RPC proxies

The payloads of SOME/IP requests, responses and events, as the proxies write them and read
them. Numbers are in network order. What is read has to have the right size; a response that
reports an error, or has another size, counts as a failed command.
-/

namespace TelAF.RpcMessaging

open RpcConnection RpcProxySessions

def rpcMethodConnectService : Nat := 0x7001

def rpcMethodMessage : Nat := 0x7002

def rpcMethodCreateSession : Nat := 0x7003

def rpcMethodDeleteSession : Nat := 0x7004

def rpcEventOpMessage : UInt8 := 0

def rpcEventOpDeleteSession : UInt8 := 1

structure Layout where
  userBytes : Nat
  nameBytes : Nat
  protocolIdBytes : Nat

def be32 (n : Nat) : List UInt8 :=
  [UInt8.ofNat (n / 16777216), UInt8.ofNat (n / 65536), UInt8.ofNat (n / 256), UInt8.ofNat n]

def ofBe (bytes : List UInt8) : Nat := bytes.foldl (fun n b => n * 256 + b.toNat) 0

/-- The text that ends with the first zero byte. -/
def cString (bytes : List UInt8) : String :=
  String.ofList ((bytes.takeWhile (· ≠ 0)).map fun b => Char.ofNat b.toNat)

/-- `RpcConnectServiceReq_t`, if the size is right. -/
def connectServiceReq (layout : Layout) (payload : List UInt8) : Option ConnectServiceReq :=
  if payload.length = layout.userBytes + layout.nameBytes + layout.protocolIdBytes + 2 then
    let name := payload.drop layout.userBytes
    let protocolId := name.drop layout.nameBytes
    some {
      user := cString (payload.take layout.userBytes)
      name := cString (name.take layout.nameBytes)
      protocolId := cString (protocolId.take layout.protocolIdBytes)
      sysEventId := ofBe (protocolId.drop layout.protocolIdBytes) }
  else none

/-- What the SOME/IP client reports: `ok` says that there is a response. -/
structure Response where
  ok : Bool
  isErrRsp : Bool
  returnCode : Nat
  payload : List UInt8

def responseError : Response := ⟨true, true, 1, []⟩

def responseSession (rpcSessionId : Nat) : Response := ⟨true, false, 0, be32 rpcSessionId⟩

def responseMessage (rpcSessionId : Nat) (payload : List UInt8) : Response :=
  ⟨true, false, 0, be32 rpcSessionId ++ payload⟩

/-- A text in a field of `size` zero bytes, cut so that a zero remains. -/
def textField (size : Nat) (text : String) : List UInt8 :=
  let bytes := (text.toList.map fun c => UInt8.ofNat c.toNat).take (size - 1)
  bytes ++ List.replicate (size - bytes.length) 0

def responseConnectService (layout : Layout) (resp : ConnectServiceResp) : Response :=
  ⟨true, false, 0, be32 resp.maxMsgSize ++ textField layout.protocolIdBytes resp.protocolId ++
    [UInt8.ofNat (resp.sysEventId / 256), UInt8.ofNat resp.sysEventId]⟩

/-- The payload of a response that is no error. -/
def Response.data (r : Response) : Option (List UInt8) :=
  if r.ok ∧ ¬ r.isErrRsp ∧ r.returnCode = 0 then some r.payload else none

/-- The id in the response to CreateSession or DeleteSession. -/
def sessionResp (r : Response) : Option Nat :=
  r.data.bind fun data => if data.length = 4 then some (ofBe data) else none

/-- The id and the message in the response to Message. -/
def messageResp (r : Response) : Option (Nat × List UInt8) :=
  r.data.bind fun data => if 4 < data.length then some (ofBe (data.take 4), data.drop 4) else none

/-- `RpcConnectServiceResp_t`, if the size is right. -/
def connectServiceResp (layout : Layout) (r : Response) : Option ConnectServiceResp :=
  r.data.bind fun data =>
    if data.length = 4 + layout.protocolIdBytes + 2 then
      let protocolId := data.drop 4
      some {
        maxMsgSize := ofBe (data.take 4)
        protocolId := cString (protocolId.take layout.protocolIdBytes)
        sysEventId := ofBe (protocolId.drop layout.protocolIdBytes) }
    else none

def notifyDeleteSession (rpcSessionId : Nat) : List UInt8 :=
  be32 rpcSessionId ++ [rpcEventOpDeleteSession]

def notifyMessage (rpcSessionId : Nat) (payload : List UInt8) : List UInt8 :=
  be32 rpcSessionId ++ [rpcEventOpMessage] ++ payload

end TelAF.RpcMessaging
