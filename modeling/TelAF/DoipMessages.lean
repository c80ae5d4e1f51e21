import Mathlib.Data.UInt

/-!
# DoIP messages

A message on a TCP_DATA connection is a generic header of eight bytes and its payload;
numbers are big endian. The entity receives into the buffer of the connection, at whose
current position the header is unpacked; what it sends is kept as the call of the
parser that packs it.
-/

namespace TelAF.DoipMessages

abbrev LogicalAddress := UInt16

/-- The bytes of a buffer by their position. -/
abbrev Memory := Nat → UInt8

namespace Memory

def zero : Memory := fun _ => 0

def write (m : Memory) (pos : Nat) (bytes : List UInt8) : Memory :=
  fun i => if pos ≤ i ∧ i < pos + bytes.length then bytes.getD (i - pos) 0 else m i

def read (m : Memory) (pos len : Nat) : List UInt8 := (List.range len).map fun i => m (pos + i)

def read16 (m : Memory) (pos : Nat) : UInt16 := (m pos).toUInt16 * 256 + (m (pos + 1)).toUInt16

def read32 (m : Memory) (pos : Nat) : UInt32 :=
  ((m pos).toUInt32 * 256 + (m (pos + 1)).toUInt32) * 65536 +
    ((m (pos + 2)).toUInt32 * 256 + (m (pos + 3)).toUInt32)

end Memory

inductive PayloadType where
  | headerNegativeAck
  | routingActiveRequest
  | routingActiveResponse
  | aliveCheckRequest
  | aliveCheckResponse
  | diagnosticMessage
  | diagnosticPositiveAck
  | diagnosticNegativeAck
  | other (code : UInt16)
deriving DecidableEq

def payloadTypeOf (code : UInt16) : PayloadType :=
  if code = 0x0000 then .headerNegativeAck
  else if code = 0x0005 then .routingActiveRequest
  else if code = 0x0006 then .routingActiveResponse
  else if code = 0x0007 then .aliveCheckRequest
  else if code = 0x0008 then .aliveCheckResponse
  else if code = 0x8001 then .diagnosticMessage
  else if code = 0x8002 then .diagnosticPositiveAck
  else if code = 0x8003 then .diagnosticNegativeAck
  else .other code

structure Header where
  protocolVer : UInt8
  invProtocolVer : UInt8
  payloadType : PayloadType
  payloadLen : Nat

def headerGenericLength : Nat := 8
def logicalAddressLength : Nat := 2

def unpackHeaderStruct (data : Memory) (pos : Nat) : Header where
  protocolVer := data pos
  invProtocolVer := data (pos + 1)
  payloadType := payloadTypeOf (data.read16 (pos + 2))
  payloadLen := (data.read32 (pos + 4)).toNat

inductive RaResCode where
  | unknownSourceAddress
  | allSocketRegistedAndActive
  | saDifferentActivatedSocket
  | saRegistedDifferentSocket
  | missingAuthentication
  | rejectConfirmation
  | unsupportedRaType
  | routingSuccessfullyActivated
deriving DecidableEq

inductive HeaderNackCode where
  | incorrectPatternFormat
  | unknownPayloadType
  | messageTooLarge
  | outOfMemory
  | invalidPayloadLength
deriving DecidableEq

inductive DiagNackCode where
  | invalidSA
  | unknownTA
  | diagMsgTooLarge
  | outOfMemory
deriving DecidableEq

inductive Message where
  | routingActivationRes (equipLA entityLA : LogicalAddress) (code : RaResCode)
  | aliveCheckReq
  | aliveCheckRes (equipLA : LogicalAddress)
  | headerNegativeAck (code : HeaderNackCode)
  | diagPositiveAck (entityLA equipLA : LogicalAddress)
  | diagNegativeAck (entityLA equipLA : LogicalAddress) (code : DiagNackCode)
  | diagnosticMessage (data : List UInt8)

inductive TaType where
  | physical
  | functional

/-- `TAF_DOIP_RESULT_SA_REGISTERED` and `TAF_DOIP_RESULT_SA_DEREGISTERED`. -/
inductive ConnectionEvent where
  | saRegistered
  | saDeregistered
deriving DecidableEq

inductive Indication where
  | connection (sa ta : LogicalAddress) (event : ConnectionEvent)
  | uds (sa ta : LogicalAddress) (taType : TaType) (data : List UInt8)

def Indication.event? : Indication → Option ConnectionEvent
  | .connection _ _ event => some event
  | .uds .. => none

/-- The result of the handler that confirms a routing activation. -/
inductive UserConfirmResult where
  | reject
  | noNeed
  | pass
deriving DecidableEq

end TelAF.DoipMessages
