import TelAF.BigEndian
import TelAF.DoipDiscovery

/-!
# Packing DoIP messages

Each function of the parser packs one message: the generic header with the length of the payload,
and the payload. Unpacking the headers cuts a stream of messages at the right places, and the bytes
that went out on a connection determine the messages. The data of a diagnostic message starts with
its addresses; the length is kept in 32 bits.
-/

namespace TelAF.DoipPacking
open DoipMessages DoipDiscovery BigEndian List

/-- The type and the payload of a message. -/
abbrev Content := UInt16 × List UInt8

def packGenericHeader (protocolVer : UInt8) (payloadType : UInt16) (payloadLen : Nat) : List UInt8 :=
  [protocolVer, ~~~protocolVer] ++ field 2 payloadType.toNat ++ field 4 payloadLen

def packed (ver : UInt8) (m : Content) : List UInt8 := packGenericHeader ver m.1 m.2.length ++ m.2

def htons (n : UInt16) : List UInt8 := field 2 n.toNat

def raResCode : RaResCode → UInt8
  | .unknownSourceAddress => 0x00
  | .allSocketRegistedAndActive => 0x01
  | .saDifferentActivatedSocket => 0x02
  | .saRegistedDifferentSocket => 0x03
  | .missingAuthentication => 0x04
  | .rejectConfirmation => 0x05
  | .unsupportedRaType => 0x06
  | .routingSuccessfullyActivated => 0x10

def headerNACKCode : HeaderNackCode → UInt8
  | .incorrectPatternFormat => 0x00
  | .unknownPayloadType => 0x01
  | .messageTooLarge => 0x02
  | .outOfMemory => 0x03
  | .invalidPayloadLength => 0x04

def diagNACKCode : DiagNackCode → UInt8
  | .invalidSA => 0x02
  | .unknownTA => 0x03
  | .diagMsgTooLarge => 0x04
  | .outOfMemory => 0x05

section Parser

variable (entityLA equipLA : LogicalAddress)

/-- Every caller gives 0 as the reserved bytes. -/
def routingActivationRes (code : RaResCode) : Content :=
  (0x0006, htons equipLA ++ (htons entityLA ++ [raResCode code, 0, 0, 0, 0]))

def aliveCheckReq : Content := (0x0007, [])

def aliveCheckRes : Content := (0x0008, htons equipLA)

def headerNegativeACK (code : HeaderNackCode) : Content := (0x0000, [headerNACKCode code])

def diagPositiveACK : Content := (0x8002, htons entityLA ++ (htons equipLA ++ [0x00]))

def diagNegativeACK (code : DiagNackCode) : Content :=
  (0x8003, htons entityLA ++ (htons equipLA ++ [diagNACKCode code]))

end Parser

def content : Message → Content
  | .routingActivationRes equipLA entityLA code => routingActivationRes entityLA equipLA code
  | .aliveCheckReq => aliveCheckReq
  | .aliveCheckRes equipLA => aliveCheckRes equipLA
  | .headerNegativeAck code => headerNegativeACK code
  | .diagPositiveAck entityLA equipLA => diagPositiveACK entityLA equipLA
  | .diagNegativeAck entityLA equipLA code => diagNegativeACK entityLA equipLA code
  | .diagnosticMessage data => (0x8001, data)

def header (ver : UInt8) (m : Message) : Header :=
  ⟨ver, ~~~ver, payloadTypeOf (content m).1, (content m).2.length⟩

/-- The bytes that go out for messages on a connection. -/
def sent (ver : UInt8) (ms : List Message) : List UInt8 := ms.flatMap fun m => packed ver (content m)

/-- A stream of at most `n` messages as its headers cut it. -/
def messages : Nat → List UInt8 → List (Header × List UInt8)
  | n + 1, b :: stream =>
    let hdr := headerOf (b :: stream)
    let payload := (b :: stream).drop headerGenericLength
    (hdr, payload.take hdr.payloadLen) :: messages n (payload.drop hdr.payloadLen)
  | _, _ => []

section

variable {ver : UInt8} {type : UInt16} {m m' : Message} {ms : List Message}
  {rest : List UInt8} {n : Nat}

/-- The two bytes of a type, read back. -/
theorem ntohs_type : (UInt8.ofNat (type.toNat / 256)).toUInt16 * 256 + type % 256 = type := by
  have htype := type.toNat_lt
  apply UInt16.toNat_inj.1
  simp
  omega

theorem headerOf_packed (h : (content m).2.length < 2 ^ 32) :
    headerOf (packed ver (content m) ++ rest) = header ver m := by
  simp [headerOf, unpackHeaderStruct, header, packed, packGenericHeader, field, Memory.write,
    Memory.read16, Memory.read32, ntohs_type]
  omega

theorem messages_packed (h : (content m).2.length < 2 ^ 32) :
    messages (n + 1) (packed ver (content m) ++ rest) = (header ver m,
      (content m).2) :: messages n rest := by
  have hunpa : messages (n + 1) (packed ver (content m) ++ rest) =
      (headerOf (packed ver (content m) ++ rest),
        ((content m).2 ++ rest).take (headerOf (packed ver (content m) ++ rest)).payloadLen) ::
        messages n (((content m).2 ++ rest).drop (headerOf (packed ver (content m) ++ rest)).payloadLen) := rfl
  rw [hunpa, headerOf_packed h, header, take_left, drop_left]

theorem messages_sent (hlen : ∀ m ∈ ms, (content m).2.length < 2 ^ 32) (hn : ms.length ≤ n) :
    messages n (sent ver ms) = ms.map fun m => (header ver m, (content m).2) := by
  induction ms generalizing n with
  | nil => cases n <;> rfl
  | cons m ms ih =>
    obtain ⟨n, rfl⟩ := Nat.exists_eq_add_of_le' hn
    rw [forall_mem_cons] at hlen
    exact (messages_packed hlen.1).trans (congrArg _ (ih hlen.2 (Nat.le_of_succ_le_succ hn)))

@[simp] theorem htons_inj {a b : UInt16} : htons a = htons b ↔ a = b := by
  refine ⟨fun h => ?_, congrArg htons⟩
  have hnum := congrArg number h
  rw [htons, htons, number_field_of_lt a.toNat_lt, number_field_of_lt b.toNat_lt] at hnum
  exact UInt16.toNat_inj.1 hnum

@[simp] theorem htons_append {a b : UInt16} {as bs : List UInt8} :
    htons a ++ as = htons b ++ bs ↔ a = b ∧ as = bs := by
  constructor
  · intro h
    exact (append_inj h rfl).imp_left htons_inj.1
  · rintro ⟨rfl, rfl⟩
    rfl

/-- The types and the payloads of two messages differ. -/
theorem eq_of_header (h : (header ver m, (content m).2) = (header ver m', (content m').2)) :
    m = m' := by
  have hra : ∀ a b, raResCode a = raResCode b ↔ a = b := by rintro ⟨⟩ ⟨⟩ <;> decide
  have hhead : ∀ a b, headerNACKCode a = headerNACKCode b ↔ a = b := by
    rintro ⟨⟩ ⟨⟩ <;> decide
  have hdiag : ∀ a b, diagNACKCode a = diagNACKCode b ↔ a = b := by
    rintro ⟨⟩ ⟨⟩ <;> decide
  cases m <;> cases m'
  all_goals simp [header, content, routingActivationRes, aliveCheckReq,
    aliveCheckRes, headerNegativeACK,
    diagPositiveACK, diagNegativeACK, payloadTypeOf, hra, hhead, hdiag] at h ⊢
  all_goals tauto

end

/-- Unpacking the headers of what went out finds each message with its type and its payload, and
nothing else goes out as the same bytes. -/
theorem sent_determined (ver : UInt8) (ms : List Message)
    (hlen : ∀ m ∈ ms, (content m).2.length < 2 ^ 32) :
    (∀ n ≥ ms.length, messages n (sent ver ms) = ms.map fun m => (header ver m, (content m).2)) ∧
    ∀ ms', (∀ m ∈ ms', (content m).2.length < 2 ^ 32) →
      sent ver ms' = sent ver ms → ms' = ms := by
  refine ⟨fun n hn => messages_sent hlen hn, fun ms' hlen' heq => ?_⟩
  have hms' := @messages_sent ver ms' _ hlen' (Nat.le_max_left _ ms.length)
  rw [heq, messages_sent hlen (Nat.le_max_right ms'.length ms.length)] at hms'
  exact map_injective_iff.2 (fun _ _ => eq_of_header) hms'.symm

theorem sent_determined_check :
    messages 2 (sent 0x02 [.aliveCheckReq, .aliveCheckRes 0x0E80]) =
      [(header 0x02 .aliveCheckReq, []), (header 0x02 (.aliveCheckRes 0x0E80), [0x0E, 0x80])] :=
  (sent_determined 0x02 [.aliveCheckReq, .aliveCheckRes 0x0E80] (by decide)).1 2 (by decide)

end TelAF.DoipPacking
