import TelAF.DoipMessages
import TelAF.PackedFields

/-!
# PDUs of the SMS service

A text is sent as septets of the GSM alphabet, packed without gaps. A table gives the
septet of each character; characters of the extension table have an entry of 128 or more
and take two septets, the escape and the entry less 128. The encoder writes into the PDU
behind the byte of the user data length, and checks the number of bytes the septets take
against the room there.

A buffer records beside its bytes the positions written and the septets put there. The
limits are constants of an interface of the service, and the packing of the digits of an
address is done by a library; both are parameters. Every caller encodes its text from
position 0 on.
-/

namespace TelAF.SmsPdu
open DoipMessages (Memory)

def ascii_8_to_7 : List UInt8 :=
  [63, 63, 63, 63, 63, 63, 63, 63, 63, 63, 10, 63, 10 + 128, 13, 63, 63,
   63, 63, 63, 63, 63, 63, 63, 63, 63, 63, 63, 63, 63, 63, 63, 63,
   32, 33, 34, 35, 2, 37, 38, 39, 40, 41, 42, 43, 44, 45, 46, 47,
   48, 49, 50, 51, 52, 53, 54, 55, 56, 57, 58, 59, 60, 61, 62, 63,
   0, 65, 66, 67, 68, 69, 70, 71, 72, 73, 74, 75, 76, 77, 78, 79,
   80, 81, 82, 83, 84, 85, 86, 87, 88, 89, 90, 60 + 128, 47 + 128, 62 + 128, 20 + 128, 17,
   217, 97, 98, 99, 100, 101, 102, 103, 104, 105, 106, 107, 108, 109, 110, 111,
   112, 113, 114, 115, 116, 117, 118, 119, 120, 121, 122, 40 + 128, 64 + 128, 41 + 128, 61 + 128, 63,
   63, 63, 39, 102, 34, 63, 63, 63, 63, 63, 83, 39, 214, 63, 63, 63,
   63, 39, 39, 34, 34, 42, 45, 45, 39, 63, 115, 39, 111, 63, 63, 89,
   32, 64, 99, 1, 36, 3, 33, 95, 34, 63, 63, 60, 63, 45, 63, 63,
   63, 63, 50, 51, 39, 117, 63, 63, 63, 49, 63, 62, 63, 63, 63, 96,
   65, 65, 65, 65, 91, 14, 28, 9, 31, 31, 31, 31, 73, 73, 73, 73,
   68, 93, 79, 79, 79, 79, 92, 42, 11, 85, 85, 85, 94, 89, 63, 30,
   127, 97, 97, 97, 123, 15, 29, 9, 4, 5, 101, 101, 7, 7, 105, 105,
   63, 125, 8, 111, 111, 111, 24, 47, 12, 6, 117, 117, 126, 121, 63, 121]

def ascii_7_to_8 : List UInt8 :=
  [64, 163, 36, 165, 232, 233, 249, 236, 242, 199, 10, 216, 248, 13, 197, 229,
   63, 95, 63, 63, 63, 63, 63, 63, 63, 63, 63, 27, 198, 230, 223, 201,
   32, 33, 34, 35, 164, 37, 38, 39, 40, 41, 42, 43, 44, 45, 46, 47,
   48, 49, 50, 51, 52, 53, 54, 55, 56, 57, 58, 59, 60, 61, 62, 63,
   161, 65, 66, 67, 68, 69, 70, 71, 72, 73, 74, 75, 76, 77, 78, 79,
   80, 81, 82, 83, 84, 85, 86, 87, 88, 89, 90, 196, 214, 209, 220, 167,
   191, 97, 98, 99, 100, 101, 102, 103, 104, 105, 106, 107, 108, 109, 110, 111,
   112, 113, 114, 115, 116, 117, 118, 119, 120, 121, 122, 228, 246, 241, 252, 224]

def nonPrintable8Bit : UInt8 := 63
def escape7Bit : UInt8 := 0x1B
def escapeShiftIndex : UInt8 := 128

structure Buffer where
  bytes : Memory
  written : List Nat
  septets : List UInt8

namespace Buffer

def store (buffer : Buffer) (index : Nat) (val : UInt8) : Buffer := { buffer with
  bytes := Function.update buffer.bytes index val
  written := buffer.written ++ [index] }

end Buffer

def get7BitsAtPos (buffer : Memory) (pos : Nat) : UInt8 :=
  let index := pos / 8 % 256
  let offset := pos % 8
  let low_Byte := buffer index >>> UInt8.ofNat offset
  let high_Byte := if offset > 0 then buffer (index + 1) <<< UInt8.ofNat (8 - offset) else 0
  (low_Byte ||| high_Byte) &&& 0x7F

def set7BitsAtPos (buffer : Buffer) (val : UInt8) (pos : Nat) : Buffer :=
  let buffer := { buffer with septets := buffer.septets ++ [val] }
  let val := val &&& 0x7F
  let index := pos / 8 % 256
  let offset := pos % 8
  if offset = 0 then buffer.store index val
  else if offset = 1 then buffer.store index (buffer.bytes index ||| val <<< 1)
  else (buffer.store index (buffer.bytes index ||| val <<< UInt8.ofNat offset)).store (index + 1)
    (val >>> UInt8.ofNat (8 - offset))

/-- The character of the septet after an escape. -/
def escaped (byte : UInt8) : UInt8 :=
  if byte = 10 then 12
  else if byte = 20 then 94
  else if byte = 40 then 123
  else if byte = 41 then 125
  else if byte = 47 then 92
  else if byte = 60 then 91
  else if byte = 61 then 126
  else if byte = 62 then 93
  else if byte = 64 then 124
  else nonPrintable8Bit

/-- The loop over the septets from `r_indx` on, of which `n` are left. -/
def decodeLoop (bufferIn_7bit : Memory) (bufferOut_Size : Nat) :
    Nat → Nat → List UInt8 → Option (List UInt8)
  | 0, _, out => some out
  | n + 1, r_indx, out =>
    let byte := ascii_7_to_8.getD (get7BitsAtPos bufferIn_7bit (r_indx * 7)).toNat 0
    if byte ≠ escape7Bit then
      if out.length ≥ bufferOut_Size then none
      else decodeLoop bufferIn_7bit bufferOut_Size n (r_indx + 1) (out ++ [byte])
    else
      let byte := get7BitsAtPos bufferIn_7bit ((r_indx + 1) * 7)
      if out.length ≥ bufferOut_Size then none
      else
        match n with
        | 0 => some (out ++ [escaped byte])
        | n + 1 => decodeLoop bufferIn_7bit bufferOut_Size n (r_indx + 2) (out ++ [escaped byte])

/-- The characters of `len` septets, or an overflow of the output. -/
def pduDecode7BitsTo8Bits (bufferIn_7bit : Memory) (len : UInt8) (bufferOut_Size : Nat) :
    Option (List UInt8) :=
  decodeLoop bufferIn_7bit bufferOut_Size len.toNat 0 []

/-- The encoder under way; the number of bytes fits a byte, as that of the septets does. -/
structure Encoder where
  bufferOut : Buffer
  numOfwriteChar : UInt8
  numOf8bitChar : Nat

namespace Encoder

def put (e : Encoder) (byte : UInt8) : Encoder := { e with
  bufferOut := set7BitsAtPos e.bufferOut byte (e.numOfwriteChar.toNat * 7)
  numOfwriteChar := e.numOfwriteChar + 1 }

def count (e : Encoder) : Encoder :=
  let numOfbit := e.numOfwriteChar.toNat * 7
  { e with numOf8bitChar := if numOfbit % 8 ≠ 0 then numOfbit / 8 + 1 else numOfbit / 8 }

end Encoder

/-- The loop over the text, with whether it ended by an overflow. -/
def encodeLoop (bufferOut_Size : Nat) : List UInt8 → Encoder → Encoder × Bool
  | [], e => (e, decide (e.numOf8bitChar > bufferOut_Size))
  | c :: rest, e =>
    let byte := ascii_8_to_7.getD c.toNat 0
    if byte ≥ escapeShiftIndex then
      if e.numOf8bitChar > bufferOut_Size then (e, true)
      else
        let e := e.put escape7Bit
        if e.numOf8bitChar > bufferOut_Size then (e, true)
        else encodeLoop bufferOut_Size rest (e.put (byte - escapeShiftIndex)).count
    else if e.numOf8bitChar > bufferOut_Size then (e, true)
    else encodeLoop bufferOut_Size rest (e.put byte).count

/-- What the encoder leaves in its buffer, and the number of septets unless it overflows. -/
structure Encoded where
  bufferOut : Buffer
  bufferOut_Write : Option UInt8
  numOf8bitChar : Nat

def pduEncode8BitsTo7Bits (text : List UInt8) (bufferOut_7bit : Memory) (bufferOut_Size : Nat) :
    Encoded :=
  let (e, overflow) := encodeLoop bufferOut_Size text ⟨⟨bufferOut_7bit, [], []⟩, 0, 0⟩
  ⟨e.bufferOut, if overflow then none else some e.numOfwriteChar, e.numOf8bitChar⟩

inductive SmsType where
  | deliver
  | submit
  | statusReport
  | pdu
  | cellBroadcast
  | unsupported
deriving DecidableEq

inductive PduEncoding where
  | sevenBits
  | eightBits
  | sixteenBits
  | unknown
deriving DecidableEq

/-- The failures of the encoder; the PDU is not used after one. -/
inductive LeResult where
  | fault
  | unsupported
  | overflow

/-- The constants of the interface, and the packing of hexadecimal digits into at most a
number of bytes. -/
structure Interface where
  tafSmsTextLen : Nat
  tafSmsPduPayload : Nat
  tafSmsPduBytes : Nat
  tafTypesRemotePartyNumMaxBytes : Nat
  stringToBinary : List UInt8 → Nat → List UInt8

/-- A message to be sent; the address is a string less its end. -/
structure EncodeMsg where
  msgData : List UInt8
  addrData : List UInt8
  encoding : PduEncoding
  type : SmsType
  statusReport : Bool

structure Pdu where
  data : Memory
  length : Nat

/-- The digits of an address: a leading `+` is left out. -/
def addrDigits (addrPtr : List UInt8) : List UInt8 :=
  match addrPtr with
  | 43 :: digits => digits
  | _ => addrPtr

/-- The digits swapped by pairs, an odd number of them filled up by `F`. -/
def swapDigits : List UInt8 → List UInt8
  | [] => []
  | [a] => [70, a]
  | a :: b :: rest => b :: a :: swapDigits rest

/-- What is written for the address, and the number of its digits. -/
def pduEncodeAddr (c : Interface) (addrPtr : List UInt8) (size : Nat) : List UInt8 × Nat :=
  (c.stringToBinary (swapDigits (addrDigits addrPtr)) size, (addrDigits addrPtr).length)

/-- A PDU under way: its data and the position of the next byte. -/
structure Writer where
  data : Memory
  pos : UInt8

namespace Writer

def setByteAtPos (w : Writer) (val : UInt8) : Writer :=
  ⟨Function.update w.data w.pos.toNat val, w.pos + 1⟩

def encodeAddr (c : Interface) (addrData : List UInt8) (w : Writer) : Writer :=
  let (bytes, length) := pduEncodeAddr c addrData (c.tafSmsPduBytes - w.pos.toNat)
  ⟨w.data.write w.pos.toNat bytes, w.pos + UInt8.ofNat ((length + 1) / 2)⟩

end Writer

def tpDcs : PduEncoding → Option UInt8
  | .sevenBits => some 0x00
  | .eightBits => some 0x04
  | .sixteenBits => some 0x08
  | .unknown => none

/-- The bytes before the user data length, of a message to be submitted. -/
def encodeHeader (c : Interface) (sms : EncodeMsg) (dcs : UInt8) : Writer :=
  let pduType : UInt8 := if sms.statusReport then 0x11 ||| 0x20 else 0x11
  let addrToa : UInt8 := if sms.addrData.head? = some 43 then 0x91 else 0x81
  ((((((⟨Memory.zero, 0⟩ : Writer).setByteAtPos 0x00).setByteAtPos pduType).setByteAtPos 0x00
    |>.setByteAtPos (UInt8.ofNat (addrDigits sms.addrData).length)).setByteAtPos addrToa
    |>.encodeAddr c sms.addrData).setByteAtPos 0x00).setByteAtPos dcs |>.setByteAtPos 0xAD

/-- The user data behind its length, where they are not septets. -/
def encodeOctets (c : Interface) (msgData : List UInt8) (w : Writer) :
    Except LeResult Pdu :=
  if msgData.length > c.tafSmsPduPayload then .error .overflow
  else
    let w := w.setByteAtPos (UInt8.ofNat msgData.length)
    .ok ⟨w.data.write w.pos.toNat msgData, (w.pos + UInt8.ofNat msgData.length).toNat⟩

/-- The encoder of the septets runs on the data behind the user data length. -/
def encodeSeptets (c : Interface) (msgData : List UInt8) (w : Writer) : Encoded :=
  pduEncode8BitsTo7Bits (msgData.take (msgData.length % 256)) (fun i => w.data (w.pos.toNat + 1 + i))
    c.tafSmsPduPayload

def sms_EncodeGsm (c : Interface) (sms : EncodeMsg) : Except LeResult Pdu :=
  if sms.msgData.length > c.tafSmsTextLen then .error .fault
  else if sms.type ≠ .submit then .error .unsupported
  else if sms.addrData.length > c.tafTypesRemotePartyNumMaxBytes then .error .fault
  else
    match tpDcs sms.encoding with
    | none => .error .fault
    | some dcs =>
      let w := encodeHeader c sms dcs
      if sms.encoding = .sevenBits then
        let encoded := encodeSeptets c sms.msgData w
        let data : Memory := fun i =>
          if w.pos.toNat < i then encoded.bufferOut.bytes (i - (w.pos.toNat + 1)) else w.data i
        match encoded.bufferOut_Write with
        | none => .error .overflow
        | some newmsgLen =>
          let w := Writer.setByteAtPos ⟨data, w.pos⟩ newmsgLen
          .ok ⟨w.data, (w.pos + UInt8.ofNat encoded.numOf8bitChar).toNat⟩
      else encodeOctets c sms.msgData w

end TelAF.SmsPdu
