import TelAF.SmsPdu

/-!
# Addresses of the SMS service

The encoder swaps the digits of a number by pairs, fills an odd number of them up by `F` and
has the pairs packed as hexadecimal digits; a leading `+` becomes the type of the address. The
decoder takes the low nibble of a byte before the high one, as many as the length of the
address says or until the filler, and a leading `+` from the type.
-/

namespace TelAF.SmsPdu

open List Nat
open DoipMessages (Memory)

/-- The character of nibble `i` behind the type of the address. -/
def nibbleAt (buffer : Memory) (i : Nat) : UInt8 :=
  let byte := buffer (i / 2 + 1)
  let nibble := if i % 2 = 0 then (byte &&& 0x0F) + 48 else ((byte &&& 0xF0) >>> 4) + 48
  if nibble > 57 then nibble + 7 else nibble

/-- The loop over the nibbles from `i` on, of which `n` are left. -/
def decodeNibbles (buffer : Memory) (outputAddrSize : Nat) :
    Nat → Nat → List UInt8 → List UInt8
  | 0, _, outputAddr => outputAddr
  | n + 1, i, outputAddr =>
    if outputAddr.length ≥ outputAddrSize - 1 then outputAddr
    else
      let nibble := nibbleAt buffer i
      if nibble = 70 then outputAddr
      else decodeNibbles buffer outputAddrSize n (i + 1) (outputAddr ++ [nibble])

/-- The string left in the output, unless there is no room for its end. -/
def pduDecodeAddr (buffer : Memory) (addrLen : UInt8) (outputAddrSize : Nat) : Option (List UInt8) :=
  if outputAddrSize = 0 then none
  else
    let toa := buffer 0
    let ton := (toa >>> 4) &&& 0x07
    if ton = 5 then
      let addrOctets := (addrLen.toNat + 1) / 2
      let septetCount := UInt8.ofNat (addrOctets * 8 / 7)
      some ((pduDecode7BitsTo8Bits (fun i => buffer (i + 1)) septetCount (outputAddrSize - 1)).getD [])
    else
      let outputAddr := if toa = 0x91 ∧ 0 < outputAddrSize - 1 then [43] else []
      some (decodeNibbles buffer outputAddrSize addrLen.toNat 0 outputAddr)

def IsDigit (c : UInt8) : Prop := 48 ≤ c ∧ c ≤ 57
deriving Decidable

/-- A hexadecimal digit the encoder hands over. -/
def IsHexDigit (c : UInt8) : Prop := IsDigit c ∨ 65 ≤ c ∧ c ≤ 70

def hexValue (c : UInt8) : UInt8 := if c ≤ 57 then c - 48 else c - 55

/-- The bytes of pairs of hexadecimal digits. -/
def hexPairs : List UInt8 → List UInt8
  | a :: b :: rest => (hexValue a <<< 4 ||| hexValue b) :: hexPairs rest
  | _ => []

/-- The library converts pairs of hexadecimal digits, if there is room for their bytes. -/
def ConvertsPairs (stringToBinary : List UInt8 → Nat → List UInt8) : Prop :=
  ∀ string size, (∀ c ∈ string, IsHexDigit c) → string.length % 2 = 0 →
    string.length / 2 ≤ size →
    stringToBinary string size = hexPairs string

variable {c : Interface} {sms : EncodeMsg} {pdu : Pdu} {buffer : Memory} {digits out : List UInt8}
  {a b : UInt8} {n i outputAddrSize : Nat}

theorem IsDigit.eq_ofNat (h : IsDigit a) : ∃ k : Fin 10, a = 48 + UInt8.ofNat k := by
  obtain ⟨hle, hge⟩ := h
  rw [UInt8.le_iff_toNat_le] at hle hge
  refine ⟨⟨a.toNat - 48, by simp at hle hge; omega⟩, UInt8.toNat_inj.1 ?_⟩
  simp at hle hge ⊢
  omega

theorem nibbles_pair (ha : IsDigit a) (hb : IsDigit b) :
    ((hexValue b <<< 4 ||| hexValue a) &&& 0x0F) + 48 = a ∧
    (((hexValue b <<< 4 ||| hexValue a) &&& 0xF0) >>> 4) + 48 = b := by
  obtain ⟨k, rfl⟩ := ha.eq_ofNat
  obtain ⟨l, rfl⟩ := hb.eq_ofNat
  revert k l
  decide +kernel

theorem nibble_filled (ha : IsDigit a) : ((hexValue 70 <<< 4 ||| hexValue a) &&& 0x0F) + 48 = a := by
  obtain ⟨k, rfl⟩ := ha.eq_ofNat
  revert k
  decide +kernel

theorem swapDigits_hex (hdig : ∀ d ∈ digits, IsDigit d) :
    ∀ d ∈ swapDigits digits, IsHexDigit d := by
  induction digits using swapDigits.induct with
  | case1 => exact nofun
  | case2 a =>
    intro d hd
    rcases mem_pair.1 hd with rfl | rfl
    · exact Or.inr (by decide)
    · exact Or.inl (hdig d (mem_singleton_self d))
  | case3 a b rest ih =>
    intro d hd
    rw [swapDigits, mem_cons, mem_cons] at hd
    rcases hd with rfl | rfl | hd
    iterate 2 exact Or.inl (hdig d (by simp))
    exact ih (fun e he => hdig e (by simp [he])) d hd

theorem swapDigits_length : (swapDigits digits).length = 2 * ((digits.length + 1) / 2) := by
  induction digits using swapDigits.induct with
  | case1 => rfl
  | case2 a => simp [swapDigits]
  | case3 a b rest ih =>
    rw [swapDigits, length_cons, length_cons, length_cons, length_cons]
    omega

theorem hexPairs_length : (hexPairs digits).length = digits.length / 2 := by
  induction digits using hexPairs.induct with
  | case1 a b rest ih =>
    rw [hexPairs, length_cons, length_cons, length_cons]
    omega
  | case2 l hne =>
    match l, hne with
    | [], _ => rfl
    | [_], _ => simp [hexPairs]
    | a :: b :: rest, hne => exact absurd rfl (hne a b rest)

/-- The bytes of a number behind the type of its address. -/
def Holds (buffer : Memory) (digits : List UInt8) : Prop :=
  ∀ i < (digits.length + 1) / 2, buffer (i + 1) = (hexPairs (swapDigits digits)).getD i 0

theorem Holds.nibbleAt (h : Holds buffer digits) (hdig : ∀ d ∈ digits, IsDigit d)
    (hi : i < digits.length) : nibbleAt buffer i = digits[i] := by
  have hdigi := hdig _ (getElem_mem hi)
  have hraw : (if i % 2 = 0 then (buffer (i / 2 + 1) &&& 0x0F) + 48
      else ((buffer (i / 2 + 1) &&& 0xF0) >>> 4) + 48) = digits[i] := by
    rw [h (i / 2) (by omega)]
    clear h hdigi
    induction digits using swapDigits.induct generalizing i with
    | case1 => exact absurd hi (not_lt_zero _)
    | case2 a =>
      obtain rfl : i = 0 := lt_one_iff.1 hi
      exact nibble_filled (hdig a (mem_singleton_self a))
    | case3 a b rest ih =>
      have hpair := nibbles_pair (hdig a (by simp)) (hdig b (by simp))
      match i, hi with
      | 0, _ => exact hpair.1
      | 1, _ => exact hpair.2
      | i + 2, hi =>
        have hrest := ih (i := i) (fun d hd => hdig d (by simp [hd])) (by simpa using hi)
        simpa [swapDigits, hexPairs] using hrest
  unfold SmsPdu.nibbleAt
  dsimp only
  rw [hraw, if_neg (UInt8.not_lt.2 hdigi.2)]

theorem Holds.decodeNibbles (h : Holds buffer digits) (hdig : ∀ d ∈ digits, IsDigit d)
    (hn : i + n = digits.length) (hroom : out.length + n < outputAddrSize) :
    decodeNibbles buffer outputAddrSize n i out = out ++ digits.drop i := by
  induction n generalizing i out with
  | zero => rw [SmsPdu.decodeNibbles, drop_of_length_le (by omega), append_nil]
  | succ n ih =>
    have hi : i < digits.length := by omega
    have hdigi := hdig _ (getElem_mem hi)
    have hfill : digits[i] ≠ 70 := by
      intro heq
      rw [heq] at hdigi
      exact absurd hdigi (by decide)
    rw [SmsPdu.decodeNibbles, if_neg (by omega), h.nibbleAt hdig hi]
    rw [if_neg hfill, ih (by omega) (by simp; omega), append_assoc, singleton_append,
      getElem_cons_drop]

namespace Writer

variable {w : Writer} (val : UInt8)

theorem setByteAtPos_data (hi : i < w.pos.toNat) : (w.setByteAtPos val).data i = w.data i :=
  Function.update_of_ne (Nat.ne_of_lt hi) ..

theorem setByteAtPos_pos (hpos : w.pos.toNat < 255) :
    (w.setByteAtPos val).pos.toNat = w.pos.toNat + 1 := by
  unfold setByteAtPos
  rw [UInt8.toNat_add, show (1 : UInt8).toNat = 1 from rfl]
  omega

end Writer

/-- The header up to the type of the address. -/
def addressStart (sms : EncodeMsg) : Writer :=
  ((((⟨Memory.zero, 0⟩ : Writer).setByteAtPos 0x00).setByteAtPos
      (if sms.statusReport then 0x11 ||| 0x20 else 0x11)).setByteAtPos 0x00
    |>.setByteAtPos (UInt8.ofNat (addrDigits sms.addrData).length)).setByteAtPos
      (if sms.addrData.head? = some 43 then 0x91 else 0x81)

/-- What a PDU holds of an address: its length, its type and its bytes. -/
structure Addressed (c : Interface) (sms : EncodeMsg) (data : Memory) : Prop where
  length : data 3 = UInt8.ofNat (addrDigits sms.addrData).length
  toa : data 4 = if sms.addrData.head? = some 43 then 0x91 else 0x81
  bytes : ∀ i < ((addrDigits sms.addrData).length + 1) / 2,
    i < (pduEncodeAddr c sms.addrData (c.tafSmsPduBytes - 5)).1.length →
    data (5 + i) = (pduEncodeAddr c sms.addrData (c.tafSmsPduBytes - 5)).1.getD i 0

theorem encodeHeader_addressed (dcs : UInt8) (hlen : (addrDigits sms.addrData).length ≤ 255) :
    (encodeHeader c sms dcs).pos.toNat = 8 + ((addrDigits sms.addrData).length + 1) / 2 ∧
      Addressed c sms (encodeHeader c sms dcs).data := by
  have hpos : ((addressStart sms).encodeAddr c sms.addrData).pos.toNat =
      5 + ((addrDigits sms.addrData).length + 1) / 2 := by
    show ((5 : UInt8) + UInt8.ofNat (((addrDigits sms.addrData).length + 1) / 2)).toNat = _
    rw [UInt8.toNat_add, UInt8.toNat_ofNat', show (5 : UInt8).toNat = 5 from rfl]
    omega
  have hpos1 :=
    Writer.setByteAtPos_pos 0x00 (w := (addressStart sms).encodeAddr c sms.addrData) (by omega)
  have hpos2 := Writer.setByteAtPos_pos dcs
    (w := ((addressStart sms).encodeAddr c sms.addrData).setByteAtPos 0x00) (by omega)
  have hdata : ∀ i < 5 + ((addrDigits sms.addrData).length + 1) / 2, (encodeHeader c sms dcs).data i =
      ((addressStart sms).data.write 5 (pduEncodeAddr c sms.addrData (c.tafSmsPduBytes - 5)).1) i := by
    intro i hi
    show ((((addressStart sms).encodeAddr c sms.addrData).setByteAtPos 0x00 |>.setByteAtPos dcs).setByteAtPos
      0xAD).data i = _
    rw [Writer.setByteAtPos_data _ (by omega), Writer.setByteAtPos_data _ (by omega),
      Writer.setByteAtPos_data _ (by omega)]
    rfl
  refine ⟨?_, ?_, ?_, fun i hi hbyt => ?_⟩
  · show ((((addressStart sms).encodeAddr c sms.addrData).setByteAtPos 0x00 |>.setByteAtPos dcs).setByteAtPos
      0xAD).pos.toNat = _
    rw [Writer.setByteAtPos_pos _ (by omega)]
    omega
  · rw [hdata 3 (by omega), Memory.write]
    rfl
  · rw [hdata 4 (by omega), Memory.write]
    rfl
  · rw [hdata _ (by omega), Memory.write, if_pos ⟨by omega, by omega⟩, Nat.add_sub_cancel_left]

theorem Addressed.congr {data data' : Memory} (h : Addressed c sms data)
    (hsame : ∀ i < 5 + ((addrDigits sms.addrData).length + 1) / 2, data' i = data i) :
    Addressed c sms data' where
  length := (hsame 3 (by omega)).trans h.length
  toa := (hsame 4 (by omega)).trans h.toa
  bytes i hi hbyt := (hsame _ (by omega)).trans (h.bytes i hi hbyt)

theorem encodeOctets_data {w : Writer} {msgData : List UInt8} (hpos : w.pos.toNat < 255)
    (h : encodeOctets c msgData w = .ok pdu) (hi : i < w.pos.toNat) : pdu.data i = w.data i := by
  unfold encodeOctets at h
  split_ifs at h with hfits
  obtain rfl := Except.ok.inj h
  dsimp only
  rw [Memory.write, if_neg, Writer.setByteAtPos_data _ hi]
  rw [Writer.setByteAtPos_pos _ hpos]
  omega

theorem sms_EncodeGsm_addressed (hlen : (addrDigits sms.addrData).length ≤ 255)
    (h : sms_EncodeGsm c sms = .ok pdu) : Addressed c sms pdu.data := by
  unfold sms_EncodeGsm at h
  split_ifs at h with htext htype haddr hbits
  · split at h
    · exact absurd h nofun
    rename_i dcs hdcs
    obtain ⟨hpos, hadrd⟩ := encodeHeader_addressed (c := c) dcs hlen
    refine hadrd.congr fun i hi => ?_
    dsimp only at h
    split at h
    · exact absurd h nofun
    obtain rfl := Except.ok.inj h
    refine (Writer.setByteAtPos_data _ ?_).trans (if_neg ?_)
    · dsimp only
      omega
    · omega
  · split at h
    · exact absurd h nofun
    rename_i dcs hdcs
    obtain ⟨hpos, hadrd⟩ := encodeHeader_addressed (c := c) dcs hlen
    exact hadrd.congr fun i hi => encodeOctets_data (by omega) h (by omega)

theorem length_addrDigits (sms : EncodeMsg) :
    (addrDigits sms.addrData).length ≤ sms.addrData.length := by
  unfold addrDigits
  split
  · rename_i heq
    rw [heq]
    exact le_succ _
  · exact le_rfl

/-- A number comes back from the PDU it was encoded in. The constants of the service are 18
characters of a number and 176 bytes of a PDU; the caller of the decoder checks its room. -/
theorem pduDecodeAddr_encoded (c : Interface) (sms : EncodeMsg) (pdu : Pdu) (outputAddrSize : Nat)
    (hhex : ConvertsPairs c.stringToBinary)
    (hbytes : c.tafTypesRemotePartyNumMaxBytes ≤ 255 ∧
      5 + c.tafTypesRemotePartyNumMaxBytes ≤ c.tafSmsPduBytes)
    (hnumber : ∀ d ∈ addrDigits sms.addrData, IsDigit d)
    (hroom : sms.addrData.length < outputAddrSize)
    (h : sms_EncodeGsm c sms = .ok pdu) :
    pduDecodeAddr (fun i => pdu.data (4 + i)) (pdu.data 3) outputAddrSize = some sms.addrData := by
  have hmax : sms.addrData.length ≤ c.tafTypesRemotePartyNumMaxBytes := by
    by_contra hover
    unfold sms_EncodeGsm at h
    rw [if_pos (Nat.lt_of_not_le hover)] at h
    split_ifs at h
  have hdigits := length_addrDigits sms
  have hadrd := sms_EncodeGsm_addressed (by omega) h
  have hpairs : (pduEncodeAddr c sms.addrData (c.tafSmsPduBytes - 5)).1 =
      hexPairs (swapDigits (addrDigits sms.addrData)) :=
    hhex _ _ (swapDigits_hex hnumber) (by rw [swapDigits_length]; omega) (by rw [swapDigits_length]; omega)
  have hholds : Holds (fun i => pdu.data (4 + i)) (addrDigits sms.addrData) := by
    intro i hi
    have hbyte := hadrd.bytes i hi
    rw [hpairs, hexPairs_length, swapDigits_length] at hbyte
    dsimp only
    rw [show 4 + (i + 1) = 5 + i by omega]
    exact hbyte (by omega)
  have hlength : (pdu.data 3).toNat = (addrDigits sms.addrData).length := by
    rw [hadrd.length, UInt8.toNat_ofNat']
    omega
  unfold pduDecodeAddr
  dsimp only
  rw [if_neg (by omega), hadrd.toa, hlength]
  by_cases hplus : sms.addrData.head? = some 43
  · obtain ⟨digits, hdata⟩ := List.head?_eq_some_iff.1 hplus
    have hsplit : addrDigits sms.addrData = digits := by rw [hdata]; rfl
    rw [hdata, List.length_cons] at hroom
    rw [if_pos hplus, if_neg (by decide), if_pos ⟨rfl, by omega⟩,
      hholds.decodeNibbles hnumber (Nat.zero_add _) (by rw [hsplit]; simp; omega), hdata]
    rfl
  have hsplit : addrDigits sms.addrData = sms.addrData := by
    unfold addrDigits
    split
    · rename_i heq
      rw [heq] at hplus
      exact absurd rfl hplus
    · rfl
  rw [if_neg hplus, if_neg (by decide),
    hholds.decodeNibbles hnumber (Nat.zero_add _) (by simp; omega), hsplit]
  rfl

/-- The conversion of pairs, as far as its room goes. -/
def hexInterface : Interface := ⟨160, 140, 176, 18, fun string _ => hexPairs string⟩

/-- A number of eleven digits with its `+`. -/
theorem pduDecodeAddr_encoded_odd : ∃ pdu, sms_EncodeGsm hexInterface
      ⟨[104, 105], [43, 52, 57, 49, 55, 48, 49, 50, 51, 52, 53, 54], .sevenBits, .submit,
        false⟩ = .ok pdu ∧
    pduDecodeAddr (fun i => pdu.data (4 + i)) (pdu.data 3) 21 =
      some [43, 52, 57, 49, 55, 48, 49, 50, 51, 52, 53, 54] :=
  ⟨_, rfl, pduDecodeAddr_encoded hexInterface
    ⟨[104, 105], [43, 52, 57, 49, 55, 48, 49, 50, 51, 52, 53, 54], .sevenBits, .submit, false⟩ _ 21
    (fun _ _ _ _ _ => rfl) (by decide +kernel) (by decide +kernel) (by decide +kernel) rfl⟩

end TelAF.SmsPdu
