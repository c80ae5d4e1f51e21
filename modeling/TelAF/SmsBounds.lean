import TelAF.SmsRoundTrip

/-!
# Bounds of the encoder

The check of the encoder looks at the bytes of the characters before the one it is about to
write, so the character that outgrows the buffer is written behind it before the next check
sees it. The number of septets is kept in a byte: of a text with many escapes it starts
again at zero, and the PDU is then given the rest of it. Within the buffer and below that
bound the encoder does what its check is there for.
-/

namespace TelAF.SmsPdu
open DoipMessages (Memory)
open PackedFields Encoder List UInt8 Nat

variable {buffer : Buffer} {val byte c : UInt8} {text : List UInt8}
  {pos i n size : Nat} {e : Encoder}
  {l : List UInt8}

/-- A septet writes the byte of its first bit and that of its last one. -/
theorem set7BitsAtPos_written (hpos : pos / 8 < 256) :
    (set7BitsAtPos buffer val pos).written =
      buffer.written ++ if pos % 8 < 2 then [pos / 8] else [pos / 8, pos / 8 + 1] := by
  unfold set7BitsAtPos Buffer.store
  dsimp only
  rw [mod_eq_of_lt hpos]
  split_ifs with h0 h1 h2 h2 h2
  · rfl
  · omega
  · rfl
  · omega
  · omega
  · rw [append_assoc, singleton_append]

namespace Encoder

theorem pos_lt (e : Encoder) : e.numOfwriteChar.toNat * 7 / 8 < 256 := by
  have hlt := toNat_lt e.numOfwriteChar
  omega

theorem put_written (h : i ∈ (e.put byte).bufferOut.written) :
    i ∈ e.bufferOut.written ∨ i < bytesFor (e.numOfwriteChar.toNat * 7 + 7) := by
  unfold put at h
  dsimp only at h
  rw [set7BitsAtPos_written e.pos_lt] at h
  unfold bytesFor
  rcases mem_append.1 h with hold | hnew
  · exact Or.inl hold
  split_ifs at hnew with ho
  · have hi := mem_singleton.1 hnew
    omega
  · rcases mem_pair.1 hnew with hi | hi
    all_goals omega

theorem put_last :
    bytesFor (e.numOfwriteChar.toNat * 7 + 7) - 1 ∈ (e.put byte).bufferOut.written := by
  unfold put
  rw [set7BitsAtPos_written e.pos_lt]
  refine mem_append_right _ ?_
  unfold bytesFor
  split_ifs with ho
  · exact mem_singleton.2 (by omega)
  · exact mem_pair.2 (Or.inr (by omega))

theorem put_mono : e.bufferOut.written ⊆ (e.put byte).bufferOut.written := by
  unfold put
  rw [set7BitsAtPos_written e.pos_lt]
  exact subset_append_left _ _

theorem putAll_mono : e.bufferOut.written ⊆ (l.foldl put e).bufferOut.written := by
  induction l generalizing e with
  | nil => exact List.Subset.refl _
  | cons byte l ih => exact List.Subset.trans put_mono ih

theorem count_le : e.count.numOf8bitChar ≤ 224 := by
  have hlt := toNat_lt e.numOfwriteChar
  rw [count_counted, count_numOfwriteChar]
  unfold bytesFor
  omega

end Encoder

theorem encodeLoop_mono : e.bufferOut.written ⊆ (encodeLoop size text e).1.bufferOut.written := by
  induction text generalizing e with
  | nil => exact List.Subset.refl _
  | cons c text ih =>
    rw [encodeLoop_cons]
    split_ifs with hover
    · exact List.Subset.refl _
    intro i hi
    refine ih ?_
    exact putAll_mono hi

section Packed

variable {ss : List UInt8}

/-- What was written lies in the bytes of the septets. -/
def Inside (e : Encoder) (ss : List UInt8) : Prop :=
  ∀ i ∈ e.bufferOut.written, i < bytesFor (ss.length * 7)

theorem Inside.putAll (hin : Inside e ss) (h : Packed e ss) (hlen : ss.length + l.length ≤ 255) :
    Inside (l.foldl put e) (ss ++ l) := by
  induction l generalizing e ss with
  | nil => rwa [append_nil]
  | cons byte l ih =>
    rw [length_cons] at hlen
    rw [← singleton_append, ← append_assoc]
    refine ih (fun i hi => ?_) (h.put (by omega)) ?_
    · rw [length_append, length_singleton, add_mul]
      rcases put_written hi with hold | hnew
      · exact (hin i hold).trans_le (bytesFor_mono (le_add_right _ _))
      · rwa [h.count] at hnew
    · rw [length_append, length_singleton]
      omega

theorem encodeLoop_inside (hin : Inside e ss) (h : Packed e ss)
    (hlen : (ss ++ septets text).length ≤ 255) :
    Inside (encodeLoop size text e).1 (ss ++ septets text) := by
  induction text generalizing e ss with
  | nil =>
    rw [show septets [] = [] from rfl, append_nil]
    exact hin
  | cons c text ih =>
    rw [encodeLoop_cons]
    split_ifs with hover
    · intro i hi
      refine (hin i hi).trans_le (bytesFor_mono ?_)
      rw [length_append]
      omega
    rw [septets_cons, ← append_assoc] at hlen ⊢
    have hchar : ss.length + (septetsOf c).length ≤ 255 := by
      rw [length_append, length_append] at hlen
      omega
    exact ih (hin.putAll h hchar) (Packed.count_iff.2 (h.putAll hchar)) hlen

theorem Packed.putAll_crosses (h : Packed e ss) (hsize : size < 224)
    (hbef : bytesFor (ss.length * 7) ≤ size) (hcros : size < bytesFor ((ss ++ l).length * 7)) :
    ∃ i ∈ (l.foldl Encoder.put e).bufferOut.written, size ≤ i := by
  induction l generalizing e ss with
  | nil =>
    rw [append_nil] at hcros
    omega
  | cons byte l ih =>
    rw [foldl_cons]
    by_cases hnext : bytesFor ((ss ++ [byte]).length * 7) ≤ size
    · have hlen : ss.length < 255 := by
        rw [length_append] at hnext
        unfold bytesFor at hnext
        omega
      refine ih (h.put hlen) hnext ?_
      rwa [append_assoc]
    · rw [length_append, length_singleton, Nat.add_mul, Nat.one_mul, ← h.count] at hnext
      exact ⟨_, Encoder.putAll_mono Encoder.put_last, by omega⟩

/-- A text that outgrows a buffer of the encoder is written behind it. -/
theorem encodeLoop_crosses (h : Packed e ss) (hcntd : e.Counted) (hsize : size < 224)
    (hbef : bytesFor (ss.length * 7) ≤ size)
    (hcros : size < bytesFor ((ss ++ septets text).length * 7)) :
    ∃ i ∈ (encodeLoop size text e).1.bufferOut.written, size ≤ i := by
  induction text generalizing e ss with
  | nil =>
    rw [show septets [] = [] from rfl, append_nil] at hcros
    omega
  | cons c text ih =>
    have hroom : ¬ e.numOf8bitChar > size := by
      rw [hcntd, h.count]
      omega
    rw [encodeLoop_cons, if_neg hroom]
    by_cases hnext : bytesFor ((ss ++ septetsOf c).length * 7) ≤ size
    · have hlen : ss.length + (septetsOf c).length ≤ 255 := by
        rw [length_append] at hnext
        unfold bytesFor at hnext
        omega
      refine ih (Packed.count_iff.2 (h.putAll hlen)) Encoder.count_counted hnext ?_
      rwa [append_assoc]
    · obtain ⟨i, hi, hle⟩ := h.putAll_crosses hsize hbef (Nat.lt_of_not_le hnext)
      exact ⟨i, encodeLoop_mono hi, hle⟩

end Packed

section Counter

theorem Encoder.putAll_septets :
    (l.foldl put e).bufferOut.septets = e.bufferOut.septets ++ l := by
  induction l generalizing e with
  | nil => exact (append_nil _).symm
  | cons byte l ih => rw [foldl_cons, ih, put_septets, append_assoc, singleton_append]

theorem Encoder.putAll_numOfwriteChar :
    (l.foldl put e).numOfwriteChar = e.numOfwriteChar + ofNat l.length := by
  induction l generalizing e with
  | nil => exact (add_zero _).symm
  | cons byte l ih =>
    rw [foldl_cons, ih, length_cons, ofNat_add]
    change e.numOfwriteChar + 1 + _ = e.numOfwriteChar + (_ + 1)
    rw [add_assoc, add_comm 1]

theorem Encoder.putAll_written (he : ∀ i ∈ e.bufferOut.written, i < 224) :
    ∀ i ∈ (l.foldl put e).bufferOut.written, i < 224 := by
  induction l generalizing e with
  | nil => exact he
  | cons byte l ih =>
    refine ih fun i hi => ?_
    rcases put_written hi with hold | hnew
    · exact he i hold
    have hlt := toNat_lt e.numOfwriteChar
    unfold bytesFor at hnew
    omega

/-- A buffer of 224 bytes is never found too small, whatever the text. -/
theorem encodeLoop_never (hsize : 224 ≤ size) (hle : e.numOf8bitChar ≤ 224)
    (he : ∀ i ∈ e.bufferOut.written, i < 224) :
    (encodeLoop size text e).2 = false ∧
    (encodeLoop size text e).1.bufferOut.septets = e.bufferOut.septets ++ septets text ∧
    (encodeLoop size text e).1.numOfwriteChar = e.numOfwriteChar + ofNat (septets text).length ∧
    ∀ i ∈ (encodeLoop size text e).1.bufferOut.written, i < 224 := by
  induction text generalizing e with
  | nil => exact ⟨decide_eq_false (by omega), (append_nil _).symm, (add_zero _).symm, he⟩
  | cons c text ih =>
    rw [encodeLoop_cons, if_neg (by omega)]
    obtain ⟨hok, hsept, hcnt, hwrtn⟩ := ih count_le
      (putAll_written (l := septetsOf c) he)
    refine ⟨hok, ?_, ?_, hwrtn⟩
    · rw [hsept, count_bufferOut, putAll_septets, septets_cons, append_assoc]
    · rw [hcnt, count_numOfwriteChar, putAll_numOfwriteChar, septets_cons,
        length_append, ofNat_add, add_assoc]

end Counter

section Pdu

variable {c : Interface} {sms : EncodeMsg} {pdu : Pdu} {bufferOut : Memory}

/-- The bytes that the septets of a text take. -/
def packedLength (text : List UInt8) : Nat := bytesFor ((septets text).length * 7)

/-- The position of the user data length in the PDU of septets. -/
def udlPos (c : Interface) (sms : EncodeMsg) : Nat := (encodeHeader c sms 0x00).pos.toNat

/-- The encoder run for the user data of a PDU of septets. -/
def userData (c : Interface) (sms : EncodeMsg) : Encoded :=
  encodeSeptets c sms.msgData (encodeHeader c sms 0x00)

/-- What the checks before the user data let pass. -/
def Accepted (c : Interface) (sms : EncodeMsg) : Prop :=
  sms.msgData.length ≤ c.tafSmsTextLen ∧ sms.type = .submit ∧
    sms.addrData.length ≤ c.tafTypesRemotePartyNumMaxBytes

theorem sms_EncodeGsm_ok (hbits : sms.encoding = .sevenBits) (h : sms_EncodeGsm c sms = .ok pdu) :
    Accepted c sms ∧ (userData c sms).bufferOut_Write = some (pdu.data (udlPos c sms)) := by
  unfold sms_EncodeGsm at h
  rw [hbits] at h
  dsimp only [tpDcs] at h
  split_ifs at h with htext htype haddr heq
  · refine ⟨⟨Nat.le_of_not_lt htext, not_not.1 htype, Nat.le_of_not_lt haddr⟩, ?_⟩
    split at h
    · exact absurd h nofun
    rename_i len hlen
    obtain rfl := Except.ok.inj h
    unfold userData
    rw [hlen]
    refine congrArg some ?_
    unfold udlPos Writer.setByteAtPos
    dsimp only
    rw [Function.update_self]
  · exact absurd rfl heq

theorem sms_EncodeGsm_of_accepted (hbits : sms.encoding = .sevenBits)
    (h : Accepted c sms) {len : UInt8}
    (hlen : (userData c sms).bufferOut_Write = some len) :
    ∃ pdu, sms_EncodeGsm c sms = .ok pdu := by
  unfold sms_EncodeGsm
  rw [if_neg (not_lt.2 h.1), if_neg (not_not.2 h.2.1), if_neg (not_lt.2 h.2.2), hbits]
  dsimp only [tpDcs]
  unfold userData at hlen
  rw [hlen]
  exact ⟨_, rfl⟩

theorem userData_eq (htext : sms.msgData.length ≤ 160) : userData c sms =
    pduEncode8BitsTo7Bits sms.msgData (fun i => (encodeHeader c sms 0x00).data (udlPos c sms + 1 + i))
      c.tafSmsPduPayload := by
  unfold userData encodeSeptets
  rw [mod_eq_of_lt (by omega), take_length]
  rfl

/-- The encoder reports an overflow when its text outgrows the buffer and writes inside of
it, and the length in the PDU is that of the septets written. -/
structure EncoderBounds (c : Interface) (text : List UInt8) (bufferOut : Memory) : Prop where
  overflow : (pduEncode8BitsTo7Bits text bufferOut c.tafSmsPduPayload).bufferOut_Write = none ↔
    c.tafSmsPduPayload < packedLength text
  inside : ∀ i ∈ (pduEncode8BitsTo7Bits text bufferOut c.tafSmsPduPayload).bufferOut.written,
    i < c.tafSmsPduPayload
  udl : ∀ sms, sms.msgData = text → sms.encoding = .sevenBits →
    ∀ pdu, sms_EncodeGsm c sms = .ok pdu →
    (pdu.data (udlPos c sms)).toNat = (userData c sms).bufferOut.septets.length

theorem EncoderBounds.of_fits (htext : text.length ≤ 160)
    (hfits : packedLength text ≤ c.tafSmsPduPayload)
    (hlen : (septets text).length ≤ 255) : EncoderBounds c text bufferOut := by
  refine ⟨?_, fun i hi => ?_, ?_⟩
  · rw [(encodeTo7Bits_fits bufferOut hlen hfits).1]
    exact ⟨nofun, fun hover => absurd hfits (not_le.2 hover)⟩
  · exact (encodeLoop_inside (fun _ hi => absurd hi not_mem_nil) (packed_start bufferOut) hlen i hi).trans_le hfits
  rintro sms rfl hbits pdu hok
  have hwrit := (sms_EncodeGsm_ok hbits hok).2
  rw [userData_eq htext] at hwrit ⊢
  obtain ⟨hsome, -, hsept⟩ := encodeTo7Bits_fits
    (fun i => (encodeHeader c sms 0x00).data (udlPos c sms + 1 + i)) hlen hfits
  rw [hsept, ← Option.some.inj (hsome.symm.trans hwrit)]
  exact mod_eq_of_lt (by omega)

theorem encodeTo7Bits_never (bufferOut : Memory) (hsize : 224 ≤ size) :
    (pduEncode8BitsTo7Bits text bufferOut size).bufferOut_Write = some
    (ofNat (septets text).length) ∧
    (pduEncode8BitsTo7Bits text bufferOut size).bufferOut.septets = septets text ∧
    ∀ i ∈ (pduEncode8BitsTo7Bits text bufferOut size).bufferOut.written, i < 224 := by
  obtain ⟨hok, hsept, hcnt, hwrtn⟩ := encodeLoop_never
    (e := ⟨⟨bufferOut, [], []⟩, 0, 0⟩) hsize (zero_le _)
    (fun _ hi => absurd hi not_mem_nil)
  unfold pduEncode8BitsTo7Bits
  dsimp only
  rw [hok, hcnt, hsept]
  exact ⟨congrArg some (zero_add _), rfl, hwrtn⟩

/-- The bounds hold of a text of at most 160 characters exactly when its septets fit the
buffer and their number the byte that counts them, if the PDU takes the text at all. -/
theorem encoder_bounds (c : Interface) (text : List UInt8) (bufferOut : Memory)
    (htext : text.length ≤ 160) :
    EncoderBounds c text bufferOut ↔
      packedLength text ≤ c.tafSmsPduPayload ∧
        ((septets text).length ≤ 255 ∨ c.tafSmsTextLen < text.length) := by
  have hwide : 255 < (septets text).length → 224 ≤ packedLength text := by
    intro hlen
    unfold packedLength bytesFor
    omega
  constructor
  · intro h
    have hfits : packedLength text ≤ c.tafSmsPduPayload := by
      by_contra hover
      by_cases hsize : 224 ≤ c.tafSmsPduPayload
      · have hnone := h.overflow.2 (Nat.lt_of_not_le hover)
        rw [(encodeTo7Bits_never bufferOut hsize).1] at hnone
        exact absurd hnone nofun
      · obtain ⟨i, hi, hle⟩ :=
          encodeLoop_crosses (packed_start bufferOut) (counted_start bufferOut)
          (Nat.lt_of_not_le hsize) (Nat.zero_le _) (Nat.lt_of_not_le hover)
        exact absurd (h.inside i hi) (Nat.not_lt.2 hle)
    refine ⟨hfits, ?_⟩
    by_contra hboth
    obtain ⟨hlen, htaken⟩ := not_or.1 hboth
    have hnever : ∀ sms : EncodeMsg, sms.msgData = text →
        (userData c sms).bufferOut_Write = some (UInt8.ofNat (septets text).length) ∧
        (userData c sms).bufferOut.septets = septets text := by
      rintro sms rfl
      rw [userData_eq htext]
      obtain ⟨hsome, hseptets, -⟩ := encodeTo7Bits_never
        (fun i => (encodeHeader c sms 0x00).data (udlPos c sms + 1 + i))
        ((hwide (Nat.lt_of_not_le hlen)).trans hfits)
      exact ⟨hsome, hseptets⟩
    -- A message without an address carries the text.
    obtain ⟨hsome, hseptets⟩ := hnever ⟨text, [], .sevenBits, .submit, false⟩ rfl
    obtain ⟨pdu, hok⟩ :=
      sms_EncodeGsm_of_accepted rfl ⟨Nat.le_of_not_lt htaken, rfl, Nat.zero_le _⟩ hsome
    have hudl := h.udl _ rfl rfl pdu hok
    have hwrite := (sms_EncodeGsm_ok rfl hok).2
    rw [hsome] at hwrite
    rw [← Option.some.inj hwrite, hseptets] at hudl
    have hbyte := UInt8.toNat_lt (UInt8.ofNat (septets text).length)
    omega
  · rintro ⟨hfits, hlen⟩
    by_cases hshort : (septets text).length ≤ 255
    · exact .of_fits htext hfits hshort
    have hsize := (hwide (Nat.lt_of_not_le hshort)).trans hfits
    obtain ⟨hsome, -, hwritten⟩ := encodeTo7Bits_never bufferOut hsize
    refine ⟨?_, fun i hi => (hwritten i hi).trans_le hsize, ?_⟩
    · rw [hsome]
      exact ⟨nofun, fun hover => absurd hfits (Nat.not_le.2 hover)⟩
    rintro sms rfl hbits pdu hok
    have htaken := (sms_EncodeGsm_ok hbits hok).1.1
    omega

/-- The constants of the service; the digits of an address are not looked at. -/
def smsInterface : Interface := ⟨160, 140, 176, 18, fun _ _ => []⟩

theorem encoder_bounds_160 : ∃ text, text = List.replicate 160 97 ∧
    (EncoderBounds smsInterface text Memory.zero ↔
      packedLength text ≤ 140 ∧ ((septets text).length ≤ 255 ∨ 160 < text.length)) :=
  ⟨_, rfl, encoder_bounds smsInterface _ _ (by decide +kernel)⟩

/-- One escape in 160 characters: the last of them is written behind the 140 bytes. -/
theorem not_encoder_bounds :
    ¬ EncoderBounds smsInterface (List.replicate 159 97 ++ [123]) Memory.zero := by
  intro h
  have hwritten : 140 ∈ (pduEncode8BitsTo7Bits (List.replicate 159 97 ++ [123]) Memory.zero
      smsInterface.tafSmsPduPayload).bufferOut.written := by
    decide +kernel
  exact absurd (h.inside 140 hwritten) (by decide)

end Pdu

end TelAF.SmsPdu
