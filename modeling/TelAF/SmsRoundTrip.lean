import TelAF.SmsPdu

/-!
# What the encoder packs

The septets of a text are those of its characters in turn. Setting a septet at a position
makes a field there, keeps the bits before it and leaves the last byte clear behind it, so
the encoder packs the septets of its text as fields of seven bits; it stops early only when
the packed septets outgrow its buffer. Reading septets back and looking them up gives the
text again as far as the two tables are inverse to each other. They are on the default
alphabet and the extension table but for one letter: `ö` is given the septet 24, at which
nothing stands.
-/

namespace TelAF.SmsPdu
open DoipMessages (Memory)
open PackedFields List UInt8

variable {m : Memory} {buffer : Buffer} {val byte c : UInt8} {text : List UInt8} {pos i n : Nat}

def septetsOf (c : UInt8) : List UInt8 :=
  let byte := ascii_8_to_7.getD c.toNat 0
  if byte ≥ escapeShiftIndex then [escape7Bit, byte - escapeShiftIndex] else [byte]

def septets (text : List UInt8) : List UInt8 := text.flatMap septetsOf

theorem septets_cons : septets (c :: text) = septetsOf c ++ septets text := flatMap_cons

theorem septetsOf_lt (h : byte ∈ septetsOf c) : byte < 128 := by
  unfold septetsOf at h
  dsimp only at h
  split_ifs at h with hge
  · rcases mem_cons.1 h with rfl | h
    · decide
    obtain rfl := mem_singleton.1 h
    have hlt := UInt8.toNat_lt (ascii_8_to_7.getD c.toNat 0)
    rw [UInt8.lt_iff_toNat_lt, UInt8.toNat_sub_of_le _ _ (UInt8.le_iff_toNat_le.2 hge)]
    simp only [escapeShiftIndex, UInt8.toNat_ofNat] at hge ⊢
    omega
  · obtain rfl := mem_singleton.1 h
    exact UInt8.not_le.1 hge

section Septet

theorem testBit_get7BitsAtPos (hpos : pos / 8 < 256) :
    (get7BitsAtPos m pos).toNat.testBit i = (decide (i < 7) && bit m (pos + i)) := by
  unfold get7BitsAtPos
  rw [testBit_and_septet, testBit_or, testBit_shiftRight (Nat.mod_lt _ (by decide)),
    Nat.mod_eq_of_lt hpos]
  by_cases hi : i < 7
  swap
  · rw [decide_eq_false hi, Bool.false_and, Bool.false_and]
  have hhigh : (if pos % 8 > 0 then m (pos / 8 + 1) <<< ofNat (8 - pos % 8) else 0).toNat.testBit i
      = (decide (8 ≤ pos % 8 + i) && (m (pos / 8 + 1)).toNat.testBit (pos % 8 + i - 8)) := by
    split_ifs with ho
    · rw [testBit_shiftLeft (by omega) (by omega)]
      have hle : 8 - pos % 8 ≤ i ↔ 8 ≤ pos % 8 + i := by omega
      have hsub : i - (8 - pos % 8) = pos % 8 + i - 8 := by omega
      simp only [hle, hsub]
    · rw [decide_eq_false (by omega)]
      exact Nat.zero_testBit i
  rw [hhigh]
  unfold bit
  by_cases hnext : 8 ≤ pos % 8 + i
  · rw [testBit_of_le hnext, decide_eq_true hnext, Bool.false_or, Bool.true_and,
      show (pos + i) / 8 = pos / 8 + 1 by omega, show (pos + i) % 8 = pos % 8 + i - 8 by omega]
  · rw [decide_eq_false hnext, Bool.false_and, Bool.or_false,
      show (pos + i) / 8 = pos / 8 by omega, show (pos + i) % 8 = pos % 8 + i by omega]

theorem get7BitsAtPos_field (hpos : pos / 8 < 256) : Field 7 m pos (get7BitsAtPos m pos).toNat := by
  intro j hj
  rw [testBit_get7BitsAtPos hpos, decide_eq_true hj, Bool.true_and]

theorem get7BitsAtPos_lt : get7BitsAtPos m pos < 128 := by
  unfold get7BitsAtPos
  dsimp only
  generalize m (pos / 8 % 256) >>> ofNat (pos % 8) ||| _ = b
  have hle : (b &&& 0x7F).toNat ≤ 127 := by
    exact Nat.and_le_right
  exact lt_iff_toNat_lt.2 (Nat.lt_succ_of_le hle)

variable (hpos : pos / 8 < 256)
include hpos
variable (hclr : Clear buffer.bytes pos)
include hclr

/-- The bits of the bytes around a septet that is set where the rest of the byte is clear. -/
theorem bit_set7BitsAtPos :
    bit (set7BitsAtPos buffer val pos).bytes i =
      if pos ≤ i ∧ i / 8 ≤ (pos + 6) / 8 then decide (i < pos + 7) &&
        val.toNat.testBit (i - pos)
      else bit buffer.bytes i := by
  unfold set7BitsAtPos
  rw [Nat.mod_eq_of_lt hpos]
  have hlt : pos % 8 < 8 := Nat.mod_lt _ (by decide)
  by_cases h0 : pos % 8 = 0
  · rw [if_pos h0]
    unfold Buffer.store
    rw [bit_update, testBit_and_septet]
    by_cases hin : i / 8 = pos / 8
    · rw [if_pos hin, if_pos (by omega), show i - pos = i % 8 by omega,
        show decide (i % 8 < 7) = decide (i < pos + 7) from decide_eq_decide.2 (by omega)]
    · rw [if_neg hin, if_neg (by omega)]
  rw [if_neg h0]
  have hor : ∀ o, o = pos % 8 → ∀ i, i / 8 = pos / 8 →
      (buffer.bytes (pos / 8) ||| (val &&& 0x7F) <<< ofNat o).toNat.testBit (i % 8) =
        if pos ≤ i then decide (i < pos + 7) && val.toNat.testBit (i - pos)
        else bit buffer.bytes i := by
    rintro _ rfl i hin
    rw [testBit_or, testBit_shiftLeft hlt (Nat.mod_lt _ (by decide)), testBit_and_septet]
    have hbit : (buffer.bytes (pos / 8)).toNat.testBit (i % 8) = bit buffer.bytes i := by
      unfold bit
      rw [hin]
    rw [hbit]
    split_ifs with hle
    · rw [hclr h0 i hle hin, Bool.false_or, show i % 8 - pos % 8 = i - pos by omega,
        decide_eq_true (show pos % 8 ≤ i % 8 by omega), Bool.true_and,
        show decide (i - pos < 7) = decide (i < pos + 7) from decide_eq_decide.2 (by omega)]
    · rw [decide_eq_false (show ¬ pos % 8 ≤ i % 8 by omega), Bool.false_and, Bool.or_false]
  split_ifs with h1 hrang hrang
  all_goals unfold Buffer.store
  all_goals dsimp only
  -- The septet ends with its byte.
  · rw [bit_update, if_pos (show i / 8 = pos / 8 by omega)]
    exact (hor 1 h1.symm i (by omega)).trans (if_pos hrang.1)
  · rw [bit_update]
    split_ifs with hin
    · exact (hor 1 h1.symm i hin).trans (if_neg (by omega))
    · rfl
  -- The rest of it opens the next byte.
  · rw [bit_update]
    split_ifs with hnext
    · rw [testBit_shiftRight (by omega), testBit_and_septet,
        show 8 - pos % 8 + i % 8 = i - pos by omega,
        show decide (i - pos < 7) = decide (i < pos + 7) from decide_eq_decide.2 (by omega)]
    · rw [bit_update, if_pos (show i / 8 = pos / 8 by omega)]
      exact (hor _ rfl i (by omega)).trans (if_pos hrang.1)
  · rw [bit_update, if_neg (show i / 8 ≠ pos / 8 + 1 by omega), bit_update]
    split_ifs with hin
    · exact (hor _ rfl i hin).trans (if_neg (by omega))
    · rfl

theorem set7BitsAtPos_before (hi : i < pos) :
    bit (set7BitsAtPos buffer val pos).bytes i = bit buffer.bytes i := by
  rw [bit_set7BitsAtPos hpos hclr, if_neg (by omega)]

theorem set7BitsAtPos_field : Field 7 (set7BitsAtPos buffer val pos).bytes pos val.toNat := by
  intro j hj
  rw [bit_set7BitsAtPos hpos hclr, if_pos (by omega), decide_eq_true (by omega), Bool.true_and,
    Nat.add_sub_cancel_left]

theorem set7BitsAtPos_clear : Clear (set7BitsAtPos buffer val pos).bytes (pos + 7) := by
  intro hne i hle hin
  rw [bit_set7BitsAtPos hpos hclr, if_pos (by omega), decide_eq_false (by omega), Bool.false_and]

end Septet

section Encode

variable {e : Encoder} {ss l : List UInt8} {size : Nat}

/-- An encoder whose buffer holds septets, so far and nothing behind them. -/
structure Packed (e : Encoder) (ss : List UInt8) : Prop where
  count : e.numOfwriteChar.toNat = ss.length
  fields : Fields 7 e.bufferOut.bytes (ss.map UInt8.toNat)
  clear : Clear e.bufferOut.bytes (ss.length * 7)
  septets : e.bufferOut.septets = ss

/-- The count of the bytes goes with that of the septets. -/
def Encoder.Counted (e : Encoder) : Prop := e.numOf8bitChar = bytesFor (e.numOfwriteChar.toNat * 7)

theorem Encoder.count_counted : e.count.Counted := by
  unfold Counted count bytesFor
  dsimp only
  split_ifs <;> omega

@[simp] theorem Encoder.count_bufferOut : e.count.bufferOut = e.bufferOut := rfl

@[simp] theorem Encoder.count_numOfwriteChar : e.count.numOfwriteChar = e.numOfwriteChar := rfl

@[simp] theorem Encoder.put_numOf8bitChar : (e.put byte).numOf8bitChar = e.numOf8bitChar := rfl

@[simp] theorem Encoder.put_septets :
    (e.put byte).bufferOut.septets = e.bufferOut.septets ++ [byte] := by
  unfold Encoder.put set7BitsAtPos
  dsimp only
  split_ifs <;> rfl

/-- One round of the loop: the check, then the septets of the character. -/
theorem encodeLoop_cons : encodeLoop size (c :: text) e =
    if e.numOf8bitChar > size then (e, true)
    else encodeLoop size text ((septetsOf c).foldl Encoder.put e).count := by
  unfold septetsOf
  rw [encodeLoop]
  dsimp only
  rw [Encoder.put_numOf8bitChar]
  split_ifs <;> rfl

theorem Packed.put (h : Packed e ss) (hlen : ss.length < 255) :
    Packed (e.put byte) (ss ++ [byte]) := by
  have hpos : e.numOfwriteChar.toNat * 7 / 8 < 256 := by
    rw [h.count]
    omega
  have hclr : Clear e.bufferOut.bytes (e.numOfwriteChar.toNat * 7) := by
    rw [h.count]
    exact h.clear
  refine ⟨?_, ?_, ?_, ?_⟩
  · rw [length_append]
    unfold Encoder.put
    rw [UInt8.toNat_add, h.count, show (1 : UInt8).toNat = 1 from rfl]
    exact Nat.mod_eq_of_lt (by omega)
  · rw [map_append]
    refine h.fields.append (fun i hi => ?_) ?_
    · rw [length_map, ← h.count] at hi
      exact set7BitsAtPos_before hpos hclr hi
    · rw [length_map, ← h.count]
      exact set7BitsAtPos_field hpos hclr
  · rw [length_append, length_singleton, Nat.add_mul, ← h.count]
    exact set7BitsAtPos_clear hpos hclr
  · rw [Encoder.put_septets, h.septets]

theorem Packed.putAll (h : Packed e ss) (hlen : ss.length + l.length ≤ 255) :
    Packed (l.foldl Encoder.put e) (ss ++ l) := by
  induction l generalizing e ss with
  | nil => rwa [append_nil]
  | cons byte l ih =>
    rw [length_cons] at hlen
    rw [← singleton_append, ← append_assoc]
    refine ih (h.put (by omega)) ?_
    rw [length_append, length_singleton]
    omega

theorem Packed.count_iff : Packed e.count ss ↔ Packed e ss :=
  ⟨fun h => ⟨h.count, h.fields, h.clear, h.septets⟩, fun h => ⟨h.count, h.fields, h.clear, h.septets⟩⟩

/-- The loop packs the septets of its text where they fit the buffer and are not more
than its counter can hold. -/
theorem encodeLoop_fits (h : Packed e ss) (hcntd : e.Counted)
    (hlen : (ss ++ septets text).length ≤ 255)
    (hfits : bytesFor ((ss ++ septets text).length * 7) ≤ size) :
    (encodeLoop size text e).2 = false ∧ Packed (encodeLoop size text e).1
    (ss ++ septets text) := by
  have hroom : ¬ e.numOf8bitChar > size := by
    rw [hcntd, h.count]
    refine Nat.not_lt.2 ((bytesFor_mono ?_).trans hfits)
    rw [length_append]
    omega
  induction text generalizing e ss with
  | nil =>
    rw [show septets [] = [] from rfl, append_nil]
    exact ⟨decide_eq_false hroom, h⟩
  | cons c text ih =>
    rw [encodeLoop_cons, if_neg hroom]
    rw [septets_cons, ← append_assoc] at hlen hfits ⊢
    have hput : Packed ((septetsOf c).foldl Encoder.put e).count (ss ++ septetsOf c) := by
      refine Packed.count_iff.2 (h.putAll ?_)
      rw [length_append, length_append] at hlen
      omega
    refine ih hput Encoder.count_counted hlen hfits ?_
    rw [Encoder.count_counted, hput.count]
    refine Nat.not_lt.2 ((bytesFor_mono ?_).trans hfits)
    simp only [length_append]
    omega

theorem packed_start (bufferOut : Memory) : Packed ⟨⟨bufferOut, [], []⟩, 0, 0⟩ [] :=
  ⟨rfl, Fields.nil, Clear.zero _, rfl⟩

theorem counted_start (bufferOut : Memory) :
    Encoder.Counted ⟨⟨bufferOut, [], []⟩, 0, 0⟩ := by
  exact (by decide : 0 = bytesFor ((0 : UInt8).toNat * 7))

theorem encodeTo7Bits_fits (bufferOut : Memory) (hlen : (septets text).length ≤ 255)
    (hfits : bytesFor ((septets text).length * 7) ≤ size) :
    (pduEncode8BitsTo7Bits text bufferOut size).bufferOut_Write = some
    (UInt8.ofNat (septets text).length) ∧
    Fields 7 (pduEncode8BitsTo7Bits text bufferOut size).bufferOut.bytes ((septets text).map UInt8.toNat) ∧
    (pduEncode8BitsTo7Bits text bufferOut size).bufferOut.septets = septets text := by
  obtain ⟨hok, hpkd⟩ :=
    encodeLoop_fits (packed_start bufferOut) (counted_start bufferOut) hlen hfits
  rw [nil_append] at hpkd
  unfold pduEncode8BitsTo7Bits
  dsimp only
  rw [hok, if_neg Bool.false_ne_true]
  refine ⟨?_, hpkd.fields, hpkd.septets⟩
  rw [← hpkd.count, UInt8.ofNat_toNat]

end Encode

section Decode

variable {pre out : List UInt8} {size k : Nat}

/-- The character read back for the septets of one. -/
def restored (c : UInt8) : UInt8 :=
  let byte := ascii_8_to_7.getD c.toNat 0
  if byte ≥ escapeShiftIndex then escaped (byte - escapeShiftIndex)
  else ascii_7_to_8.getD byte.toNat 0

theorem forall_char {p : UInt8 → Prop} (h : ∀ n < 256, p (UInt8.ofNat n)) (c : UInt8) : p c := by
  have hc := h c.toNat (UInt8.toNat_lt c)
  rwa [UInt8.ofNat_toNat] at hc

theorem ne_escape (c : UInt8) : ¬ ascii_8_to_7.getD c.toNat 0 ≥ escapeShiftIndex →
    ascii_7_to_8.getD (ascii_8_to_7.getD c.toNat 0).toNat 0 ≠ escape7Bit := by
  revert c
  exact forall_char (by decide +kernel)

theorem get7BitsAtPos_of_fields {ss : List UInt8} (h : Fields 7 m (ss.map UInt8.toNat))
    (hlt : ∀ byte ∈ ss, byte < 128) (hlen : ss.length ≤ 255) (hk : k < ss.length) :
    get7BitsAtPos m (k * 7) = ss[k] := by
  have hfiel := h k (by rwa [length_map])
  rw [getElem_map] at hfiel
  refine UInt8.toNat_inj.1 ((get7BitsAtPos_field (by omega)).unique hfiel ?_ ?_)
  · exact UInt8.lt_iff_toNat_lt.1 get7BitsAtPos_lt
  · exact UInt8.lt_iff_toNat_lt.1 (hlt _ (getElem_mem hk))

/-- The loop over packed septets gives the characters back that their tables restore. -/
theorem decodeLoop_septets (h : Fields 7 m ((pre ++ septets text).map toNat))
    (hlt : ∀ byte ∈ pre ++ septets text, byte < 128)
    (hlen : (pre ++ septets text).length ≤ 255)
    (hroom : out.length + text.length ≤ size) :
    decodeLoop m size (septets text).length pre.length out = some (out ++ text.map restored) := by
  induction text generalizing pre out with
  | nil => rw [show septets [] = [] from rfl, length_nil, decodeLoop, map_nil, append_nil]
  | cons c text ih =>
    rw [length_cons] at hroom
    have hout : ¬ out.length ≥ size := by omega
    rw [septets_cons] at h hlt hlen ⊢
    have hget : ∀ i (hi : i < (septetsOf c).length),
        get7BitsAtPos m ((pre.length + i) * 7) = (septetsOf c)[i] := by
      intro i hi
      rw [get7BitsAtPos_of_fields h hlt hlen (by simp only [length_append]; omega)]
      rw [getElem_append_right (by omega), getElem_append_left (by omega)]
      congr 1
      omega
    rw [← append_assoc] at h hlt hlen
    have hrest :
        decodeLoop m size (septets text).length (pre ++ septetsOf c).length (out ++ [restored c])
        = some (out ++ [restored c] ++ text.map restored) := ih h hlt hlen (by
      rw [length_append, length_singleton]
      omega)
    rw [append_assoc, singleton_append, length_append] at hrest
    rw [map_cons, ← hrest, length_append]
    by_cases hesc : ascii_8_to_7.getD c.toNat 0 ≥ escapeShiftIndex
    · have hc : septetsOf c = [escape7Bit, ascii_8_to_7.getD c.toNat 0 - escapeShiftIndex] :=
        if_pos hesc
      have hrstd : restored c = escaped (ascii_8_to_7.getD c.toNat 0 - escapeShiftIndex) := if_pos hesc
      have hfst := hget 0 (by rw [hc]; exact Nat.zero_lt_succ _)
      have hsec := hget 1 (by rw [hc]; exact Nat.one_lt_two)
      simp only [hc, getElem_cons_zero, getElem_cons_succ, Nat.add_zero] at hfst hsec
      rw [hc, hrstd, length_cons, length_singleton,
        show 1 + 1 + (septets text).length = (septets text).length + 1 + 1 by omega, decodeLoop]
      rw [hfst, if_neg (not_not.2 (by decide)), if_neg hout, hsec]
    · have hc : septetsOf c = [ascii_8_to_7.getD c.toNat 0] := if_neg hesc
      have hrstd : restored c = ascii_7_to_8.getD (ascii_8_to_7.getD c.toNat 0).toNat 0 := if_neg hesc
      have hfst := hget 0 (by rw [hc]; exact Nat.zero_lt_succ _)
      simp only [hc, getElem_cons_zero, Nat.add_zero] at hfst
      rw [hc, hrstd, length_singleton, Nat.add_comm 1, decodeLoop]
      rw [hfst, if_pos (ne_escape c hesc), if_neg hout]

end Decode

/-- The default alphabet as far as Latin-1 has it; the escape is no character. -/
def defaultAlphabet : List UInt8 :=
  [64, 163, 36, 165, 232, 233, 249, 236, 242, 199, 10, 216, 248, 13, 197, 229,
   95, 198, 230, 223, 201,
   32, 33, 34, 35, 164, 37, 38, 39, 40, 41, 42, 43, 44, 45, 46, 47,
   48, 49, 50, 51, 52, 53, 54, 55, 56, 57, 58, 59, 60, 61, 62, 63,
   161, 65, 66, 67, 68, 69, 70, 71, 72, 73, 74, 75, 76, 77, 78, 79,
   80, 81, 82, 83, 84, 85, 86, 87, 88, 89, 90, 196, 214, 209, 220, 167,
   191, 97, 98, 99, 100, 101, 102, 103, 104, 105, 106, 107, 108, 109, 110, 111,
   112, 113, 114, 115, 116, 117, 118, 119, 120, 121, 122, 228, 246, 241, 252, 224]

/-- The extension table: a form feed and the characters `^{}\[~]|`. -/
def extensionTable : List UInt8 := [12, 94, 123, 125, 92, 91, 126, 93, 124]

/-- The letter `ö`. -/
def oUmlaut : UInt8 := 246

/-- The characters of both tables come back, the letter `ö` apart. -/
theorem restored_eq_iff (hc : c ∈ defaultAlphabet ++ extensionTable) :
    restored c = c ↔ c ≠ oUmlaut := by
  have hall : ∀ c ∈ defaultAlphabet ++ extensionTable, restored c = c ↔ c ≠ oUmlaut := by
    decide +kernel
  exact hall c hc

/-- A text comes back from its packed septets. -/
def RoundTrip (text : List UInt8) (bufferOut : Memory) (bufferOut_Size decoded_Size : Nat) : Prop :=
  ∃ len, (pduEncode8BitsTo7Bits text bufferOut bufferOut_Size).bufferOut_Write = some len ∧
    pduDecode7BitsTo8Bits (pduEncode8BitsTo7Bits text bufferOut bufferOut_Size).bufferOut.bytes len
      decoded_Size = some text

theorem decode_encode (bufferOut : Memory) {bufferOut_Size decoded_Size : Nat}
    (hlen : (septets text).length ≤ 255)
    (hfits : bytesFor ((septets text).length * 7) ≤ bufferOut_Size)
    (hroom : text.length ≤ decoded_Size) :
    pduDecode7BitsTo8Bits (pduEncode8BitsTo7Bits text bufferOut bufferOut_Size).bufferOut.bytes
      (ofNat (septets text).length) decoded_Size = some (text.map restored) := by
  have hlt : ∀ byte ∈ septets text, byte < 128 := by
    intro byte hbyte
    obtain ⟨c, -, hc⟩ := mem_flatMap.1 hbyte
    exact septetsOf_lt hc
  have hdeco : decodeLoop _ decoded_Size (septets text).length ([] : List UInt8).length [] = _ :=
    decodeLoop_septets (encodeTo7Bits_fits bufferOut hlen hfits).2.1 hlt hlen (by simpa using hroom)
  unfold pduDecode7BitsTo8Bits
  rw [toNat_ofNat', Nat.mod_eq_of_lt (by omega)]
  exact hdeco

/-- A text of the alphabet whose septets fit comes back, if and only if it is without `ö`. -/
theorem gsm_roundTrip (text : List UInt8) (bufferOut : Memory) (bufferOut_Size decoded_Size : Nat)
    (htext : ∀ c ∈ text, c ∈ defaultAlphabet ++ extensionTable)
    (hlen : (septets text).length ≤ 160)
    (hfits : bytesFor ((septets text).length * 7) ≤ bufferOut_Size)
    (hroom : text.length ≤ decoded_Size) :
    RoundTrip text bufferOut bufferOut_Size decoded_Size ↔ oUmlaut ∉ text := by
  have hwrite := (encodeTo7Bits_fits bufferOut (by omega) hfits).1
  have hdecode := decode_encode bufferOut (by omega) hfits hroom
  have hmap : text.map restored = text ↔ ∀ c ∈ text, restored c = c := by
    conv_lhs => rhs; rw [← List.map_id text]
    exact List.map_inj_left
  unfold RoundTrip
  rw [hwrite]
  constructor
  · rintro ⟨len, hlen, heq⟩ ho
    rw [← Option.some.inj hlen, hdecode] at heq
    exact (restored_eq_iff (htext _ ho)).1 (hmap.1 (Option.some.inj heq) _ ho) rfl
  · intro ho
    refine ⟨_, rfl, ?_⟩
    rw [hdecode, hmap.2 fun c hc => (restored_eq_iff (htext c hc)).2 fun heq => ho (heq ▸ hc)]

/-- `Größe^` written without its `ö`: seven septets in seven bytes. -/
theorem gsm_roundTrip_grosse :
    ∃ text, text = [71, 114, 111, 101, 223, 101, 94] ∧
      (RoundTrip text Memory.zero 140 161 ↔ oUmlaut ∉ text) :=
  ⟨_, rfl,
    gsm_roundTrip _ _ _ _ (by decide +kernel) (by decide +kernel) (by decide +kernel) (by decide)⟩

/-- `ö` alone comes back as a question mark. -/
theorem not_gsm_roundTrip :
    ¬ ∀ text : List UInt8, (∀ c ∈ text, c ∈ defaultAlphabet ++ extensionTable) →
      (septets text).length ≤ 160 → RoundTrip text Memory.zero 140 161 := by
  intro h
  obtain ⟨len, hwrite, hdecode⟩ := h [oUmlaut] (by decide +kernel) (by decide +kernel)
  have hlen : len = 1 := by
    have hone : (pduEncode8BitsTo7Bits [oUmlaut] Memory.zero 140).bufferOut_Write = some 1 := by
      decide +kernel
    exact Option.some.inj (hwrite.symm.trans hone)
  rw [hlen] at hdecode
  have hmark :
      pduDecode7BitsTo8Bits (pduEncode8BitsTo7Bits [oUmlaut] Memory.zero 140).bufferOut.bytes 1 161
      = some [nonPrintable8Bit] := by decide +kernel
  exact absurd (hdecode.symm.trans hmark) (by decide)

end TelAF.SmsPdu
