import Mathlib.Data.BitVec
import Mathlib.Data.List.Basic
import Mathlib.Tactic.SplitIfs

/-!
# Bit fields of a record

The generated configuration takes a field of at most 32 bits out of a record twice, each
time with the high bits of a byte first: `extractBits` shifts the bits in, and a
`DynamicBitArray` collects them one by one before it is read as a number. Both give the
big-endian value of the bits as long as the record holds them and its bits can be counted
in the words that are used. `extractBits` takes the byte behind the record for one of its
own, and a negative number of 32 bits is extended by a shift as wide as its word.
-/

namespace TelAF.BitExtraction

open List Nat

/-- How a function ends that does not return. -/
inductive Failure where
  | thrown
  | undefined
  deriving DecidableEq

/-- `(byte >> (7 - offset)) & 1` -/
def highBit (byte : BitVec 8) (offset : Nat) : BitVec 8 := (byte >>> (7 - offset)) &&& 1#8

/-- `uint16_t totalBitIndex = bitOffset + i` -/
def totalBitIndex (bitOffset : BitVec 16) (i : Nat) : Nat := (bitOffset + BitVec.ofNat 16 i).toNat

/-- One round of the loop of `extractBits`. -/
def extractBit (data : List (BitVec 8)) (bitOffset : BitVec 16) (result : BitVec 32) (i : Nat) :
    Except Failure (BitVec 32) :=
  let byteIndex := totalBitIndex bitOffset i / 8
  if byteIndex > data.length then .error .thrown
  else
    match data[byteIndex]? with
    -- the byte behind the record is read
    | none => .error .undefined
    | some byte =>
      .ok ((result <<< 1) ||| (highBit byte (totalBitIndex bitOffset i % 8)).setWidth 32)

def extractBits (data : List (BitVec 8)) (bitOffset : BitVec 16) (bitSize : Nat) :
    Except Failure (BitVec 32) :=
  (List.range bitSize).foldlM (extractBit data bitOffset) 0#32

/-- A bit of an array of bytes, `false` behind the end. -/
def bitAt (data : List (BitVec 8)) (i : Nat) : Bool := (data[i / 8]?.getD 0#8).getLsbD (7 - i % 8)

/-- No bit is set behind those that were pushed. -/
structure DynamicBitArray where
  data : List (BitVec 8) := []
  bitCount : Nat := 0
  filled : data.length = (bitCount + 7) / 8 := by rfl
  clear : ∀ i, bitCount ≤ i → bitAt data i = false := by simp [bitAt]

variable {data : List (BitVec 8)} {byte : BitVec 8} {bit : Bool} {b : Nat → Bool}
  {d : DynamicBitArray} {bitOffset : BitVec 16} {word : BitVec 32} {i k n bitSize : Nat}

theorem highBit_eq : highBit byte k = (BitVec.ofBool (byte.getLsbD (7 - k))).setWidth 8 := by
  ext i hi
  by_cases h : i = 0 <;> simp [highBit, h]

theorem highBit_ne_zero : (highBit byte k != 0#8) = byte.getLsbD (7 - k) := by
  rw [highBit_eq]
  cases byte.getLsbD (7 - k) <;> rfl

theorem bitAt_grown : bitAt (data ++ [0#8]) i = bitAt data i := by
  unfold bitAt
  rw [getElem?_append]
  split_ifs with h
  · rfl
  · rw [getElem?_eq_none (Nat.le_of_not_lt h)]
    cases i / 8 - data.length <;> simp

theorem bitAt_modify (h : k / 8 < data.length) :
    bitAt (data.modify (k / 8) (· ||| 1#8 <<< (7 - k % 8))) i = (bitAt data i || decide (i = k)) := by
  unfold bitAt
  by_cases hbyte : k / 8 = i / 8
  · have hoffs : i = k ↔ 7 - i % 8 = 7 - k % 8 := by omega
    have hbit : (1#8 <<< (7 - k % 8)).getLsbD (7 - i % 8) = decide (i = k) := by
      rw [Bool.eq_iff_iff]
      simp [hoffs]
      omega
    simp [hbyte, hbyte ▸ h, hbit]
  · have hne : i ≠ k := fun h => hbyte (h ▸ rfl)
    simp [hbyte, hne]

namespace DynamicBitArray

/-- The bytes after `data.push_back(0)`, if it is needed. -/
def grown (d : DynamicBitArray) : List (BitVec 8) :=
  if d.bitCount / 8 ≥ d.data.length then d.data ++ [0#8] else d.data

theorem grown_length : d.grown.length = (d.bitCount + 8) / 8 := by
  have := d.filled
  unfold grown
  split_ifs <;> simp <;> omega

theorem bitAt_grown : bitAt d.grown i = bitAt d.data i := by
  unfold grown
  split_ifs
  · exact BitExtraction.bitAt_grown
  · rfl

/-- The bytes once a bit is pushed. -/
def pushed (d : DynamicBitArray) (bit : Bool) : List (BitVec 8) :=
  if bit then d.grown.modify (d.bitCount / 8) (· ||| 1#8 <<< (7 - d.bitCount % 8)) else d.grown

theorem bitAt_pushed : bitAt (d.pushed bit) i = if i = d.bitCount then bit else bitAt d.data i := by
  have hend := d.clear d.bitCount (le_refl _)
  have hroom : d.bitCount / 8 < d.grown.length := by
    rw [grown_length]
    omega
  cases bit with
  | false =>
    rw [pushed, if_neg (by decide), bitAt_grown]
    split_ifs with hi
    · rw [hi, hend]
    · rfl
  | true =>
    rw [pushed, if_pos rfl, bitAt_modify hroom, bitAt_grown]
    split_ifs with hi <;> simp [hi]

def pushBack (d : DynamicBitArray) (bit : Bool) : DynamicBitArray where
  data := d.pushed bit
  bitCount := d.bitCount + 1
  filled := by
    unfold pushed
    split_ifs <;> simp only [List.length_modify, grown_length]
  clear := by
    intro i hi
    rw [bitAt_pushed, if_neg (by omega), d.clear i (by omega)]

def takeBit (payload : List (BitVec 8)) (startBit : Nat) (d : DynamicBitArray) (i : Nat) :
    Except Failure DynamicBitArray :=
  match payload[(startBit + i) / 8]? with
  | none => .error .undefined
  | some byte => .ok (d.pushBack (highBit byte ((startBit + i) % 8) != 0#8))

/-- `DynamicBitArray(payload, plen, start_bit, bit_len)`; `plen` has 32 bits. -/
def ofPayload (payload : List (BitVec 8)) (startBit bitLen : Nat) : Except Failure DynamicBitArray :=
  let plenBits := payload.length % 2 ^ 32 * 8 % 2 ^ 32
  if plenBits < bitLen ∨ plenBits < startBit + bitLen then .error .thrown
  else
    (List.range bitLen).foldlM (takeBit payload startBit) {}

theorem byte_lt (h : ¬ i ≥ d.bitCount) : i / 8 < d.data.length := by
  have := d.filled
  omega

/-- `at` -/
def at' (d : DynamicBitArray) (i : Nat) : Except Failure Bool :=
  if h : i ≥ d.bitCount then .error .thrown
  else .ok (highBit (d.data.get ⟨i / 8, byte_lt h⟩) (i % 8) != 0#8)

def collectBit (d : DynamicBitArray) (result : BitVec 32) (i : Nat) :
    Except Failure (BitVec 32) := do
  if ← d.at' i then return result ||| 1#32 <<< (d.bitCount - 1 - i) else return result

/-- The loop of `to_uint32_t` and of `to_int32_t`. -/
def collect (d : DynamicBitArray) : Except Failure (BitVec 32) :=
  (List.range d.bitCount).foldlM d.collectBit 0#32

def to_uint32_t (d : DynamicBitArray) : Except Failure (BitVec 32) :=
  if d.bitCount > 32 then .error .thrown else d.collect

def to_int32_t (d : DynamicBitArray) : Except Failure (BitVec 32) :=
  if d.bitCount > 32 then .error .thrown
  else if d.bitCount = 0 then .error .thrown
  else do
    let unsignedValue ← d.collect
    if ← d.at' 0 then
      -- a shift by the width of the word or more
      if d.bitCount ≥ 32 then .error .undefined
      else return unsignedValue ||| (~~~0#32) <<< d.bitCount
    else return unsignedValue

/-- The bits that were pushed. -/
def bits (d : DynamicBitArray) : List Bool := (List.range d.bitCount).map (bitAt d.data)

/-- The array of a bit string. -/
def ofBits (bits : List Bool) : DynamicBitArray := bits.foldl pushBack {}

end DynamicBitArray

/-- The bits of a slice of a record. -/
def slice (data : List (BitVec 8)) (offset size : Nat) : List Bool :=
  (List.range size).map fun i => bitAt data (offset + i)

/-- The extraction throws when the field exceeds the record, and gives its value otherwise. -/
def Extracts (data : List (BitVec 8)) (bitOffset : BitVec 16) (bitSize : Nat) : Prop :=
  (extractBits data bitOffset bitSize = .error .thrown ↔
    8 * data.length < bitOffset.toNat + bitSize) ∧
  (bitOffset.toNat + bitSize ≤ 8 * data.length →
    ∃ word, extractBits data bitOffset bitSize = .ok word ∧
      word.toNat = (BitVec.ofBoolListBE (slice data bitOffset.toNat bitSize)).toNat ∧
      (DynamicBitArray.ofPayload data bitOffset.toNat bitSize).bind DynamicBitArray.to_uint32_t =
        .ok word)

/-- The word has the bits `b 0`, …, `b (n - 1)`, the last one lowest. -/
def Reads (n : Nat) (b : Nat → Bool) (word : BitVec 32) : Prop :=
  ∀ j < 32, word.getLsbD j = (decide (j < n) && b (n - 1 - j))

theorem foldlM_range {σ : Type} {f : σ → Nat → Except Failure σ}
    (P : Nat → σ → Prop) {s : σ}
    (hsta : P 0 s) (hstep : ∀ i < n, ∀ s, P i s → ∃ t, f s i = .ok t ∧ P (i + 1) t) :
    ∃ t, (range n).foldlM f s = .ok t ∧ P n t := by
  induction n with
  | zero => exact ⟨s, rfl, hsta⟩
  | succ n ih =>
    obtain ⟨t, hrun, ht⟩ := ih fun i hi => hstep i (lt_succ_of_lt hi)
    obtain ⟨u, hlast, hu⟩ := hstep n (lt_succ_self n) t ht
    refine ⟨u, ?_, hu⟩
    rw [range_succ, foldlM_append, hrun]
    simp only [foldlM_cons, foldlM_nil, bind_pure]
    exact hlast

theorem reads_iff (hn : n ≤ 32) :
    Reads n b word ↔ word.toNat = (BitVec.ofBoolListBE ((range n).map b)).toNat := by
  have hbit (j : Nat) : (BitVec.ofBoolListBE ((range n).map b)).toNat.testBit j =
      (decide (j < n) && b (n - 1 - j)) := by
    rw [BitVec.testBit_toNat, BitVec.getLsbD_ofBoolListBE]
    by_cases hj : j < n
    · simp [show n - 1 - j < n by omega]
    · simp [hj]
  constructor
  · intro h
    apply Nat.eq_of_testBit_eq
    intro j
    rw [hbit, BitVec.testBit_toNat]
    by_cases hj : j < 32
    · exact h j hj
    · rw [BitVec.getLsbD_of_ge _ _ (Nat.le_of_not_lt hj), decide_eq_false (by omega), Bool.false_and]
  · intro h j _
    rw [← BitVec.testBit_toNat, h, hbit]

theorem Reads.congr {b' : Nat → Bool} (h : Reads n b word) (hb : ∀ i < n, b i = b' i) :
    Reads n b' word := by
  intro j hj
  rw [h j hj]
  by_cases hlt : j < n
  · rw [hb _ (by omega)]
  · rw [decide_eq_false hlt, Bool.false_and, Bool.false_and]

theorem Reads.unique {b' : Nat → Bool} (h : Reads n b word) (h' : Reads n b' word) (hn : n ≤ 32)
    (hi : i < n) : b i = b' i := by
  have hbit := (h (n - 1 - i) (by omega)).symm.trans (h' (n - 1 - i) (by omega))
  simpa [show n - 1 - i < n by omega, show n - 1 - (n - 1 - i) = i by omega] using hbit

theorem extractBit_eq (h : totalBitIndex bitOffset k / 8 < data.length) :
    extractBit data bitOffset word k =
      .ok (word <<< 1 ||| (BitVec.ofBool (bitAt data (totalBitIndex bitOffset k))).setWidth 32) := by
  unfold extractBit
  rw [if_neg (not_lt.2 h.le), bitAt, getElem?_eq_getElem h]
  rw [Option.getD_some]
  dsimp only
  rw [highBit_eq]
  cases (data[totalBitIndex bitOffset k / 8]).getLsbD (7 - totalBitIndex bitOffset k % 8) <;> rfl

theorem Reads.concat (h : Reads k b word) :
    Reads (k + 1) b (word <<< 1 ||| (BitVec.ofBool (b k)).setWidth 32) := by
  intro j hj
  rw [BitVec.getLsbD_or, BitVec.getLsbD_shiftLeft]
  cases j with
  | zero => simp
  | succ j =>
    have hprev := h j (by omega)
    simp [hprev, hj, show k - (j + 1) = k - 1 - j by omega]

/-- The first `k` of `n` bits stand where they stand in the number. -/
def Gathers (n k : Nat) (b : Nat → Bool) (word : BitVec 32) : Prop :=
  ∃ v, Reads k b v ∧ word = v <<< (n - k)

theorem Gathers.or (h : Gathers n k b word) (hk : k < n) :
    Gathers n (k + 1) b (if b k then word ||| 1#32 <<< (n - 1 - k) else word) := by
  obtain ⟨v, hread, rfl⟩ := h
  refine ⟨_, hread.concat, ?_⟩
  have hshif : v <<< (n - k) = v <<< 1 <<< (n - (k + 1)) := by
    rw [← BitVec.shiftLeft_add, show 1 + (n - (k + 1)) = n - k by omega]
  rw [BitVec.shiftLeft_or_distrib, hshif, show n - 1 - k = n - (k + 1) by omega]
  cases b k <;> simp

namespace DynamicBitArray

theorem at'_eq (h : i < d.bitCount) : d.at' i = .ok (bitAt d.data i) := by
  have hi := byte_lt (not_le.2 h)
  rw [at', dif_neg (not_le.2 h), bitAt, getElem?_eq_getElem hi, highBit_ne_zero]
  rfl

theorem collect_spec : ∃ word, d.collect = .ok word ∧ Reads d.bitCount (bitAt d.data) word := by
  have hrnd (i : Nat) (hi : i < d.bitCount) (result : BitVec 32)
      (hres : Gathers d.bitCount i (bitAt d.data) result) :
      ∃ next, d.collectBit result i = .ok next ∧
        Gathers d.bitCount (i + 1) (bitAt d.data) next := by
    refine ⟨_, ?_, hres.or hi⟩
    unfold collectBit
    rw [at'_eq hi]
    exact (apply_ite Except.ok ..).symm
  have hsta : Gathers d.bitCount 0 (bitAt d.data) 0#32 := ⟨0#32, fun j _ => by simp, by simp⟩
  obtain ⟨_, hrun, v, hread, rfl⟩ :=
    foldlM_range (Gathers d.bitCount · (bitAt d.data)) hsta hrnd
  rw [Nat.sub_self, BitVec.shiftLeft_zero] at hrun
  exact ⟨v, hrun, hread⟩

theorem bits_length : d.bits.length = d.bitCount := by
  simp [bits]

theorem ofBits_spec (bs : List Bool) : (ofBits bs).bitCount = bs.length ∧
    ∀ i (h : i < bs.length), bitAt (ofBits bs).data i = bs[i] := by
  unfold ofBits
  induction bs using reverseRecOn with
  | nil => simp
  | append_singleton bs bit ih =>
    rw [foldl_concat]
    refine ⟨by simpa [pushBack] using ih.1, ?_⟩
    intro i hi
    rw [pushBack, bitAt_pushed, ih.1]
    split_ifs with hlast
    · simp [hlast]
    · rw [ih.2 i (by simp at hi; omega), getElem_append_left]

theorem bits_ofBits (bs : List Bool) : (ofBits bs).bits = bs := by
  have hspec := ofBits_spec bs
  apply ext_getElem
  · rw [bits_length, hspec.1]
  · intro i hi hi'
    simp [bits, hspec.2 i hi']

theorem ofPayload_spec (h : i + n ≤ data.length % 2 ^ 32 * 8 % 2 ^ 32) :
    ∃ d, ofPayload data i n = .ok d ∧ d.bits = slice data i n := by
  have hrnd (k : Nat) (hk : k < n) (d : DynamicBitArray) (hd : d = ofBits (slice data i k)) :
      ∃ next, takeBit data i d k = .ok next ∧ next = ofBits (slice data i (k + 1)) := by
    have hroom : (i + k) / 8 < data.length := by omega
    refine ⟨_, ?_, rfl⟩
    unfold takeBit slice ofBits
    rw [getElem?_eq_getElem hroom, range_succ, map_append, foldl_append, hd]
    dsimp only
    rw [highBit_ne_zero, slice, ofBits]
    simp only [map_cons, map_nil, foldl_cons, foldl_nil, bitAt,
      getElem?_eq_getElem hroom, Option.getD_some]
  obtain ⟨d, hrun, rfl⟩ := foldlM_range (fun k d => d = ofBits (slice data i k)) rfl hrnd
  refine ⟨_, ?_, bits_ofBits _⟩
  unfold ofPayload
  rw [if_neg (by omega)]
  exact hrun

theorem collect_toNat (h : d.bitCount ≤ 32) :
    ∃ word, d.collect = .ok word ∧ word.toNat = (BitVec.ofBoolListBE d.bits).toNat := by
  obtain ⟨word, hrun, hword⟩ := collect_spec (d := d)
  exact ⟨word, hrun, (reads_iff h).1 hword⟩

/-- The word is wide enough, or the number is not negative. -/
theorem to_int32_t_iff (hpos : 1 ≤ d.bitCount) (hn : d.bitCount ≤ 32) :
    d.to_int32_t.map BitVec.toInt = .ok (BitVec.ofBoolListBE d.bits).toInt ↔
      d.bitCount < 32 ∨ bitAt d.data 0 = false := by
  obtain ⟨word, hrun, hword⟩ := collect_spec (d := d)
  have hmsb : (BitVec.ofBoolListBE d.bits).msb = bitAt d.data 0 := by
    rw [BitVec.msb_eq_getLsbD_last, BitVec.getLsbD_ofBoolListBE]
    simp [bits, show 0 < d.bitCount from hpos, show d.bitCount - 1 < d.bitCount by omega]
  have hsig (j : Nat) (hj : j < 32) : ((BitVec.ofBoolListBE d.bits).signExtend 32).getLsbD j =
      if j < d.bitCount then word.getLsbD j else bitAt d.data 0 := by
    have hbit := congrArg (testBit · j) ((reads_iff hn).1 hword)
    simp only [BitVec.testBit_toNat] at hbit
    rw [BitVec.getLsbD_signExtend, hmsb, decide_eq_true hj, hbit]
    simp only [bits_length]
    rfl
  have hexte : ((BitVec.ofBoolListBE d.bits).signExtend 32).toInt =
      (BitVec.ofBoolListBE d.bits).toInt :=
    BitVec.toInt_signExtend_of_le (by rw [bits_length]; exact hn)
  unfold to_int32_t
  rw [if_neg (not_lt.2 hn), if_neg (by omega), hrun, ← hexte]
  rw [at'_eq hpos]
  cases hsign : bitAt d.data 0 with
  | false =>
    refine iff_of_true (congrArg (Except.ok ∘ BitVec.toInt) ?_) (.inr rfl)
    apply BitVec.eq_of_getLsbD_eq
    intro j hj
    rw [hsig j hj, hsign]
    split_ifs with hlt
    · rfl
    · rw [hword j hj, decide_eq_false hlt, Bool.false_and]
  | true =>
    split_ifs with hwide
    · refine iff_of_false (nofun) (by simp; omega)
    refine iff_of_true (congrArg (Except.ok ∘ BitVec.toInt) ?_) (.inl (by omega))
    apply BitVec.eq_of_getLsbD_eq
    intro j hj
    rw [hsig j hj, hsign, BitVec.getLsbD_or, BitVec.getLsbD_shiftLeft, BitVec.getLsbD_not]
    split_ifs with hlt
    · simp [hlt]
    · simp [hj, hlt, show j - d.bitCount < 32 by omega]

end DynamicBitArray

/-- The rounds of `extractBits` as long as the indices fit. -/
theorem extractBits_spec (h : ∀ i < n, totalBitIndex bitOffset i / 8 < data.length) :
    ∃ word, extractBits data bitOffset n = .ok word ∧
      Reads n (fun i => bitAt data (totalBitIndex bitOffset i)) word :=
  foldlM_range (Reads · fun i => bitAt data (totalBitIndex bitOffset i)) (by intro j _; simp)
    fun i hi _ hread => ⟨_, extractBit_eq (h i hi), hread.concat⟩

theorem totalBitIndex_eq : totalBitIndex bitOffset i = (bitOffset.toNat + i % 65536) % 65536 := by
  simp [totalBitIndex]

/-- The loop reads on through the byte behind the record before it would throw. -/
theorem extractBits_ne_thrown (h : bitOffset.toNat < 8 * data.length + 8) :
    extractBits data bitOffset n ≠ .error .thrown ∧
      ∀ word, extractBits data bitOffset n = .ok word →
        totalBitIndex bitOffset n < 8 * data.length + 8 := by
  induction n with
  | zero =>
    refine ⟨nofun, ?_⟩
    rintro _ -
    have := bitOffset.isLt
    rw [totalBitIndex_eq]
    omega
  | succ n ih =>
    have hrun : extractBits data bitOffset (n + 1) =
        (extractBits data bitOffset n).bind (extractBit data bitOffset · n) := by
      unfold extractBits
      rw [range_succ, foldlM_append]
      simp only [foldlM_cons, foldlM_nil, bind_pure]
      rfl
    rw [hrun]
    cases hprev : extractBits data bitOffset n with
    | error e => exact ⟨fun he => ih.1 (hprev.trans he), nofun⟩
    | ok word =>
      have hindex := ih.2 word hprev
      change extractBit data bitOffset word n ≠ _ ∧
        ∀ next, extractBit data bitOffset word n = _ → _
      have hnext : totalBitIndex bitOffset (n + 1) ≤ totalBitIndex bitOffset n + 1 := by
        rw [totalBitIndex_eq, totalBitIndex_eq]
        omega
      by_cases hroom : totalBitIndex bitOffset n / 8 < data.length
      · rw [extractBit_eq hroom]
        exact ⟨nofun, fun _ _ => by omega⟩
      have hunde : extractBit data bitOffset word n = .error .undefined := by
        unfold extractBit
        rw [if_neg (by omega), getElem?_eq_none (by omega)]
      rw [hunde]
      exact ⟨nofun, nofun⟩

/-- The field begins behind the byte that is taken for one of the record, or the bits of the
record can be counted in 32 bits and those beyond the first 65536 are the first ones again. -/
def Extractable (data : List (BitVec 8)) (offset size : Nat) : Prop :=
  8 * data.length + 8 ≤ offset ∨
    offset + size ≤ data.length % 2 ^ 32 * 8 % 2 ^ 32 ∧
      ∀ i < size, 65536 ≤ offset + i →
        bitAt data (offset + i) = bitAt data (offset + i - 65536)

theorem extracts_iff (hpos : 1 ≤ bitSize) (hsize : bitSize ≤ 32) :
    Extracts data bitOffset bitSize ↔ Extractable data bitOffset.toNat bitSize := by
  have hwrap (hfit : bitOffset.toNat + bitSize ≤ 8 * data.length) :
      ∃ word, extractBits data bitOffset bitSize = .ok word ∧
        Reads bitSize (fun i => bitAt data (totalBitIndex bitOffset i)) word :=
    extractBits_spec fun i hi => by
      rw [totalBitIndex_eq]
      omega
  constructor
  · intro h
    by_cases hfit : bitOffset.toNat + bitSize ≤ 8 * data.length
    · obtain ⟨word, hrun, hvalu, harra⟩ := h.2 hfit
      obtain ⟨word', hrun', hread⟩ := hwrap hfit
      obtain rfl := Except.ok.inj (hrun.symm.trans hrun')
      refine .inr ⟨?_, fun i hi hover => ?_⟩
      · by_contra hlong
        rw [DynamicBitArray.ofPayload, if_pos (by omega)] at harra
        exact nomatch harra
      · have hbit := ((reads_iff hsize).2 hvalu).unique hread hsize hi
        rw [hbit, totalBitIndex_eq, show (bitOffset.toNat + i % 65536) % 65536 =
          bitOffset.toNat + i - 65536 by omega]
    · refine .inl (Nat.le_of_not_lt fun hlt => ?_)
      exact (extractBits_ne_thrown hlt).1 (h.1.2 (Nat.lt_of_not_le hfit))
  rintro (hbehind | ⟨hfit, hagai⟩)
  · obtain ⟨size, rfl⟩ : ∃ size, bitSize = size + 1 := ⟨bitSize - 1, by omega⟩
    have hthro : extractBits data bitOffset (size + 1) = .error .thrown := by
      have hfst : extractBit data bitOffset 0#32 0 = .error .thrown := by
        unfold extractBit
        rw [totalBitIndex_eq]
        rw [if_pos (by omega)]
      rw [extractBits, range_succ_eq_map, foldlM_cons, hfst]
      rfl
    exact ⟨iff_of_true hthro (by omega), fun hle => by omega⟩
  have hlen : bitOffset.toNat + bitSize ≤ 8 * data.length := by omega
  obtain ⟨word, hrun, hread⟩ := hwrap hlen
  obtain ⟨d, hd, hbits⟩ := DynamicBitArray.ofPayload_spec hfit
  have hcnt : d.bitCount = bitSize := by
    rw [← d.bits_length, hbits, slice, length_map, length_range]
  obtain ⟨word', hcoll, hvalu'⟩ := d.collect_toNat (hcnt.trans_le hsize)
  have hvalu : word.toNat = (BitVec.ofBoolListBE (slice data bitOffset.toNat bitSize)).toNat := by
    refine (reads_iff hsize).1 (hread.congr fun i hi => ?_)
    rw [totalBitIndex_eq]
    by_cases hover : 65536 ≤ bitOffset.toNat + i
    · rw [hagai i hi hover, show (bitOffset.toNat + i % 65536) % 65536 =
        bitOffset.toNat + i - 65536 by omega]
    · rw [show (bitOffset.toNat + i % 65536) % 65536 = bitOffset.toNat + i by omega]
  have hsame : word' = word := BitVec.eq_of_toNat_eq (by rw [hvalu', hvalu, hbits])
  refine ⟨iff_of_false (by rw [hrun]; nofun) (by omega), fun _ => ⟨word, hrun, hvalu, ?_⟩⟩
  rw [hd, ← hsame]
  exact (if_neg (by omega)).trans hcoll

/-- Every string of 1 to 32 bits is read back as the number that it stands for. -/
def Converts (bits : List Bool) : Prop :=
  (DynamicBitArray.ofBits bits).to_int32_t.map BitVec.toInt = .ok (BitVec.ofBoolListBE bits).toInt

theorem converts_iff {bits : List Bool} (hpos : 1 ≤ bits.length) (hn : bits.length ≤ 32) :
    Converts bits ↔ bits.length < 32 ∨ bits.head? = some false := by
  have hspec := DynamicBitArray.ofBits_spec bits
  have hconv := (DynamicBitArray.ofBits bits).to_int32_t_iff (by omega) (by omega)
  rw [DynamicBitArray.bits_ofBits, hspec.1, hspec.2 0 hpos] at hconv
  rw [head?_eq_getElem?, getElem?_eq_getElem hpos, Option.some_inj]
  exact hconv

theorem extracts_and_converts_iff (data : List (BitVec 8)) (bitOffset : BitVec 16) (bitSize : Nat)
    (bits : List Bool) (hsize : 1 ≤ bitSize ∧ bitSize ≤ 32)
    (hbits : 1 ≤ bits.length ∧ bits.length ≤ 32) :
    (Extracts data bitOffset bitSize ↔ Extractable data bitOffset.toNat bitSize) ∧
      (Converts bits ↔ bits.length < 32 ∨ bits.head? = some false) :=
  ⟨extracts_iff hsize.1 hsize.2, converts_iff hbits.1 hbits.2⟩

/-- A byte is read behind a record of one byte, and thirty-two bits are `-1`. -/
theorem extracts_and_converts_last :
    (Extracts [0#8] 8#16 1 ↔ Extractable [0#8] 8 1) ∧
      (Converts (List.replicate 32 true) ↔ 32 < 32 ∨ (List.replicate 32 true).head? = some false) :=
  extracts_and_converts_iff [0#8] 8#16 1 (List.replicate 32 true) (by decide) (by decide)

theorem not_extracts_and_converts :
    ¬Extracts [0#8] 8#16 1 ∧ ¬Converts (List.replicate 32 true) := by
  constructor
  · intro h
    exact nomatch (h.1.2 (by decide))
  · rw [converts_iff (by decide) (by decide)]
    decide

end TelAF.BitExtraction
