import TelAF.RequestBytes

/-!
# The grammar of file-transfer requests

A request for a file transfer (0x38) is a mode of operation, a counted path and the fields
that the mode has behind the path: none for a deletion and for reading a directory, the
data format for reading a file, and the data format with two sizes of equal width
otherwise. `FileXferRequest` is this grammar on the bytes of a request.

The loop of `isAcsiiFormat` takes one byte more than the path. Where a data format follows,
that byte is the format, which is ASCII; where the path ends the request it is what an
earlier request left in the reception buffer. The handler follows the grammar except there.
-/

namespace TelAF.FileXferGrammar

open DiagConfiguration UdsState UdsIndications UdsDiagIndication BigEndian RequestBytes List Nat

/-- Deletion and reading a directory have no field behind the path. -/
def endsWithPath (mode : UInt8) : Bool := mode == 0x02 || mode == 0x05

def pathLimit (mode : UInt8) : Nat :=
  if endsWithPath mode then udsDataSize - 4
  else if mode = 0x04 then udsDataSize - 4 - 1
  else udsDataSize - 4 - 1 - 1

def Ascii (bytes : List UInt8) : Prop := ∀ b ∈ bytes, b.toNat ≤ 127
deriving Decidable

/-- The announced sizes agree with the data format. -/
def SizesAgree (dataFormatIdentifier : UInt8) (uncompressed compressed : Nat) : Prop :=
  compressed ≤ uncompressed ∧ (dataFormatIdentifier = 0x00 → compressed = uncompressed) ∧
    ((dataFormatIdentifier &&& 0xF0) > 0 → compressed ≠ uncompressed)

/-- Two sizes of one width between one and four bytes. -/
def FileSizes (c : DiagConf) (tail : List UInt8) : Prop :=
  ∃ dataFormatIdentifier fileSizeParameterLength uncompressed compressed,
    tail = dataFormatIdentifier :: fileSizeParameterLength :: (uncompressed ++ compressed) ∧
      1 ≤ fileSizeParameterLength.toNat ∧ fileSizeParameterLength.toNat ≤ 4 ∧
      uncompressed.length = fileSizeParameterLength.toNat ∧
      compressed.length = fileSizeParameterLength.toNat ∧
      isDataFormatIdentifierValid c dataFormatIdentifier = true ∧
      SizesAgree dataFormatIdentifier (number uncompressed) (number compressed)

def Trailer (c : DiagConf) (mode : UInt8) (tail : List UInt8) : Prop :=
  if endsWithPath mode then tail = []
  else if mode = 0x04 then
    ∃ dataFormatIdentifier, tail = [dataFormatIdentifier] ∧
      isDataFormatIdentifierValid c dataFormatIdentifier = true
  else FileSizes c tail

def FileXferRequest (c : DiagConf) (data : List UInt8) : Prop :=
  ∃ mode path tail, data = requestFileTransferRequestId :: mode :: (counted path ++ tail) ∧
    1 ≤ mode.toNat ∧ mode.toNat ≤ 6 ∧ 1 ≤ path.length ∧
      path.length ≤ pathLimit mode ∧
    Ascii path ∧ Trailer c mode tail ∧ data.length ≤ udsDataSize

/-- A request for a deletion or for reading a directory. -/
def PathRequest (data : List UInt8) : Prop :=
  ∃ mode path, data = requestFileTransferRequestId :: mode :: counted path ∧
    endsWithPath mode = true ∧ 1 ≤ path.length ∧ path.length ≤ udsDataSize - 4 ∧ Ascii path

section
variable {c : DiagConf} {data rest : List UInt8}

theorem endsWithPath_iff {mode : UInt8} :
    endsWithPath mode = true ↔ mode = 0x02 ∨ mode = 0x05 := by
  simp [endsWithPath]

theorem pathLimit_lt (mode : UInt8) : pathLimit mode < 65536 := by
  unfold pathLimit
  split_ifs <;> decide

theorem fileXferRequest_iff (hdata : data = requestFileTransferRequestId :: rest) :
    FileXferRequest c data ↔
      4 + word data 2 ≤ data.length ∧ 1 ≤ (data.getD 1 0).toNat ∧
        (data.getD 1 0).toNat ≤ 6 ∧
        1 ≤ word data 2 ∧ word data 2 ≤ pathLimit (data.getD 1 0) ∧
        Ascii ((data.drop 4).take (word data 2)) ∧
        Trailer c (data.getD 1 0) (data.drop (4 + word data 2)) ∧ data.length ≤ udsDataSize := by
  constructor
  · rintro ⟨mode, path, tail, rfl, hlow, hhigh, hpos, hlim, hasci, htail, hmax⟩
    have hfits : path.length < 65536 := lt_of_le_of_lt hlim (pathLimit_lt mode)
    have hword : word (requestFileTransferRequestId :: mode :: (counted path ++ tail)) 2
        = path.length :=
      word_counted (rfl : [requestFileTransferRequestId, mode].length = 2) hfits
    have hdrop : (requestFileTransferRequestId :: mode :: (counted path ++ tail)).drop 4
        = path ++ tail := by
      change ((field 2 path.length ++ path) ++ tail).drop 2 = _
      exact drop_left' (field_length 2 path.length)
    have hrest : (requestFileTransferRequestId :: mode :: (counted path ++ tail)).drop
        (4 + path.length) = tail := by
      rw [← drop_drop, hdrop, drop_left]
    rw [hword, hdrop, hrest, take_left]
    refine ⟨?_, hlow, hhigh, hpos, hlim, hasci, htail, hmax⟩
    simp only [length_cons, length_append, counted_length]
    omega
  rintro ⟨hlen, hlow, hhigh, hpos, hlim, hasci, htail, hmax⟩
  have hspl : data.drop 2 = _ := split_counted (by omega)
  have hhead : data = data.getD 0 0 :: data.getD 1 0 :: data.drop 2 := by
    match data, hlen with
    | a :: b :: more, _ => rfl
    | [_], h => exact absurd h (by simp only [length_singleton]; omega)
    | [], h => exact absurd h (by simp only [length_nil]; omega)
  have hsid : data.getD 0 0 = requestFileTransferRequestId := by
    rw [hdata]
    rfl
  have htake : ((data.drop 4).take (word data 2)).length = word data 2 := by
    rw [length_take, length_drop]
    omega
  rw [hspl, hsid] at hhead
  refine ⟨data.getD 1 0, (data.drop 4).take (word data 2), data.drop (4 + word data 2), hhead,
    hlow, hhigh, ?_, ?_, hasci, htail, hmax⟩
  · rw [htake]
    exact hpos
  · rw [htake]
    exact hlim

theorem fileSizes_iff {tail : List UInt8} :
    FileSizes c tail ↔
      1 ≤ (tail.getD 1 0).toNat ∧ (tail.getD 1 0).toNat ≤ 4 ∧
        tail.length = 2 + (tail.getD 1 0).toNat * 2 ∧
        isDataFormatIdentifierValid c (tail.getD 0 0) = true ∧
        SizesAgree (tail.getD 0 0) (number ((tail.drop 2).take (tail.getD 1 0).toNat))
          (number (tail.drop (2 + (tail.getD 1 0).toNat))) := by
  constructor
  · rintro ⟨dfi, k, uncompressed, compressed, rfl, hlow, hhigh, hu, hc, hval, hagr⟩
    have htake : (uncompressed ++ compressed).take k.toNat = uncompressed := take_left' hu
    have hdrop : (dfi :: k :: (uncompressed ++ compressed)).drop (2 + k.toNat) = compressed := by
      rw [← drop_drop]
      exact drop_left' hu
    refine ⟨hlow, hhigh, ?_, hval, ?_⟩
    · simp only [length_cons, length_append, getD_cons_succ, getD_cons_zero]
      omega
    change SizesAgree dfi (number ((uncompressed ++ compressed).take k.toNat))
      (number ((dfi :: k :: (uncompressed ++ compressed)).drop (2 + k.toNat)))
    rw [htake, hdrop]
    exact hagr
  rintro ⟨hlow, hhigh, hlen, hval, hagr⟩
  match tail, hlow, hhigh, hlen, hval, hagr with
  | dfi :: k :: sizes, hlow, hhigh, hlen, hval, hagr =>
    have hsiz : sizes.length = k.toNat * 2 := by
      change sizes.length + 1 + 1 = 2 + k.toNat * 2 at hlen
      omega
    have hdrop : (dfi :: k :: sizes).drop (2 + k.toNat) = sizes.drop k.toNat := by
      rw [← drop_drop]
      rfl
    change SizesAgree dfi (number (sizes.take k.toNat))
      (number ((dfi :: k :: sizes).drop (2 + k.toNat))) at hagr
    rw [hdrop] at hagr
    refine ⟨dfi, k, sizes.take k.toNat, sizes.drop k.toNat, ?_, hlow, hhigh, ?_, ?_, hval, hagr⟩
    · rw [take_append_drop]
    · rw [length_take]
      omega
    · rw [length_drop]
      omega

end

section
variable (m : UdsManager)

/-- `ValueOfFileSize` reads a big-endian number. -/
theorem valueOfFileSize_toNat (start : Nat) {k : Nat} (hk : k ≤ 4) :
    (valueOfFileSize m start k).toNat =
      number ((range k).map fun i => m.recv (start + i)) := by
  induction k with
  | zero => rfl
  | succ k ih =>
    have hvalu := ih (by omega)
    have hlt := number_lt ((range k).map fun i => m.recv (start + i))
    have hpow : 256 ^ ((range k).map fun i => m.recv (start + i)).length ≤ 256 ^ 3 := by
      rw [length_map, length_range]
      exact Nat.pow_le_pow_right (by decide) (by omega)
    have hfits : (valueOfFileSize m start k).toNat < 2 ^ 24 := by
      rw [hvalu]
      exact lt_of_lt_of_le hlt hpow
    have hstep : valueOfFileSize m start (k + 1) =
        (valueOfFileSize m start k <<< 8) ||| (m.recv (start + k)).toUInt32 := by
      rw [valueOfFileSize, range_succ, foldl_append]
      rfl
    rw [hstep, shiftLeft_or_toNat _ hfits, hvalu, range_succ, map_append, map_singleton,
      number_concat]

end

section
variable (c : DiagConf) (m : UdsManager) (addr : AddrInfo) {data : List UInt8}

theorem getD_drop (data : List UInt8) (p i : Nat) :
    (data.drop p).getD i 0 = data.getD (p + i) 0 := by
  rw [getD_eq_getElem?_getD, getElem?_drop, getD_eq_getElem?_getD]

/-- The two sizes are compared as the numbers that their bytes spell. -/
theorem sizesAgree_iff {u v : UInt32} (dataFormatIdentifier : UInt8) :
    SizesAgree dataFormatIdentifier u.toNat v.toNat ↔
      ¬ v > u ∧ (dataFormatIdentifier = 0x00 → v = u) ∧
        ((dataFormatIdentifier &&& 0xF0) > 0 → v ≠ u) := by
  have heq : v.toNat = u.toNat ↔ v = u := UInt32.toNat_inj
  have hless : v > u ↔ u.toNat < v.toNat := UInt32.lt_iff_toNat_lt
  unfold SizesAgree
  rw [hless, not_lt, ne_eq, heq]

/-- The checks of the sizes on what the buffer holds behind the path. -/
theorem fileSizeVerdict_checks (n : Nat) :
    fileSizeVerdict c m n = none ↔
      1 ≤ (m.recv (4 + n + 1)).toNat ∧ (m.recv (4 + n + 1)).toNat ≤ 4 ∧
        m.recvDataLen = 4 + n + 2 + (m.recv (4 + n + 1)).toNat * 2 ∧
        isDataFormatIdentifierValid c (m.recv (4 + n)) = true ∧
        SizesAgree (m.recv (4 + n))
          (valueOfFileSize m (4 + n + 2) (m.recv (4 + n + 1)).toNat).toNat
          (valueOfFileSize m (4 + n + 2 + (m.recv (4 + n + 1)).toNat)
            (m.recv (4 + n + 1)).toNat).toNat := by
  rw [sizesAgree_iff]
  unfold fileSizeVerdict
  dsimp only
  generalize (m.recv (4 + n + 1)).toNat = k
  generalize m.recv (4 + n) = dfi
  generalize valueOfFileSize m (4 + n + 2) k = u
  generalize valueOfFileSize m (4 + n + 2 + k) k = v
  split_ifs with hk hlen hval hless hzero hne hhigh heq
  · simp only [false_iff]
    omega
  · simp only [false_iff]
    omega
  all_goals simp_all
  all_goals omega

theorem fileSizeVerdict_eq_none (hmax : data.length ≤ udsDataSize) {n : Nat}
    (hfits : 4 + n + 2 ≤ data.length) :
    fileSizeVerdict c (m.takeRequest addr data) n = none ↔ FileSizes c (data.drop (4 + n)) := by
  have hbuf : data.length ≤ udsMaxDataSize := hmax.trans (by decide)
  have hdfi : (m.takeRequest addr data).recv (4 + n) = data.getD (4 + n) 0 :=
    takeRequest_recv m addr data (by omega) (by omega)
  have hwidt : (m.takeRequest addr data).recv (4 + n + 1) = data.getD (4 + n + 1) 0 :=
    takeRequest_recv m addr data (by omega) (by omega)
  rw [fileSizeVerdict_checks, fileSizes_iff, getD_drop, getD_drop, drop_drop, drop_drop,
    length_drop, hdfi, hwidt, takeRequest_recvDataLen]
  generalize hkeq : (data.getD (4 + n + 1) 0).toNat = k
  have hlen : data.length = 4 + n + 2 + k * 2 ↔ data.length - (4 + n) = 2 + k * 2 := by omega
  rw [hlen]
  refine and_congr_right fun hlow => and_congr_right fun hhigh => and_congr_right fun hsize =>
    and_congr_right fun _ => ?_
  have hall : (data.drop (4 + n + (2 + k))).take k = data.drop (4 + n + (2 + k)) := by
    apply take_of_length_le
    rw [length_drop]
    omega
  rw [valueOfFileSize_toNat _ _ hhigh, valueOfFileSize_toNat _ _ hhigh,
    recv_slice m addr hbuf (by omega), recv_slice m addr hbuf (by omega),
    add_assoc (4 + n) 2 k, hall]
  exact Iff.rfl

/-- The checks that depend on the mode, on what the buffer holds. -/
theorem modeVerdict_checks (n : Nat) :
    modeOfOperationVerdict c m n = none ↔
      1 ≤ n ∧ n ≤ pathLimit (m.recv 1) ∧ m.recvDataLen ≤ udsDataSize ∧
        if endsWithPath (m.recv 1) then m.recvDataLen = 4 + n
        else if m.recv 1 = 0x04 then
          m.recvDataLen = 4 + n + 1 ∧ isDataFormatIdentifierValid c (m.recv (4 + n)) = true
        else 4 + n + 2 ≤ m.recvDataLen ∧ fileSizeVerdict c m n = none := by
  unfold modeOfOperationVerdict pathLimit
  simp only [endsWithPath_iff]
  generalize m.recv 1 = mode
  generalize fileSizeVerdict c m n = sizes
  by_cases hends : mode = 0x02 ∨ mode = 0x05
  · simp only [if_pos hends]
    split_ifs with hn hlen
    · simp only [false_iff]
      omega
    · simp only [false_iff]
      omega
    · simp only [true_iff]
      omega
  by_cases hread : mode = 0x04
  · simp only [if_pos hread]
    split_ifs with hn hlen hval
    · simp only [false_iff]
      omega
    · simp only [false_iff]
      omega
    · simp [hval]
    simp only [Bool.not_eq_false] at hval
    simp only [hval, and_true, true_iff]
    omega
  · simp only [if_neg hread]
    split_ifs with hn hlen
    · simp only [false_iff]
      omega
    · simp only [false_iff]
      omega
    have hlims : 1 ≤ n ∧ n ≤ udsDataSize - 4 - 1 - 1 ∧ m.recvDataLen ≤ udsDataSize ∧
        4 + n + 2 ≤ m.recvDataLen := by omega
    simp only [hlims, true_and]

/-- The checks that depend on the mode are the limits of the path and its trailer. -/
theorem modeVerdict_eq_none (hmin : 5 ≤ data.length) (hmax : data.length ≤ udsDataSize)
    (n : Nat) :
    modeOfOperationVerdict c (m.takeRequest addr data) n = none ↔
      1 ≤ n ∧ n ≤ pathLimit (data.getD 1 0) ∧ 4 + n ≤ data.length ∧
        Trailer c (data.getD 1 0) (data.drop (4 + n)) := by
  have hsize : udsDataSize ≤ udsMaxDataSize := by decide
  have hmode : (m.takeRequest addr data).recv 1 = data.getD 1 0 :=
    takeRequest_recv m addr data (by omega) (by decide)
  rw [modeVerdict_checks, hmode, takeRequest_recvDataLen]
  unfold Trailer
  generalize data.getD 1 0 = mode
  refine and_congr_right fun _ => and_congr_right fun _ => ?_
  split_ifs with hends hread
  · rw [drop_eq_nil_iff]
    omega
  · constructor
    · rintro ⟨-, hlen, hval⟩
      have hdfi : (m.takeRequest addr data).recv (4 + n) = data[4 + n] :=
        (takeRequest_recv m addr data (by omega) (by omega)).trans (by
          rw [getD_eq_getElem?_getD, getElem?_eq_getElem (by omega)]
          rfl)
      have hrest : data.drop (4 + n + 1) = [] := drop_eq_nil_of_le (by omega)
      refine ⟨by omega, data[4 + n], ?_, ?_⟩
      · rw [drop_eq_getElem_cons (by omega), hrest]
      · rw [← hdfi]
        exact hval
    · rintro ⟨hfits, dfi, htail, hval⟩
      have hlen := congrArg length htail
      rw [length_drop, length_singleton] at hlen
      have hdfi : (m.takeRequest addr data).recv (4 + n) = dfi := by
        rw [takeRequest_recv m addr data (by omega) (by omega), ← add_zero (4 + n), ← getD_drop,
          htail]
        rfl
      rw [hdfi]
      exact ⟨hmax, by omega, hval⟩
  · constructor
    · rintro ⟨-, hfits, hsiz⟩
      exact ⟨by omega, (fileSizeVerdict_eq_none c m addr hmax hfits).1 hsiz⟩
    rintro ⟨hfits, hsiz⟩
    have hlen := (fileSizes_iff.1 hsiz).2.2.1
    rw [length_drop] at hlen
    have hroom : 4 + n + 2 ≤ data.length := by omega
    exact ⟨hmax, hroom, (fileSizeVerdict_eq_none c m addr hmax hroom).2 hsiz⟩

theorem isAcsiiFormat_iff (hmax : data.length ≤ udsMaxDataSize) {n : Nat}
    (hfits : 4 + n ≤ data.length) :
    isAcsiiFormat (m.takeRequest addr data) 4 n = true ↔
      Ascii ((data.drop 4).take n) ∧
        ((m.takeRequest addr data).recv (4 + n)).toNat ≤ 127 := by
  rw [← recv_slice m addr hmax hfits]
  unfold isAcsiiFormat Ascii
  simp only [all_eq_true, mem_range, decide_eq_true_eq, mem_map]
  constructor
  · intro h
    refine ⟨?_, h n (by omega)⟩
    rintro b ⟨i, hi, rfl⟩
    exact h i (by omega)
  rintro ⟨hpath, hbeh⟩ i hi
  by_cases hlast : i = n
  · rw [hlast]
    exact hbeh
  · exact hpath _ ⟨i, by omega, rfl⟩

theorem dataFormat_ascii {dfi : UInt8} (h : isDataFormatIdentifierValid c dfi = true) :
    dfi.toNat ≤ 127 := by
  simp only [isDataFormatIdentifierValid, Bool.or_eq_true, Bool.and_eq_true, beq_iff_eq] at h
  rcases h with rfl | ⟨-, (rfl | rfl) | rfl⟩ <;> decide

/-- Behind the path stands a supported data format or the request ends there. -/
theorem Trailer.head_ascii {mode : UInt8} {tail : List UInt8} (h : Trailer c mode tail)
    (hends : endsWithPath mode = false) : 0 < tail.length ∧ (tail.getD 0 0).toNat ≤ 127 := by
  unfold Trailer at h
  rw [hends] at h
  simp only [Bool.false_eq_true, if_false] at h
  split_ifs at h
  · obtain ⟨dfi, rfl, hval⟩ := h
    exact ⟨zero_lt_one, dataFormat_ascii c hval⟩
  · obtain ⟨dfi, k, uncompressed, compressed, rfl, -, -, -, -, hval, -⟩ := h
    exact ⟨succ_pos _, dataFormat_ascii c hval⟩

variable {rest : List UInt8}

/-- A request for a deletion or a directory is the grammatical request of such a mode. -/
theorem pathRequest_iff (hdata : data = requestFileTransferRequestId :: rest) :
    PathRequest data ↔ FileXferRequest c data ∧ endsWithPath (data.getD 1 0) = true := by
  constructor
  · rintro ⟨mode, path, rfl, hends, hpos, hlim, hasci⟩
    have hmode : 1 ≤ mode.toNat ∧ mode.toNat ≤ 6 := by
      rcases endsWithPath_iff.1 hends with rfl | rfl <;> decide
    have hmax : path.length ≤ pathLimit mode := by
      rw [pathLimit, if_pos hends]
      exact hlim
    have htrl : Trailer c mode [] := by rw [Trailer, if_pos hends]
    refine ⟨⟨mode, path, [], ?_, hmode.1, hmode.2, hpos, hmax, hasci, htrl, ?_⟩, hends⟩
    · rw [append_nil]
    · simp only [length_cons, counted_length]
      omega
  · rintro ⟨⟨mode, path, tail, rfl, -, -, hpos, hlim, hasci, htrl, -⟩, hends⟩
    have hmode : endsWithPath mode = true := hends
    rw [Trailer, if_pos hmode] at htrl
    rw [pathLimit, if_pos hmode] at hlim
    refine ⟨mode, path, ?_, hmode, hpos, hlim, hasci⟩
    rw [htrl, append_nil]

/-- The byte behind the path is ASCII exactly where a data format follows or the byte left
in the buffer is. -/
theorem behindPath_iff (hmax : data.length ≤ udsMaxDataSize) {n : Nat}
    (hfits : 4 + n ≤ data.length) (htrl : Trailer c (data.getD 1 0) (data.drop (4 + n))) :
    ((m.takeRequest addr data).recv (4 + n)).toNat ≤ 127 ↔
      (endsWithPath (data.getD 1 0) = true → (m.recv data.length).toNat ≤ 127) := by
  cases hends : endsWithPath (data.getD 1 0) with
  | true =>
    rw [Trailer, if_pos hends, drop_eq_nil_iff] at htrl
    have hlen : 4 + n = data.length := by omega
    rw [hlen, recv_behind m addr hmax (le_refl _)]
    simp only [forall_const]
  | false =>
    obtain ⟨hpos, hhead⟩ := htrl.head_ascii c hends
    rw [length_drop] at hpos
    rw [getD_drop, add_zero] at hhead
    rw [takeRequest_recv m addr data (by omega) (by omega)]
    simp only [hhead, Bool.false_eq_true, false_implies]

theorem fileXferReq_iff (hidle : m.isXferActive = false)
    (hdata : data = requestFileTransferRequestId :: rest) :
    indicateRxFileXferReq c (m.takeRequest addr data) = .indicate ↔
      FileXferRequest c data ∧ (PathRequest data → (m.recv data.length).toNat ≤ 127) := by
  have hidle' : (m.takeRequest addr data).isXferActive = false := hidle
  have hsize : udsDataSize ≤ udsMaxDataSize := by decide
  rw [pathRequest_iff c hdata, fileXferRequest_iff hdata]
  unfold indicateRxFileXferReq
  dsimp only
  rw [takeRequest_recvDataLen, hidle']
  by_cases hmin : data.length < 5
  · rw [if_pos hmin]
    simp only [reduceCtorEq, false_iff]
    omega
  have hmode : (m.takeRequest addr data).recv 1 = data.getD 1 0 :=
    takeRequest_recv m addr data (by omega) (by decide)
  rw [if_neg hmin, hmode]
  have hmoop : data.getD 1 0 < 0x01 ∨ data.getD 1 0 > 0x06 ↔
      ¬(1 ≤ (data.getD 1 0).toNat ∧ (data.getD 1 0).toNat ≤ 6) := by
    change (data.getD 1 0).toNat < 1 ∨ 6 < (data.getD 1 0).toNat ↔ _
    omega
  by_cases hbad : data.getD 1 0 < 0x01 ∨ data.getD 1 0 > 0x06
  · rw [if_pos hbad]
    have hout := hmoop.1 hbad
    simp only [reduceCtorEq, false_iff]
    omega
  have hin : 1 ≤ (data.getD 1 0).toNat ∧ (data.getD 1 0).toNat ≤ 6 :=
    not_not.1 (mt hmoop.2 hbad)
  rw [if_neg hbad]
  by_cases hmax : data.length ≤ udsDataSize
  · have hbuf : data.length ≤ udsMaxDataSize := hmax.trans hsize
    have hverd := modeVerdict_eq_none c m addr (by omega) hmax (word data 2)
    rw [recv16_word m addr hbuf (by omega)]
    cases hres : modeOfOperationVerdict c (m.takeRequest addr data) (word data 2) with
    | some errorCode =>
      have hrefu := mt hverd.2 (by rw [hres]; exact Option.some_ne_none errorCode)
      simp only [reduceCtorEq, false_iff]
      rintro ⟨⟨hfits, -, -, hpos, hlim, -, htrl, -⟩, -⟩
      exact hrefu ⟨hpos, hlim, hfits, htrl⟩
    | none =>
      obtain ⟨hpos, hlim, hfits, htrl⟩ := hverd.1 hres
      have hasci := isAcsiiFormat_iff m addr hbuf hfits
      rw [behindPath_iff c m addr hbuf hfits htrl] at hasci
      cases hchkd : isAcsiiFormat (m.takeRequest addr data) 4 (word data 2) with
      | false =>
        rw [hchkd] at hasci
        simp only [if_true, reduceCtorEq, false_iff]
        rintro ⟨hreq, hbeh⟩
        have hpath := hreq.2.2.2.2.2.1
        exact Bool.noConfusion (hasci.2 ⟨hpath, fun hends => hbeh ⟨hreq, hends⟩⟩)
      | true =>
        obtain ⟨hpath, hbeh⟩ := hasci.1 hchkd
        simp only [Bool.true_eq_false, Bool.false_eq_true, if_false, true_iff]
        exact ⟨⟨hfits, hin.1, hin.2, hpos, hlim, hpath, htrl, hmax⟩, fun h => hbeh h.2⟩
  · have hrefu : modeOfOperationVerdict c (m.takeRequest addr data)
        ((m.takeRequest addr data).recv16 2).toNat ≠ none := by
      intro hnone
      exact hmax ((modeVerdict_checks c _ _).1 hnone).2.2.1
    obtain ⟨errorCode, hres⟩ := Option.ne_none_iff_exists'.1 hrefu
    rw [hres]
    simp only [reduceCtorEq, false_iff]
    rintro ⟨⟨-, -, -, -, -, -, -, hlen⟩, -⟩
    exact hmax hlen

/-- The decision follows the grammar unless a deletion or directory request meets a byte
above 127 behind it in the buffer, and it depends on the received bytes alone unless the
request is of that kind. -/
theorem fileXfer_grammar (c : DiagConf) (m : UdsManager) (addr : AddrInfo) (rest : List UInt8)
    (hidle : m.isXferActive = false) :
    ((indicateRxFileXferReq c
          (m.takeRequest addr (requestFileTransferRequestId :: rest)) = .indicate ↔
        FileXferRequest c (requestFileTransferRequestId :: rest)) ↔
      (PathRequest (requestFileTransferRequestId :: rest) →
        (m.recv (rest.length + 1)).toNat ≤ 127)) ∧
    ((∀ recvBuf : List UInt8,
        (indicateRxFileXferReq c ({ m with recvBuf := recvBuf }.takeRequest addr
            (requestFileTransferRequestId :: rest)) = .indicate ↔
          indicateRxFileXferReq c
            (m.takeRequest addr (requestFileTransferRequestId :: rest)) = .indicate)) ↔
      ¬ PathRequest (requestFileTransferRequestId :: rest)) := by
  have hfwd (recvBuf : List UInt8) := fileXferReq_iff c
    { m with recvBuf := recvBuf } addr hidle (rfl : _ = requestFileTransferRequestId :: rest)
  have hpath : PathRequest (requestFileTransferRequestId :: rest) →
      FileXferRequest c (requestFileTransferRequestId :: rest) :=
    fun h => ((pathRequest_iff c rfl).1 h).1
  constructor
  · rw [hfwd m.recvBuf]
    exact ⟨fun h hp => (h.2 (hpath hp)).2 hp, fun h => ⟨And.left, fun hg => ⟨hg, h⟩⟩⟩
  constructor
  · intro hsame hp
    have hclean := (hfwd []).2 ⟨hpath hp, fun _ => Nat.zero_le 127⟩
    have hstale := (hfwd (List.replicate (rest.length + 2) 0xFF)).1
      ((hsame _).2 ((hsame []).1 hclean))
    have hbyte : UdsManager.recv
        { m with recvBuf := List.replicate (rest.length + 2) 0xFF } (rest.length + 1) = 0xFF := by
      rw [UdsManager.recv, List.getD_eq_getElem?_getD, List.getElem?_replicate_of_lt (by omega)]
      rfl
    have hle := hstale.2 hp
    rw [List.length_cons, hbyte] at hle
    exact absurd hle (by decide)
  · intro hp recvBuf
    rw [hfwd recvBuf, hfwd m.recvBuf]
    exact and_congr_right fun _ => ⟨fun _ h => absurd h hp, fun _ h => absurd h hp⟩

end

/-- The deletion of a file with a name of one character. -/
def deleteRequest : List UInt8 := [0x38, 0x02, 0x00, 0x01, 0x61]

/-- The buffer after a block of a transfer that has ended. -/
def afterBlock : UdsManager :=
  initialManager.takeRequest testerAddr [0x36, 0x01, 0xFF, 0xFF, 0xFF, 0xFF, 0xFF, 0xFF]

theorem fileXfer_grammar_deleteRequest :
    afterBlock.isXferActive = false ∧
      ((indicateRxFileXferReq sampleConf (afterBlock.takeRequest testerAddr deleteRequest)
            = .indicate ↔ FileXferRequest sampleConf deleteRequest) ↔
        (PathRequest deleteRequest → (afterBlock.recv 5).toNat ≤ 127)) :=
  ⟨rfl, (fileXfer_grammar sampleConf afterBlock testerAddr [0x02, 0x00, 0x01, 0x61] rfl).1⟩

/-- The deletion is refused for the byte that the block left behind it. -/
theorem deleteRequest_refused :
    FileXferRequest sampleConf deleteRequest ∧
      indicateRxFileXferReq sampleConf (afterBlock.takeRequest testerAddr deleteRequest)
        = .nrc reqOutOfRange ∧
      indicateRxFileXferReq sampleConf (initialManager.takeRequest testerAddr deleteRequest)
        = .indicate := by
  refine ⟨⟨0x02, [0x61], [], by decide, by decide, by decide, by decide, by decide,
    by decide +kernel, rfl, by decide +kernel⟩, by decide +kernel, by decide +kernel⟩

end TelAF.FileXferGrammar
