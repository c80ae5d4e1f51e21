import TelAF.FileXferGrammar

/-!
# A file-transfer request in the update service

The update service decodes a file-transfer request once more when it reports it to the
application. Its position in the message has eight bits, so behind a long path it starts
again at the front of the message; the path is copied as a text and ends at its first
NUL; a size is copied into a word, shifted and byte-swapped.

`fileXferHandler` is this decoder with the bytes that it reads. It reports what the
validator read exactly for requests whose fields stand at the positions modulo 256 too and
whose path has nothing but NUL behind a NUL.
-/

namespace TelAF.FileXferDecode

open DiagConfiguration UdsState UdsIndications UdsDiagIndication BigEndian Probes RequestBytes
  Probe UInt8 List FileXferGrammar

/-- The byte swap of a little-endian machine. -/
def ntohl (x : UInt32) : UInt32 := UInt32.ofNat (number (field 4 x.toNat).reverse)

/-- Bytes copied to the front of a word that was zero, on a little-endian machine. -/
def memcpyWord (bytes : List UInt8) : UInt32 := UInt32.ofNat (number bytes.reverse)

def fileSize (bytes : List UInt8) : UInt32 :=
  ntohl (memcpyWord bytes <<< UInt32.ofNat ((4 - bytes.length) * 8))

structure FileSizeFields where
  fileSizeParamLen : UInt8
  unCompFileSize : UInt32
  compFileSize : UInt32

structure FileXferReport where
  operationType : UInt8
  filePathAndNameLen : Nat
  filePathAndName : List UInt8
  dataFormatID : UInt8
  sizes : FileSizeFields

/-- A parameter length outside 1..4 overruns the word of the size or shifts by its whole
width, which C++ leaves undefined. -/
inductive HandlerResult where
  | nrc (errorCode : UInt8)
  | report (rxMsg : FileXferReport)
  | undefined

/-- The zeroed array of the message after the path was copied as a text. -/
def storePath (maxPath : Nat) (fileName : List UInt8) : List UInt8 :=
  fileName.takeWhile (· != 0) ++
    List.replicate (maxPath - (fileName.takeWhile (· != 0)).length) 0

def noSizes : FileSizeFields := ⟨0, 0, 0⟩

/-- Read the parameter length and the two sizes at a position. -/
def readSizes (dataPtrPos : UInt8) : Probe UInt8 (Option FileSizeFields) :=
  .read dataPtrPos.toNat fun fileSizeParamLen =>
    (Probe.readMany (dataPtrPos + 1).toNat fileSizeParamLen.toNat).bind fun unComp =>
      (Probe.readMany (dataPtrPos + 1 + fileSizeParamLen).toNat fileSizeParamLen.toNat).bind
        fun comp =>
          .done (if 1 ≤ fileSizeParamLen.toNat ∧ fileSizeParamLen.toNat ≤ 4 then
            some ⟨fileSizeParamLen, fileSize unComp, fileSize comp⟩ else none)

/-- `UDSMsgHandler` for 0x38. -/
def fileXferHandler (maxPath : Nat) : Probe UInt8 HandlerResult :=
  .read 1 fun moo =>
    (read16 2).bind fun fileNameLen =>
      if fileNameLen ≥ maxPath then .done (.nrc incorrectMsgLenOrInvalidFormat)
      else (Probe.readMany 4 fileNameLen).bind fun fileName =>
        let dataPtrPos : UInt8 := 4 + UInt8.ofNat fileNameLen
        let filePathAndName := storePath maxPath fileName
        if endsWithPath moo then
          .done (.report ⟨moo, fileNameLen, filePathAndName, 0, noSizes⟩)
        else .read dataPtrPos.toNat fun dataFormatId =>
          if moo = 0x04 then
            .done (.report ⟨moo, fileNameLen, filePathAndName, dataFormatId, noSizes⟩)
          else (readSizes (dataPtrPos + 1)).bind fun
            | some sizes =>
              .done (.report ⟨moo, fileNameLen, filePathAndName, dataFormatId, sizes⟩)
            | none => .done .undefined

/-- The sizes that `IndicateRxFileXferReq` reads behind a path of `n` bytes. -/
def validatorSizes (m : UdsManager) (n : Nat) : FileSizeFields :=
  let fileSizeParameterLength := m.recv (4 + n + 1)
  { fileSizeParamLen := fileSizeParameterLength
    unCompFileSize := valueOfFileSize m (4 + n + 2) fileSizeParameterLength.toNat
    compFileSize := valueOfFileSize m (4 + n + 2 + fileSizeParameterLength.toNat)
      fileSizeParameterLength.toNat }

/-- The report agrees with the fields of the request in the reception buffer. -/
structure Agrees (m : UdsManager) (rxMsg : FileXferReport) : Prop where
  operationType : rxMsg.operationType = m.recv 1
  pathLength : rxMsg.filePathAndNameLen = (m.recv16 2).toNat
  path : rxMsg.filePathAndName.take rxMsg.filePathAndNameLen =
    (List.range (m.recv16 2).toNat).map fun i => m.recv (4 + i)
  dataFormat : rxMsg.dataFormatID =
    if endsWithPath (m.recv 1) then 0 else m.recv (4 + (m.recv16 2).toNat)
  sizes : rxMsg.sizes =
    if endsWithPath (m.recv 1) ∨ m.recv 1 = 0x04 then noSizes
    else validatorSizes m (m.recv16 2).toNat

/-- The decoder reports what the validator read and reads nothing but the message. -/
def DecodedTwice (maxPath : Nat) (cells : Nat → UInt8) (m : UdsManager) : Prop :=
  (∃ rxMsg, (fileXferHandler maxPath).run cells = .report rxMsg ∧ Agrees m rxMsg) ∧
    (fileXferHandler maxPath).Within cells m.recvDataLen

variable {bytes : List UInt8}

theorem memcpyWord_toNat (h : bytes.length ≤ 4) :
    (memcpyWord bytes).toNat = number bytes.reverse := by
  have hlt := number_lt bytes.reverse
  have hpow : 256 ^ bytes.reverse.length ≤ 256 ^ 4 := by
    rw [length_reverse]
    exact Nat.pow_le_pow_right (by decide) h
  exact Nat.mod_eq_of_lt (lt_of_lt_of_le hlt hpow)

theorem fileSize_toNat (hpos : 1 ≤ bytes.length) (h : bytes.length ≤ 4) :
    (fileSize bytes).toNat = number bytes := by
  have hamou : (UInt32.ofNat ((4 - bytes.length) * 8)).toNat = (4 - bytes.length) * 8 := by
    rw [UInt32.toNat_ofNat']
    omega
  have hpadd : number bytes.reverse * 256 ^ (4 - bytes.length) =
      number (bytes.reverse ++ replicate (4 - bytes.length) 0) := by
    rw [number_append, number_replicate_zero, length_replicate, Nat.add_zero]
  have hleng : (bytes.reverse ++ replicate (4 - bytes.length) 0).length = 4 := by
    rw [length_append, length_reverse, length_replicate]
    omega
  have hshif : (memcpyWord bytes <<< UInt32.ofNat ((4 - bytes.length) * 8)).toNat =
      number (bytes.reverse ++ replicate (4 - bytes.length) 0) := by
    have hlt := number_lt (bytes.reverse ++ replicate (4 - bytes.length) 0)
    rw [hleng] at hlt
    have hmod : (4 - bytes.length) * 8 % 32 = (4 - bytes.length) * 8 := Nat.mod_eq_of_lt (by omega)
    rw [UInt32.toNat_shiftLeft, hamou, hmod, memcpyWord_toNat h, Nat.shiftLeft_eq,
      Nat.mul_comm (4 - bytes.length) 8, Nat.pow_mul, hpadd]
    exact Nat.mod_eq_of_lt hlt
  have hfiel : field 4 (number (bytes.reverse ++ replicate (4 - bytes.length) 0)) =
      bytes.reverse ++ replicate (4 - bytes.length) 0 := by
    have hrnd := field_number (bytes.reverse ++ replicate (4 - bytes.length) 0)
    rw [hleng] at hrnd
    exact hrnd
  have hlt : number bytes < 2 ^ 32 := by
    refine lt_of_lt_of_le (number_lt bytes) ?_
    exact (Nat.pow_le_pow_right (by decide) h : 256 ^ bytes.length ≤ 256 ^ 4)
  rw [fileSize, ntohl, hshif, hfiel, reverse_append, reverse_reverse,
    reverse_replicate, number_append, number_replicate_zero, Nat.zero_mul, Nat.zero_add,
    UInt32.toNat_ofNat', Nat.mod_eq_of_lt hlt]

theorem fileSize_inj (bytes bytes' : List UInt8) (hlen : bytes.length = bytes'.length)
    (hpos : 1 ≤ bytes.length) (h : bytes.length ≤ 4) :
    fileSize bytes = fileSize bytes' ↔ bytes = bytes' := by
  constructor
  · intro heq
    have hnum := congrArg UInt32.toNat heq
    rw [fileSize_toNat hpos h, fileSize_toNat (by omega) (by omega)] at hnum
    exact number_injective hlen hnum
  · intro heq
    rw [heq]

theorem all_zero_iff (bs : List UInt8) : (∀ b ∈ bs, b = 0) ↔ replicate bs.length 0 = bs :=
  ⟨fun h => (eq_replicate_of_mem h).symm, fun h b hb => by
    rw [← h] at hb
    exact eq_of_mem_replicate hb⟩

/-- The array holds the path when nothing but NUL stands behind its first NUL. -/
theorem storePath_take {maxPath : Nat} (path : List UInt8) (h : path.length < maxPath) :
    (storePath maxPath path).take path.length = path ↔
      ∀ b ∈ path.dropWhile (· != 0), b = 0 := by
  have hspl : path.takeWhile (· != 0) ++ path.dropWhile (· != 0) = path :=
    takeWhile_append_dropWhile
  have hlen := congrArg length hspl
  rw [length_append] at hlen
  have htake : (storePath maxPath path).take path.length = path.takeWhile (· != 0) ++
      replicate (path.dropWhile (· != 0)).length 0 := by
    have hmin : min (path.length - (path.takeWhile (· != 0)).length)
        (maxPath - (path.takeWhile (· != 0)).length) = (path.dropWhile (· != 0)).length := by omega
    rw [storePath, take_append, take_of_length_le (by omega), take_replicate, hmin]
  rw [htake, all_zero_iff]
  constructor
  · intro heq
    exact append_cancel_left (heq.trans hspl.symm)
  · intro heq
    rw [heq, hspl]

/-- What stands at the wrapped positions of the fields, and a path that is one text. -/
structure SameFields (data : List UInt8) : Prop where
  path : ∀ b ∈ ((data.drop 4).take (word data 2)).dropWhile (· != 0), b = 0
  dataFormat : endsWithPath (data.getD 1 0) = false →
    data.getD ((4 + word data 2) % 256) 0 = data.getD (4 + word data 2) 0
  sizes : endsWithPath (data.getD 1 0) = false → data.getD 1 0 ≠ 0x04 →
    data.getD ((4 + word data 2 + 1) % 256) 0 = data.getD (4 + word data 2 + 1) 0 ∧
      (data.drop ((4 + word data 2 + 2) % 256)).take (data.getD (4 + word data 2 + 1) 0).toNat =
        (data.drop (4 + word data 2 + 2)).take (data.getD (4 + word data 2 + 1) 0).toNat ∧
      (data.drop ((4 + word data 2 + 2 + (data.getD (4 + word data 2 + 1) 0).toNat) % 256)).take
          (data.getD (4 + word data 2 + 1) 0).toNat =
        (data.drop (4 + word data 2 + 2 + (data.getD (4 + word data 2 + 1) 0).toNat)).take
          (data.getD (4 + word data 2 + 1) 0).toNat

section
variable {cells : Nat → UInt8} {data : List UInt8} {maxPath n : Nat}

theorem pos_toNat (n : Nat) : ((4 : UInt8) + ofNat n).toNat = (4 + n) % 256 := by
  change (4 + n % 256) % 256 = _
  omega

theorem pos_succ_toNat (n : Nat) : ((4 : UInt8) + UInt8.ofNat n + 1).toNat = (4 + n + 1) % 256 := by
  rw [UInt8.toNat_add, pos_toNat]
  change ((4 + n) % 256 + 1) % 256 = _
  omega

theorem pos_succ_succ_toNat (n : Nat) :
    ((4 : UInt8) + UInt8.ofNat n + 1 + 1).toNat = (4 + n + 2) % 256 := by
  rw [UInt8.toNat_add, pos_succ_toNat]
  change ((4 + n + 1) % 256 + 1) % 256 = _
  omega

theorem pos_width_toNat (n : Nat) (k : UInt8) :
    ((4 : UInt8) + UInt8.ofNat n + 1 + 1 + k).toNat = (4 + n + 2 + k.toNat) % 256 := by
  rw [UInt8.toNat_add, pos_succ_succ_toNat]
  omega

theorem readSizes_run (n : Nat) :
    (readSizes ((4 : UInt8) + ofNat n + 1)).run cells =
      let k := cells ((4 + n + 1) % 256)
      if 1 ≤ k.toNat ∧ k.toNat ≤ 4 then
        some ⟨k, fileSize ((range k.toNat).map fun i => cells ((4 + n + 2) % 256 + i)),
          fileSize ((range k.toNat).map fun i => cells ((4 + n + 2 + k.toNat) % 256 + i))⟩
      else none := by
  unfold readSizes
  rw [run_read, run_bind, run_bind, run_done, run_readMany,
    run_readMany, pos_succ_toNat, pos_succ_succ_toNat, pos_width_toNat]

theorem fileXferHandler_run (hcells : Holds cells data) (hfits : 4 + word data 2 ≤ data.length)
    (hpath : word data 2 < maxPath) :
    (fileXferHandler maxPath).run cells =
      let filePathAndName := storePath maxPath ((data.drop 4).take (word data 2))
      if endsWithPath (data.getD 1 0) then
        .report ⟨data.getD 1 0, word data 2, filePathAndName, 0, noSizes⟩
      else if data.getD 1 0 = 0x04 then
        .report ⟨data.getD 1 0, word data 2, filePathAndName, cells ((4 + word data 2) % 256),
          noSizes⟩
      else match (readSizes ((4 : UInt8) + ofNat (word data 2) + 1)).run cells with
        | some sizes => .report ⟨data.getD 1 0, word data 2, filePathAndName,
            cells ((4 + word data 2) % 256), sizes⟩
        | none => .undefined := by
  have hmoo : cells 1 = data.getD 1 0 := hcells 1 (by omega)
  have hlen : (read16 2).run cells = word data 2 := hcells.read16 (by omega)
  have hname : ((range (word data 2)).map fun i => cells (4 + i)) =
      (data.drop 4).take (word data 2) := hcells.slice hfits
  unfold fileXferHandler
  rw [run_read, run_bind, hlen, hmoo, if_neg (by omega), run_bind,
    run_readMany, hname]
  rw [run_ite, run_read, pos_toNat, run_ite, run_bind]
  cases (readSizes ((4 : UInt8) + ofNat (word data 2) + 1)).run cells <;> rfl

/-- The decoder reads inside the message when the sizes it finds do. -/
theorem fileXferHandler_within (hcells : Holds cells data) (hfits : 4 + word data 2 ≤ data.length)
    (hfmt : endsWithPath (data.getD 1 0) = false → 4 + word data 2 < data.length)
    (hsiz : endsWithPath (data.getD 1 0) = false → data.getD 1 0 ≠ 0x04 →
      4 + word data 2 + 2 + (cells ((4 + word data 2 + 1) % 256)).toNat * 2 ≤ data.length) :
    (fileXferHandler maxPath).Within cells data.length := by
  have hmoo : cells 1 = data.getD 1 0 := hcells 1 (by omega)
  have hlen : (read16 2).run cells = word data 2 := hcells.read16 (by omega)
  apply within_read (by omega)
  apply within_bind (within_read16 (by omega))
  rw [hlen, hmoo]
  apply within_ite (fun _ => within_done _)
  intro _
  apply within_bind (within_readMany hfits)
  apply within_ite (fun _ => within_done _)
  intro hends
  have hformatPos := hfmt (Bool.not_eq_true _ ▸ hends)
  apply within_read
  · rw [pos_toNat]
    omega
  apply within_ite (fun _ => within_done _)
  intro hread
  have hsizesFit := hsiz (Bool.not_eq_true _ ▸ hends) hread
  apply within_bind
  · apply within_read
    · rw [pos_succ_toNat]
      omega
    rw [pos_succ_toNat]
    apply within_bind
    · apply within_readMany
      rw [pos_succ_succ_toNat]
      omega
    apply within_bind
    · apply within_readMany
      rw [pos_width_toNat]
      omega
    exact within_done _
  · cases (readSizes ((4 : UInt8) + ofNat (word data 2) + 1)).run cells with
    | none | some sizes => exact within_done _

end

section
variable (m : UdsManager) (addr : AddrInfo) {data : List UInt8} {cells : Nat → UInt8}
  {maxPath : Nat}

theorem slice_length {start k : Nat} (h : start + k ≤ data.length) :
    ((data.drop start).take k).length = k := by
  rw [length_take, length_drop]
  omega

theorem valueOfFileSize_eq (hmax : data.length ≤ udsMaxDataSize) {start k : Nat}
    (hlow : 1 ≤ k) (hhigh : k ≤ 4) (h : start + k ≤ data.length) :
    valueOfFileSize (m.takeRequest addr data) start k = fileSize ((data.drop start).take k) := by
  apply UInt32.toNat_inj.1
  rw [valueOfFileSize_toNat _ _ hhigh, recv_slice m addr hmax h, fileSize_toNat]
  · rw [slice_length h]
    exact hlow
  · rw [slice_length h]
    exact hhigh

theorem agrees_iff (hmax : data.length ≤ udsMaxDataSize) (hfits : 4 + word data 2 ≤ data.length)
    (rxMsg : FileXferReport) :
    Agrees (m.takeRequest addr data) rxMsg ↔
      rxMsg.operationType = data.getD 1 0 ∧ rxMsg.filePathAndNameLen = word data 2 ∧
        rxMsg.filePathAndName.take rxMsg.filePathAndNameLen = (data.drop 4).take (word data 2) ∧
        rxMsg.dataFormatID = (if endsWithPath (data.getD 1 0) then 0
          else (m.takeRequest addr data).recv (4 + word data 2)) ∧
        rxMsg.sizes = (if endsWithPath (data.getD 1 0) ∨ data.getD 1 0 = 0x04 then noSizes
          else validatorSizes (m.takeRequest addr data) (word data 2)) := by
  have hmoo : (m.takeRequest addr data).recv 1 = data.getD 1 0 :=
    takeRequest_recv m addr data (by omega) (by decide)
  have hlen := recv16_word m addr hmax (i := 2) (by omega)
  constructor
  · rintro ⟨hop, hpath, hname, hfmt, hsiz⟩
    rw [hmoo] at hop hfmt hsiz
    rw [hlen] at hpath hname hfmt hsiz
    rw [recv_slice m addr hmax hfits] at hname
    exact ⟨hop, hpath, hname, hfmt, hsiz⟩
  rintro ⟨hop, hpath, hname, hfmt, hsiz⟩
  constructor
  · rw [hmoo]
    exact hop
  · rw [hlen]
    exact hpath
  · rw [hlen, recv_slice m addr hmax hfits]
    exact hname
  · rw [hmoo, hlen]
    exact hfmt
  · rw [hmoo, hlen]
    exact hsiz

theorem storedPath_iff (hfits : 4 + word data 2 ≤ data.length) (hpath : word data 2 < maxPath) :
    (storePath maxPath ((data.drop 4).take (word data 2))).take (word data 2) =
        (data.drop 4).take (word data 2) ↔
      ∀ b ∈ ((data.drop 4).take (word data 2)).dropWhile (· != 0), b = 0 := by
  have hlen : ((data.drop 4).take (word data 2)).length = word data 2 := slice_length hfits
  have hstd := storePath_take ((data.drop 4).take (word data 2)) (hlen.trans_lt hpath)
  rw [hlen] at hstd
  exact hstd

section

variable (hmax : data.length ≤ udsMaxDataSize) (hcells : Holds cells data)
include hmax hcells

theorem decodedTwice_path (hfits : 4 + word data 2 ≤ data.length) (hpath : word data 2 < maxPath)
    (hends : endsWithPath (data.getD 1 0) = true) :
    DecodedTwice maxPath cells (m.takeRequest addr data) ↔ SameFields data := by
  have hrun := fileXferHandler_run hcells hfits hpath
  dsimp only at hrun
  rw [if_pos hends] at hrun
  constructor
  · rintro ⟨⟨rxMsg, hrpt, hagr⟩, -⟩
    have hmsg := HandlerResult.report.inj (hrun.symm.trans hrpt)
    subst hmsg
    have hname := ((agrees_iff m addr hmax hfits _).1 hagr).2.2.1
    refine ⟨(storedPath_iff hfits hpath).1 hname, ?_, ?_⟩
    all_goals
      intro h
      rw [hends] at h
      cases h
  · intro hsame
    refine ⟨⟨_, hrun, (agrees_iff m addr hmax hfits _).2 ⟨rfl, rfl, ?_, ?_, ?_⟩⟩, ?_⟩
    · exact (storedPath_iff hfits hpath).2 hsame.path
    · rw [if_pos hends]
    · rw [if_pos (.inl hends)]
    apply fileXferHandler_within hcells hfits
    all_goals
      intro h
      rw [hends] at h
      cases h

theorem decodedTwice_read (hfits : 4 + word data 2 < data.length) (hpath : word data 2 < maxPath)
    (hends : endsWithPath (data.getD 1 0) = false) (hread : data.getD 1 0 = 0x04) :
    DecodedTwice maxPath cells (m.takeRequest addr data) ↔ SameFields data := by
  have hends' : ¬endsWithPath (data.getD 1 0) = true := by
    rw [hends]
    exact Bool.false_ne_true
  have hrun := fileXferHandler_run hcells hfits.le hpath
  dsimp only at hrun
  rw [if_neg hends', if_pos hread, hcells _ (by omega)] at hrun
  have hfmt : (m.takeRequest addr data).recv (4 + word data 2) =
      data.getD (4 + word data 2) 0 := holds_takeRequest m addr hmax _ hfits
  constructor
  · rintro ⟨⟨rxMsg, hrpt, hagr⟩, -⟩
    have hmsg := HandlerResult.report.inj (hrun.symm.trans hrpt)
    subst hmsg
    obtain ⟨-, -, hname, hdfi, -⟩ := (agrees_iff m addr hmax hfits.le _).1 hagr
    rw [if_neg hends', hfmt] at hdfi
    exact ⟨(storedPath_iff hfits.le hpath).1 hname, fun _ => hdfi, fun _ h => absurd hread h⟩
  · intro hsame
    refine ⟨⟨_, hrun, (agrees_iff m addr hmax hfits.le _).2 ⟨rfl, rfl, ?_, ?_, ?_⟩⟩, ?_⟩
    · exact (storedPath_iff hfits.le hpath).2 hsame.path
    · rw [if_neg hends', hfmt]
      exact hsame.dataFormat hends
    · rw [if_pos (.inr hread)]
    · exact fileXferHandler_within hcells hfits.le (fun _ => hfits) (fun _ h => absurd hread h)

/-- The sizes of the validator and of the decoder are the same bytes. -/
theorem readSizes_eq_iff {n : Nat}
    (hlow : 1 ≤ (data.getD (4 + n + 1) 0).toNat) (hhigh : (data.getD (4 + n + 1) 0).toNat ≤ 4)
    (hfits : 4 + n + 2 + (data.getD (4 + n + 1) 0).toNat * 2 ≤ data.length) :
    (readSizes ((4 : UInt8) + ofNat n + 1)).run cells =
        some (validatorSizes (m.takeRequest addr data) n) ↔
      data.getD ((4 + n + 1) % 256) 0 = data.getD (4 + n + 1) 0 ∧
        (data.drop ((4 + n + 2) % 256)).take (data.getD (4 + n + 1) 0).toNat =
          (data.drop (4 + n + 2)).take (data.getD (4 + n + 1) 0).toNat ∧
        (data.drop ((4 + n + 2 + (data.getD (4 + n + 1) 0).toNat) % 256)).take
            (data.getD (4 + n + 1) 0).toNat =
          (data.drop (4 + n + 2 + (data.getD (4 + n + 1) 0).toNat)).take
            (data.getD (4 + n + 1) 0).toNat := by
  have hwidt : (m.takeRequest addr data).recv (4 + n + 1) = data.getD (4 + n + 1) 0 :=
    holds_takeRequest m addr hmax _ (by omega)
  have hwrap : cells ((4 + n + 1) % 256) = data.getD ((4 + n + 1) % 256) 0 := hcells _ (by omega)
  rw [readSizes_run]
  dsimp only
  rw [hwrap, validatorSizes, hwidt]
  generalize hk : data.getD (4 + n + 1) 0 = k at hlow hhigh hfits
  generalize data.getD ((4 + n + 1) % 256) 0 = k'
  rw [valueOfFileSize_eq m addr hmax hlow hhigh (by omega),
    valueOfFileSize_eq m addr hmax hlow hhigh (by omega)]
  by_cases hsame : k' = k
  · subst hsame
    rw [if_pos ⟨hlow, hhigh⟩, hcells.slice (by omega), hcells.slice (by omega)]
    have hu := fileSize_inj ((data.drop ((4 + n + 2) % 256)).take k'.toNat)
      ((data.drop (4 + n + 2)).take k'.toNat)
      (by rw [slice_length (by omega), slice_length (by omega)])
      (by rw [slice_length (by omega)]; exact hlow) (by rw [slice_length (by omega)]; exact hhigh)
    have hv := fileSize_inj ((data.drop ((4 + n + 2 + k'.toNat) % 256)).take k'.toNat)
      ((data.drop (4 + n + 2 + k'.toNat)).take k'.toNat)
      (by rw [slice_length (by omega), slice_length (by omega)])
      (by rw [slice_length (by omega)]; exact hlow) (by rw [slice_length (by omega)]; exact hhigh)
    simp only [Option.some.injEq, FileSizeFields.mk.injEq]
    rw [hu, hv]
  · constructor
    · intro h
      split_ifs at h
      exact absurd (FileSizeFields.mk.inj (Option.some.inj h)).1 hsame
    · rintro ⟨h, -⟩
      exact absurd h hsame

theorem decodedTwice_sizes
    (hpath : word data 2 < maxPath) (hends : endsWithPath (data.getD 1 0) = false)
    (hread : data.getD 1 0 ≠ 0x04) (hlow : 1 ≤ (data.getD (4 + word data 2 + 1) 0).toNat)
    (hhigh : (data.getD (4 + word data 2 + 1) 0).toNat ≤ 4)
    (hfits : 4 + word data 2 + 2 + (data.getD (4 + word data 2 + 1) 0).toNat * 2 ≤ data.length) :
    DecodedTwice maxPath cells (m.takeRequest addr data) ↔ SameFields data := by
  have hends' : ¬endsWithPath (data.getD 1 0) = true := by
    rw [hends]
    exact Bool.false_ne_true
  have hnone : ¬(endsWithPath (data.getD 1 0) = true ∨ data.getD 1 0 = 0x04) :=
    not_or.2 ⟨hends', hread⟩
  have hroom : 4 + word data 2 ≤ data.length := by omega
  have hrun := fileXferHandler_run hcells hroom hpath
  dsimp only at hrun
  rw [if_neg hends', if_neg hread, hcells ((4 + word data 2) % 256) (by omega)] at hrun
  have hfmt : (m.takeRequest addr data).recv (4 + word data 2) =
      data.getD (4 + word data 2) 0 := holds_takeRequest m addr hmax _ (by omega)
  have hsiz := readSizes_eq_iff m addr hmax hcells hlow hhigh hfits
  constructor
  · rintro ⟨⟨rxMsg, hrpt, hagr⟩, -⟩
    rcases hfnd : (readSizes ((4 : UInt8) + ofNat (word data 2) + 1)).run cells with _ | sizes
    · rw [hfnd] at hrun
      cases hrun.symm.trans hrpt
    rw [hfnd] at hrun
    have hmsg := HandlerResult.report.inj (hrun.symm.trans hrpt)
    subst hmsg
    obtain ⟨-, -, hname, hdfi, hequa⟩ := (agrees_iff m addr hmax hroom _).1 hagr
    rw [if_neg hends', hfmt] at hdfi
    rw [if_neg hnone] at hequa
    refine ⟨(storedPath_iff hroom hpath).1 hname, fun _ => hdfi, fun _ _ => ?_⟩
    apply hsiz.1
    rw [hfnd]
    exact congrArg some hequa
  · intro hsame
    have hfnd := hsiz.2 (hsame.sizes hends hread)
    rw [hfnd] at hrun
    refine ⟨⟨_, hrun, (agrees_iff m addr hmax hroom _).2 ⟨rfl, rfl, ?_, ?_, ?_⟩⟩, ?_⟩
    · exact (storedPath_iff hroom hpath).2 hsame.path
    · rw [if_neg hends', hfmt]
      exact hsame.dataFormat hends
    · rw [if_neg hnone]
    apply fileXferHandler_within hcells hroom (fun _ => by omega)
    intro _ _
    rw [hcells _ (by omega), (hsame.sizes hends hread).1]
    exact hfits

end

theorem fileXferReq_idle {c : DiagConf} {m : UdsManager}
    (h : indicateRxFileXferReq c m = .indicate) : m.isXferActive = false := by
  rcases hact : m.isXferActive with _ | _
  · rfl
  unfold indicateRxFileXferReq at h
  simp only [hact] at h
  repeat' (first | cases h | split at h)

/-- A request that the validator forwards is reported with the same fields exactly when
they stand at the positions modulo 256 too and the path is one text. -/
theorem fileXfer_decodedTwice (c : DiagConf) (rest : List UInt8)
    (hfwd : indicateRxFileXferReq c
      (m.takeRequest addr (requestFileTransferRequestId :: rest)) = .indicate)
    (hpath : word (requestFileTransferRequestId :: rest) 2 < maxPath)
    (hcells : Holds cells (requestFileTransferRequestId :: rest)) :
    DecodedTwice maxPath cells (m.takeRequest addr (requestFileTransferRequestId :: rest)) ↔
      SameFields (requestFileTransferRequestId :: rest) := by
  have hidle : (m.takeRequest addr (requestFileTransferRequestId :: rest)).isXferActive = false :=
    fileXferReq_idle hfwd
  have hgrammar := ((fileXferReq_iff c m addr hidle rfl).1 hfwd).1
  revert hpath hcells hgrammar
  generalize hdata : requestFileTransferRequestId :: rest = data
  intro hpath hcells hgrammar
  obtain ⟨hfits, -, -, -, -, -, htrailer, hlen⟩ := (fileXferRequest_iff hdata.symm).1 hgrammar
  have hmax : data.length ≤ udsMaxDataSize := hlen.trans (by decide)
  cases hends : endsWithPath (data.getD 1 0) with
  | true => exact decodedTwice_path m addr hmax hcells hfits hpath hends
  | false =>
    have hroom := (htrailer.head_ascii c hends).1
    rw [List.length_drop] at hroom
    unfold Trailer at htrailer
    rw [hends] at htrailer
    by_cases hread : data.getD 1 0 = 0x04
    · exact decodedTwice_read m addr hmax hcells (by omega) hpath hends hread
    rw [if_neg hread] at htrailer
    obtain ⟨hlow, hhigh, hsize, -, -⟩ := fileSizes_iff.1 htrailer
    rw [getD_drop] at hlow hhigh hsize
    rw [List.length_drop] at hsize
    exact decodedTwice_sizes m addr hmax hcells hpath hends hread hlow hhigh (by omega)

end

/-- A request to read a file whose path has 252 characters. -/
def longPathRequest : List UInt8 := [0x38, 0x04, 0x00, 0xFC] ++ List.replicate 252 0x61 ++ [0x00]

/-- A request to read a file with a short path. -/
def shortPathRequest : List UInt8 := [0x38, 0x04, 0x00, 0x01, 0x61, 0x00]

theorem fileXfer_decodedTwice_shortPath :
    indicateRxFileXferReq sampleConf (initialManager.takeRequest testerAddr shortPathRequest)
        = .indicate ∧
      (DecodedTwice 256 (initialManager.takeRequest testerAddr shortPathRequest).recv
          (initialManager.takeRequest testerAddr shortPathRequest) ↔ SameFields shortPathRequest) :=
  ⟨by decide +kernel,
    fileXfer_decodedTwice initialManager testerAddr sampleConf [0x04, 0x00, 0x01, 0x61, 0x00]
    (by decide +kernel) (by decide +kernel) (holds_takeRequest initialManager testerAddr (by decide))⟩

/-- The data format reported for the long path is the service identifier. -/
theorem longPath_misread :
    indicateRxFileXferReq sampleConf (initialManager.takeRequest testerAddr longPathRequest)
        = .indicate ∧
      ¬ DecodedTwice 1024 (initialManager.takeRequest testerAddr longPathRequest).recv
        (initialManager.takeRequest testerAddr longPathRequest) := by
  have hmax : longPathRequest.length ≤ udsMaxDataSize := by decide +kernel
  have hpath : word longPathRequest 2 = 252 := by decide +kernel
  constructor
  · decide +kernel
  rw [decodedTwice_read initialManager testerAddr hmax (holds_takeRequest initialManager testerAddr hmax)
    (by rw [hpath]; decide +kernel) (by rw [hpath]; decide) rfl rfl]
  intro hsame
  have hformat := hsame.dataFormat rfl
  exact absurd hformat (by decide +kernel)

end TelAF.FileXferDecode
