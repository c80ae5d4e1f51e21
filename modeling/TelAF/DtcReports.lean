import TelAF.DemSnapshots
import TelAF.GroupedLists
import TelAF.TransitionRuns

/-!
# Reports of the DTC information service

What `ReadDTCInformation` reports from the database: the DTCs by their status (0x01, 0x02),
the supported DTCs (0x0A), the stored snapshots (0x03) and the snapshots of one DTC (0x04).
Lists come from queries of different tables and from the configuration. A response is packed
into a buffer of fixed size, without a check: a response that is too long overwrites what
follows the buffer, and there is no result.
-/

namespace TelAF.DtcReports
open DemConfiguration DemDatabase DemSnapshots EventStatus GroupedLists KeyedTable Store List
  TransitionRuns

def availableStatusMask : UdsStatus := 0x7F

section
variable (c : SnapshotConf) (db : Database)

def readDtcByStatus (status : UdsStatus) : List (DtcCode × UdsStatus) :=
  (db.dtcs.rows.filter fun r => r.status &&& status ≠ 0 ∧ r.suppression = false).map
    fun r => (r.dtc, r.status)

def getDtcByStatusMask (statusMask : UdsStatus) : List (DtcCode × UdsStatus) :=
  readDtcByStatus db (statusMask &&& availableStatusMask)

def getSupportedDtc : List (DtcCode × UdsStatus) :=
  c.dtcCodes.filterMap fun d =>
    match db.dtcs.query d with
    | none => some (d, 0)
    | some entity =>
      if entity.suppression then none else some (d, entity.status &&& availableStatusMask)

/-- The same DTC and record number in consecutive rows are entered once. -/
def getAllDTCRecord : List (DtcCode × Nat) :=
  (db.snapshots.rows.map fun r => (r.dtc, r.recordNum)).destutter (· ≠ ·)

def getSnapshotIdentification : List (DtcCode × Nat) :=
  (getAllDTCRecord db).filter fun info => db.readSuppressionByDtc info.1 = false

structure SnapshotData where
  recNumber : Nat
  didSet : List DIDInfo

def ffDidSizeMax : Nat := 10

/-- All DIDs of the record are copied to a set for ten. -/
def getSpecSnapshotRecByDtc (d : DtcCode) (recNumber : Nat) : List SnapshotData :=
  if getDIDRecord d recNumber db = [] then [] else [⟨recNumber, getDIDRecord d recNumber db⟩]

def getAllSnapshotRecByDtc (d : DtcCode) : List SnapshotData :=
  ((snapshotRnVec c).filter fun item => item.dtc = d).flatMap
    fun item => getSpecSnapshotRecByDtc db d (item.rn % 256)

inductive QueryError where
  | notFound
  | unavailable
  | unsupported

def getSnapshotRecByDtc (d : DtcCode) (recNumber : Nat) :
    Except QueryError (UdsStatus × List SnapshotData) :=
  match db.dtcs.query d with
  | none => .error .notFound
  | some entity =>
    if entity.suppression then .error .unavailable
    else if recNumber = 0xFF then .ok (entity.status, getAllSnapshotRecByDtc c db d)
    else if (snapshotRnVec c).any fun item => item.dtc = d ∧ item.rn = recNumber then
      .ok (entity.status, getSpecSnapshotRecByDtc db d recNumber)
    else .error .unsupported

end

def responseDataSize : Nat := 4095

/-- The bytes of a response, as long as they stay within the buffer. -/
def respBuf (bytes : List UInt8) : Option (List UInt8) :=
  if bytes.length ≤ responseDataSize then some bytes else none

def dtcBytes (d : DtcCode) : List UInt8 :=
  [UInt8.ofNat (d / 65536), UInt8.ofNat (d / 256), UInt8.ofNat d]

def statusByte (status : UdsStatus) : UInt8 := ⟨status⟩

def entryBytes (entry : DtcCode × UdsStatus) : List UInt8 :=
  dtcBytes entry.1 ++ [statusByte entry.2]

def identificationBytes (info : DtcCode × Nat) : List UInt8 :=
  dtcBytes info.1 ++ [UInt8.ofNat info.2]

def didBytes (info : DIDInfo) : List UInt8 :=
  [UInt8.ofNat (info.did / 256), UInt8.ofNat info.did] ++ info.val

def recordBytes (data : SnapshotData) : List UInt8 :=
  UInt8.ofNat data.recNumber :: UInt8.ofNat data.didSet.length :: data.didSet.flatMap didBytes

section
variable (c : SnapshotConf) (formatId : UInt8) (db : Database)

/-- 0x01 counts the entries of 0x02 in two bytes. -/
def numOfDtcResponse (statusMask : UdsStatus) : Option (List UInt8) :=
  let dtcCount := UInt16.ofNat (getDtcByStatusMask db statusMask).length
  respBuf [statusByte availableStatusMask, formatId, (dtcCount >>> 8).toUInt8, dtcCount.toUInt8]

def dtcByStatusMaskResponse (statusMask : UdsStatus) : Option (List UInt8) :=
  respBuf (statusByte availableStatusMask :: (getDtcByStatusMask db statusMask).flatMap entryBytes)

def supportedDtcResponse : Option (List UInt8) :=
  respBuf (statusByte availableStatusMask :: (getSupportedDtc c db).flatMap entryBytes)

def dtcSnapshotIDResponse : Option (List UInt8) :=
  respBuf ((getSnapshotIdentification db).flatMap identificationBytes)

/-- 0x04, or its error. A record with more DIDs than a set can hold is copied past its end. -/
def dtcSnapshotRecordResponse (d : DtcCode) (dtcRecNum : Nat) :
    Option (Except QueryError (List UInt8)) :=
  match getSnapshotRecByDtc c db d dtcRecNum with
  | .error error => some (.error error)
  | .ok (status, records) =>
    if records.all fun data => data.didSet.length ≤ ffDidSizeMax then
      (respBuf (dtcBytes d ++ [statusByte status] ++ records.flatMap recordBytes)).map .ok
    else none

end

/-- Every report lists what the database and the configuration hold, each item once. -/
structure ReportsExact (c : SnapshotConf) (formatId : UInt8) (db : Database) : Prop where
  byStatusMask : ∀ statusMask, ∃ entries : List (DtcCode × UdsStatus),
    dtcByStatusMaskResponse db statusMask =
      some (statusByte availableStatusMask :: entries.flatMap entryBytes) ∧
    (entries.map Prod.fst).Nodup ∧
    (∀ d status, (d, status) ∈ entries ↔ ∃ r, db.dtcs.query d = some r ∧
      r.suppression = false ∧ r.status = status ∧
      status &&& (statusMask &&& availableStatusMask) ≠ 0) ∧
    ∃ high low, numOfDtcResponse formatId db statusMask =
      some [statusByte availableStatusMask, formatId, high, low] ∧
      high.toNat * 256 + low.toNat = entries.length
  supported : ∃ entries : List (DtcCode × UdsStatus),
    supportedDtcResponse c db =
      some (statusByte availableStatusMask :: entries.flatMap entryBytes) ∧
    (entries.map Prod.fst).Nodup ∧
    ∀ d, d ∈ entries.map Prod.fst ↔ d ∈ c.dtcCodes ∧ db.readSuppressionByDtc d = false
  snapshots : ∃ entries : List (DtcCode × Nat),
    dtcSnapshotIDResponse db = some (entries.flatMap identificationBytes) ∧ entries.Nodup ∧
    (∀ d rn, (d, rn) ∈ entries ↔
      db.readSuppressionByDtc d = false ∧ getDIDRecord d rn db ≠ []) ∧
    ∀ d rn, (d, rn) ∈ entries → ∃ (status : UInt8) (records : List SnapshotData),
      dtcSnapshotRecordResponse c db d 0xFF =
        some (.ok (dtcBytes d ++ [status] ++ records.flatMap recordBytes)) ∧
      (records.map SnapshotData.recNumber).Perm
        ((entries.filter fun info => info.1 = d).map Prod.snd) ∧
      ∀ data ∈ records, data.didSet = getDIDRecord d data.recNumber db

/-- The freeze frames of a DTC have record numbers of their own, each one byte. -/
structure DistinctRecords (c : SnapshotConf) : Prop where
  nodup : ∀ d ∈ c.dtcCodes,
    (((snapshotRnVec c).filter fun item => item.dtc = d).map SnapshotRn.rn).Nodup
  byte : ∀ item ∈ snapshotRnVec c, item.rn < 256

instance (c : SnapshotConf) : Decidable (DistinctRecords c) :=
  decidable_of_iff (_ ∧ _) ⟨fun h => ⟨h.1, h.2⟩, fun h => ⟨h.nodup, h.byte⟩⟩

def recordSize (record : List DIDInfo) : Nat := 2 + (record.map fun info => 2 + info.val.length).sum

structure WithinBuffer (c : SnapshotConf) (db : Database) : Prop where
  statuses : (db.dtcs.rows.filter fun r =>
    r.status &&& availableStatusMask ≠ 0 ∧ r.suppression = false).length ≤ 1023
  supported : (c.dtcCodes.filter fun d => db.readSuppressionByDtc d = false).length ≤ 1023
  records : ((db.snapshots.rows.map fun r => (r.dtc, r.recordNum)).dedup.filter fun info =>
    db.readSuppressionByDtc info.1 = false).length ≤ 1023
  didSets : ∀ item ∈ snapshotRnVec c, db.readSuppressionByDtc item.dtc = false →
    (getDIDRecord item.dtc item.rn db).length ≤ ffDidSizeMax
  snapshots : ∀ d ∈ c.dtcCodes, db.readSuppressionByDtc d = false →
    4 + (((snapshotRnVec c).filter fun item => item.dtc = d).map fun item =>
      if getDIDRecord d item.rn db = [] then 0 else recordSize (getDIDRecord d item.rn db)).sum ≤
        responseDataSize

instance (c : SnapshotConf) (db : Database) : Decidable (WithinBuffer c db) :=
  decidable_of_iff (_ ∧ _ ∧ _ ∧ _ ∧ _)
    ⟨fun h => ⟨h.1, h.2.1, h.2.2.1, h.2.2.2.1, h.2.2.2.2⟩,
      fun h => ⟨h.statuses, h.supported, h.records, h.didSets, h.snapshots⟩⟩

/-- The rows of a record stand together, and belong to a configured DTC with a row. -/
structure Arranged (c : SnapshotConf) (db : Database) : Prop where
  grouped : Grouped (db.snapshots.rows.map fun r => (r.dtc, r.recordNum))
  configured : ∀ r ∈ db.snapshots.rows,
    ∃ item ∈ snapshotRnVec c, item.dtc = r.dtc ∧ item.rn = r.recordNum
  hasRows : ∀ d ∈ c.dtcCodes, d ∈ db.dtcs.keys

variable {c : SnapshotConf} {db : Database} {d : DtcCode} {rn : Nat} {formatId : UInt8}

theorem length_entryBytes (entries : List (DtcCode × UdsStatus)) :
    (entries.flatMap entryBytes).length = 4 * entries.length := by
  induction entries with
  | nil => rfl
  | cons entry rest ih =>
    rw [flatMap_cons, length_append, length_cons]
    have hent : (entryBytes entry).length = 4 := rfl
    omega

theorem mem_dtcByMask {statusMask status : UdsStatus} :
    (d, status) ∈ getDtcByStatusMask db statusMask ↔ ∃ r, db.dtcs.query d = some r ∧
      r.suppression = false ∧ r.status = status ∧
      status &&& (statusMask &&& availableStatusMask) ≠ 0 := by
  unfold getDtcByStatusMask readDtcByStatus
  simp only [mem_map, mem_filter, decide_eq_true_eq, Prod.mk.injEq, Table.query_eq_some]
  constructor
  · rintro ⟨r, ⟨hr, hstat, hsupp⟩, hd, rfl⟩
    exact ⟨r, ⟨hr, hd⟩, hsupp, rfl, hstat⟩
  · rintro ⟨r, ⟨hr, hd⟩, hsupp, rfl, hstat⟩
    exact ⟨r, ⟨hr, hstat, hsupp⟩, hd, rfl⟩

theorem nodup_dtcByMask (statusMask : UdsStatus) :
    ((getDtcByStatusMask db statusMask).map Prod.fst).Nodup := by
  unfold getDtcByStatusMask readDtcByStatus
  rw [map_map]
  exact List.Nodup.sublist (List.Sublist.map DtcEntity.dtc filter_sublist) db.dtcs.nodup

theorem length_dtcByMask_le (statusMask : UdsStatus) :
    (getDtcByStatusMask db statusMask).length ≤ (db.dtcs.rows.filter fun r =>
      r.status &&& availableStatusMask ≠ 0 ∧ r.suppression = false).length := by
  unfold getDtcByStatusMask readDtcByStatus
  rw [length_map]
  apply List.Sublist.length_le
  apply monotone_filter_right
  intro r hr
  rw [decide_eq_true_eq] at hr ⊢
  refine ⟨?_, hr.2⟩
  intro hzero
  apply hr.1
  rw [BitVec.and_comm statusMask, ← BitVec.and_assoc, hzero]
  exact BitVec.zero_and

theorem byStatusMask_exact (h : WithinBuffer c db) (statusMask : UdsStatus) :
    dtcByStatusMaskResponse db statusMask = some (statusByte availableStatusMask ::
      (getDtcByStatusMask db statusMask).flatMap entryBytes) := by
  have hle := (@length_dtcByMask_le db statusMask).trans h.statuses
  unfold dtcByStatusMaskResponse respBuf
  rw [if_pos]
  rw [length_cons, length_entryBytes]
  unfold responseDataSize
  omega

theorem numOfDtc_exact (h : WithinBuffer c db) (statusMask : UdsStatus) :
    ∃ high low, numOfDtcResponse formatId db statusMask =
      some [statusByte availableStatusMask, formatId, high, low] ∧
      high.toNat * 256 + low.toNat = (getDtcByStatusMask db statusMask).length := by
  have hle := (@length_dtcByMask_le db statusMask).trans h.statuses
  refine ⟨_, _, rfl, ?_⟩
  have hcount : (UInt16.ofNat (getDtcByStatusMask db statusMask).length).toNat =
      (getDtcByStatusMask db statusMask).length := by
    exact Nat.mod_eq_of_lt (by omega)
  rw [UInt16.toNat_toUInt8, UInt16.toNat_toUInt8, UInt16.toNat_shiftRight]
  have heigh : (8 : UInt16).toNat % 16 = 8 := rfl
  rw [heigh]
  omega

theorem map_getSupportedDtc :
    (getSupportedDtc c db).map Prod.fst =
      c.dtcCodes.filter fun d => db.readSuppressionByDtc d = false := by
  unfold getSupportedDtc Database.readSuppressionByDtc
  rw [map_filterMap, ← filterMap_eq_filter]
  apply filterMap_congr
  intro d _
  cases hqry : db.dtcs.query d with
  | none => simp [hqry]
  | some entity =>
    cases hsupp : entity.suppression <;> simp [Option.guard, hqry, hsupp]

theorem supported_exact (h : WithinBuffer c db) :
    supportedDtcResponse c db =
      some (statusByte availableStatusMask :: (getSupportedDtc c db).flatMap entryBytes) := by
  have hlen := congrArg length (@map_getSupportedDtc c db)
  rw [length_map] at hlen
  have hle := h.supported
  unfold supportedDtcResponse respBuf
  rw [if_pos]
  rw [length_cons, length_entryBytes]
  unfold responseDataSize
  omega

theorem mem_getAllDTCRecord : (d, rn) ∈ getAllDTCRecord db ↔ getDIDRecord d rn db ≠ [] := by
  unfold getAllDTCRecord getDIDRecord snapshotRows
  rw [mem_destutter, ne_eq, map_eq_nil_iff]
  simp

theorem mem_getIdentification :
    (d, rn) ∈ getSnapshotIdentification db ↔
      db.readSuppressionByDtc d = false ∧ getDIDRecord d rn db ≠ [] := by
  unfold getSnapshotIdentification
  rw [mem_filter, mem_getAllDTCRecord, decide_eq_true_eq, and_comm]

theorem nodup_getIdentification (h : Arranged c db) :
    (getSnapshotIdentification db).Nodup :=
  List.Nodup.filter _ h.grouped.nodup_destutter

theorem length_identificationBytes (entries : List (DtcCode × Nat)) :
    (entries.flatMap identificationBytes).length = 4 * entries.length := by
  induction entries with
  | nil => rfl
  | cons info rest ih =>
    rw [flatMap_cons, length_append, length_cons]
    have hinfo : (identificationBytes info).length = 4 := rfl
    omega

theorem snapshotID_exact (h : Arranged c db) (hwthn : WithinBuffer c db) :
    dtcSnapshotIDResponse db =
      some ((getSnapshotIdentification db).flatMap identificationBytes) := by
  have hperm : (getAllDTCRecord db).Perm
      (db.snapshots.rows.map fun r => (r.dtc, r.recordNum)).dedup := by
    unfold getAllDTCRecord
    rw [perm_ext_iff_of_nodup h.grouped.nodup_destutter (nodup_dedup _)]
    intro info
    rw [mem_destutter, mem_dedup]
  have hlen := (hperm.filter fun info => db.readSuppressionByDtc info.1 = false).length_eq
  have hle := hwthn.records
  unfold dtcSnapshotIDResponse respBuf
  rw [if_pos]
  rw [length_identificationBytes]
  unfold getSnapshotIdentification responseDataSize
  omega

theorem allSnapshots_eq (hconf : DistinctRecords c) :
    getAllSnapshotRecByDtc c db d =
      ((snapshotRnVec c).filter fun item => item.dtc = d).flatMap
        fun item => getSpecSnapshotRecByDtc db d item.rn := by
  apply flatMap_congr
  intro item hitem
  rw [Nat.mod_eq_of_lt (hconf.byte item (mem_filter.1 hitem).1)]

theorem map_recNumber_flatMap (items : List SnapshotRn) :
    ((items.flatMap fun item => getSpecSnapshotRecByDtc db d item.rn).map
      SnapshotData.recNumber) =
        (items.map SnapshotRn.rn).filter fun rn => getDIDRecord d rn db ≠ [] := by
  induction items with
  | nil => rfl
  | cons item rest ih =>
    rw [flatMap_cons, map_append, ih, map_cons]
    unfold getSpecSnapshotRecByDtc
    by_cases hrec : getDIDRecord d item.rn db = []
    · rw [if_pos hrec, filter_cons_of_neg (by simpa using hrec)]
      rfl
    · rw [if_neg hrec, filter_cons_of_pos (by simpa using hrec)]
      rfl

theorem mem_items_of_record (h : Arranged c db) (hrec : getDIDRecord d rn db ≠ []) :
    rn ∈ ((snapshotRnVec c).filter fun item => item.dtc = d).map SnapshotRn.rn := by
  have hmem := mem_getAllDTCRecord.2 hrec
  unfold getAllDTCRecord at hmem
  rw [mem_destutter] at hmem
  obtain ⟨r, hr, heq⟩ := mem_map.1 hmem
  cases heq
  obtain ⟨item, hitem, hdtc, hrn⟩ := h.configured r hr
  exact mem_map.2 ⟨item, mem_filter.2 ⟨hitem, decide_eq_true hdtc⟩, hrn⟩

theorem dtc_mem_dtcCodes {item : SnapshotRn} (h : item ∈ snapshotRnVec c) :
    item.dtc ∈ c.dtcCodes := by
  obtain ⟨d', hd', hname⟩ := mem_flatMap.1 h
  obtain ⟨name, -, hname⟩ := mem_filterMap.1 hname
  obtain ⟨rn', -, hname⟩ := Option.bind_eq_some_iff.1 hname
  obtain ⟨type, -, rfl⟩ := Option.map_eq_some_iff.1 hname
  exact hd'

theorem mem_dtcCodes_of_record (h : Arranged c db) (hrec : getDIDRecord d rn db ≠ []) :
    d ∈ c.dtcCodes := by
  obtain ⟨item, hitem, -⟩ := mem_map.1 (mem_items_of_record h hrec)
  obtain ⟨hitem, hdtc⟩ := mem_filter.1 hitem
  rw [← of_decide_eq_true hdtc]
  exact dtc_mem_dtcCodes hitem

theorem recNumbers_perm (h : Arranged c db) (hconf : DistinctRecords c) (hd : d ∈ c.dtcCodes)
    (hsupp : db.readSuppressionByDtc d = false) :
    ((getAllSnapshotRecByDtc c db d).map SnapshotData.recNumber).Perm
      (((getSnapshotIdentification db).filter fun info => info.1 = d).map Prod.snd) := by
  rw [allSnapshots_eq hconf, map_recNumber_flatMap]
  have hnd : ((((getSnapshotIdentification db).filter fun info => info.1 = d)).map
      Prod.snd).Nodup := by
    apply List.Nodup.map_on _ (List.Nodup.filter _ (nodup_getIdentification h))
    rintro ⟨d₁, rn₁⟩ h₁ ⟨d₂, rn₂⟩ h₂ rfl
    have hd₁ := of_decide_eq_true (mem_filter.1 h₁).2
    have hd₂ := of_decide_eq_true (mem_filter.1 h₂).2
    rw [show d₁ = d₂ from hd₁.trans hd₂.symm]
  rw [perm_ext_iff_of_nodup (List.Nodup.filter _ (hconf.nodup d hd)) hnd]
  intro rn
  rw [mem_filter, decide_eq_true_eq]
  constructor
  · rintro ⟨-, hrec⟩
    have hent : (d, rn) ∈ getSnapshotIdentification db :=
      mem_getIdentification.2 ⟨hsupp, hrec⟩
    exact mem_map.2 ⟨(d, rn), mem_filter.2 ⟨hent, decide_eq_true rfl⟩, rfl⟩
  intro hmem
  obtain ⟨⟨d', rn'⟩, hinfo, rfl⟩ := mem_map.1 hmem
  obtain ⟨hent, hd⟩ := mem_filter.1 hinfo
  rw [show d' = d from of_decide_eq_true hd] at hent
  have hrec : getDIDRecord d rn' db ≠ [] := (mem_getIdentification.1 hent).2
  exact ⟨mem_items_of_record h hrec, hrec⟩

theorem length_didBytes (dids : List DIDInfo) :
    (dids.flatMap didBytes).length = (dids.map fun info => 2 + info.val.length).sum := by
  induction dids with
  | nil => rfl
  | cons info rest ih =>
    rw [flatMap_cons, length_append, map_cons]
    congr 1
    unfold didBytes
    rw [length_append]
    rfl

theorem length_recordBytes (items : List SnapshotRn) :
    ((items.flatMap fun item => getSpecSnapshotRecByDtc db d item.rn).flatMap recordBytes).length =
      (items.map fun item => if getDIDRecord d item.rn db = [] then 0 else
        recordSize (getDIDRecord d item.rn db)).sum := by
  induction items with
  | nil => rfl
  | cons item rest ih =>
    rw [flatMap_cons, flatMap_append, length_append, map_cons]
    congr 1
    unfold getSpecSnapshotRecByDtc
    split_ifs with hrec
    · rfl
    rw [flatMap_singleton]
    unfold recordBytes recordSize
    rw [length_cons, length_cons, length_didBytes]
    dsimp only
    omega

theorem mem_allSnapshots {data : SnapshotData} (hconf : DistinctRecords c)
    (h : data ∈ getAllSnapshotRecByDtc c db d) :
    ∃ item ∈ snapshotRnVec c, item.dtc = d ∧ data.recNumber = item.rn ∧
      data.didSet = getDIDRecord d item.rn db := by
  rw [allSnapshots_eq hconf, mem_flatMap] at h
  obtain ⟨item, hitem, hdata⟩ := h
  obtain ⟨hitem, hdtc⟩ := mem_filter.1 hitem
  unfold getSpecSnapshotRecByDtc at hdata
  split_ifs at hdata
  · cases hdata
  · rw [mem_singleton.1 hdata]
    exact ⟨item, hitem, of_decide_eq_true hdtc, rfl, rfl⟩

theorem snapshotRecord_exact (h : Arranged c db) (hconf : DistinctRecords c)
    (hwthn : WithinBuffer c db) (hent : (d, rn) ∈ getSnapshotIdentification db) :
    ∃ status, dtcSnapshotRecordResponse c db d 0xFF = some (.ok (dtcBytes d ++ [status] ++
      (getAllSnapshotRecByDtc c db d).flatMap recordBytes)) := by
  obtain ⟨hsupp, hrec⟩ := mem_getIdentification.1 hent
  have hcfgd := mem_dtcCodes_of_record h hrec
  have hqry : ∃ entity, db.dtcs.query d = some entity := by
    rw [← Option.ne_none_iff_exists']
    exact fun hnone => Table.query_eq_none.1 hnone (h.hasRows d hcfgd)
  obtain ⟨entity, hqry⟩ := hqry
  have henti : entity.suppression = false := by
    unfold Database.readSuppressionByDtc at hsupp
    rw [hqry] at hsupp
    exact hsupp
  have hdids : ((getAllSnapshotRecByDtc c db d).all fun data =>
      data.didSet.length ≤ ffDidSizeMax) = true := by
    rw [all_eq_true]
    intro data hdata
    obtain ⟨item', hitem', hdtc', -, hdidS⟩ := mem_allSnapshots hconf hdata
    have hsets := hwthn.didSets item' hitem' (hdtc' ▸ hsupp)
    rw [hdtc', ← hdidS] at hsets
    exact decide_eq_true hsets
  have hsize := hwthn.snapshots d hcfgd hsupp
  rw [← length_recordBytes, ← allSnapshots_eq hconf] at hsize
  refine ⟨statusByte entity.status, ?_⟩
  unfold dtcSnapshotRecordResponse getSnapshotRecByDtc respBuf
  rw [hqry]
  dsimp only
  rw [if_neg (by rw [henti]; exact Bool.false_ne_true), if_pos rfl]
  dsimp only
  rw [if_pos hdids, if_pos]
  · rfl
  have hheader : (dtcBytes d ++ [statusByte entity.status]).length = 4 := rfl
  rw [length_append]
  exact hsize

theorem reports_exact (h : Arranged c db) (hconf : DistinctRecords c)
    (hwthn : WithinBuffer c db) : ReportsExact c formatId db where
  byStatusMask := fun statusMask => ⟨getDtcByStatusMask db statusMask,
    byStatusMask_exact hwthn statusMask, nodup_dtcByMask statusMask,
    fun _ _ => mem_dtcByMask, numOfDtc_exact hwthn statusMask⟩
  supported := by
    refine ⟨getSupportedDtc c db, supported_exact hwthn, ?_, ?_⟩
    · rw [map_getSupportedDtc]
      exact List.Nodup.filter _ (c.dtcCodes_sorted.imp fun hlt => Nat.ne_of_lt hlt)
    · intro d
      rw [map_getSupportedDtc, mem_filter, decide_eq_true_eq]
  snapshots := by
    refine ⟨getSnapshotIdentification db, snapshotID_exact h hwthn,
      nodup_getIdentification h, fun _ _ => mem_getIdentification, ?_⟩
    intro d rn hent
    obtain ⟨status, hresp⟩ := snapshotRecord_exact h hconf hwthn hent
    obtain ⟨hsupp, hrec⟩ := mem_getIdentification.1 hent
    refine ⟨status, _, hresp,
      recNumbers_perm h hconf (mem_dtcCodes_of_record h hrec) hsupp, ?_⟩
    intro data hdata
    obtain ⟨item, -, -, hrn, hdidS⟩ := mem_allSnapshots hconf hdata
    rw [hrn]
    exact hdidS

end TelAF.DtcReports
