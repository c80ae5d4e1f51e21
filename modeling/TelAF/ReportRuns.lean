import TelAF.DtcReports

/-!
# Reports over whole runs

Writes may fail here. Every call leaves the rows of the snapshots or removes some, except
that a snapshot and a fault code append rows to the records that they write. The rows of a
record stay together if a record gets rows only while it is empty or the last of the table.
-/

namespace TelAF.ReportRuns
open DemConfiguration DemDatabase DemSnapshots DtcReports EventStatus GroupedLists KeyedTable List
  Table Database Store TransitionRuns

section
variable {db db' db'' : Database} {d : DtcCode} {rn : Nat}

/-- Which DIDs the rows are for, in their order. -/
def rowDids (db : Database) : List ((DtcCode × Nat) × Nat) :=
  db.snapshots.rows.map fun r => ((r.dtc, r.recordNum), r.did)

structure Shrinks (db db' : Database) : Prop where
  dtcs : ∀ d ∈ db.dtcs.keys, d ∈ db'.dtcs.keys
  rows : (rowDids db').Sublist (rowDids db)

theorem Shrinks.refl (db : Database) : Shrinks db db := ⟨fun _ hd => hd, List.Sublist.refl _⟩

theorem Shrinks.trans (h : Shrinks db db') (h' : Shrinks db' db'') : Shrinks db db'' :=
  ⟨fun d hd => h'.dtcs d (h.dtcs d hd), h'.rows.trans h.rows⟩

theorem write_cases (db : Database) (apply : Database → Database) :
    (db.write apply).1 = { db with faults := db.faults.tail } ∨
      (db.write apply).1 = apply { db with faults := db.faults.tail } := by
  obtain ⟨dtcs, events, snapshots, faults⟩ := db
  rcases faults with _ | ⟨fault, rest⟩
  · exact .inr rfl
  cases fault with
  | true => exact .inl rfl
  | false => exact .inr rfl

theorem shrinks_write {apply : Database → Database}
    (h : Shrinks db (apply { db with faults := db.faults.tail })) :
    Shrinks db (db.write apply).1 := by
  rcases write_cases db apply with heq | heq
  · rw [heq]
    exact ⟨fun _ hd => hd, List.Sublist.refl _⟩
  · rw [heq]
    exact h

theorem shrinks_updateDtc (entity : DtcEntity) : Shrinks db (db.updateDtc entity).1 := by
  apply shrinks_write
  refine ⟨?_, List.Sublist.refl _⟩
  intro d hd
  rw [keys_update]
  exact hd

theorem shrinks_addDtc (entity : DtcEntity) : Shrinks db (db.addDtc entity).1 := by
  apply shrinks_write
  refine ⟨?_, List.Sublist.refl _⟩
  intro d hd
  by_cases hkey : entity.dtc ∈ db.dtcs.keys
  · unfold add
    rw [dif_pos hkey]
    exact hd
  · rw [keys_add hkey]
    exact mem_append_left _ hd

theorem shrinks_writeByDtc (d : DtcCode) (f : DtcEntity → DtcEntity) :
    Shrinks db (db.writeByDtc d f).1 := by
  unfold writeByDtc
  cases db.dtcs.query d with
  | none => exact shrinks_addDtc _
  | some entity => exact shrinks_updateDtc _

theorem shrinks_putEventStatus (name : String) (status : UdsStatus) :
    Shrinks db (db.setEventStatusByName name status).1 := by
  unfold setEventStatusByName writeStatusAndDtcByEventName
  split
  all_goals exact shrinks_write ⟨fun _ hd => hd, List.Sublist.refl _⟩

theorem shrinks_writeAllSuppression (suppression : Bool) :
    Shrinks db (db.writeAllSuppression suppression).1 := by
  apply shrinks_write
  refine ⟨?_, List.Sublist.refl _⟩
  intro d hd
  rw [keys_mapRows]
  exact hd

theorem shrinks_removeSnapshot (id : Nat) : Shrinks db (db.removeSnapshot id).1 :=
  shrinks_write ⟨fun _ hd => hd, List.Sublist.map _ filter_sublist⟩

theorem Shrinks.thenDo {outcome : Database × LeResult} {next : Database → Database × LeResult}
    (h : Shrinks db outcome.1) (hnext : ∀ db', Shrinks db' (next db').1) :
    Shrinks db (thenDo outcome next).1 :=
  thenDo_invariant h fun db' hdb' => hdb'.trans (hnext db')

theorem shrinks_forEach {α : Type*} {f : Database → α → Database × LeResult} {l : List α}
    (h : ∀ db a, Shrinks db (f db a).1) : Shrinks db (forEach f l db).1 :=
  forEach_invariant (P := Shrinks db) (fun db' a _ hdb' => hdb'.trans (h db' a)) (Shrinks.refl db)

theorem shrinks_deleteData (c : DemConf) (d : DtcCode) : Shrinks db (db.deleteData c d).1 := by
  unfold deleteData
  split_ifs
  · exact Shrinks.refl db
  apply Shrinks.thenDo
  · unfold clearDtcRecord
    cases db.dtcs.query d with
    | none => exact Shrinks.refl db
    | some entity => exact shrinks_updateDtc _
  intro db'
  apply Shrinks.thenDo
  · apply shrinks_forEach
    intro db e
    unfold clearEventRecord
    cases db.events.toTable.query e with
    | none => exact Shrinks.refl db
    | some _ => exact shrinks_write ⟨fun _ hd => hd, List.Sublist.refl _⟩
  · exact fun db' => shrinks_forEach fun db id => shrinks_removeSnapshot id

theorem shrinks_deleteAllData (c : DemConf) : Shrinks db (db.deleteAllData c).1 :=
  shrinks_forEach fun _ d => shrinks_deleteData c d

theorem mem_rowDids {did : Nat} :
    ((d, rn), did) ∈ rowDids db ↔ did ∈ (getDIDRecord d rn db).map DIDInfo.did := by
  unfold rowDids getDIDRecord snapshotRows
  simp [and_assoc]

theorem rowDids_updateSnapshot {row : SnapshotEntity}
    (h : ∀ r ∈ db.snapshots.rows, r.id = row.id →
      ((r.dtc, r.recordNum), r.did) = ((row.dtc, row.recordNum), row.did)) :
    (updateSnapshot db row).1.dtcs = db.dtcs ∧ rowDids (updateSnapshot db row).1 = rowDids db ∧
      ∀ r ∈ (updateSnapshot db row).1.snapshots.rows, r.id = row.id →
        ((r.dtc, r.recordNum), r.did) = ((row.dtc, row.recordNum), row.did) := by
  unfold updateSnapshot
  rcases write_cases db fun db => { db with snapshots := db.snapshots.update row } with heq | heq
  · rw [heq]
    exact ⟨rfl, rfl, h⟩
  rw [heq]
  refine ⟨rfl, ?_, ?_⟩
  · unfold rowDids
    rw [rows_update, map_map]
    apply map_congr_left
    intro r hr
    rw [Function.comp_apply]
    split_ifs with hid
    · exact (h r hr hid).symm
    · rfl
  · intro r hr hid
    dsimp only at hr
    obtain ⟨r', hr', rfl⟩ := mem_map.1 hr
    split_ifs at hid ⊢ with hsame
    · rfl
    · exact h r' hr' hid

theorem rowDids_foldl_updateSnapshot {row : SnapshotEntity} (repetitive : List SnapshotEntity)
    (h : ∀ r ∈ db.snapshots.rows, r.id = row.id →
      ((r.dtc, r.recordNum), r.did) = ((row.dtc, row.recordNum), row.did)) :
    (repetitive.foldl (fun db _ => (updateSnapshot db row).1) db).dtcs = db.dtcs ∧
      rowDids (repetitive.foldl (fun db _ => (updateSnapshot db row).1) db) = rowDids db ∧
      ∀ r ∈ (repetitive.foldl (fun db _ => (updateSnapshot db row).1) db).snapshots.rows,
        r.id = row.id → ((r.dtc, r.recordNum), r.did) = ((row.dtc, row.recordNum), row.did) := by
  induction repetitive generalizing db with
  | nil => exact ⟨rfl, rfl, h⟩
  | cons _ rest ih =>
    obtain ⟨hdtcs, hrows, hsame⟩ := rowDids_updateSnapshot h
    obtain ⟨hres, hrstR, hrstS⟩ := ih hsame
    exact ⟨hres.trans hdtcs, hrstR.trans hrows, hrstS⟩

theorem rowDids_setDID (s : Database × EntityObject) (info : DIDInfo) :
    (setDID d rn s info).1.1.dtcs = s.1.dtcs ∧
      (rowDids (setDID d rn s info).1.1 = rowDids s.1 ∨
        ((d, rn), info.did) ∉ rowDids s.1 ∧
          rowDids (setDID d rn s info).1.1 = rowDids s.1 ++ [((d, rn), info.did)]) := by
  have hfilt : ∀ r ∈ s.1.snapshots.rows.filter
      (fun r => r.dtc = d ∧ r.recordNum = rn ∧ r.did = info.did),
        r ∈ s.1.snapshots.rows ∧ r.dtc = d ∧ r.recordNum = rn ∧ r.did = info.did := by
    intro r hr
    exact ⟨(mem_filter.1 hr).1, of_decide_eq_true (mem_filter.1 hr).2⟩
  unfold setDID
  split
  · rename_i hnil
    have hnew : ((d, rn), info.did) ∉ rowDids s.1 := by
      intro hmem
      obtain ⟨r, hr, heq⟩ := mem_map.1 hmem
      simp only [Prod.mk.injEq] at heq
      rw [filter_eq_nil_iff] at hnil
      exact hnil r hr (decide_eq_true ⟨heq.1.1, heq.1.2, heq.2⟩)
    unfold addSnapshot
    dsimp only
    split_ifs with hkey
    · exact ⟨rfl, .inl rfl⟩
    rcases write_cases s.1 fun db => { db with
      snapshots := db.snapshots.add
        ⟨(s.2.setDidValue info.val).id.getD (nextSnapshotId s.1), d, info.did,
          (s.2.setDidValue info.val).didValue, rn⟩ } with heq | heq
    · rw [heq]
      exact ⟨rfl, .inl rfl⟩
    rw [heq]
    refine ⟨rfl, .inr ⟨hnew, ?_⟩⟩
    unfold rowDids
    rw [rows_add hkey, map_append]
    rfl
  · rename_i r repetitive hcons
    obtain ⟨hr, hdtc, hrn, hdid⟩ := hfilt r (by rw [hcons]; exact mem_cons_self ..)
    have hsame : ∀ r' ∈ s.1.snapshots.rows, r'.id = r.id →
        ((r'.dtc, r'.recordNum), r'.did) = ((d, rn), info.did) := by
      intro r' hr' hid
      rw [inj_on_of_nodup_map s.1.snapshots.nodup hr' hr hid, hdtc, hrn, hdid]
    have hupd := @rowDids_updateSnapshot s.1
      ⟨r.id, d, info.did, ((s.2.readEntity r).setDidValue info.val).didValue, rn⟩ hsame
    refine And.imp_right (fun h => Or.inl h.1) (thenDo_invariant
      (P := fun t : Database × EntityObject => t.1.dtcs = s.1.dtcs ∧ rowDids t.1 = rowDids s.1 ∧
        ∀ r' ∈ t.1.snapshots.rows, r'.id = r.id →
          ((r'.dtc, r'.recordNum), r'.did) = ((d, rn), info.did)) ?_ ?_)
    · exact hupd
    rintro t ⟨hdtcs, hrows, hstil⟩
    have hfold := @rowDids_foldl_updateSnapshot t.1
      ⟨r.id, d, info.did, ((s.2.readEntity r).setDidValue info.val).didValue, rn⟩ repetitive hstil
    exact ⟨hfold.1.trans hdtcs, hfold.2.1.trans hrows, hfold.2.2⟩

/-- What `SetDIDRecord` leaves, even where it fails: rows of its record may be added, none of
them for a DID that was there. -/
structure Grows (db db' : Database) (d : DtcCode) (rn : Nat) (dids : List DIDInfo) : Prop where
  dtcs : db'.dtcs = db.dtcs
  rows : ∃ added, rowDids db' = rowDids db ++ added ∧
    ∀ row ∈ added, row.1 = (d, rn) ∧ row ∉ rowDids db ∧ row.2 ∈ dids.map DIDInfo.did

theorem grows_setDIDRecord (dids : List DIDInfo) :
    Grows db (setDIDRecord d rn db dids).1 d rn dids := by
  apply forEach_invariant (P := fun s : Database × EntityObject => Grows db s.1 d rn dids)
  · rintro s info hinfo ⟨hdtcs, added, hrows, hadde⟩
    obtain ⟨hdtcs', hrows'⟩ := @rowDids_setDID d rn s info
    refine ⟨hdtcs'.trans hdtcs, ?_⟩
    rcases hrows' with hsame | ⟨hnew, happe⟩
    · exact ⟨added, hsame.trans hrows, hadde⟩
    refine ⟨added ++ [((d, rn), info.did)], ?_, ?_⟩
    · rw [happe, hrows, append_assoc]
    intro row hrow
    rcases mem_append.1 hrow with hold | hlast
    · exact hadde row hold
    rw [mem_singleton.1 hlast]
    rw [hrows] at hnew
    exact ⟨rfl, fun hmem => hnew (mem_append_left _ hmem), mem_map_of_mem hinfo⟩
  · exact ⟨rfl, [], (append_nil _).symm, nofun⟩

variable {c : SnapshotConf} {dids : List DIDInfo}

def Configured (c : SnapshotConf) (k : DtcCode × Nat) : Prop :=
  ∃ item ∈ snapshotRnVec c, item.dtc = k.1 ∧ item.rn = k.2

theorem configured_of_recordNum {type : SnapshotType}
    (h : getSnapshotDataRecordNumByType c d type = some rn) :
    ∃ item ∈ snapshotRnVec c, item.dtc = d ∧ item.rn = rn ∧ item.type = type := by
  obtain ⟨item, hfind, hrn⟩ := Option.map_eq_some_iff.1 h
  have hitem : item.dtc = d ∧ item.type = type := by simpa using find?_some hfind
  exact ⟨item, mem_of_find?_eq_some hfind, hitem.1, hrn, hitem.2⟩

/-- The records of the two occurrences of a DTC have different numbers. -/
theorem firstRn_ne_lastRn {firstRn lastRn : Nat} (hconf : DistinctRecords c)
    (hfst : getSnapshotDataRecordNumByType c d .firstOccurrence = some firstRn)
    (hlast : getSnapshotDataRecordNumByType c d .lastOccurrence = some lastRn) :
    firstRn ≠ lastRn := by
  intro hsame
  obtain ⟨item, hitem, hdtc, hrn, htype⟩ := configured_of_recordNum hfst
  obtain ⟨item', hitem', hdtc', hrn', htype'⟩ := configured_of_recordNum hlast
  have heq : item = item' := by
    have hd : d ∈ c.dtcCodes := hdtc ▸ dtc_mem_dtcCodes hitem
    apply inj_on_of_nodup_map (hconf.nodup d hd)
    · exact mem_filter.2 ⟨hitem, decide_eq_true hdtc⟩
    · exact mem_filter.2 ⟨hitem', decide_eq_true hdtc'⟩
    · rw [hrn, hrn', hsame]
  rw [heq, htype'] at htype
  cases htype

theorem arranged_iff : Arranged c db ↔ Grouped ((rowDids db).map Prod.fst) ∧
    (∀ row ∈ rowDids db, Configured c row.1) ∧ ∀ d ∈ c.dtcCodes, d ∈ db.dtcs.keys := by
  have hkeys : (rowDids db).map Prod.fst =
      db.snapshots.rows.map fun r => (r.dtc, r.recordNum) := map_map
  have hrows : (∀ row ∈ rowDids db, Configured c row.1) ↔ ∀ r ∈ db.snapshots.rows,
      ∃ item ∈ snapshotRnVec c, item.dtc = r.dtc ∧ item.rn = r.recordNum := forall_mem_map
  rw [hkeys, hrows]
  exact ⟨fun h => ⟨h.grouped, h.configured, h.hasRows⟩, fun h => ⟨h.1, h.2.1, h.2.2⟩⟩

theorem arranged_shrinks (h : Arranged c db) (hshri : Shrinks db db') : Arranged c db' := by
  obtain ⟨hgrp, hcfgd, hrows⟩ := arranged_iff.1 h
  rw [arranged_iff]
  exact ⟨hgrp.sublist (hshri.rows.map _),
    fun row hrow => hcfgd row (hshri.rows.subset hrow),
    fun d hd => hshri.dtcs d (hrows d hd)⟩

/-- The rows of a snapshot are next to the rows of their record, if it has any. -/
def Joins (db : Database) (d : DtcCode) (rn : Nat) (dids : List DIDInfo) : Prop :=
  getDIDRecord d rn db = [] ∨
    dids.map DIDInfo.did ⊆ (getDIDRecord d rn db).map DIDInfo.did ∨
    (rowDids db).getLast?.map Prod.fst = some (d, rn)
deriving Decidable

theorem arranged_grows (h : Arranged c db) (hgrow : Grows db db' d rn dids)
    (hcfgd : Configured c (d, rn)) (hjoin : Joins db d rn dids) : Arranged c db' := by
  obtain ⟨hgrp, hrows, hhasR⟩ := arranged_iff.1 h
  obtain ⟨hdtcs, added, hadde, hnew⟩ := hgrow
  have hkeys : (rowDids db').map Prod.fst =
      (rowDids db).map Prod.fst ++ replicate added.length (d, rn) := by
    rw [hadde, map_append]
    congr 1
    rw [← @length_map _ _ added Prod.fst]
    apply eq_replicate_of_mem
    intro k hk
    obtain ⟨row, hrow, rfl⟩ := mem_map.1 hk
    exact (hnew row hrow).1
  rw [arranged_iff, hkeys, hdtcs]
  refine ⟨?_, ?_, hhasR⟩
  · rcases hjoin with hemp | hsub | hlast
    · apply hgrp.append_replicate
      left
      intro hmem
      obtain ⟨⟨k, did⟩, hrow, rfl⟩ := mem_map.1 hmem
      have hdid := mem_rowDids.1 hrow
      rw [hemp] at hdid
      cases hdid
    · have hnone : added = [] := by
        rw [eq_nil_iff_forall_not_mem]
        intro row hrow
        obtain ⟨hkey, hnotM, hdid⟩ := hnew row hrow
        apply hnotM
        rw [← Prod.mk.eta (p := row), hkey]
        exact mem_rowDids.2 (hsub hdid)
      rw [hnone, length_nil, replicate_zero, append_nil]
      exact hgrp
    · apply hgrp.append_replicate
      right
      rw [getLast?_map]
      exact hlast
  · intro row hrow
    rw [hadde] at hrow
    rcases mem_append.1 hrow with hold | hadd
    · exact hrows row hold
    · rw [(hnew row hadd).1]
      exact hcfgd

/-- Where a snapshot is written, it adds rows to an empty record, to the last one of the table,
or none. -/
def OrderlySnapshot (firstRn? lastRn? : Option Nat) (db : Database) (d : DtcCode)
    (dids : List DIDInfo) : Prop :=
  match lastRn?, firstRn? with
  | some lastRn, none => Refused (getDIDRecord d lastRn db) dids ∨ Joins db d lastRn dids
  | some lastRn, some firstRn =>
    if getDIDRecord d lastRn db = [] then
      Refused (getDIDRecord d firstRn db) dids ∨ Joins db d firstRn dids
    else Refused (getDIDRecord d lastRn db) dids ∨ Joins db d lastRn dids
  | none, some firstRn => Refused (getDIDRecord d firstRn db) dids ∨ Joins db d firstRn dids
  | none, none => True

def OrderlyFaultCode (firstRn? lastRn? : Option Nat) (db : Database) (d : DtcCode)
    (node : DIDInfo) : Prop :=
  match lastRn?, firstRn? with
  | some lastRn, _ => Joins db d lastRn [node]
  | none, some firstRn => Joins db d firstRn [node]
  | none, none => True

/-- No insertion of a DTC fails after its table was dropped. -/
def OrderlyReset (n : Nat) : List Bool → Prop
  | false :: rest => true ∉ rest.take n
  | _ => True

variable (c) in
def Orderly (db : Database) : Call → Prop
  | .setSnapshotData d dids =>
    OrderlySnapshot (getSnapshotDataRecordNumByType c d .firstOccurrence)
      (getSnapshotDataRecordNumByType c d .lastOccurrence) db d dids
  | .updateFaultCodeSnapshotData d node =>
    OrderlyFaultCode (getSnapshotDataRecordNumByType c d .firstOccurrence)
      (getSnapshotDataRecordNumByType c d .lastOccurrence) db d node
  | .resetAllData => OrderlyReset c.dtcCodes.length db.faults
  | _ => True

instance (firstRn? lastRn? : Option Nat) (db : Database) (d : DtcCode) (dids : List DIDInfo) :
    Decidable (OrderlySnapshot firstRn? lastRn? db d dids) := by
  unfold OrderlySnapshot
  split <;> infer_instance

instance (firstRn? lastRn? : Option Nat) (db : Database) (d : DtcCode) (node : DIDInfo) :
    Decidable (OrderlyFaultCode firstRn? lastRn? db d node) :=
  match lastRn?, firstRn? with
  | some _, _ | none, some _ => inferInstanceAs (Decidable (Joins ..))
  | none, none => inferInstanceAs (Decidable True)

instance (n : Nat) : DecidablePred (OrderlyReset n)
  | false :: _ => inferInstanceAs (Decidable (_ ∉ _))
  | true :: _ | [] => inferInstanceAs (Decidable True)

variable (c) in
instance : DecidableRel (Orderly c) := fun _ call =>
  match call with
  | .setSnapshotData .. => inferInstanceAs (Decidable (OrderlySnapshot ..))
  | .updateFaultCodeSnapshotData .. => inferInstanceAs (Decidable (OrderlyFaultCode ..))
  | .resetAllData => inferInstanceAs (Decidable (OrderlyReset ..))
  | .setEventStatusByName .. | .setDtcStatus .. | .setActivation .. | .setSuppression ..
  | .setAllSuppression _ | .deleteData _ | .deleteAllData => inferInstanceAs (Decidable True)

theorem arranged_setDIDRecord {type : SnapshotType} (h : Arranged c db)
    (hrn : getSnapshotDataRecordNumByType c d type = some rn) (hjoin : Joins db d rn dids) :
    Arranged c (setDIDRecord d rn db dids).1 := by
  obtain ⟨item, hitem, hdtc, hrn, -⟩ := configured_of_recordNum hrn
  exact arranged_grows h (grows_setDIDRecord dids) ⟨item, hitem, hdtc, hrn⟩ hjoin

theorem fst_orFault (outcome : Database × LeResult) : (orFault outcome).1 = outcome.1 := by
  obtain ⟨db, result⟩ := outcome
  cases result <;> rfl

/-- A record that holds no row gets none from the record of another number. -/
theorem getDIDRecord_of_grows {rn' : Nat} (hgrow : Grows db db' d rn dids) (hne : rn' ≠ rn)
    (hemp : getDIDRecord d rn' db = []) : getDIDRecord d rn' db' = [] := by
  obtain ⟨-, added, hadde, hnew⟩ := hgrow
  rw [← map_eq_nil_iff (f := DIDInfo.did), eq_nil_iff_forall_not_mem]
  intro did hdid
  rw [← mem_rowDids, hadde] at hdid
  rcases mem_append.1 hdid with hold | hadd
  · rw [mem_rowDids, hemp] at hold
    cases hold
  · have hkey := (hnew _ hadd).1
    exact hne (Prod.mk.inj hkey).2

theorem refused_iff : Refused (getDIDRecord d rn db) dids ↔
    readDIDCount d rn db ≠ 0 ∧ readDIDCount d rn db ≠ dids.length := by
  unfold Refused
  rw [ne_eq, ← readDIDCount_eq_zero]
  unfold getDIDRecord readDIDCount
  rw [length_map]

theorem arranged_setSnapshotData (h : Arranged c db) (hconf : DistinctRecords c)
    (hord : Orderly c db (.setSnapshotData d dids)) :
    Arranged c (setSnapshotData c d db dids).1 := by
  change OrderlySnapshot _ _ db d dids at hord
  unfold OrderlySnapshot at hord
  unfold setSnapshotData
  cases hlast : getSnapshotDataRecordNumByType c d .lastOccurrence with
  | none =>
    rcases hfst : getSnapshotDataRecordNumByType c d .firstOccurrence with _ | firstRn
    · exact h
    rw [hlast, hfst] at hord
    dsimp only at hord ⊢
    rw [refused_iff] at hord
    split_ifs with hrefu
    · exact h
    · rw [fst_orFault]
      exact arranged_setDIDRecord h hfst (hord.resolve_left hrefu)
  | some lastRn =>
    dsimp only
    by_cases hrec : getDIDRecord d lastRn db = []
    · rw [if_neg (not_not.2 (readDIDCount_eq_zero.2 hrec))]
      rcases hfst : getSnapshotDataRecordNumByType c d .firstOccurrence with _ | firstRn
      · dsimp only
        rw [fst_orFault]
        exact arranged_setDIDRecord h hlast (.inl hrec)
      rw [hlast, hfst] at hord
      dsimp only at hord ⊢
      rw [if_pos hrec, refused_iff] at hord
      split_ifs with hrefu
      · exact h
      have hne := firstRn_ne_lastRn hconf hfst hlast
      have hmid := arranged_setDIDRecord h hfst (hord.resolve_left hrefu)
      have hemp := getDIDRecord_of_grows (grows_setDIDRecord dids) hne.symm hrec
      by_cases hok : (orFault (setDIDRecord d firstRn db dids)).2 = .ok
      · rw [thenDo_of_ok hok, fst_orFault, fst_orFault]
        exact arranged_setDIDRecord hmid hlast (.inl hemp)
      · rw [thenDo_of_error hok, fst_orFault]
        exact hmid
    · have hgrd : Refused (getDIDRecord d lastRn db) dids ∨ Joins db d lastRn dids := by
        rw [hlast] at hord
        rcases hfst : getSnapshotDataRecordNumByType c d .firstOccurrence with _ | firstRn
        · rw [hfst] at hord
          exact hord
        rw [hfst] at hord
        dsimp only at hord
        rw [if_neg hrec] at hord
        exact hord
      have hcnt := mt readDIDCount_eq_zero.1 hrec
      rw [if_pos hcnt]
      rw [refused_iff] at hgrd
      split_ifs with hlen
      · exact h
      · exact arranged_setDIDRecord h hlast (hgrd.resolve_left fun hrefu => hlen hrefu.2)

theorem arranged_updateFaultCode {node : DIDInfo} (h : Arranged c db)
    (hord : Orderly c db (.updateFaultCodeSnapshotData d node)) :
    Arranged c (updateFaultCodeSnapshotData c d db node).1 := by
  change OrderlyFaultCode _ _ db d node at hord
  unfold updateFaultCodeSnapshotData
  split_ifs
  · exact h
  cases hlast : getSnapshotDataRecordNumByType c d .lastOccurrence with
  | some lastRn =>
    rw [hlast] at hord
    dsimp only at hord ⊢
    split_ifs
    · exact arranged_setDIDRecord h hlast hord
    · exact h
  | none =>
    rw [hlast] at hord
    rcases hfst : getSnapshotDataRecordNumByType c d .firstOccurrence with _ | firstRn
    · exact h
    rw [hfst] at hord
    dsimp only at hord ⊢
    split_ifs
    · rw [fst_orFault]
      exact arranged_setDIDRecord h hfst hord
    · exact h

theorem keys_initTable {ds : List DtcCode} (h : true ∉ db.faults.take ds.length) :
    ∀ d, d ∈ db.dtcs.keys ∨ d ∈ ds →
      d ∈ (ds.foldl (fun db d => (db.addDtc (newDtc d)).1) db).dtcs.keys := by
  induction ds generalizing db with
  | nil => exact fun d hd => hd.resolve_right not_mem_nil
  | cons a rest ih =>
    have hadd : (db.addDtc (newDtc a)).1 =
        { db with
          dtcs := db.dtcs.add (newDtc a)
          faults := db.faults.tail } := by
      obtain ⟨dtcs, events, snapshots, faults⟩ := db
      rcases faults with _ | ⟨fault, faults⟩
      · rfl
      cases fault with
      | false => rfl
      | true => exact absurd (mem_cons_self ..) h
    have hrest : true ∉ (db.addDtc (newDtc a)).1.faults.take rest.length := by
      rw [hadd]
      intro hmem
      apply h
      cases hflts : db.faults with
      | nil =>
        rw [hflts] at hmem
        simp at hmem
      | cons fault faults =>
        rw [hflts] at hmem
        exact mem_cons_of_mem _ hmem
    have hself : a ∈ (db.addDtc (newDtc a)).1.dtcs.keys := by
      rw [hadd]
      by_cases hkey : (newDtc a).dtc ∈ db.dtcs.keys
      · unfold add
        rw [dif_pos hkey]
        exact hkey
      · dsimp only
        rw [keys_add hkey]
        exact mem_append_right _ (mem_singleton_self a)
    intro d hd
    apply ih hrest
    rcases hd with hkey | hmem
    · exact .inl ((shrinks_addDtc _).dtcs d hkey)
    rcases mem_cons.1 hmem with rfl | hrstM
    · exact .inl hself
    · exact .inr hrstM

theorem shrinks_initTable : Shrinks db (initTableWithConfig c db) := by
  unfold initTableWithConfig
  generalize c.dtcCodes = ds
  induction ds generalizing db with
  | nil => exact Shrinks.refl db
  | cons d rest ih => exact (shrinks_addDtc _).trans ih

/-- The table of the DTCs is filled again, and the other tables are emptied, or left. -/
theorem arranged_reset_tables {faults : List Bool} (h : Arranged c db)
    (hflts : true ∉ faults.take c.dtcCodes.length) :
    Arranged c (thenDo ((initTableWithConfig c
      { db with dtcs := ⟨[], nodup_nil⟩, faults := faults }).write fun db =>
        { db with events := ⟨⟨[], nodup_nil⟩, nodup_nil⟩ }) fun db =>
      db.write fun db => { db with snapshots := ⟨[], nodup_nil⟩ }).1 := by
  obtain ⟨hgrp, hcfgd, -⟩ := arranged_iff.1 h
  let dropped : Database := { db with dtcs := ⟨[], nodup_nil⟩, faults := faults }
  have hshri : Shrinks dropped (initTableWithConfig c dropped) := shrinks_initTable
  have hfill : Arranged c (initTableWithConfig c dropped) := by
    rw [arranged_iff]
    exact ⟨hgrp.sublist (hshri.rows.map _),
      fun row hrow => hcfgd row (hshri.rows.subset hrow),
      fun d hd => keys_initTable hflts d (.inr hd)⟩
  apply arranged_shrinks hfill
  apply Shrinks.thenDo
  · exact shrinks_write ⟨fun _ hd => hd, List.Sublist.refl _⟩
  · exact fun db' => shrinks_write ⟨fun _ hd => hd, nil_sublist _⟩

theorem arranged_resetAllData (h : Arranged c db) (hord : Orderly c db .resetAllData) :
    Arranged c (resetAllData c db).1 := by
  obtain ⟨dtcs, events, snapshots, faults⟩ := db
  rcases faults with _ | ⟨fault, rest⟩
  · exact arranged_reset_tables h (by simp)
  cases fault with
  | false =>
    have hrest : Arranged c ⟨dtcs, events, snapshots, rest⟩ :=
      arranged_shrinks h ⟨fun _ hd => hd, List.Sublist.refl _⟩
    exact arranged_reset_tables hrest hord
  | true => exact arranged_shrinks h ⟨fun _ hd => hd, List.Sublist.refl _⟩

end

section
variable {c : SnapshotConf} {db t : Database} {formatId : UInt8}

def step (c : SnapshotConf) (db : Database) (call : Call) : Option Database :=
  some (call.run c db).1

theorem arranged_step {call : Call} (hconf : DistinctRecords c) (h : Arranged c db)
    (hord : Orderly c db call) (hstep : step c db call = some t) : Arranged c t := by
  cases hstep
  cases call with
  | setEventStatusByName name status =>
    exact arranged_shrinks h (shrinks_putEventStatus name status)
  | setDtcStatus d status occurrenceCounter | setActivation d activation
  | setSuppression d suppression => exact arranged_shrinks h (shrinks_writeByDtc d _)
  | setAllSuppression suppression =>
    exact arranged_shrinks h (shrinks_writeAllSuppression suppression)
  | setSnapshotData d dids => exact arranged_setSnapshotData h hconf hord
  | updateFaultCodeSnapshotData d node => exact arranged_updateFaultCode h hord
  | deleteData d => exact arranged_shrinks h (shrinks_deleteData _ d)
  | deleteAllData => exact arranged_shrinks h (shrinks_deleteAllData _)
  | resetAllData => exact arranged_resetAllData h hord

def start (c : SnapshotConf) (faults : List Bool) : Database :=
  { Database.newDatabase c.toDemConf with faults := faults }

theorem arranged_start (faults : List Bool) : Arranged c (start c faults) where
  grouped := grouped_nil
  configured := nofun
  hasRows := by
    intro d hd
    change d ∈ (c.dtcCodes.map newDtc).map DtcEntity.dtc
    rw [map_map]
    exact mem_map.2 ⟨d, hd, rfl⟩

/-- The reports are exact in every state that orderly calls lead to, as long as they fit into
the buffer. -/
theorem reports_run {faults : List Bool} {calls : List Call} (hconf : DistinctRecords c)
    (horderly : Meets (step c) (Orderly c) (start c faults) calls)
    (hrun : exec (step c) (start c faults) calls = some t) (hwithin : WithinBuffer c t) :
    ReportsExact c formatId t := by
  have harranged : Arranged c t :=
    exec_invariant (fun db call t hdb hok hstep => arranged_step hconf hdb hok hstep)
      (arranged_start faults) horderly hrun
  exact reports_exact harranged hconf hwithin

end

/-- Two DTCs with a first and a last occurrence each. -/
def twoDtcs : SnapshotConf :=
  { noEvents with
    dtcCodes := [0x100001, 0x100002]
    dtcCodes_sorted := by decide
    one_dtc := by simp [noEvents]
    freezeFrames := fun _ => ["firstOccurrence", "lastOccurrence"]
    recordNumber := fun name => if name = "firstOccurrence" then some 1 else some 2 }

def distinctSnapshots : List Call :=
  [.setDtcStatus 0x100001 0x09 1, .setSnapshotData 0x100001 [⟨0xF190, [1]⟩, ⟨0xF191, [2]⟩],
    .setSnapshotData 0x100002 [⟨0xF190, [3]⟩], .setSuppression 0x100002 true,
    .setSnapshotData 0x100001 [⟨0xF191, [4]⟩, ⟨0xF190, [5]⟩], .deleteData 0x100002]

theorem reports_distinctSnapshots :
    ∃ t, exec (step twoDtcs) (start twoDtcs []) distinctSnapshots = some t ∧
      ReportsExact twoDtcs 1 t ∧ getSnapshotIdentification t = [(0x100001, 1), (0x100001, 2)] := by
  have hrun : (exec (step twoDtcs) (start twoDtcs []) distinctSnapshots).any (fun t =>
      WithinBuffer twoDtcs t ∧
        getSnapshotIdentification t = [(0x100001, 1), (0x100001, 2)]) = true := by decide +kernel
  obtain ⟨t, ht, hstate⟩ := (Option.any_eq_true _ _).1 hrun
  obtain ⟨hwithin, hentries⟩ := of_decide_eq_true hstate
  have horderly : Meets (step twoDtcs) (Orderly twoDtcs) (start twoDtcs []) distinctSnapshots := by
    decide +kernel
  exact ⟨t, ht, reports_run (by decide +kernel) horderly ht hwithin, hentries⟩

theorem length_dtcSnapshotIDResponse {c : SnapshotConf} {formatId : UInt8} {db : Database}
    {bytes : List UInt8} (h : ReportsExact c formatId db)
    (hbyt : dtcSnapshotIDResponse db = some bytes) :
    bytes.length ≤ 4 * (getSnapshotIdentification db).dedup.length := by
  obtain ⟨entries, hresp, hnd, hmem, -⟩ := h.snapshots
  rw [hbyt] at hresp
  cases hresp
  have hsub : entries ⊆ (getSnapshotIdentification db).dedup := by
    rintro ⟨d, rn⟩ hent
    rw [mem_dedup]
    exact mem_getIdentification.2 ((hmem d rn).1 hent)
  have hle := (subperm_of_subset hnd hsub).length_le
  rw [length_identificationBytes]
  omega

/-- The second snapshot of the first DTC brings another DID, whose row comes after the rows of
the second DTC. -/
theorem reports_repeat_record :
    ∃ t, exec (step twoDtcs) (start twoDtcs [])
      [.setSnapshotData 0x100001 [⟨0xF190, [1]⟩], .setSnapshotData 0x100002 [⟨0xF190, [2]⟩],
        .setSnapshotData 0x100001 [⟨0xF191, [3]⟩]] = some t ∧
      getSnapshotIdentification t = [(0x100001, 1), (0x100001, 2), (0x100002, 1), (0x100002, 2),
        (0x100001, 2)] ∧ ∀ formatId, ¬ ReportsExact twoDtcs formatId t := by
  have hrun : (exec (step twoDtcs) (start twoDtcs [])
      [.setSnapshotData 0x100001 [⟨0xF190, [1]⟩], .setSnapshotData 0x100002 [⟨0xF190, [2]⟩],
        .setSnapshotData 0x100001 [⟨0xF191, [3]⟩]]).any (fun t =>
      getSnapshotIdentification t = [(0x100001, 1), (0x100001, 2), (0x100002, 1), (0x100002, 2),
        (0x100001, 2)]) = true := by decide +kernel
  obtain ⟨t, ht, hentries⟩ := (Option.any_eq_true _ _).1 hrun
  have hident := of_decide_eq_true hentries
  refine ⟨t, ht, hident, ?_⟩
  intro formatId hexact
  have hbytes : dtcSnapshotIDResponse t =
      some ((getSnapshotIdentification t).flatMap identificationBytes) := by
    unfold dtcSnapshotIDResponse
    rw [hident]
    rfl
  have hlength := length_dtcSnapshotIDResponse hexact hbytes
  rw [hident] at hlength
  exact absurd hlength (by decide)

end TelAF.ReportRuns
