import TelAF.DemSnapshots
import TelAF.TransitionRuns
import Mathlib.Data.List.Perm.Subperm

/-!
# First and last occurrence

Storage succeeds here. A snapshot that is accepted is the last occurrence of its DTC, and
the first one if there has been none since the last clear; a fault code that is accepted
amends the last occurrence. The records are to hold these.

They do in runs in which no snapshot overwrites the record of the first occurrence, none
changes the DIDs of a record, and values fit into a row.
-/

namespace TelAF.SnapshotOccurrences
open DemConfiguration DemDatabase DemSnapshots EventStatus KeyedTable Store TransitionRuns
  Database Table List Function

abbrev Snapshot := List DIDInfo

def didsOf (snapshot : Snapshot) : List Nat := snapshot.map DIDInfo.did

def assign (info : DIDInfo) (snapshot : Snapshot) : Snapshot :=
  snapshot.map fun p => if p.did = info.did then info else p

/-- The values of several DIDs are replaced in turn. -/
def assignAll (infos : List DIDInfo) (snapshot : Snapshot) : Snapshot :=
  infos.foldl (fun snapshot info => assign info snapshot) snapshot

theorem didsOf_assign (info : DIDInfo) (snapshot : Snapshot) :
    didsOf (assign info snapshot) = didsOf snapshot := by
  unfold didsOf assign
  rw [map_map]
  apply map_congr_left
  intro p _
  rw [comp_apply]
  split_ifs with h
  · exact h.symm
  · rfl

theorem didsOf_assignAll (infos : List DIDInfo) (snapshot : Snapshot) :
    didsOf (assignAll infos snapshot) = didsOf snapshot := by
  induction infos generalizing snapshot with
  | nil => rfl
  | cons info rest ih => exact (ih (assign info snapshot)).trans (didsOf_assign info snapshot)

variable {snapshot : Snapshot}
variable {info p : DIDInfo}

theorem mem_assign_self (h : info.did ∈ didsOf snapshot) : info ∈ assign info snapshot := by
  obtain ⟨p, hp, hdid⟩ := mem_map.1 h
  exact mem_map.2 ⟨p, hp, if_pos hdid⟩

theorem mem_assign_of_ne (h : p ∈ snapshot) (hne : p.did ≠ info.did) :
    p ∈ assign info snapshot :=
  mem_map.2 ⟨p, h, if_neg hne⟩

variable {infos : List DIDInfo}

theorem mem_assignAll_of_notMem
    (h : p ∈ snapshot) (hne : p.did ∉ didsOf infos) : p ∈ assignAll infos snapshot := by
  induction infos generalizing snapshot with
  | nil => exact h
  | cons info rest ih =>
    have hcons := ne_and_not_mem_of_not_mem_cons hne
    exact ih (mem_assign_of_ne h hcons.1) hcons.2

theorem mem_assignAll (hnd : (didsOf infos).Nodup) (hsub : didsOf infos ⊆ didsOf snapshot)
    (h : p ∈ infos) : p ∈ assignAll infos snapshot := by
  induction infos generalizing snapshot with
  | nil => cases h
  | cons info rest ih =>
    obtain ⟨hnotM, hrest⟩ := nodup_cons.1 hnd
    have hhead : info.did ∈ didsOf snapshot := hsub (mem_cons_self ..)
    rcases mem_cons.1 h with rfl | hp
    · have hself : p ∈ assign p snapshot := mem_assign_self hhead
      have hrstM : p ∈ assignAll rest (assign p snapshot) :=
        mem_assignAll_of_notMem hself hnotM
      exact hrstM
    · apply ih hrest _ hp
      rw [didsOf_assign]
      exact fun did hdid => hsub (mem_cons_of_mem _ hdid)

/-- With the DIDs of a snapshot, a record becomes that snapshot. -/
theorem assignAll_perm
    (hnd : (didsOf infos).Nodup) (hperm : (didsOf snapshot).Perm (didsOf infos)) :
    (assignAll infos snapshot).Perm infos := by
  have hsubs : infos ⊆ assignAll infos snapshot :=
    fun p hp => mem_assignAll hnd hperm.symm.subset hp
  have hsubp : infos.Subperm (assignAll infos snapshot) :=
    subperm_of_subset (List.Nodup.of_map _ hnd) hsubs
  have hlen : (assignAll infos snapshot).length ≤ infos.length := by
    have hdids := congrArg length (didsOf_assignAll infos snapshot)
    have hsame := hperm.length_eq
    simp only [didsOf, length_map] at hdids hsame
    omega
  exact (hsubp.perm_of_length_le hlen).symm

/-! ## Rows of one record -/

section
variable {db : Database} {d d' : DtcCode} {rn rn' : Nat} {info : DIDInfo} {entity : EntityObject}

def Fits (info : DIDInfo) : Prop := info.val ≠ [] ∧ info.val.length ≤ didDataSizeMax
deriving Decidable

theorem didValue_of_fits (h : Fits info) : (entity.setDidValue info.val).didValue = info.val := by
  unfold EntityObject.setDidValue
  rw [if_neg h.1]
  exact take_of_length_le h.2

theorem id_setDidValue (val : List UInt8) : (entity.setDidValue val).id = entity.id := by
  unfold EntityObject.setDidValue
  split_ifs <;> rfl

theorem nextSnapshotId_fresh : nextSnapshotId db ∉ db.snapshots.keys := by
  intro hmem
  have hle : nextSnapshotId db ≤ (db.snapshots.rows.map SnapshotEntity.id).foldr max 0 :=
    EventTable.le_foldr_max hmem
  unfold nextSnapshotId at hle
  omega

theorem mem_didsOf_getDIDRecord {did : Nat} :
    did ∈ didsOf (getDIDRecord d rn db) ↔
      ∃ r ∈ db.snapshots.rows, r.dtc = d ∧ r.recordNum = rn ∧ r.did = did := by
  unfold didsOf getDIDRecord snapshotRows
  simp [and_assoc]

/-- The rows of a DID that a record does not hold, and of one that it holds. -/
theorem filter_did_eq_nil (h : info.did ∉ didsOf (getDIDRecord d rn db)) :
    (db.snapshots.rows.filter fun r => r.dtc = d ∧ r.recordNum = rn ∧ r.did = info.did) = [] := by
  rw [filter_eq_nil_iff]
  intro r hr hmatc
  exact h (mem_didsOf_getDIDRecord.2 ⟨r, hr, of_decide_eq_true hmatc⟩)

theorem filter_did_eq_singleton (hnd : (didsOf (getDIDRecord d rn db)).Nodup)
    (h : info.did ∈ didsOf (getDIDRecord d rn db)) :
    ∃ r, (db.snapshots.rows.filter fun r => r.dtc = d ∧ r.recordNum = rn ∧
        r.did = info.did) = [r] := by
  have hfilt : (db.snapshots.rows.filter fun r => r.dtc = d ∧ r.recordNum = rn ∧ r.did = info.did)
      = (snapshotRows d rn db).filter fun r => r.did = info.did := by
    unfold snapshotRows
    rw [filter_filter]
    apply filter_congr
    intro r _
    by_cases h₁ : r.dtc = d <;> by_cases h₂ : r.recordNum = rn <;>
      by_cases h₃ : r.did = info.did <;> simp [h₃]
  have hdids : didsOf (getDIDRecord d rn db) = (snapshotRows d rn db).map SnapshotEntity.did :=
    map_map
  rw [hdids] at hnd h
  let t : Table SnapshotEntity SnapshotEntity.did := ⟨snapshotRows d rn db, hnd⟩
  have hkey : t.rows.filter (fun r => r.did = info.did) = (t.query info.did).toList :=
    filter_key
  rw [hfilt]
  cases hqry : t.query info.did with
  | none => exact absurd h (query_eq_none.1 hqry)
  | some r =>
    rw [hqry] at hkey
    exact ⟨r, hkey⟩

/-! ## Effects of the writes -/

structure WritesRecord (db db' : Database) (d : DtcCode) (rn : Nat) (record : Snapshot) :
    Prop where
  faults : db'.faults = []
  dtcs : db'.dtcs = db.dtcs
  record : getDIDRecord d rn db' = record
  others : ∀ d' rn', ¬ (d' = d ∧ rn' = rn) → getDIDRecord d' rn' db' = getDIDRecord d' rn' db

theorem WritesRecord.trans {db' db'' : Database} {record record' : Snapshot}
    (h : WritesRecord db db' d rn record) (h' : WritesRecord db' db'' d rn record') :
    WritesRecord db db'' d rn record' where
  faults := h'.faults
  dtcs := h'.dtcs.trans h.dtcs
  record := h'.record
  others := fun d' rn' hne => (h'.others d' rn' hne).trans (h.others d' rn' hne)

theorem WritesRecord.refl (h : db.faults = []) :
    WritesRecord db db d rn (getDIDRecord d rn db) where
  faults := h
  dtcs := rfl
  record := rfl
  others := fun _ _ _ => rfl

variable {t : Table SnapshotEntity SnapshotEntity.id}

theorem getDIDRecord_add {row : SnapshotEntity}
    (hfr : row.id ∉ t.keys) (hrows : db.snapshots = t.add row) {old : Database}
    (hold : old.snapshots = t) :
    getDIDRecord d' rn' db = getDIDRecord d' rn' old ++
      if row.dtc = d' ∧ row.recordNum = rn' then [⟨row.did, row.didValue⟩] else [] := by
  unfold getDIDRecord snapshotRows
  rw [hrows, hold, rows_add hfr, filter_append, map_append]
  congr 1
  split_ifs with h
  all_goals simp [h]

theorem getDIDRecord_update {row : SnapshotEntity}
    (hsame : ∀ r ∈ t.rows, r.id = row.id → r.dtc = row.dtc ∧ r.recordNum = row.recordNum)
    (hrows : db.snapshots = t.update row) {old : Database} (hold : old.snapshots = t) :
    getDIDRecord d' rn' db = (snapshotRows d' rn' old).map fun r =>
      if r.id = row.id then ⟨row.did, row.didValue⟩ else ⟨r.did, r.didValue⟩ := by
  unfold getDIDRecord snapshotRows
  rw [hrows, hold, rows_update, filter_map, map_map]
  have hfilt : t.rows.filter ((fun r => decide (r.dtc = d' ∧ r.recordNum = rn')) ∘
        fun r => if r.id = row.id then row else r)
      = t.rows.filter fun r => r.dtc = d' ∧ r.recordNum = rn' := by
    apply filter_congr
    intro r hr
    rw [comp_apply]
    split_ifs with hid
    · rw [(hsame r hr hid).1, (hsame r hr hid).2]
    · rfl
  rw [hfilt]
  apply map_congr_left
  intro r _
  rw [comp_apply]
  split_ifs <;> rfl

theorem setDID_new (h : db.faults = []) (hid : entity.id = none) (hfits : Fits info)
    (hnew : info.did ∉ didsOf (getDIDRecord d rn db)) :
    ∃ s, setDID d rn (db, entity) info = (s, .ok) ∧ s.2.id = none ∧
      WritesRecord db s.1 d rn (getDIDRecord d rn db ++ [info]) := by
  have hfr : nextSnapshotId db ∉ db.snapshots.keys := nextSnapshotId_fresh
  have henti : (entity.setDidValue info.val).id = none := (id_setDidValue _).trans hid
  unfold setDID
  rw [filter_did_eq_nil hnew]
  dsimp only
  unfold addSnapshot
  rw [henti, Option.getD_none, if_neg hfr, write_eq h, didValue_of_fits hfits]
  refine ⟨_, rfl, henti, h, rfl, ?_, ?_⟩
  · rw [getDIDRecord_add hfr rfl (Eq.refl db.snapshots)]
    simp
  intro d' rn' hne
  rw [getDIDRecord_add hfr rfl (Eq.refl db.snapshots), if_neg, append_nil]
  rintro ⟨rfl, rfl⟩
  exact hne ⟨rfl, rfl⟩

theorem setDID_stored (h : db.faults = []) (hfits : Fits info)
    (hnd : (didsOf (getDIDRecord d rn db)).Nodup)
    (hstd : info.did ∈ didsOf (getDIDRecord d rn db)) :
    ∃ s, setDID d rn (db, entity) info = (s, .ok) ∧
      WritesRecord db s.1 d rn (assign info (getDIDRecord d rn db)) := by
  obtain ⟨r, hr⟩ := filter_did_eq_singleton hnd hstd
  have hmem : r ∈ db.snapshots.rows ∧ r.dtc = d ∧ r.recordNum = rn ∧ r.did = info.did := by
    have hsgl : r ∈ [r] := mem_singleton_self r
    rw [← hr, mem_filter, decide_eq_true_eq] at hsgl
    exact hsgl
  have honly : ∀ r' ∈ db.snapshots.rows,
      r'.dtc = d → r'.recordNum = rn → (r'.id = r.id ↔ r'.did = info.did) := by
    intro r' hr' hdtc hrn
    constructor
    · intro hid
      rw [inj_on_of_nodup_map db.snapshots.nodup hr' hmem.1 hid]
      exact hmem.2.2.2
    intro hdid
    have hfilt : r' ∈ [r] := by
      rw [← hr, mem_filter, decide_eq_true_eq]
      exact ⟨hr', hdtc, hrn, hdid⟩
    rw [mem_singleton.1 hfilt]
  unfold setDID
  rw [hr]
  dsimp only
  unfold updateSnapshot
  rw [write_eq h, didValue_of_fits hfits]
  have hsame : ∀ r' ∈ db.snapshots.rows, r'.id = r.id → r'.dtc = d ∧ r'.recordNum = rn := by
    intro r' hr' hid
    rw [inj_on_of_nodup_map db.snapshots.nodup hr' hmem.1 hid]
    exact ⟨hmem.2.1, hmem.2.2.1⟩
  refine ⟨_, rfl, h, rfl, ?_, ?_⟩
  · rw [getDIDRecord_update hsame rfl (Eq.refl db.snapshots)]
    unfold assign getDIDRecord
    rw [map_map]
    apply map_congr_left
    intro r' hr'
    obtain ⟨hr', hrec⟩ := mem_filter.1 hr'
    have hiff := honly r' hr' (of_decide_eq_true hrec).1 (of_decide_eq_true hrec).2
    rw [comp_apply]
    by_cases hid : r'.id = r.id
    · rw [if_pos hid, if_pos (hiff.1 hid)]
    · rw [if_neg hid, if_neg (mt hiff.2 hid)]
  · intro d' rn' hne
    rw [getDIDRecord_update hsame rfl (Eq.refl db.snapshots)]
    apply map_congr_left
    intro r' hr'
    obtain ⟨hrow, hrec⟩ := mem_filter.1 hr'
    obtain ⟨hdtc, hrn⟩ := of_decide_eq_true hrec
    rw [if_neg]
    intro hid
    obtain ⟨hdtc', hrn'⟩ := hsame r' hrow hid
    exact hne ⟨hdtc.symm.trans hdtc', hrn.symm.trans hrn'⟩

theorem setDIDRecord_new {dids : List DIDInfo} (h : db.faults = [])
    (hfits : ∀ info ∈ dids, Fits info) (hnd : (didsOf dids).Nodup)
    (hnew : ∀ did ∈ didsOf dids, did ∉ didsOf (getDIDRecord d rn db)) :
    (setDIDRecord d rn db dids).2 = .ok ∧
      WritesRecord db (setDIDRecord d rn db dids).1 d rn (getDIDRecord d rn db ++ dids) := by
  have hloop : ∀ (entity : EntityObject), entity.id = none →
      (forEach (setDID d rn) dids (db, entity)).2 = .ok ∧
        WritesRecord db (forEach (setDID d rn) dids (db, entity)).1.1 d rn
          (getDIDRecord d rn db ++ dids) := by
    induction dids generalizing db with
    | nil =>
      intro entity _
      rw [append_nil]
      exact ⟨rfl, WritesRecord.refl h⟩
    | cons info rest ih =>
      intro entity hid
      obtain ⟨hnotM, hrstN⟩ := nodup_cons.1 hnd
      obtain ⟨s, hs, hid', hwrts⟩ :=
        setDID_new h hid (hfits info (mem_cons_self ..)) (hnew _ (mem_cons_self ..))
      have hrstNw : ∀ did ∈ didsOf rest, did ∉ didsOf (getDIDRecord d rn s.1) := by
        intro did hdid hmem
        rw [hwrts.record] at hmem
        obtain ⟨p, hp, rfl⟩ := mem_map.1 hmem
        rcases mem_append.1 hp with hold | hlast
        · exact hnew _ (mem_cons_of_mem _ hdid) (mem_map_of_mem hold)
        · rw [mem_singleton.1 hlast] at hdid
          exact hnotM hdid
      obtain ⟨hok, hrest⟩ := ih hwrts.faults
        (fun p hp => hfits p (mem_cons_of_mem _ hp)) hrstN hrstNw s.2 hid'
      rw [hwrts.record, append_assoc] at hrest
      rw [forEach, hs]
      exact ⟨hok, hwrts.trans hrest⟩
  exact hloop .new rfl

theorem setDIDRecord_stored {dids : List DIDInfo} (h : db.faults = [])
    (hfits : ∀ info ∈ dids, Fits info) (hnd : (didsOf (getDIDRecord d rn db)).Nodup)
    (hstd : didsOf dids ⊆ didsOf (getDIDRecord d rn db)) :
    (setDIDRecord d rn db dids).2 = .ok ∧
      WritesRecord db (setDIDRecord d rn db dids).1 d rn
        (assignAll dids (getDIDRecord d rn db)) := by
  have hloop : ∀ (entity : EntityObject),
      (forEach (setDID d rn) dids (db, entity)).2 = .ok ∧
        WritesRecord db (forEach (setDID d rn) dids (db, entity)).1.1 d rn
          (assignAll dids (getDIDRecord d rn db)) := by
    induction dids generalizing db with
    | nil => exact fun entity => ⟨rfl, WritesRecord.refl h⟩
    | cons info rest ih =>
      intro entity
      obtain ⟨s, hs, hwrts⟩ := @setDID_stored db d rn info entity h
        (hfits info (mem_cons_self ..)) hnd (hstd (mem_cons_self ..))
      have hdids : didsOf (getDIDRecord d rn s.1) = didsOf (getDIDRecord d rn db) := by
        rw [hwrts.record, didsOf_assign]
      have hres : didsOf rest ⊆ didsOf (getDIDRecord d rn s.1) := by
        rw [hdids]
        exact fun did hdid => hstd (mem_cons_of_mem _ hdid)
      obtain ⟨hok, hrest⟩ := ih hwrts.faults
        (fun p hp => hfits p (mem_cons_of_mem _ hp)) (hdids ▸ hnd) hres s.2
      rw [hwrts.record] at hrest
      rw [forEach, hs]
      exact ⟨hok, hwrts.trans hrest⟩
  exact hloop .new

end

/-! ## Runs -/

/-- The accepted snapshots of a DTC since the last clear. -/
structure Occurrences where
  first : Option Snapshot
  last : Option Snapshot

namespace Occurrences

def none : Occurrences := ⟨.none, .none⟩

def accept (o : Occurrences) (snapshot : Snapshot) : Occurrences :=
  ⟨o.first.or (some snapshot), some snapshot⟩

def amend (o : Occurrences) (node : DIDInfo) : Occurrences :=
  { o with last := o.last.map (assign node) }

end Occurrences

structure Recorder where
  db : Database
  accepted : DtcCode → Occurrences

/-- What a successful call means for the accepted snapshots. -/
def noteCall (db : Database) (accepted : DtcCode → Occurrences) : Call → DtcCode → Occurrences
  | .setSnapshotData d dids => Function.update accepted d ((accepted d).accept dids)
  | .updateFaultCodeSnapshotData d node => Function.update accepted d ((accepted d).amend node)
  | .deleteData d => Function.update accepted d .none
  | .deleteAllData => fun d => if d ∈ db.getDtcWithUnsuppress then .none else accepted d
  | .resetAllData => fun _ => .none
  | _ => accepted

section
variable (c : SnapshotConf)

def step (s : Recorder) (call : Call) : Option Recorder :=
  let outcome := call.run c s.db
  some ⟨outcome.1, if outcome.2 = .ok then noteCall s.db s.accepted call else s.accepted⟩

/-- A record of each configured occurrence, up to the order of its DIDs. -/
structure RecordsMatch (s : Recorder) : Prop where
  first : ∀ d rn, getSnapshotDataRecordNumByType c d .firstOccurrence = some rn →
    (getDIDRecord d rn s.db).Perm ((s.accepted d).first.getD [])
  last : ∀ d rn, getSnapshotDataRecordNumByType c d .lastOccurrence = some rn →
    (getDIDRecord d rn s.db).Perm ((s.accepted d).last.getD [])

/-- A snapshot that rows can hold: no DID twice, every value within its bounds. -/
def Storable (dids : Snapshot) : Prop := (∀ info ∈ dids, Fits info) ∧ (didsOf dids).Nodup
deriving Decidable

/-- The record of the first occurrence is written once, and no record changes its DIDs. -/
def RegularSnapshot (firstRn? lastRn? : Option Nat) (db : Database) (d : DtcCode)
    (dids : Snapshot) : Prop :=
  match lastRn?, firstRn? with
  | some lastRn, _ =>
    Refused (getDIDRecord d lastRn db) dids ∨
      Storable dids ∧ if getDIDRecord d lastRn db = [] then dids ≠ [] else
        firstRn? ≠ some lastRn ∧ (didsOf (getDIDRecord d lastRn db)).Perm (didsOf dids)
  | none, some firstRn =>
    Refused (getDIDRecord d firstRn db) dids ∨
      Storable dids ∧ getDIDRecord d firstRn db = [] ∧ dids ≠ []
  | none, none => True

def RegularFaultCode (firstRn? lastRn? : Option Nat) (db : Database) (d : DtcCode)
    (node : DIDInfo) : Prop :=
  match lastRn?, firstRn? with
  | some lastRn, _ =>
    node.val = [] ∨ getDIDRecord d lastRn db = [] ∨
      Fits node ∧ node.did ∈ didsOf (getDIDRecord d lastRn db) ∧ firstRn? ≠ some lastRn
  | none, some firstRn => node.val = [] ∨ getDIDRecord d firstRn db = []
  | none, none => True

instance (firstRn? lastRn? : Option Nat) (db : Database) (d : DtcCode) (dids : Snapshot) :
    Decidable (RegularSnapshot firstRn? lastRn? db d dids) := by
  unfold RegularSnapshot
  rcases lastRn? with _ | _ <;> rcases firstRn? with _ | _ <;> infer_instance

instance (firstRn? lastRn? : Option Nat) (db : Database) (d : DtcCode) (node : DIDInfo) :
    Decidable (RegularFaultCode firstRn? lastRn? db d node) := by
  unfold RegularFaultCode
  rcases lastRn? with _ | _ <;> rcases firstRn? with _ | _ <;> infer_instance

def Regular (s : Recorder) : Call → Prop
  | .setSnapshotData d dids =>
    RegularSnapshot (getSnapshotDataRecordNumByType c d .firstOccurrence)
      (getSnapshotDataRecordNumByType c d .lastOccurrence) s.db d dids
  | .updateFaultCodeSnapshotData d node =>
    RegularFaultCode (getSnapshotDataRecordNumByType c d .firstOccurrence)
      (getSnapshotDataRecordNumByType c d .lastOccurrence) s.db d node
  | _ => True

instance : DecidableRel (Regular c) := fun _ a => by cases a <;> unfold Regular <;> infer_instance

structure Start (s : Recorder) : Prop where
  faults : s.db.faults = []
  empty : s.db.snapshots.rows = []
  accepted : ∀ d, s.accepted d = .none

variable {c : SnapshotConf}

/-- What holds of a DTC with records for these occurrences. -/
structure Holds (c : SnapshotConf) (db : Database) (d : DtcCode) (o : Occurrences) : Prop where
  first : ∀ rn, getSnapshotDataRecordNumByType c d .firstOccurrence = some rn →
    (getDIDRecord d rn db).Perm (o.first.getD [])
  last : ∀ rn, getSnapshotDataRecordNumByType c d .lastOccurrence = some rn →
    (getDIDRecord d rn db).Perm (o.last.getD [])
  both : o.first = none ↔ o.last = none
  nonempty : ∀ rn, getSnapshotDataRecordNumByType c d .firstOccurrence = some rn ∨
    getSnapshotDataRecordNumByType c d .lastOccurrence = some rn →
      o.first ≠ some [] ∧ o.last ≠ some []
  nodup : ∀ rn, getSnapshotDataRecordNumByType c d .lastOccurrence = some rn →
    (didsOf (o.last.getD [])).Nodup

variable {d : DtcCode}
variable {db : Database}

theorem Holds.congr {db' : Database} {o : Occurrences}
    (h : Holds c db d o) (hsame : ∀ rn, getDIDRecord d rn db' = getDIDRecord d rn db) :
    Holds c db' d o where
  first := fun rn hrn => (hsame rn).symm ▸ h.first rn hrn
  last := fun rn hrn => (hsame rn).symm ▸ h.last rn hrn
  both := h.both
  nonempty := h.nonempty
  nodup := h.nodup

theorem holds_none (h : ∀ rn, getDIDRecord d rn db = []) : Holds c db d .none where
  first := fun rn _ => List.Perm.of_eq (h rn)
  last := fun rn _ => List.Perm.of_eq (h rn)
  both := Iff.rfl
  nonempty := fun _ _ => ⟨nofun, nofun⟩
  nodup := fun _ _ => nodup_nil

structure Good (c : SnapshotConf) (s : Recorder) : Prop where
  faults : s.db.faults = []
  holds : ∀ d, Holds c s.db d (s.accepted d)

theorem Good.recordsMatch {s : Recorder} (h : Good c s) : RecordsMatch c s where
  first := fun d rn hrn => (h.holds d).first rn hrn
  last := fun d rn hrn => (h.holds d).last rn hrn

theorem Start.good {s : Recorder} (h : Start s) : Good c s where
  faults := h.faults
  holds := by
    intro d
    rw [h.accepted d]
    apply holds_none
    intro rn
    unfold getDIDRecord snapshotRows
    rw [h.empty]
    rfl

theorem getDIDRecord_length {rn : Nat} :
    (getDIDRecord d rn db).length = readDIDCount d rn db := length_map _

/-! ### A snapshot -/

section
variable {db : Database} {d : DtcCode} {o : Occurrences} {dids : Snapshot} {lastRn firstRn : Nat}

/-- Without a record of the last occurrence there has been no snapshot. -/
theorem Holds.occurrences_eq_none_of_last (h : Holds c db d o)
    (hlast : getSnapshotDataRecordNumByType c d .lastOccurrence = some lastRn)
    (hrec : getDIDRecord d lastRn db = []) : o.first = none ∧ o.last = none := by
  have hperm := h.last lastRn hlast
  rw [hrec, nil_perm] at hperm
  have hnone : o.last = none := by
    rcases ho : o.last with _ | snapshot
    · rfl
    rw [ho, Option.getD_some] at hperm
    rw [hperm] at ho
    exact absurd ho (h.nonempty lastRn (.inr hlast)).2
  exact ⟨h.both.2 hnone, hnone⟩

theorem Holds.occurrences_eq_none_of_first (h : Holds c db d o)
    (hfst : getSnapshotDataRecordNumByType c d .firstOccurrence = some firstRn)
    (hrec : getDIDRecord d firstRn db = []) : o.first = none ∧ o.last = none := by
  have hperm := h.first firstRn hfst
  rw [hrec, nil_perm] at hperm
  have hnone : o.first = none := by
    rcases ho : o.first with _ | snapshot
    · rfl
    rw [ho, Option.getD_some] at hperm
    rw [hperm] at ho
    exact absurd ho (h.nonempty firstRn (.inl hfst)).1
  exact ⟨hnone, h.both.1 hnone⟩

variable {rn : Nat}

/-- A record that becomes the snapshot, whether it held its DIDs or nothing. -/
theorem setDIDRecord_perm (hflts : db.faults = []) (hstbl : Storable dids)
    (hrec : getDIDRecord d rn db = [] ∨ (didsOf (getDIDRecord d rn db)).Perm (didsOf dids)) :
    ∃ record, record.Perm dids ∧ (setDIDRecord d rn db dids).2 = .ok ∧
      WritesRecord db (setDIDRecord d rn db dids).1 d rn record := by
  rcases hrec with hemp | hperm
  · have hnew := @setDIDRecord_new db d rn dids hflts hstbl.1 hstbl.2
      (by rw [hemp]; exact fun did _ => not_mem_nil)
    rw [hemp] at hnew
    exact ⟨dids, List.Perm.refl dids, hnew⟩
  · have hnd := hperm.nodup_iff.2 hstbl.2
    exact ⟨_, assignAll_perm hstbl.2 hperm,
      setDIDRecord_stored hflts hstbl.1 hnd hperm.symm.subset⟩

variable {db' : Database}

/-- The occurrences of a DTC after a snapshot whose records hold it. -/
theorem Holds.accept (h : Holds c db d o) (hne : dids ≠ []) (hnd : (didsOf dids).Nodup)
    (hfst : ∀ rn, getSnapshotDataRecordNumByType c d .firstOccurrence = some rn →
      (getDIDRecord d rn db').Perm ((o.first.or (some dids)).getD []))
    (hlast : ∀ rn, getSnapshotDataRecordNumByType c d .lastOccurrence = some rn →
      (getDIDRecord d rn db').Perm dids) : Holds c db' d (o.accept dids) where
  first := hfst
  last := hlast
  both := by
    unfold Occurrences.accept
    cases o.first <;> simp
  nonempty := by
    intro rn hrn
    have hold := (h.nonempty rn hrn).1
    unfold Occurrences.accept
    constructor
    · cases ho : o.first with
      | none => simpa using hne
      | some snapshot => simpa [ho] using hold
    · simpa using hne
  nodup := fun _ _ => hnd

structure Effect (c : SnapshotConf) (db : Database) (d : DtcCode) (o : Occurrences)
    (outcome : Database × LeResult) (accepted : Occurrences) : Prop where
  faults : outcome.1.faults = []
  others : ∀ d', d' ≠ d → ∀ rn, getDIDRecord d' rn outcome.1 = getDIDRecord d' rn db
  holds : Holds c outcome.1 d (if outcome.2 = .ok then accepted else o)

theorem effect_of_refused {accepted : Occurrences} {result : LeResult} (hflts : db.faults = [])
    (h : Holds c db d o) (hresu : result ≠ .ok) : Effect c db d o (db, result) accepted where
  faults := hflts
  others := fun _ _ _ => rfl
  holds := by
    rw [if_neg hresu]
    exact h

theorem effect_of_writes {accepted : Occurrences} {outcome : Database × LeResult}
    {record : Snapshot} (hok : outcome.2 = .ok) (hwrts : WritesRecord db outcome.1 d rn record)
    (h : Holds c outcome.1 d accepted) : Effect c db d o outcome accepted where
  faults := hwrts.faults
  others := fun d' hne rn' => hwrts.others d' rn' fun heq => hne heq.1
  holds := by
    rw [if_pos hok]
    exact h

theorem orFault_of_ok {outcome : Database × LeResult} (h : outcome.2 = .ok) :
    orFault outcome = outcome := by
  obtain ⟨db, result⟩ := outcome
  cases h
  rfl

theorem setSnapshotData_again (hflts : db.faults = []) (h : Holds c db d o)
    (hlast : getSnapshotDataRecordNumByType c d .lastOccurrence = some lastRn)
    (hrec : getDIDRecord d lastRn db ≠ [])
    (hdist : getSnapshotDataRecordNumByType c d .firstOccurrence ≠ some lastRn)
    (hstbl : Storable dids) (hperm : (didsOf (getDIDRecord d lastRn db)).Perm (didsOf dids)) :
    Effect c db d o (setDIDRecord d lastRn db dids) (o.accept dids) := by
  obtain ⟨record, hreco, hok, hwrts⟩ := setDIDRecord_perm hflts hstbl (.inr hperm)
  have hlen : (getDIDRecord d lastRn db).length = dids.length := by
    simpa [didsOf] using hperm.length_eq
  have hne : dids ≠ [] := by
    rintro rfl
    exact hrec (length_eq_zero_iff.1 hlen)
  have hsome : o.first ≠ none := by
    intro hnone
    have hlas := h.last lastRn hlast
    rw [h.both.1 hnone, Option.getD_none, perm_nil] at hlas
    exact hrec hlas
  apply effect_of_writes hok hwrts
  apply h.accept hne hstbl.2
  · intro rn hrn
    have hoth : ¬ (d = d ∧ rn = lastRn) := by
      rintro ⟨-, rfl⟩
      exact hdist hrn
    rw [hwrts.others d rn hoth]
    obtain ⟨snapshot, ho⟩ := Option.ne_none_iff_exists'.1 hsome
    have hfst := h.first rn hrn
    rw [ho] at hfst ⊢
    exact hfst
  · intro rn hrn
    rw [hlast] at hrn
    cases hrn
    rw [hwrts.record]
    exact hreco

/-- The first snapshot of a DTC is the first and the last occurrence. -/
theorem setSnapshotData_initial (hflts : db.faults = []) (h : Holds c db d o)
    (hlast : getSnapshotDataRecordNumByType c d .lastOccurrence = some lastRn)
    (hrec : getDIDRecord d lastRn db = []) (hstbl : Storable dids) (hne : dids ≠ []) :
    Effect c db d o (setSnapshotData c d db dids) (o.accept dids) := by
  have hnone := h.occurrences_eq_none_of_last hlast hrec
  have hcnt : ¬ readDIDCount d lastRn db ≠ 0 := not_not.2 (readDIDCount_eq_zero.2 hrec)
  unfold setSnapshotData
  rw [hlast]
  dsimp only
  rw [if_neg hcnt]
  cases hfst : getSnapshotDataRecordNumByType c d .firstOccurrence with
  | none =>
    obtain ⟨record, hperm, hok, hwrts⟩ := setDIDRecord_perm hflts hstbl (.inl hrec)
    rw [orFault_of_ok hok]
    apply effect_of_writes hok hwrts
    apply h.accept hne hstbl.2
    · intro rn hrn
      rw [hfst] at hrn
      cases hrn
    intro rn hrn
    rw [hlast] at hrn
    cases hrn
    rw [hwrts.record]
    exact hperm
  | some firstRn =>
    dsimp only
    have hemp : getDIDRecord d firstRn db = [] := by
      have hperm := h.first firstRn hfst
      rw [hnone.1, Option.getD_none, perm_nil] at hperm
      exact hperm
    have hfirs : readDIDCount d firstRn db = 0 := readDIDCount_eq_zero.2 hemp
    rw [if_neg (by rw [hfirs]; exact fun hcnt => hcnt.1 rfl)]
    obtain ⟨record, hperm, hok, hwrts⟩ := setDIDRecord_perm hflts hstbl (.inl hemp)
    rw [orFault_of_ok hok, thenDo_of_ok hok]
    -- One record may serve both occurrences; the second write finds the DIDs of the first.
    have hmid : getDIDRecord d lastRn (setDIDRecord d firstRn db dids).1 = [] ∨
        (didsOf (getDIDRecord d lastRn (setDIDRecord d firstRn db dids).1)).Perm (didsOf dids) := by
      by_cases hsame : lastRn = firstRn
      · rw [hsame, hwrts.record]
        exact .inr (hperm.map _)
      · rw [hwrts.others d lastRn fun heq => hsame heq.2]
        exact .inl hrec
    obtain ⟨record', hperm', hok', hwrts'⟩ := setDIDRecord_perm hwrts.faults hstbl hmid
    rw [orFault_of_ok hok']
    have hrecs : ∀ rn, rn = firstRn ∨ rn = lastRn → (getDIDRecord d rn (setDIDRecord d lastRn
        (setDIDRecord d firstRn db dids).1 dids).1).Perm dids := by
      intro rn hrn
      by_cases hsame : rn = lastRn
      · rw [hsame, hwrts'.record]
        exact hperm'
      · rw [hwrts'.others d rn fun heq => hsame heq.2, hrn.resolve_right hsame, hwrts.record]
        exact hperm
    refine ⟨hwrts'.faults, ?_, ?_⟩
    · intro d' hd' rn
      rw [hwrts'.others d' rn fun heq => hd' heq.1, hwrts.others d' rn fun heq => hd' heq.1]
    rw [if_pos hok']
    apply h.accept hne hstbl.2
    · intro rn hrn
      rw [hfst] at hrn
      cases hrn
      rw [hnone.1]
      exact hrecs firstRn (.inl rfl)
    · intro rn hrn
      rw [hlast] at hrn
      cases hrn
      exact hrecs lastRn (.inr rfl)

theorem setSnapshotData_effect (hflts : db.faults = []) (h : Holds c db d o)
    (hregl : RegularSnapshot (getSnapshotDataRecordNumByType c d .firstOccurrence)
      (getSnapshotDataRecordNumByType c d .lastOccurrence) db d dids) :
    Effect c db d o (setSnapshotData c d db dids) (o.accept dids) := by
  unfold RegularSnapshot at hregl
  cases hlast : getSnapshotDataRecordNumByType c d .lastOccurrence with
  | some lastRn =>
    rw [hlast] at hregl
    dsimp only at hregl
    by_cases hrec : getDIDRecord d lastRn db = []
    · rcases hregl with hrefu | ⟨hstbl, hne⟩
      · exact absurd hrec hrefu.1
      · rw [if_pos hrec] at hne
        exact setSnapshotData_initial hflts h hlast hrec hstbl hne
    have hcnt : readDIDCount d lastRn db ≠ 0 := mt readDIDCount_eq_zero.1 hrec
    unfold setSnapshotData
    rw [hlast]
    dsimp only
    rw [if_pos hcnt, ← getDIDRecord_length]
    rcases hregl with hrefu | ⟨hstbl, hgrd⟩
    · rw [if_pos hrefu.2]
      exact effect_of_refused hflts h (by decide)
    rw [if_neg hrec] at hgrd
    have hlen : (getDIDRecord d lastRn db).length = dids.length := by
      simpa [didsOf] using hgrd.2.length_eq
    rw [if_neg (not_not.2 hlen)]
    exact setSnapshotData_again hflts h hlast hrec hgrd.1 hstbl hgrd.2
  | none =>
    rw [hlast] at hregl
    unfold setSnapshotData
    rw [hlast]
    cases hfst : getSnapshotDataRecordNumByType c d .firstOccurrence with
    | none =>
      refine ⟨hflts, fun _ _ _ => rfl, ?_⟩
      refine ⟨?_, ?_, ?_, ?_, ?_⟩
      · intro rn hrn
        rw [hfst] at hrn
        cases hrn
      · intro rn hrn
        rw [hlast] at hrn
        cases hrn
      · unfold Occurrences.accept
        cases o.first <;> simp
      · intro rn hrn
        rw [hfst, hlast] at hrn
        simp at hrn
      · intro rn hrn
        rw [hlast] at hrn
        cases hrn
    | some firstRn =>
      rw [hfst] at hregl
      dsimp only at hregl ⊢
      rcases hregl with ⟨hrec, hlen⟩ | ⟨hstbl, hrec, hne⟩
      · have hcnt : readDIDCount d firstRn db ≠ 0 := mt readDIDCount_eq_zero.1 hrec
        rw [getDIDRecord_length] at hlen
        rw [if_pos ⟨hcnt, hlen⟩]
        exact effect_of_refused hflts h (by decide)
      have hnone := h.occurrences_eq_none_of_first hfst hrec
      have hcnt : readDIDCount d firstRn db = 0 := readDIDCount_eq_zero.2 hrec
      rw [if_neg (by rw [hcnt]; exact fun hcnt => hcnt.1 rfl)]
      obtain ⟨record, hperm, hok, hwrts⟩ := setDIDRecord_perm hflts hstbl (.inl hrec)
      rw [orFault_of_ok hok]
      apply effect_of_writes hok hwrts
      apply h.accept hne hstbl.2
      · intro rn hrn
        rw [hfst] at hrn
        cases hrn
        rw [hnone.1, hwrts.record]
        exact hperm
      · intro rn hrn
        rw [hlast] at hrn
        cases hrn

/-! ### A fault code -/

theorem updateFaultCode_stored {node : DIDInfo} (hflts : db.faults = []) (h : Holds c db d o)
    (hlast : getSnapshotDataRecordNumByType c d .lastOccurrence = some lastRn)
    (hdist : getSnapshotDataRecordNumByType c d .firstOccurrence ≠ some lastRn)
    (hfits : Fits node) (hstd : node.did ∈ didsOf (getDIDRecord d lastRn db)) :
    Effect c db d o (setDIDRecord d lastRn db [node]) (o.amend node) := by
  have hperm := h.last lastRn hlast
  have hnd : (didsOf (getDIDRecord d lastRn db)).Nodup :=
    (hperm.map DIDInfo.did).nodup_iff.2 (h.nodup lastRn hlast)
  have hsubs : didsOf [node] ⊆ didsOf (getDIDRecord d lastRn db) := by
    intro did hdid
    rw [mem_singleton.1 hdid]
    exact hstd
  have hfit : ∀ info ∈ [node], Fits info := by
    intro info hinfo
    rw [mem_singleton.1 hinfo]
    exact hfits
  obtain ⟨hok, hwrts⟩ := setDIDRecord_stored hflts hfit hnd hsubs
  obtain ⟨snapshot, ho⟩ : ∃ snapshot, o.last = some snapshot := by
    rw [← Option.ne_none_iff_exists']
    intro hnone
    rw [hnone, Option.getD_none, perm_nil] at hperm
    rw [hperm] at hstd
    cases hstd
  rw [ho] at hperm
  apply effect_of_writes hok hwrts
  refine ⟨?_, ?_, ?_, ?_, ?_⟩
  · intro rn hrn
    have hoth : ¬ (d = d ∧ rn = lastRn) := by
      rintro ⟨-, rfl⟩
      exact hdist hrn
    rw [hwrts.others d rn hoth]
    exact h.first rn hrn
  · intro rn hrn
    rw [hlast] at hrn
    cases hrn
    rw [hwrts.record]
    unfold Occurrences.amend
    rw [ho]
    exact hperm.map _
  · unfold Occurrences.amend
    simpa using h.both
  · intro rn hrn
    obtain ⟨hfir, hlstN⟩ := h.nonempty rn hrn
    refine ⟨hfir, ?_⟩
    unfold Occurrences.amend assign
    simpa using hlstN
  · intro rn hrn
    have hold := h.nodup rn hrn
    unfold Occurrences.amend
    rw [ho] at hold ⊢
    change (didsOf (assign node snapshot)).Nodup
    rw [didsOf_assign]
    exact hold

theorem updateFaultCode_effect {node : DIDInfo} (hflts : db.faults = []) (h : Holds c db d o)
    (hregl : RegularFaultCode (getSnapshotDataRecordNumByType c d .firstOccurrence)
      (getSnapshotDataRecordNumByType c d .lastOccurrence) db d node) :
    Effect c db d o (updateFaultCodeSnapshotData c d db node) (o.amend node) := by
  unfold updateFaultCodeSnapshotData
  by_cases hval : node.val = []
  · rw [if_pos hval]
    exact effect_of_refused hflts h (by decide)
  rw [if_neg hval]
  cases hlast : getSnapshotDataRecordNumByType c d .lastOccurrence with
  | some lastRn =>
    rw [hlast] at hregl
    dsimp only at hregl ⊢
    have hgrd := hregl.resolve_left hval
    by_cases hrec : getDIDRecord d lastRn db = []
    · rw [if_neg (not_not.2 (readDIDCount_eq_zero.2 hrec))]
      exact effect_of_refused hflts h (by decide)
    obtain ⟨hfits, hstd, hdist⟩ := hgrd.resolve_left hrec
    rw [if_pos (mt readDIDCount_eq_zero.1 hrec)]
    exact updateFaultCode_stored hflts h hlast hdist hfits hstd
  | none =>
    rw [hlast] at hregl
    cases hfst : getSnapshotDataRecordNumByType c d .firstOccurrence with
    | some firstRn =>
      rw [hfst] at hregl
      dsimp only at hregl ⊢
      have hrec := hregl.resolve_left hval
      rw [if_neg (not_not.2 (readDIDCount_eq_zero.2 hrec))]
      exact effect_of_refused hflts h (by decide)
    | none =>
      refine ⟨hflts, fun _ _ _ => rfl, ?_⟩
      refine ⟨h.first, ?_, ?_, ?_, ?_⟩
      · intro rn hrn
        rw [hlast] at hrn
        cases hrn
      · unfold Occurrences.amend
        simpa using h.both
      · intro rn hrn
        rw [hfst, hlast] at hrn
        simp at hrn
      · intro rn hrn
        rw [hlast] at hrn
        cases hrn

/-! ### Clears -/

theorem getDIDRecord_of_filter {d' : DtcCode} {p : SnapshotEntity → Bool}
    (hrows : db'.snapshots = db.snapshots.filterRows p) (hkept : ∀ r, r.dtc = d' → p r = true) :
    getDIDRecord d' rn db' = getDIDRecord d' rn db := by
  unfold getDIDRecord snapshotRows
  rw [hrows]
  unfold filterRows
  rw [filter_filter]
  congr 1
  apply filter_congr
  intro r _
  by_cases hdtc : r.dtc = d'
  · simp [hkept r hdtc]
  · simp [hdtc]

theorem getDIDRecord_of_filter_none {d' : DtcCode}
    {p : SnapshotEntity → Bool} (hrows : db'.snapshots = db.snapshots.filterRows p)
    (hrmvd : ∀ r, r.dtc = d' → p r = false) : getDIDRecord d' rn db' = [] := by
  unfold getDIDRecord snapshotRows
  rw [hrows, map_eq_nil_iff, filter_eq_nil_iff]
  intro r hr hrec
  have hp := (mem_filter.1 hr).2
  rw [hrmvd r (of_decide_eq_true hrec).1] at hp
  cases hp

theorem deleteData_effect (hflts : db.faults = []) (h : Holds c db d o) :
    Effect c db d o (db.deleteData c.toDemConf d) .none := by
  by_cases hsupp : db.readSuppressionByDtc d = true
  · unfold deleteData
    rw [if_pos hsupp]
    exact effect_of_refused hflts h (by decide)
  rw [deleteData_eq hflts (Bool.eq_false_iff.2 hsupp)]
  refine ⟨hflts, ?_, ?_⟩
  · intro d' hd' rn
    apply getDIDRecord_of_filter rfl
    intro r hr
    simpa [hr] using hd'
  rw [if_pos rfl]
  apply holds_none
  intro rn
  apply @getDIDRecord_of_filter_none db _ _ _ _ rfl
  intro r hr
  simp [hr]

theorem faults_initTable (hflts : db.faults = []) :
    (initTableWithConfig c db).faults = [] := by
  unfold initTableWithConfig
  generalize c.dtcCodes = ds
  induction ds generalizing db with
  | nil => exact hflts
  | cons d rest ih =>
    have hadd := write_eq hflts fun db =>
      { db with dtcs := db.dtcs.add (newDtc d) }
    apply ih
    exact (congrArg (fun outcome => outcome.1.faults) hadd).trans hflts

theorem resetAllData_eq (hflts : db.faults = []) :
    (resetAllData c db).2 = .ok ∧ (resetAllData c db).1.faults = [] ∧
      (resetAllData c db).1.snapshots.rows = [] := by
  unfold resetAllData
  rw [write_eq hflts, thenDo_of_ok rfl]
  have hinit := @faults_initTable c { db with dtcs := ⟨[], nodup_nil⟩ } hflts
  rw [write_eq hinit, thenDo_of_ok rfl, write_eq (by exact hinit)]
  exact ⟨rfl, hinit, rfl⟩

/-! ### Steps and runs -/

end

variable {s t : Recorder}
variable {outcome : Database × LeResult}

theorem Good.of_effect {o : Occurrences}
    (h : Good c s) (heff : Effect c s.db d (s.accepted d) outcome o) :
    Good c ⟨outcome.1,
      if outcome.2 = .ok then update s.accepted d o else s.accepted⟩ where
  faults := heff.faults
  holds := by
    intro d'
    dsimp only
    have hat : (if outcome.2 = .ok then update s.accepted d o else s.accepted) d' =
        if d' = d then (if outcome.2 = .ok then o else s.accepted d) else s.accepted d' := by
      by_cases hd : d' = d
      · rw [hd, if_pos rfl]
        split_ifs with hok
        · exact update_self ..
        · rfl
      · rw [if_neg hd]
        split_ifs
        · exact update_of_ne hd ..
        · rfl
    rw [hat]
    by_cases hd : d' = d
    · rw [if_pos hd, hd]
      exact heff.holds
    · rw [if_neg hd]
      exact (h.holds d').congr (heff.others d' hd)

theorem Good.of_other (h : Good c s)
    (hflts : outcome.1.faults = []) (hsame : outcome.1.snapshots = s.db.snapshots) :
    Good c ⟨outcome.1, if outcome.2 = .ok then s.accepted else s.accepted⟩ where
  faults := hflts
  holds := by
    intro d
    rw [ite_self]
    apply (h.holds d).congr
    intro rn
    unfold getDIDRecord snapshotRows
    rw [hsame]

theorem good_deleteAllData (h : Good c s) :
    Good c ⟨(s.db.deleteAllData c.toDemConf).1, fun d =>
      if d ∈ s.db.getDtcWithUnsuppress then .none else s.accepted d⟩ := by
  have hunsup : ∀ d ∈ s.db.getDtcWithUnsuppress, s.db.readSuppressionByDtc d = false :=
    fun d hd => readSuppression_of_unsuppress hd
  have hall := foldl_deleteData_eq (c := c.toDemConf) h.faults hunsup
  rw [deleteAllData_eq h.faults, hall]
  refine ⟨h.faults, ?_⟩
  intro d
  dsimp only
  split_ifs with hd
  · apply holds_none
    intro rn
    apply @getDIDRecord_of_filter_none s.db _ _ _ _ rfl
    intro r hr
    simpa [hr] using hd
  · apply (h.holds d).congr
    intro rn
    apply getDIDRecord_of_filter rfl
    intro r hr
    simpa [hr] using hd

theorem good_step {call : Call} (h : Good c s) (hregl : Regular c s call)
    (hstep : step c s call = some t) : Good c t := by
  cases hstep
  cases call with
  | setEventStatusByName name status =>
    apply h.of_other (succeeds_putEventStatus name status s.db h.faults).1
    change (s.db.writeStatusAndDtcByEventName name status).1.snapshots = s.db.snapshots
    unfold writeStatusAndDtcByEventName
    split
    all_goals rw [write_eq h.faults]
  | setDtcStatus d status occurrenceCounter =>
    have heq := writeByDtc_eq (d := d) h.faults fun entity =>
      { entity with status := status, faultOccurenceCounter := occurrenceCounter }
    apply h.of_other
    · exact (congrArg (fun outcome => outcome.1.faults) heq).trans h.faults
    · exact congrArg (fun outcome => outcome.1.snapshots) heq
  | setActivation d activation =>
    have heq := writeByDtc_eq (d := d) h.faults fun entity =>
      { entity with activation := activation }
    apply h.of_other
    · exact (congrArg (fun outcome => outcome.1.faults) heq).trans h.faults
    · exact congrArg (fun outcome => outcome.1.snapshots) heq
  | setSuppression d suppression =>
    have heq := writeByDtc_eq (d := d) h.faults fun entity =>
      { entity with suppression := suppression }
    apply h.of_other
    · exact (congrArg (fun outcome => outcome.1.faults) heq).trans h.faults
    · exact congrArg (fun outcome => outcome.1.snapshots) heq
  | setAllSuppression suppression =>
    apply h.of_other (succeeds_writeAllSuppression suppression s.db h.faults).1
    change (s.db.writeAllSuppression suppression).1.snapshots = s.db.snapshots
    unfold writeAllSuppression
    rw [write_eq h.faults]
  | setSnapshotData d dids =>
    exact h.of_effect (setSnapshotData_effect h.faults (h.holds d) hregl)
  | updateFaultCodeSnapshotData d node =>
    exact h.of_effect (updateFaultCode_effect h.faults (h.holds d) hregl)
  | deleteData d => exact h.of_effect (deleteData_effect h.faults (h.holds d))
  | deleteAllData =>
    have hok : (s.db.deleteAllData c.toDemConf).2 = .ok :=
      (succeeds_deleteAllData s.db h.faults).2
    change Good c ⟨_, if (s.db.deleteAllData c.toDemConf).2 = .ok then _ else _⟩
    rw [if_pos hok]
    exact good_deleteAllData h
  | resetAllData =>
    obtain ⟨hok, hflts, hrows⟩ := resetAllData_eq (c := c) h.faults
    change Good c ⟨_, if (resetAllData c s.db).2 = .ok then _ else _⟩
    rw [if_pos hok]
    refine ⟨hflts, ?_⟩
    intro d
    apply holds_none
    intro rn
    change ((resetAllData c s.db).1.snapshots.rows.filter _).map _ = []
    rw [hrows]
    rfl

/-- In runs of regular calls the records hold the first and the last accepted snapshot. -/
theorem occurrences_run {calls : List Call} (hstart : Start s)
    (hregular : Meets (step c) (Regular c) s calls) (hrun : exec (step c) s calls = some t) :
    RecordsMatch c t := by
  apply Good.recordsMatch
  exact exec_invariant (fun s call t hs hok hstep => good_step hs hok hstep) hstart.good
    hregular hrun

end

/-! ## Examples -/

/-- One DTC with these freeze frames, numbered 1 and 2. -/
def oneDtc (freezeFrames : List String) : SnapshotConf :=
  { noEvents with
    dtcCodes := [0x123456]
    dtcCodes_sorted := List.pairwise_singleton ..
    one_dtc := by simp [noEvents]
    freezeFrames := fun _ => freezeFrames
    recordNumber := fun name => if name = "firstOccurrence" then some 1 else some 2 }

def bothOccurrences : SnapshotConf := oneDtc ["firstOccurrence", "lastOccurrence"]

def firstOnly : SnapshotConf := oneDtc ["firstOccurrence"]

def newRecorder (c : SnapshotConf) : Recorder :=
  ⟨Database.newDatabase c.toDemConf, fun _ => .none⟩

theorem start_newRecorder (c : SnapshotConf) : Start (newRecorder c) := ⟨rfl, rfl, fun _ => rfl⟩

/-- Two snapshots of the same DIDs with a fault code in between, a clear, and another one. -/
def regularCalls : List Call :=
  [.setSnapshotData 0x123456 [⟨0xF190, [1, 2]⟩, ⟨0xEF01, [3]⟩],
    .updateFaultCodeSnapshotData 0x123456 ⟨0xEF01, [4]⟩,
    .setSnapshotData 0x123456 [⟨0xEF01, [6]⟩, ⟨0xF190, [5, 5]⟩],
    .deleteAllData, .setSnapshotData 0x123456 [⟨0xF190, [7, 8]⟩]]

theorem occurrences_regularCalls :
    ∃ t, exec (step bothOccurrences) (newRecorder bothOccurrences) regularCalls = some t ∧
      RecordsMatch bothOccurrences t ∧ getDIDRecord 0x123456 2 t.db = [⟨0xF190, [7, 8]⟩] := by
  have hrun : (exec (step bothOccurrences) (newRecorder bothOccurrences) regularCalls).any
      (fun t => getDIDRecord 0x123456 2 t.db = [⟨0xF190, [7, 8]⟩]) = true := by decide +kernel
  obtain ⟨t, ht, hrecord⟩ := (Option.any_eq_true _ _).1 hrun
  have hregular : Meets (step bothOccurrences) (Regular bothOccurrences)
      (newRecorder bothOccurrences) regularCalls := by decide +kernel
  exact ⟨t, ht, occurrences_run (start_newRecorder _) hregular ht, of_decide_eq_true hrecord⟩

/-- Where only the first occurrence is configured, every snapshot overwrites it. Elsewhere an
accepted snapshot leaves a DID of the one before, and one that is not accepted leaves a value:
its first DID has left the id of a row in the entity object. -/
theorem occurrences_mismatch :
    (∃ t, exec (step firstOnly) (newRecorder firstOnly)
      [.setSnapshotData 0x123456 [⟨0xF190, [1]⟩], .setSnapshotData 0x123456 [⟨0xF190, [2]⟩]] =
        some t ∧ ¬ RecordsMatch firstOnly t) ∧
    (∃ t, exec (step bothOccurrences) (newRecorder bothOccurrences)
      [.setSnapshotData 0x123456 [⟨0xF190, [1]⟩], .setSnapshotData 0x123456 [⟨0xF191, [2]⟩]] =
        some t ∧ ¬ RecordsMatch bothOccurrences t) ∧
    (∃ t, exec (step bothOccurrences) (newRecorder bothOccurrences)
      [.setSnapshotData 0x123456 [⟨0xF190, [1]⟩, ⟨0xF191, [2]⟩],
        .setSnapshotData 0x123456 [⟨0xF190, [3]⟩, ⟨0xF192, [4]⟩]] =
        some t ∧ ¬ RecordsMatch bothOccurrences t) := by
  refine ⟨?_, ?_, ?_⟩
  · have hrun : (exec (step firstOnly) (newRecorder firstOnly)
        [.setSnapshotData 0x123456 [⟨0xF190, [1]⟩], .setSnapshotData 0x123456 [⟨0xF190, [2]⟩]]).any
        (fun t => ¬ (getDIDRecord 0x123456 1 t.db).Perm
          ((t.accepted 0x123456).first.getD [])) = true := by decide +kernel
    obtain ⟨t, ht, hrecord⟩ := (Option.any_eq_true _ _).1 hrun
    exact ⟨t, ht, fun h => of_decide_eq_true hrecord (h.first 0x123456 1 (by decide +kernel))⟩
  · have hrun : (exec (step bothOccurrences) (newRecorder bothOccurrences)
        [.setSnapshotData 0x123456 [⟨0xF190, [1]⟩], .setSnapshotData 0x123456 [⟨0xF191, [2]⟩]]).any
        (fun t => ¬ (getDIDRecord 0x123456 2 t.db).Perm
          ((t.accepted 0x123456).last.getD [])) = true := by decide +kernel
    obtain ⟨t, ht, hrecord⟩ := (Option.any_eq_true _ _).1 hrun
    exact ⟨t, ht, fun h => of_decide_eq_true hrecord (h.last 0x123456 2 (by decide +kernel))⟩
  · have hrun : (exec (step bothOccurrences) (newRecorder bothOccurrences)
        [.setSnapshotData 0x123456 [⟨0xF190, [1]⟩, ⟨0xF191, [2]⟩],
          .setSnapshotData 0x123456 [⟨0xF190, [3]⟩, ⟨0xF192, [4]⟩]]).any
        (fun t => ¬ (getDIDRecord 0x123456 2 t.db).Perm
          ((t.accepted 0x123456).last.getD [])) = true := by decide +kernel
    obtain ⟨t, ht, hrecord⟩ := (Option.any_eq_true _ _).1 hrun
    exact ⟨t, ht, fun h => of_decide_eq_true hrecord (h.last 0x123456 2 (by decide +kernel))⟩

end TelAF.SnapshotOccurrences
