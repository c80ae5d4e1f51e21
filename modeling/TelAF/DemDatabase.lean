import TelAF.DemConfiguration
import TelAF.EventStatus
import TelAF.KeyedTable

/-!
# Database of the diagnostic event manager

The tables of `tafDTCDataAccessComp` and the functions of `DemDataHandler` that
the event server calls. A DTC row is keyed by its code. An event row is keyed by
an id that the database assigns on insertion, while the event server reads and
writes it by the mnemonic of the event. The columns for times are left out, and
so are the DTC and the failed counter of an event, which stay zero.

Every insertion, update and deletion may fail; `faults` tells which of the coming
ones do. Reading succeeds.
-/

namespace TelAF.DemDatabase
open DemConfiguration EventStatus KeyedTable List Table

inductive LeResult where
  | ok
  | fault
  | badParameter
  | unsupported
  | unavailable
  | notPossible
  | notPermitted
  | ioError
deriving DecidableEq

section
variable {σ α : Type*}

def thenDo (outcome : σ × LeResult) (next : σ → σ × LeResult) : σ × LeResult :=
  match outcome with
  | (s, .ok) => next s
  | (s, result) => (s, result)

def forEach (f : σ → α → σ × LeResult) : List α → σ → σ × LeResult
  | [], s => (s, .ok)
  | a :: rest, s => thenDo (f s a) (forEach f rest)

variable {outcome : σ × LeResult} {next : σ → σ × LeResult} {f : σ → α → σ × LeResult}

theorem thenDo_of_ok (h : outcome.2 = .ok) : thenDo outcome next = next outcome.1 := by
  obtain ⟨s, result⟩ := outcome
  cases h
  rfl

theorem thenDo_of_error (h : outcome.2 ≠ .ok) : thenDo outcome next = outcome := by
  obtain ⟨s, result⟩ := outcome
  cases result with
  | ok => exact absurd rfl h
  | _ => rfl

variable {P : σ → Prop}

theorem thenDo_invariant (hfst : P outcome.1) (hnext : ∀ s, P s → P (next s).1) :
    P (thenDo outcome next).1 := by
  by_cases hok : outcome.2 = .ok
  · rw [thenDo_of_ok hok]
    exact hnext _ hfst
  · rw [thenDo_of_error hok]
    exact hfst

/-- What every round preserves holds when the loop is left, early or not. -/
theorem forEach_invariant {l : List α} (hrnd : ∀ s, ∀ a ∈ l, P s → P (f s a).1)
    {s : σ} (hs : P s) : P (forEach f l s).1 := by
  induction l generalizing s with
  | nil => exact hs
  | cons a rest ih =>
    apply thenDo_invariant (hrnd s a (by simp) hs)
    intro t ht
    exact ih (fun u b hb => hrnd u b (by simp [hb])) ht

theorem forEach_eq_foldl {l : List α}
    (hrnd : ∀ s, ∀ a ∈ l, P s → P (f s a).1 ∧ (f s a).2 = .ok) {s : σ} (hs : P s) :
    forEach f l s = (l.foldl (fun s a => (f s a).1) s, .ok) := by
  induction l generalizing s with
  | nil => rfl
  | cons a rest ih =>
    obtain ⟨hfst, hok⟩ := hrnd s a (by simp) hs
    rw [forEach, thenDo_of_ok hok]
    exact ih (fun t b hb => hrnd t b (by simp [hb])) hfst

end

structure DtcEntity where
  dtc : DtcCode
  status : UdsStatus
  faultOccurenceCounter : UInt8
  agingCounter : Nat
  agedCounter : Nat
  activation : Bool
  suppression : Bool
deriving DecidableEq

structure EventEntity where
  eventId : Nat
  eventName : String
  status : UdsStatus

structure SnapshotEntity where
  id : Nat
  dtc : DtcCode
  did : Nat
  didValue : List UInt8
  recordNum : Nat

/-- No event has two rows: a row is inserted for a name that has none. -/
@[ext] structure EventTable extends Table EventEntity EventEntity.eventId where
  names_nodup : (rows.map EventEntity.eventName).Nodup

structure Database where
  dtcs : Table DtcEntity DtcEntity.dtc
  events : EventTable
  snapshots : Table SnapshotEntity SnapshotEntity.id
  faults : List Bool

namespace EventTable

variable (t : EventTable)

def byName (name : String) : Option EventEntity := t.rows.find? (·.eventName = name)

/-- Rows are never deleted, so the next id is the one after the largest. -/
def nextId : Nat := (t.rows.map EventEntity.eventId).foldr max 0 + 1

def setStatus (id : Nat) (status : UdsStatus) : EventTable where
  toTable := t.toTable.mapRows
    (fun r => if r.eventId = id then { r with status := status } else r)
    fun r => by split_ifs <;> rfl
  names_nodup := by
    have hnms : ((t.toTable.mapRows
        (fun r => if r.eventId = id then { r with status := status } else r)
        (fun r => by split_ifs <;> rfl)).rows.map EventEntity.eventName)
          = t.rows.map EventEntity.eventName := by
      unfold Table.mapRows
      rw [List.map_map]
      apply List.map_congr_left
      intro r _
      rw [Function.comp_apply]
      split_ifs <;> rfl
    rw [hnms]
    exact t.names_nodup

theorem le_foldr_max {l : List Nat} {n : Nat} (h : n ∈ l) : n ≤ l.foldr max 0 := by
  induction l with
  | nil => cases h
  | cons m rest ih =>
    rcases mem_cons.1 h with rfl | hrest
    · exact le_max_left ..
    · exact le_trans (ih hrest) (le_max_right ..)

theorem nextId_fresh : t.nextId ∉ t.toTable.keys := by
  intro hmem
  have hle : t.nextId ≤ (t.rows.map EventEntity.eventId).foldr max 0 := le_foldr_max hmem
  unfold nextId at hle
  omega

def add (name : String) (status : UdsStatus) : EventTable :=
  if h : name ∈ t.rows.map EventEntity.eventName then t else
    { rows := t.rows ++ [⟨t.nextId, name, status⟩]
      nodup := by
        rw [List.map_append, List.map_singleton]
        exact List.Nodup.append t.nodup (List.nodup_singleton _)
          (List.disjoint_singleton.2 t.nextId_fresh)
      names_nodup := by
        rw [List.map_append, List.map_singleton]
        exact List.Nodup.append t.names_nodup (List.nodup_singleton _)
          (List.disjoint_singleton.2 h) }

/-- `ReadEventStatusByName` joins the statuses of all rows of the name. -/
def statusByName (name : String) : UdsStatus :=
  (t.rows.filter (·.eventName = name)).foldl (fun status r => status ||| r.status) 0

end EventTable

namespace Database

variable (c : DemConf) (db : Database)

def write (apply : Database → Database) : Database × LeResult :=
  match db.faults with
  | true :: rest => ({ db with faults := rest }, .ioError)
  | false :: rest => (apply { db with faults := rest }, .ok)
  | [] => (apply db, .ok)

def updateDtc (entity : DtcEntity) : Database × LeResult :=
  db.write fun db => { db with dtcs := db.dtcs.update entity }

def addDtc (entity : DtcEntity) : Database × LeResult :=
  db.write fun db => { db with dtcs := db.dtcs.add entity }

/-- The row that a write by code inserts for a DTC that has none. -/
def newDtc (d : DtcCode) : DtcEntity := ⟨d, 0, 0, 0, 0, true, false⟩

def readStatusByDtc (d : DtcCode) : UdsStatus := ((db.dtcs.query d).map DtcEntity.status).getD 0

def readOccurrenceCounterByDtc (d : DtcCode) : UInt8 :=
  ((db.dtcs.query d).map DtcEntity.faultOccurenceCounter).getD 0

def readActivationByDtc (d : DtcCode) : Bool :=
  ((db.dtcs.query d).map DtcEntity.activation).getD true

def readSuppressionByDtc (d : DtcCode) : Bool :=
  ((db.dtcs.query d).map DtcEntity.suppression).getD false

/-- The writes by code: update the row, or insert one with the defaults for the rest. -/
def writeByDtc (d : DtcCode) (f : DtcEntity → DtcEntity) : Database × LeResult :=
  match db.dtcs.query d with
  | none => db.addDtc (f (newDtc d))
  | some entity => db.updateDtc (f entity)

def writeStatusByDtc (d : DtcCode) (status : UdsStatus) (occurCounter : UInt8) :
    Database × LeResult :=
  db.writeByDtc d fun entity =>
    { entity with status := status, faultOccurenceCounter := occurCounter }

def writeActivationByDtc (d : DtcCode) (activation : Bool) : Database × LeResult :=
  db.writeByDtc d fun entity => { entity with activation := activation }

def writeSuppressionByDtc (d : DtcCode) (suppression : Bool) : Database × LeResult :=
  db.writeByDtc d fun entity => { entity with suppression := suppression }

def writeAllSuppression (suppression : Bool) : Database × LeResult :=
  db.write fun db => { db with
    dtcs := db.dtcs.mapRows
      (fun r => if r.suppression ≠ suppression then { r with suppression := suppression } else r)
      fun r => by split_ifs <;> rfl }

/-- `ClearDtcRecord` of one DTC writes all columns of its row, the flags as well. -/
def clearDtcRecord (d : DtcCode) : Database × LeResult :=
  match db.dtcs.query d with
  | none => (db, .ok)
  | some entity => db.updateDtc ⟨entity.dtc, 0, 0, 0, 0, true, false⟩

def getDtcWithUnsuppress : List DtcCode :=
  (db.dtcs.rows.filter fun r => r.suppression = false).map DtcEntity.dtc

def writeStatusAndDtcByEventName (name : String) (status : UdsStatus) : Database × LeResult :=
  match db.events.byName name with
  | none => db.write fun db => { db with events := db.events.add name status }
  | some entity =>
    db.write fun db => { db with events := db.events.setStatus entity.eventId status }

/-- `ClearEventRecord` takes the configured event id for the id of the row. -/
def clearEventRecord (e : EventId) : Database × LeResult :=
  match db.events.toTable.query e with
  | none => (db, .ok)
  | some _ => db.write fun db => { db with events := db.events.setStatus e 0 }

def removeSnapshot (id : Nat) : Database × LeResult :=
  db.write fun db => { db with snapshots := db.snapshots.remove id }

def clearFFRecordByDtc (d : DtcCode) : Database × LeResult :=
  forEach removeSnapshot ((db.snapshots.rows.filter (·.dtc = d)).map SnapshotEntity.id) db

def getEventStatusByName (name : String) : UdsStatus := db.events.statusByName name

def setEventStatusByName (name : String) (status : UdsStatus) : Database × LeResult :=
  db.writeStatusAndDtcByEventName name status

def setDtcStatus (d : DtcCode) (status : UdsStatus) (occurrenceCounter : UInt8) :
    Database × LeResult :=
  db.writeStatusByDtc d status occurrenceCounter

/-- The event ids as configured for a DTC; an unknown DTC makes the lookup throw, which is
caught. -/
def getEventIds (d : DtcCode) : List EventId := if d ∈ c.dtcCodes then c.dtcEvents d else []

def deleteData (d : DtcCode) : Database × LeResult :=
  if db.readSuppressionByDtc d then (db, .unavailable) else
  thenDo (db.clearDtcRecord d) fun db =>
  thenDo (forEach clearEventRecord (getEventIds c d) db) fun db =>
  db.clearFFRecordByDtc d

def deleteAllData : Database × LeResult := forEach (deleteData c) db.getDtcWithUnsuppress db

/-- The rows that `Load` inserts into empty tables: the ids count the events of the map. -/
def initDtcTable : Table DtcEntity DtcEntity.dtc where
  rows := c.dtcCodes.map newDtc
  nodup := by
    rw [List.map_map]
    have hid : (c.dtcCodes.map (DtcEntity.dtc ∘ newDtc)) = c.dtcCodes := by
      conv_rhs => rw [← List.map_id c.dtcCodes]
      exact List.map_congr_left fun d _ => rfl
    rw [hid]
    exact c.dtcCodes_sorted.imp fun h => Nat.ne_of_lt h

def initEventTable : EventTable where
  rows := (c.eventIds.zipIdx 1).map fun (e, id) => ⟨id, (c.event e).mnemonic, 0⟩
  nodup := by
    rw [List.map_map]
    have hids : (c.eventIds.zipIdx 1).map
        (EventEntity.eventId ∘ fun (e, id) => ⟨id, (c.event e).mnemonic, 0⟩)
          = (c.eventIds.zipIdx 1).map Prod.snd := List.map_congr_left fun p _ => rfl
    rw [hids, List.zipIdx_map_snd]
    exact List.nodup_range'
  names_nodup := by
    rw [List.map_map]
    have hnms : (c.eventIds.zipIdx 1).map
        (EventEntity.eventName ∘ fun (e, id) => ⟨id, (c.event e).mnemonic, 0⟩)
          = c.eventIds.map fun e => (c.event e).mnemonic := by
      conv_rhs => rw [← List.zipIdx_map_fst 1 c.eventIds, List.map_map]
      exact List.map_congr_left fun p _ => rfl
    rw [hnms]
    apply List.Nodup.map_on c.mnemonic_inj
    exact c.eventIds_sorted.imp fun h => Nat.ne_of_lt h

def newDatabase : Database where
  dtcs := initDtcTable c
  events := initEventTable c
  snapshots := ⟨[], List.nodup_nil⟩
  faults := []

/-- A call that succeeds on a database in which no write fails. -/
def Succeeds (call : Database → Database × LeResult) : Prop :=
  ∀ db, db.faults = [] → (call db).1.faults = [] ∧ (call db).2 = .ok

variable {c db} {d : DtcCode} {e : EventId}

theorem write_eq (h : db.faults = []) (apply : Database → Database) :
    db.write apply = (apply db, .ok) := by
  unfold write
  rw [h]

/-- The row of a DTC that a write by code starts from. -/
def dtcRow (db : Database) (d : DtcCode) : DtcEntity := (db.dtcs.query d).getD (newDtc d)

theorem writeByDtc_eq (h : db.faults = []) (f : DtcEntity → DtcEntity) :
    db.writeByDtc d f = ({ db with
      dtcs := if db.dtcs.query d = none then db.dtcs.add (f (newDtc d))
        else db.dtcs.update (f (dtcRow db d)) }, .ok) := by
  unfold writeByDtc addDtc updateDtc dtcRow
  cases hqry : db.dtcs.query d with
  | none =>
    rw [write_eq h, if_pos rfl]
  | some entity =>
    dsimp only
    rw [write_eq h]
    rfl

theorem succeeds_writeByDtc (f : DtcEntity → DtcEntity) : Succeeds (·.writeByDtc d f) := by
  intro db hdb
  dsimp only
  rw [writeByDtc_eq hdb]
  exact ⟨hdb, rfl⟩

theorem succeeds_putEventStatus (name : String) (status : UdsStatus) :
    Succeeds (·.setEventStatusByName name status) := by
  intro db hdb
  dsimp only
  unfold setEventStatusByName writeStatusAndDtcByEventName
  split
  all_goals
    rw [write_eq hdb]
    exact ⟨hdb, rfl⟩

theorem succeeds_writeAllSuppression (suppression : Bool) :
    Succeeds (·.writeAllSuppression suppression) := by
  intro db hdb
  dsimp only
  unfold writeAllSuppression
  rw [write_eq hdb]
  exact ⟨hdb, rfl⟩

theorem clearDtcRecord_eq (h : db.faults = []) :
    db.clearDtcRecord d = ({ db with dtcs := db.dtcs.update (newDtc d) }, .ok) := by
  unfold clearDtcRecord updateDtc
  cases hqry : db.dtcs.query d with
  | none =>
    rw [update_of_query_none hqry]
  | some entity =>
    dsimp only
    rw [write_eq h, query_key hqry]
    rfl

theorem EventTable.setStatus_of_query_none {t : EventTable} {id : Nat}
    (h : t.toTable.query id = none) (status : UdsStatus) : t.setStatus id status = t := by
  apply EventTable.ext
  conv_rhs => rw [← map_id t.rows]
  apply map_congr_left
  intro r hr
  rw [if_neg]
  · rfl
  · intro hid
    exact query_eq_none.1 h (mem_map.2 ⟨r, hr, hid⟩)

section

variable (h : db.faults = [])
include h

theorem clearEventRecord_eq :
    db.clearEventRecord e = ({ db with events := db.events.setStatus e 0 }, .ok) := by
  unfold clearEventRecord
  cases hqry : db.events.toTable.query e with
  | none =>
    rw [EventTable.setStatus_of_query_none hqry]
  | some entity =>
    rw [write_eq h]

/-- The rows whose ids are the configured ids of the events of a DTC lose their status. -/
def deletedEvents (c : DemConf) (t : EventTable) (d : DtcCode) : EventTable :=
  (getEventIds c d).foldl (fun t e => t.setStatus e 0) t

theorem forEach_clearEventRecord_eq (es : List EventId) :
    forEach clearEventRecord es db
      = ({ db with events := es.foldl (fun t e => t.setStatus e 0) db.events }, .ok) := by
  induction es generalizing db with
  | nil => rfl
  | cons e es ih =>
    rw [forEach, clearEventRecord_eq h, thenDo_of_ok rfl, ih (by exact h)]
    rfl

theorem forEach_removeSnapshot_eq (ids : List Nat) :
    forEach removeSnapshot ids db
      = ({ db with snapshots := ids.foldl remove db.snapshots }, .ok) := by
  induction ids generalizing db with
  | nil => rfl
  | cons id ids ih =>
    rw [forEach, removeSnapshot, write_eq h, thenDo_of_ok rfl, ih (by exact h)]
    rfl

theorem clearFFRecordByDtc_eq :
    db.clearFFRecordByDtc d
      = ({ db with snapshots := db.snapshots.filterRows fun r => !decide (r.dtc = d) }, .ok) := by
  unfold clearFFRecordByDtc
  rw [forEach_removeSnapshot_eq h, foldl_remove_eq_filterRows]

theorem deleteData_eq (hunsup : db.readSuppressionByDtc d = false) :
    db.deleteData c d = ({ db with
      dtcs := db.dtcs.update (newDtc d)
      events := deletedEvents c db.events d
      snapshots := db.snapshots.filterRows fun r => !decide (r.dtc = d) }, .ok) := by
  unfold deleteData
  rw [if_neg (by rw [hunsup]; exact Bool.false_ne_true), clearDtcRecord_eq h,
    thenDo_of_ok rfl, forEach_clearEventRecord_eq (by exact h), thenDo_of_ok rfl,
    clearFFRecordByDtc_eq (by exact h)]
  rfl

theorem readSuppression_deleteData {d' : DtcCode}
    (hd : db.readSuppressionByDtc d = false) (hd' : db.readSuppressionByDtc d' = false) :
    (db.deleteData c d).1.readSuppressionByDtc d' = false := by
  rw [deleteData_eq h hd]
  unfold readSuppressionByDtc at hd' ⊢
  rw [query_update]
  split_ifs
  · cases db.dtcs.query d' with
    | none | some entity => rfl
  · exact hd'

end

theorem mem_unsuppressed :
    d ∈ db.getDtcWithUnsuppress ↔ ∃ entity, db.dtcs.query d = some entity ∧
      entity.suppression = false := by
  unfold getDtcWithUnsuppress
  simp only [mem_map, mem_filter, decide_eq_true_eq, query_eq_some]
  constructor
  · rintro ⟨entity, ⟨hmem, hsupp⟩, hkey⟩
    exact ⟨entity, ⟨hmem, hkey⟩, hsupp⟩
  · rintro ⟨entity, ⟨hmem, hkey⟩, hsupp⟩
    exact ⟨entity, ⟨hmem, hsupp⟩, hkey⟩

theorem readSuppression_of_unsuppress (h : d ∈ db.getDtcWithUnsuppress) :
    db.readSuppressionByDtc d = false := by
  obtain ⟨entity, hqry, hsupp⟩ := mem_unsuppressed.1 h
  unfold readSuppressionByDtc
  rw [hqry]
  exact hsupp

/-- No DTC of the list is suppressed by the deletion of another. -/
theorem deleteAllData_eq (h : db.faults = []) :
    db.deleteAllData c
      = (db.getDtcWithUnsuppress.foldl (fun db d => (db.deleteData c d).1) db, .ok) := by
  apply forEach_eq_foldl (P := fun t : Database =>
    t.faults = [] ∧ ∀ d ∈ db.getDtcWithUnsuppress, t.readSuppressionByDtc d = false)
  · rintro t d hd ⟨hflts, hunsup⟩
    have hdlt := deleteData_eq (c := c) hflts (hunsup d hd)
    refine ⟨⟨?_, fun d' hd' => ?_⟩, ?_⟩
    · rw [hdlt]
      exact hflts
    · exact readSuppression_deleteData hflts (hunsup d hd) (hunsup d' hd')
    · rw [hdlt]
  · exact ⟨h, fun d hd => readSuppression_of_unsuppress hd⟩

theorem succeeds_deleteAllData : Succeeds (·.deleteAllData c) := by
  intro db hdb
  have hflts : ∀ (t : Database) (d : DtcCode), t.faults = [] →
      (t.deleteData c d).1.faults = [] := by
    intro t d ht
    by_cases hd : t.readSuppressionByDtc d = true
    · unfold deleteData
      rw [if_pos hd]
      exact ht
    · rw [deleteData_eq ht (Bool.eq_false_iff.2 hd)]
      exact ht
  constructor
  · exact forEach_invariant (P := fun t : Database => t.faults = [])
      (fun t d _ ht => hflts t d ht) hdb
  · dsimp only
    rw [deleteAllData_eq hdb]

end Database

end TelAF.DemDatabase
