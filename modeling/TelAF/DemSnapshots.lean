import TelAF.DemContents

/-!
# Snapshots of the diagnostic event manager

How `DemDataHandler` stores the DIDs of a snapshot. A DTC has a record of the first and
one of the last occurrence of its fault, each with a record number, or only one of the
two. A row of the table holds one DID of one record.

`SetDIDRecord` looks each DID up and inserts or updates its row. All DIDs of a call share
one entity object, which keeps the id of the row that was last read into it.
-/

namespace TelAF.DemSnapshots
open DemConfiguration DemDatabase EventStatus KeyedTable List

inductive SnapshotType where
  | firstOccurrence
  | lastOccurrence
  | lastDisappearance
deriving DecidableEq

/-- The freeze frames of a DTC are listed by name; a name that is not defined has no
record number. -/
structure SnapshotConf extends DemConf where
  freezeFrames : DtcCode → List String
  recordNumber : String → Option Nat

structure SnapshotRn where
  rn : Nat
  dtc : DtcCode
  type : SnapshotType

structure DIDInfo where
  did : Nat
  val : List UInt8
deriving DecidableEq

def snapshotType (name : String) : Option SnapshotType :=
  if name = "firstOccurrence" then some .firstOccurrence
  else if name = "lastOccurrence" then some .lastOccurrence
  else if name = "lastDisappearance" then some .lastDisappearance
  else none

section
variable (c : SnapshotConf)

/-- What `Load` enters for each DTC; freeze frames of other names are skipped. -/
def snapshotRnVec : List SnapshotRn :=
  c.dtcCodes.flatMap fun d => (c.freezeFrames d).filterMap fun name =>
    (c.recordNumber name).bind fun rn => (snapshotType name).map fun type => ⟨rn, d, type⟩

def getSnapshotDataRecordNumByType (d : DtcCode) (type : SnapshotType) : Option Nat :=
  ((snapshotRnVec c).find? fun item => item.dtc = d ∧ item.type = type).map SnapshotRn.rn

end

def didDataSizeMax : Nat := 128

/-- The fields that a call does not set before each use. -/
structure EntityObject where
  id : Option Nat
  didValue : List UInt8

namespace EntityObject

def new : EntityObject := ⟨none, []⟩

def setDidValue (entity : EntityObject) (val : List UInt8) : EntityObject :=
  if val = [] then entity else { entity with didValue := val.take didDataSizeMax }

def readEntity (entity : EntityObject) (r : SnapshotEntity) : EntityObject :=
  { entity with id := some r.id }.setDidValue r.didValue

end EntityObject

namespace Store

variable (c : SnapshotConf) (d : DtcCode) (rn : Nat) (db : Database)

def snapshotRows : List SnapshotEntity :=
  db.snapshots.rows.filter fun r => r.dtc = d ∧ r.recordNum = rn

def readDIDCount : Nat := (snapshotRows d rn db).length

def getDIDRecord : List DIDInfo := (snapshotRows d rn db).map fun r => ⟨r.did, r.didValue⟩

variable {d rn db} in
theorem readDIDCount_eq_zero : readDIDCount d rn db = 0 ↔ getDIDRecord d rn db = [] := by
  unfold readDIDCount getDIDRecord
  rw [length_eq_zero_iff, map_eq_nil_iff]

def nextSnapshotId : Nat := (db.snapshots.rows.map SnapshotEntity.id).foldr max 0 + 1

/-- An object without an id gets the id after the largest one. An id in use violates the
primary key. -/
def addSnapshot (entity : EntityObject) (did : Nat) : Database × LeResult :=
  let id := entity.id.getD (nextSnapshotId db)
  if id ∈ db.snapshots.keys then (db, .ioError) else
    db.write fun db => { db with snapshots := db.snapshots.add ⟨id, d, did, entity.didValue, rn⟩ }

def updateSnapshot (row : SnapshotEntity) : Database × LeResult :=
  db.write fun db => { db with snapshots := db.snapshots.update row }

/-- One round of `SetDIDRecord`. Further rows of the DID lead to further updates of the first
one, whose results nobody checks. -/
def setDID (s : Database × EntityObject) (info : DIDInfo) :
    (Database × EntityObject) × LeResult :=
  match s.1.snapshots.rows.filter
      fun r => r.dtc = d ∧ r.recordNum = rn ∧ r.did = info.did with
  | [] =>
    let entity := s.2.setDidValue info.val
    let outcome := addSnapshot d rn s.1 entity info.did
    ((outcome.1, entity), outcome.2)
  | r :: repetitive =>
    let entity := (s.2.readEntity r).setDidValue info.val
    let row : SnapshotEntity := ⟨r.id, d, info.did, entity.didValue, rn⟩
    let outcome := updateSnapshot s.1 row
    thenDo ((outcome.1, entity), outcome.2) fun s =>
      ((repetitive.foldl (fun db _ => (updateSnapshot db row).1) s.1, s.2), .ok)

def setDIDRecord (dids : List DIDInfo) : Database × LeResult :=
  let outcome := forEach (setDID d rn) dids (db, .new)
  (outcome.1.1, outcome.2)

def orFault : Database × LeResult → Database × LeResult
  | (db, .ok) => (db, .ok)
  | (db, _) => (db, .fault)

def setSnapshotData (dids : List DIDInfo) : Database × LeResult :=
  match getSnapshotDataRecordNumByType c d .lastOccurrence,
      getSnapshotDataRecordNumByType c d .firstOccurrence with
  | some lastRn, firstRn? =>
    if readDIDCount d lastRn db ≠ 0 then
      if readDIDCount d lastRn db ≠ dids.length then (db, .notPossible)
      else setDIDRecord d lastRn db dids
    else
      match firstRn? with
      | some firstRn =>
        if readDIDCount d firstRn db ≠ 0 ∧ readDIDCount d firstRn db ≠ dids.length then
          (db, .notPossible)
        else
          thenDo (orFault (setDIDRecord d firstRn db dids)) fun db =>
            orFault (setDIDRecord d lastRn db dids)
      | none => orFault (setDIDRecord d lastRn db dids)
  | none, some firstRn =>
    if readDIDCount d firstRn db ≠ 0 ∧ readDIDCount d firstRn db ≠ dids.length then
      (db, .notPossible)
    else orFault (setDIDRecord d firstRn db dids)
  | none, none => (db, .ok)

def updateFaultCodeSnapshotData (node : DIDInfo) : Database × LeResult :=
  if node.val = [] then (db, .badParameter) else
  match getSnapshotDataRecordNumByType c d .lastOccurrence,
      getSnapshotDataRecordNumByType c d .firstOccurrence with
  | some lastRn, _ =>
    if readDIDCount d lastRn db ≠ 0 then setDIDRecord d lastRn db [node] else (db, .fault)
  | none, some firstRn =>
    if readDIDCount d firstRn db ≠ 0 then orFault (setDIDRecord d firstRn db [node])
    else (db, .fault)
  | none, none => (db, .ok)

def initTableWithConfig : Database :=
  c.dtcCodes.foldl (fun db d => (db.addDtc (Database.newDtc d)).1) db

/-- The tables are dropped and created again. -/
def resetAllData : Database × LeResult :=
  thenDo (db.write fun db => { db with dtcs := ⟨[], List.nodup_nil⟩ }) fun db =>
  thenDo ((initTableWithConfig c db).write fun db =>
    { db with events := ⟨⟨[], List.nodup_nil⟩, List.nodup_nil⟩ }) fun db =>
  db.write fun db => { db with snapshots := ⟨[], List.nodup_nil⟩ }

end Store

/-- A snapshot with another number of DIDs than the stored record. -/
def Refused (record dids : List DIDInfo) : Prop := record ≠ [] ∧ record.length ≠ dids.length
deriving Decidable

inductive Call where
  | setEventStatusByName (name : String) (status : UdsStatus)
  | setDtcStatus (d : DtcCode) (status : UdsStatus) (occurrenceCounter : UInt8)
  | setActivation (d : DtcCode) (activation : Bool)
  | setSuppression (d : DtcCode) (suppression : Bool)
  | setAllSuppression (suppression : Bool)
  | setSnapshotData (d : DtcCode) (dids : List DIDInfo)
  | updateFaultCodeSnapshotData (d : DtcCode) (node : DIDInfo)
  | deleteData (d : DtcCode)
  | deleteAllData
  | resetAllData

def Call.run (c : SnapshotConf) (db : Database) : Call → Database × LeResult
  | setEventStatusByName name status => db.setEventStatusByName name status
  | setDtcStatus d status occurrenceCounter => db.setDtcStatus d status occurrenceCounter
  | setActivation d activation => db.writeActivationByDtc d activation
  | setSuppression d suppression => db.writeSuppressionByDtc d suppression
  | setAllSuppression suppression => db.writeAllSuppression suppression
  | setSnapshotData d dids => Store.setSnapshotData c d db dids
  | updateFaultCodeSnapshotData d node => Store.updateFaultCodeSnapshotData c d db node
  | deleteData d => db.deleteData c.toDemConf d
  | deleteAllData => db.deleteAllData c.toDemConf
  | resetAllData => Store.resetAllData c db

end TelAF.DemSnapshots
