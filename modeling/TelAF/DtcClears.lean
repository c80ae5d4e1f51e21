import TelAF.EventHistory
import TelAF.DemContents

/-!
# Clears of single DTCs in the database

A clear of a DTC deletes its row, the rows of its events and its snapshots, and
then stores the cleared bytes again. The deletion takes the configured id of an
event for the id of its row, the stores go by code and by name; a row that
belongs to another event may be hit in between.
-/

namespace TelAF.EventServer
open DemConfiguration EventStatus DemDatabase KeyedTable TransitionRuns Database EventTable List

variable {c : DemConf} {s : Dem} {e : EventId} {d d' : DtcCode} {name : String}

def eventNames (c : DemConf) (d : DtcCode) : List String :=
  (getEventNodes c d).map fun e => (c.event e).mnemonic

theorem clearEvent_db :
    (clearEvent c s e).db = (s.db.setEventStatusByName (c.event e).mnemonic clearedStatus).1 := by
  have hstat : (clearedEvent (c.event e).debounce (s.event e)).eventUdsStatus = clearedStatus :=
    (freshlyCleared_clearedEvent ..).1
  unfold clearEvent storeAndReportEventUdsStatus
  rw [Dem.setEvent_event, Function.update_self, hstat]
  rfl

theorem stores_clearEvent (h : Stores s) : Stores (clearEvent c s e) :=
  (does_storeEventStatus (by exact h)).stores

/-- The state of a clear in which the DTC is stored and its events are not. -/
def clearedDtc (s : Dem) (d : DtcCode) : Dem :=
  (storeAndReportDtcStatus
    (s.setDtc d { s.dtc d with dtcStatus := clearedStatus, occurrenceCounter := 0 }) d).1

theorem clearedDtc_db : (clearedDtc s d).db = (s.db.writeStatusByDtc d clearedStatus 0).1 := by
  unfold clearedDtc storeAndReportDtcStatus
  rw [Dem.setDtc_dtc, Function.update_self]
  rfl

theorem stores_clearedDtc (h : Stores s) : Stores (clearedDtc s d) :=
  (does_storeDtcStatus (by exact h)).stores

theorem clearData_eq :
    clearDtcAndEventData c s d = (getEventNodes c d).foldl (clearEvent c) (clearedDtc s d) := rfl

/-- The stores of the events reach neither the DTCs nor the snapshots. -/
theorem foldl_clearEvent_kept (es : List EventId) (h : Stores s) :
    (es.foldl (clearEvent c) s).db.dtcs = s.db.dtcs ∧
      (es.foldl (clearEvent c) s).db.snapshots = s.db.snapshots := by
  induction es generalizing s with
  | nil => exact ⟨rfl, rfl⟩
  | cons e rest ih =>
    obtain ⟨hdtcs, hsnap⟩ := ih (stores_clearEvent (c := c) (e := e) h)
    rw [foldl_cons, hdtcs, hsnap, clearEvent_db, putEventStatus_eq h]
    exact ⟨rfl, rfl⟩

theorem foldl_clearEvent_status (es : List EventId) (h : Stores s) :
    (es.foldl (clearEvent c) s).db.getEventStatusByName name =
      if name ∈ es.map (fun e => (c.event e).mnemonic) then clearedStatus
      else s.db.getEventStatusByName name := by
  induction es generalizing s with
  | nil => simp
  | cons e rest ih =>
    rw [foldl_cons, ih (stores_clearEvent h), clearEvent_db,
      getEventStatus_putEventStatus h]
    by_cases he : name = (c.event e).mnemonic <;> simp [he]

theorem clearData_query (h : Stores s) :
    (clearDtcAndEventData c s d).db.dtcs.query d' =
      if d' = d then
        some { s.db.dtcRow d with status := clearedStatus, faultOccurenceCounter := 0 }
      else s.db.dtcs.query d' := by
  rw [clearData_eq, (foldl_clearEvent_kept _ (stores_clearedDtc h)).1, clearedDtc_db]
  exact query_writeByDtc h fun _ => rfl

theorem clearData_snapshots (h : Stores s) :
    (clearDtcAndEventData c s d).db.snapshots = s.db.snapshots := by
  rw [clearData_eq, (foldl_clearEvent_kept _ (stores_clearedDtc h)).2]
  exact (writeByDtc_events h _).2

theorem clearData_status (h : Stores s) :
    (clearDtcAndEventData c s d).db.getEventStatusByName name =
      if name ∈ eventNames c d then clearedStatus else s.db.getEventStatusByName name := by
  have hevs : (clearedDtc s d).db.getEventStatusByName name = s.db.getEventStatusByName name := by
    exact congrArg (statusByName · name) (writeByDtc_events h _).1
  rw [clearData_eq, foldl_clearEvent_status _ (stores_clearedDtc h), hevs]
  rfl

section
variable (l : List DtcCode)

theorem foldl_clear_dtc (d : DtcCode) :
    (l.foldl (clearDtcAndEventData c) s).dtc d =
      if d ∈ l then { s.dtc d with dtcStatus := clearedStatus, occurrenceCounter := 0 }
      else s.dtc d := by
  have hloop := foldl_changes_idem (fun t : Dem => t.dtc) id
    (f := fun ctx : DtcCtx => { ctx with dtcStatus := clearedStatus, occurrenceCounter := 0 })
    (fun t d => clearData_dtc (c := c)) (fun _ => rfl) l s d
  rw [map_id] at hloop
  exact hloop

theorem foldl_clear_dtcRow (h : Stores s) (d : DtcCode) :
    (l.foldl (clearDtcAndEventData c) s).db.dtcRow d =
      if d ∈ l then { s.db.dtcRow d with status := clearedStatus, faultOccurenceCounter := 0 }
      else s.db.dtcRow d := by
  induction l generalizing s with
  | nil => simp
  | cons d' rest ih =>
    have hfst : (clearDtcAndEventData c s d').db.dtcRow d = if d = d' then
        { s.db.dtcRow d with status := clearedStatus, faultOccurenceCounter := 0 }
        else s.db.dtcRow d := by
      by_cases hd : d = d'
      · rw [if_pos hd, dtcRow_of_query (by
          rw [clearData_query h, if_pos hd]), hd]
      · unfold dtcRow
        rw [clearData_query h, if_neg hd, if_neg hd]
    rw [foldl_cons, ih (stores_clearData h), hfst]
    by_cases hd : d = d' <;> simp [hd]

theorem foldl_clear_status (h : Stores s) (name : String) :
    (l.foldl (clearDtcAndEventData c) s).db.getEventStatusByName name =
      if ∃ d ∈ l, name ∈ eventNames c d then clearedStatus
      else s.db.getEventStatusByName name := by
  induction l generalizing s with
  | nil => simp
  | cons d' rest ih =>
    rw [foldl_cons, ih (stores_clearData h), clearData_status h]
    by_cases hfst : name ∈ eventNames c d' <;>
      by_cases hrest : ∃ d ∈ rest, name ∈ eventNames c d <;> simp [hrest]

end

/-- The database after a clear of one DTC differs from the one before in what belongs to
that DTC alone. -/
structure ClearsOnly (c : DemConf) (before after : Database) (d : DtcCode) : Prop where
  dtcs : ∀ d', d' ≠ d → after.dtcs.query d' = before.dtcs.query d'
  snapshots : ∀ r, r.dtc ≠ d → (r ∈ after.snapshots.rows ↔ r ∈ before.snapshots.rows)
  others : ∀ name, name ∉ eventNames c d →
    after.getEventStatusByName name = before.getEventStatusByName name
  events : ∀ e ∈ getEventNodes c d,
    after.getEventStatusByName (c.event e).mnemonic = clearedStatus

/-- A row whose id is a configured event id of the DTC is the row of an event of that DTC,
or has no status to lose. -/
def OwnRows (c : DemConf) (db : Database) (d : DtcCode) : Prop :=
  ∀ r ∈ db.events.rows, r.eventId ∈ Database.getEventIds c d →
    r.eventName ∈ eventNames c d ∨ r.status = 0
deriving Decidable

/-- The stored status of a name after the deletion of the data of a DTC. -/
theorem getEventStatus_deleteData {db : Database} (h : db.faults = [])
    (hd : db.readSuppressionByDtc d = false) :
    (db.deleteData c d).1.getEventStatusByName name =
      if ∃ r ∈ db.events.rows, r.eventName = name ∧ r.eventId ∈ getEventIds c d then 0
      else db.getEventStatusByName name := by
  unfold getEventStatusByName
  rw [statusByName_eq, statusByName_eq, byName_deleteData h hd]
  cases hrow : db.events.byName name with
  | none =>
    rw [if_neg]
    · rfl
    rintro ⟨r, hr, hname, -⟩
    rw [byName_eq_some.2 ⟨hr, hname⟩] at hrow
    cases hrow
  | some r =>
    obtain ⟨hr, hname⟩ := byName_eq_some.1 hrow
    by_cases hid : r.eventId ∈ getEventIds c d
    · rw [if_pos ⟨r, hr, hname, hid⟩, Option.map_some, if_pos hid]
      rfl
    rw [if_neg, Option.map_some, if_neg hid]
    rintro ⟨r', hr', hname', hid'⟩
    rw [byName_eq_some.2 ⟨hr', hname'⟩] at hrow
    cases hrow
    exact hid hid'

/-- A successful clear keeps to its DTC exactly when the ids of its events lead to its own
rows. -/
theorem clearDtc_clearsOnly_iff (hsto : Stores s) (hgroup : d ≠ allDtcGroup)
    (hok : (clearDtc c s d).2 = .ok) :
    ClearsOnly c s.db (clearDtc c s d).1.db d ↔ OwnRows c s.db d := by
  unfold clearDtc at hok ⊢
  rw [if_neg hgroup] at hok ⊢
  rcases clearSingleDtc_cases (c := c) (d := d) hsto with
    ⟨result, hrefused, heq⟩ | ⟨_, _, hstored, heq⟩
  · rw [heq] at hok
    exact absurd hok hrefused
  have hdeleted := stores_deleteData (c := c) hsto hstored
  rw [heq]
  constructor
  · intro hclears r hr hid
    by_cases hname : r.eventName ∈ eventNames c d
    · exact Or.inl hname
    right
    have hkept := hclears.others r.eventName hname
    rw [clearData_status hdeleted, if_neg hname,
      getEventStatus_deleteData hsto hstored, if_pos ⟨r, hr, rfl, hid⟩] at hkept
    rw [Database.getEventStatusByName, EventTable.statusByName_eq,
      EventTable.byName_eq_some.2 ⟨hr, rfl⟩] at hkept
    exact hkept.symm
  intro hown
  constructor
  · intro d' hd'
    rw [clearData_query hdeleted, if_neg hd',
      Database.query_deleteData hsto hstored, if_neg hd']
  · intro r hr
    rw [clearData_snapshots hdeleted, Database.deleteData_eq hsto hstored]
    simp [Table.filterRows, hr]
  · intro name hname
    rw [clearData_status hdeleted, getEventStatus_deleteData hsto hstored]
    split_ifs with hhit
    · obtain ⟨r, hr, rfl, hid⟩ := hhit
      have hzero : r.status = 0 := (hown r hr hid).resolve_left hname
      rw [Database.getEventStatusByName, EventTable.statusByName_eq,
        EventTable.byName_eq_some.2 ⟨hr, rfl⟩]
      exact hzero.symm
    · rfl
  · intro e he
    have hname : (c.event e).mnemonic ∈ eventNames c d := List.mem_map.2 ⟨e, he, rfl⟩
    rw [clearData_status hdeleted, if_pos hname]

/-- Two DTCs with one event each, whose ids are `first` and `first + 1`. -/
def twoDtcs (first : EventId) : DemConf where
  eventIds := [first, first + 1]
  event :=
    fun e => ⟨if e = first then "A" else "B", 0, 1, .monitorInternal, .freeze, ⟨[1], []⟩⟩
  dtcCodes := [0x100, 0x200]
  dtcEvents := fun d => if d = 0x100 then [first] else [first + 1]
  occurrenceCounterProcessing := .testFailedBit
  eventIds_sorted := by simp
  dtcCodes_sorted := by decide
  mnemonic_inj := by simp
  one_dtc := by simp

theorem clearDtc_clearsOnly_twoDtcs :
    ∃ s, exec (step (twoDtcs 1)) (initDem (twoDtcs 1) (Database.newDatabase (twoDtcs 1)))
        [.setEnableCondition 1 true, .setOperCycleState 0 .start, .setStatus 1 .failed,
          .setStatus 2 .failed] = some s ∧
      ClearsOnly (twoDtcs 1) s.db (clearDtc (twoDtcs 1) s 0x100).1.db 0x100 :=
  ⟨_, rfl, (clearDtc_clearsOnly_iff (by exact rfl) (by decide) (by decide)).2 (by decide)⟩

/-- The ids of the rows count from one, so the id of the event of the first DTC is the id of
the row of the other. -/
theorem clearDtc_hits_other_event :
    ∃ s, exec (step (twoDtcs 2)) (initDem (twoDtcs 2) (Database.newDatabase (twoDtcs 2)))
        [.setEnableCondition 1 true, .setOperCycleState 0 .start, .setStatus 3 .failed] = some s ∧
      (clearDtc (twoDtcs 2) s 0x100).2 = .ok ∧ "B" ∉ eventNames (twoDtcs 2) 0x100 ∧
      s.db.getEventStatusByName "B" = 0x2F ∧
      (clearDtc (twoDtcs 2) s 0x100).1.db.getEventStatusByName "B" = 0 ∧
      ¬ ClearsOnly (twoDtcs 2) s.db (clearDtc (twoDtcs 2) s 0x100).1.db 0x100 := by
  refine ⟨_, rfl, by decide, by decide, by decide, by decide, ?_⟩
  intro hclears
  have hkept := hclears.others "B" (by decide)
  exact absurd hkept (by decide)

end TelAF.EventServer
