import TelAF.DemDatabase

/-!
# What the database holds

The reads of the database after its writes, where no write fails. A DTC is read
through its row, or through the row that a write would insert for it; an event is
read through the one row of its name.
-/

namespace TelAF.DemDatabase
open DemConfiguration EventStatus KeyedTable EventEntity Table List EventTable Option

namespace EventTable

variable {t : EventTable} {name name' : String} {r : EventEntity} {id : Nat} {status : UdsStatus}

/-- The rows under their names, which are keys as well. -/
def byNames (t : EventTable) : Table EventEntity EventEntity.eventName := ⟨t.rows, t.names_nodup⟩

theorem byName_eq_some : t.byName name = some r ↔ r ∈ t.rows ∧ r.eventName = name :=
  query_eq_some (t := t.byNames)

theorem byName_eq_none : t.byName name = none ↔ name ∉ t.rows.map eventName :=
  query_eq_none (t := t.byNames)

theorem byName_setStatus :
    (t.setStatus id status).byName name =
      (t.byName name).map fun r => if r.eventId = id then { r with status := status } else r :=
  query_mapRows (t := t.byNames) _ fun r => by split_ifs <;> rfl

theorem byName_add (h : name ∉ t.rows.map eventName) :
    (t.add name status).byName name' =
      if name' = name then some ⟨t.nextId, name, status⟩ else t.byName name' := by
  have hadd : (t.add name status).byNames = t.byNames.add ⟨t.nextId, name, status⟩ := by
    have hkey : (⟨t.nextId, name, status⟩ : EventEntity).eventName ∉ t.byNames.keys := h
    apply Table.ext
    unfold add Table.add
    rw [dif_neg h, dif_neg hkey]
    rfl
  have hkey : (⟨t.nextId, name, status⟩ : EventEntity).eventName ∉ t.byNames.keys := h
  have hqry := Table.query_add (k := name') hkey
  rw [← hadd] at hqry
  exact hqry

/-- Joining the statuses of all rows of a name reads the one row. -/
theorem statusByName_eq :
    t.statusByName name = ((t.byName name).map EventEntity.status).getD 0 := by
  have hfilt : t.rows.filter (·.eventName = name) = (t.byName name).toList :=
    filter_key (t := t.byNames)
  unfold statusByName
  rw [hfilt]
  cases t.byName name with
  | none => rfl
  | some r => simp

/-- Write the status of a name, into a new row if need be. -/
def put (t : EventTable) (name : String) (status : UdsStatus) : EventTable :=
  match t.byName name with
  | none => t.add name status
  | some r => t.setStatus r.eventId status

theorem byName_put :
    (t.put name status).byName name' =
      if name' = name then
        some ⟨((t.byName name).map eventId).getD t.nextId, name, status⟩
      else t.byName name' := by
  unfold put
  rcases hname : t.byName name with _ | r
  · exact byName_add (byName_eq_none.1 hname)
  obtain ⟨hr, hrnam⟩ := byName_eq_some.1 hname
  rw [byName_setStatus]
  by_cases hsame : name' = name
  · rw [if_pos hsame, hsame, hname, map_some, if_pos rfl, hrnam]
    rfl
  rw [if_neg hsame]
  rcases hname' : t.byName name' with _ | r'
  · rfl
  obtain ⟨hr', hrnam'⟩ := byName_eq_some.1 hname'
  have hid : r'.eventId ≠ r.eventId := by
    intro hid
    have hrow : r' = r := inj_on_of_nodup_map t.nodup hr' hr hid
    rw [hrow, hrnam] at hrnam'
    exact hsame hrnam'.symm
  rw [map_some, if_neg hid]

theorem statusByName_put :
    (t.put name status).statusByName name' =
      if name' = name then status else t.statusByName name' := by
  rw [statusByName_eq, byName_put]
  split_ifs
  · rfl
  · rw [statusByName_eq]

theorem byName_foldl_setStatus (ids : List Nat) :
    (ids.foldl (fun t id => t.setStatus id status) t).byName name =
      (t.byName name).map fun r => if r.eventId ∈ ids then { r with status := status } else r := by
  induction ids generalizing t with
  | nil => simp
  | cons id ids ih =>
    rw [foldl_cons, ih, byName_setStatus, Option.map_map]
    congr 1
    funext r
    by_cases hid : r.eventId = id <;> by_cases hmem : r.eventId ∈ ids <;> simp [hid]

def mapStatus (t : EventTable) (f : EventEntity → UdsStatus) : EventTable where
  toTable := t.toTable.mapRows (fun r => { r with status := f r }) fun _ => rfl
  names_nodup := by
    have hnms : (t.toTable.mapRows (fun r => { r with status := f r })
        fun _ => rfl).rows.map EventEntity.eventName = t.rows.map EventEntity.eventName :=
      List.map_map
    rw [hnms]
    exact t.names_nodup

variable {f g : EventEntity → UdsStatus}

theorem mapStatus_congr (h : ∀ r ∈ t.rows, f r = g r) : t.mapStatus f = t.mapStatus g := by
  apply EventTable.ext
  apply map_congr_left
  intro r hr
  rw [h r hr]

theorem mapStatus_mapStatus (t : EventTable) (f g : EventEntity → UdsStatus) :
    (t.mapStatus f).mapStatus g = t.mapStatus fun r => g { r with status := f r } :=
  EventTable.ext map_map

theorem mapStatus_status (t : EventTable) : t.mapStatus EventEntity.status = t := by
  apply EventTable.ext
  exact map_id t.rows

theorem setStatus_eq_mapStatus :
    t.setStatus id status = t.mapStatus fun r => if r.eventId = id then status else r.status := by
  apply EventTable.ext
  apply map_congr_left
  intro r _
  dsimp only
  split_ifs <;> rfl

theorem foldl_setStatus_eq_mapStatus (ids : List Nat) :
    ids.foldl (fun t id => t.setStatus id status) t =
      t.mapStatus fun r => if r.eventId ∈ ids then status else r.status := by
  induction ids generalizing t with
  | nil => exact (mapStatus_status t).symm
  | cons id ids ih =>
    rw [foldl_cons, ih, setStatus_eq_mapStatus, mapStatus_mapStatus]
    apply mapStatus_congr
    intro r _
    by_cases hid : r.eventId = id <;> by_cases hmem : r.eventId ∈ ids <;> simp [hmem]

theorem put_eq_mapStatus (h : name ∈ t.rows.map eventName) :
    t.put name status = t.mapStatus fun r => if r.eventName = name then status else r.status := by
  unfold put
  rcases hname : t.byName name with _ | r
  · exact absurd h (byName_eq_none.1 hname)
  obtain ⟨hr, hrnam⟩ := byName_eq_some.1 hname
  dsimp only
  rw [setStatus_eq_mapStatus]
  apply mapStatus_congr
  intro r' hr'
  have hsame : r'.eventId = r.eventId ↔ r'.eventName = name := by
    constructor
    · intro hid
      rw [inj_on_of_nodup_map t.nodup hr' hr hid, hrnam]
    · intro hname'
      rw [inj_on_of_nodup_map t.names_nodup hr' hr (hname'.trans hrnam.symm)]
  simp only [hsame]

def names (t : EventTable) : List String := t.rows.map eventName

@[simp] theorem names_mapStatus : (t.mapStatus f).names = t.names := map_map

theorem add_of_mem (h : name ∈ t.names) : t.add name status = t := by
  unfold add
  exact dif_pos h

theorem rows_add (h : name ∉ t.names) :
    (t.add name status).rows = t.rows ++ [⟨t.nextId, name, status⟩] := by
  unfold add
  exact congrArg (fun t : EventTable => t.rows) (dif_neg h)

theorem names_add (h : name ∉ t.names) : (t.add name status).names = t.names ++ [name] := by
  unfold names
  rw [rows_add h, map_append]
  rfl

theorem mem_names_add : name' ∈ (t.add name status).names ↔ name' ∈ t.names ∨
      name' = name := by
  by_cases h : name ∈ t.names
  · rw [add_of_mem h, or_iff_left_of_imp]
    rintro rfl
    exact h
  · rw [names_add h, mem_append, mem_singleton]

/-- The table with a row for each of the names. -/
def addAll (l : List String) (t : EventTable) : EventTable := l.foldl (fun t name => t.add name 0) t

variable {l l' : List String}

theorem addAll_cons : addAll (name :: l) t = addAll l (t.add name 0) := rfl

theorem addAll_append : addAll (l ++ l') t = addAll l' (addAll l t) := foldl_append

theorem mapStatus_add (hnew : name ∉ t.names → f ⟨t.nextId, name, 0⟩ = 0) :
    (t.mapStatus f).add name 0 = (t.add name 0).mapStatus f := by
  by_cases hname : name ∈ t.names
  · rw [add_of_mem hname, add_of_mem (by rwa [names_mapStatus])]
  have hid : (t.mapStatus f).nextId = t.nextId :=
    congrArg (fun ids : List Nat => ids.foldr max 0 + 1) map_map
  apply EventTable.ext
  rw [rows_add (by rwa [names_mapStatus]), hid]
  refine Eq.trans ?_ (congrArg (map fun r => { r with status := f r }) (rows_add hname).symm)
  rw [map_append, map_singleton, hnew hname]
  rfl

theorem mem_names_addAll : name ∈ (addAll l t).names ↔ name ∈ t.names ∨ name ∈ l := by
  induction l generalizing t with
  | nil => simp [addAll]
  | cons name' rest ih =>
    rw [addAll_cons, ih, mem_names_add, mem_cons]
    exact or_assoc

/-- New rows may be added before or after a change of statuses that leaves them out. -/
theorem mapStatus_addAll
    (hnew : ∀ r, r.eventName ∈ l → r.eventName ∉ t.names → r.status = 0 → f r = 0) :
    addAll l (t.mapStatus f) = (addAll l t).mapStatus f := by
  induction l generalizing t with
  | nil => rfl
  | cons name rest ih =>
    rw [addAll_cons, addAll_cons,
      mapStatus_add fun hname => hnew _ (mem_cons_self ..) hname rfl, ih]
    intro r hr hname hstat
    exact hnew r (mem_cons_of_mem _ hr) (fun hmem => hname (mem_names_add.2 (.inl hmem))) hstat

theorem put_eq : t.put name status =
    (t.add name 0).mapStatus fun r => if r.eventName = name then status else r.status := by
  by_cases h : name ∈ t.names
  · rw [add_of_mem h, put_eq_mapStatus h]
  unfold put
  rw [byName_eq_none.2 h]
  apply EventTable.ext
  refine (rows_add h).trans (Eq.trans ?_ (congrArg (map _) (rows_add h).symm))
  rw [map_append, map_singleton]
  dsimp only
  rw [if_pos rfl]
  congr 1
  conv_lhs => rw [← map_id t.rows]
  apply map_congr_left
  intro r hr
  rw [if_neg]
  · rfl
  · rintro rfl
    exact h (mem_map_of_mem hr)

theorem foldl_put_eq : l.foldl (fun t name => t.put name status) t =
    (addAll l t).mapStatus fun r => if r.eventName ∈ l then status else r.status := by
  induction l generalizing t with
  | nil => exact (mapStatus_status t).symm
  | cons name rest ih =>
    rw [foldl_cons, ih, put_eq, mapStatus_addAll, mapStatus_mapStatus, ← addAll_cons]
    · apply mapStatus_congr
      intro r _
      by_cases hr : r.eventName = name <;> by_cases hmem : r.eventName ∈ rest <;> simp [hmem, hr]
    · intro r _ hname hstat
      rw [if_neg, hstat]
      exact fun heq => hname (mem_names_add.2 (.inr heq))

theorem subset_rows_addAll : t.rows ⊆ (addAll l t).rows := by
  induction l generalizing t with
  | nil => exact Subset.refl _
  | cons name rest ih =>
    rw [addAll_cons]
    refine List.Subset.trans ?_ ih
    by_cases h : name ∈ t.names
    · rw [add_of_mem h]
      exact Subset.refl _
    · rw [rows_add h]
      exact subset_append_left ..

theorem mem_rows_addAll (h : r ∈ (addAll l t).rows) :
    r ∈ t.rows ∨ r.eventName ∈ l ∧ r.status = 0 := by
  induction l generalizing t with
  | nil => exact .inl h
  | cons name rest ih =>
    rw [addAll_cons] at h
    rcases ih h with hr | ⟨hname, hstat⟩
    · by_cases hmem : name ∈ t.names
      · rw [add_of_mem hmem] at hr
        exact .inl hr
      rw [rows_add hmem, mem_append, mem_singleton] at hr
      rcases hr with hr | rfl
      · exact .inl hr
      · exact .inr ⟨mem_cons_self .., rfl⟩
    · exact .inr ⟨mem_cons_of_mem _ hname, hstat⟩

theorem eq_of_mapStatus_eq (h : t.mapStatus f = t.mapStatus g) (hr : r ∈ t.rows) : f r = g r := by
  have hrows := congrArg (fun t : EventTable => t.rows) h
  exact congrArg EventEntity.status (map_inj_left.1 hrows r hr)

/-- The status of a row is the one read by its name. -/
theorem statusByName_of_mem (hr : r ∈ t.rows) : t.statusByName r.eventName = r.status := by
  rw [statusByName_eq, byName_eq_some.2 ⟨hr, rfl⟩]
  rfl

/-- Names that have a row already may be left out. -/
theorem addAll_filter {p : String → Bool}
    (h : ∀ name ∈ l, name ∉ t.names → p name = true) :
    addAll (l.filter p) t = addAll l t := by
  induction l generalizing t with
  | nil => rfl
  | cons name rest ih =>
    have hrest : ∀ name' ∈ rest, name' ∉ (t.add name 0).names → p name' = true := by
      intro name' hname' hnew
      exact h name' (mem_cons_of_mem _ hname') fun hmem => hnew (mem_names_add.2 (.inl hmem))
    rw [addAll_cons, ← ih hrest, filter_cons]
    by_cases hp : p name = true
    · rw [if_pos hp, addAll_cons]
    · have hmem : name ∈ t.names := by
        by_contra hnew
        exact hp (h name (mem_cons_self ..) hnew)
      rw [if_neg hp, add_of_mem hmem]

theorem names_addAll (h : l.Nodup) : (addAll l t).names = t.names ++ l.filter (· ∉ t.names) := by
  induction l generalizing t with
  | nil => exact (append_nil _).symm
  | cons name rest ih =>
    obtain ⟨hnot, hrest⟩ := nodup_cons.1 h
    rw [addAll_cons, ih hrest, filter_cons]
    by_cases hname : name ∈ t.names
    · rw [add_of_mem hname, if_neg (by simpa using hname)]
    rw [names_add hname, if_pos (by simpa using hname), append_assoc, singleton_append]
    congr 2
    apply filter_congr
    intro name' hname'
    have hne : name' ≠ name := fun heq => hnot (heq ▸ hname')
    simp [hne]

end EventTable

namespace Database

variable {c : DemConf} {db : Database} {d d' : DtcCode} {name name' : String} {status : UdsStatus}

theorem putEventStatus_eq (h : db.faults = []) :
    db.setEventStatusByName name status = ({ db with events := db.events.put name status }, .ok) := by
  unfold setEventStatusByName writeStatusAndDtcByEventName put
  cases db.events.byName name with
  | none | some r =>
    dsimp only
    rw [write_eq h]

theorem getEventStatus_putEventStatus (h : db.faults = []) :
    (db.setEventStatusByName name status).1.getEventStatusByName name' =
      if name' = name then status else db.getEventStatusByName name' := by
  rw [putEventStatus_eq h]
  exact statusByName_put

theorem dtcRow_of_query {entity : DtcEntity} (h : db.dtcs.query d = some entity) :
    db.dtcRow d = entity := by
  unfold dtcRow
  rw [h]
  rfl

theorem dtcRow_of_query_none (h : db.dtcs.query d = none) : db.dtcRow d = newDtc d := by
  unfold dtcRow
  rw [h]
  rfl

theorem dtcRow_dtc : (db.dtcRow d).dtc = d := by
  cases hqry : db.dtcs.query d with
  | none =>
    rw [dtcRow_of_query_none hqry]
    rfl
  | some entity =>
    rw [dtcRow_of_query hqry]
    exact query_key hqry

theorem readStatusByDtc_eq : db.readStatusByDtc d = (db.dtcRow d).status := by
  unfold readStatusByDtc dtcRow
  cases db.dtcs.query d <;> rfl

theorem readOccurrenceCounterByDtc_eq :
    db.readOccurrenceCounterByDtc d = (db.dtcRow d).faultOccurenceCounter := by
  unfold readOccurrenceCounterByDtc dtcRow
  cases db.dtcs.query d <;> rfl

theorem readActivationByDtc_eq : db.readActivationByDtc d = (db.dtcRow d).activation := by
  unfold readActivationByDtc dtcRow
  cases db.dtcs.query d <;> rfl

theorem readSuppression_eq : db.readSuppressionByDtc d = (db.dtcRow d).suppression := by
  unfold readSuppressionByDtc dtcRow
  cases db.dtcs.query d <;> rfl

variable {f : DtcEntity → DtcEntity}

section

variable (h : db.faults = [])
include h

theorem query_writeByDtc (hkey : ∀ r, (f r).dtc = r.dtc) :
    (db.writeByDtc d f).1.dtcs.query d' =
      if d' = d then some (f (db.dtcRow d)) else db.dtcs.query d' := by
  rw [writeByDtc_eq h]
  by_cases hqry : db.dtcs.query d = none
  · have hnew : (f (newDtc d)).dtc = d := hkey _
    rw [if_pos hqry, query_add (by rw [hnew]; exact query_eq_none.1 hqry), hnew,
      dtcRow_of_query_none hqry]
  have hrow : (f (db.dtcRow d)).dtc = d := (hkey _).trans dtcRow_dtc
  rw [if_neg hqry, query_update, hrow]
  split_ifs with hd
  · obtain ⟨entity, henti⟩ := ne_none_iff_exists'.1 hqry
    rw [hd, henti]
    rfl
  · rfl

theorem dtcRow_writeByDtc (hkey : ∀ r, (f r).dtc = r.dtc) :
    (db.writeByDtc d f).1.dtcRow d' = if d' = d then f (db.dtcRow d) else db.dtcRow d' := by
  unfold dtcRow
  rw [query_writeByDtc h hkey]
  split_ifs <;> rfl

theorem writeByDtc_events (f : DtcEntity → DtcEntity) :
    (db.writeByDtc d f).1.events = db.events ∧ (db.writeByDtc d f).1.snapshots = db.snapshots := by
  rw [writeByDtc_eq h]
  exact ⟨rfl, rfl⟩

theorem query_writeAllSuppression (suppression : Bool) :
    (db.writeAllSuppression suppression).1.dtcs.query d =
      (db.dtcs.query d).map fun r => { r with suppression := suppression } := by
  unfold writeAllSuppression
  rw [write_eq h]
  rw [query_mapRows]
  congr 1
  funext r
  split_ifs with hchg
  · rfl
  · rw [← not_not.1 hchg]

end

section

variable (h : db.faults = [])
include h

theorem query_deleteData (hd : db.readSuppressionByDtc d = false) :
    (db.deleteData c d).1.dtcs.query d' =
      if d' = d then (db.dtcs.query d).map fun _ => newDtc d else db.dtcs.query d' := by
  rw [deleteData_eq h hd]
  rw [query_update]
  change (if d' = d then _ else _) = _
  split_ifs with hd'
  · rw [hd']
  · rfl

theorem dtcRow_deleteData (hd : db.readSuppressionByDtc d = false) :
    (db.deleteData c d).1.dtcRow d' = if d' = d then newDtc d else db.dtcRow d' := by
  unfold dtcRow
  rw [query_deleteData h hd]
  split_ifs with hd'
  · rw [hd']
    cases db.dtcs.query d <;> rfl
  · rfl

theorem foldl_deleteData_dtcRow {l : List DtcCode}
    (hl : ∀ d ∈ l, db.readSuppressionByDtc d = false) :
    (l.foldl (fun db d => (db.deleteData c d).1) db).dtcRow d' =
      if d' ∈ l then newDtc d' else db.dtcRow d' := by
  induction l generalizing db with
  | nil => simp
  | cons d rest ih =>
    have hd := hl d (mem_cons_self ..)
    have hflts : (db.deleteData c d).1.faults = [] := by
      rw [deleteData_eq h hd]
      exact h
    have hrest : ∀ d' ∈ rest, (db.deleteData c d).1.readSuppressionByDtc d' = false :=
      fun d' hd' => readSuppression_deleteData h hd (hl d' (mem_cons_of_mem _ hd'))
    rw [foldl_cons, ih hflts hrest, dtcRow_deleteData h hd]
    by_cases hsame : d' = d <;> simp [hsame]

theorem dtcRow_deleteAllData :
    (db.deleteAllData c).1.dtcRow d' =
      if (db.dtcRow d').suppression = false then newDtc d' else db.dtcRow d' := by
  rw [deleteAllData_eq h]
  rw [foldl_deleteData_dtcRow h fun d hd => readSuppression_of_unsuppress hd]
  rcases hqry : db.dtcs.query d' with _ | entity
  · rw [dtcRow_of_query_none hqry]
    split_ifs <;> rfl
  have hmem : d' ∈ db.getDtcWithUnsuppress ↔ entity.suppression = false := by
    rw [mem_unsuppressed, hqry]
    simp
  rw [dtcRow_of_query hqry]
  by_cases hsupp : entity.suppression = false
  · rw [if_pos (hmem.2 hsupp), if_pos hsupp]
  · rw [if_neg (mt hmem.1 hsupp), if_neg hsupp]

end

theorem database_ext {db db' : Database} (hdtcs : db.dtcs = db'.dtcs)
    (hevs : db.events = db'.events) (hsnap : db.snapshots = db'.snapshots)
    (hflts : db.faults = db'.faults) : db = db' := by
  cases db
  cases db'
  cases hdtcs
  cases hevs
  cases hsnap
  cases hflts
  rfl

/-- The tables after the deletion of the data of several unsuppressed DTCs. -/
theorem foldl_deleteData_eq {l : List DtcCode} (h : db.faults = [])
    (hl : ∀ d ∈ l, db.readSuppressionByDtc d = false) :
    l.foldl (fun db d => (db.deleteData c d).1) db = { db with
      dtcs := db.dtcs.mapRows (fun r => if r.dtc ∈ l then newDtc r.dtc else r)
        fun r => by split_ifs <;> rfl
      events := db.events.mapStatus fun r =>
        if ∃ d ∈ l, r.eventId ∈ getEventIds c d then 0 else r.status
      snapshots := db.snapshots.filterRows fun r => decide (r.dtc ∉ l) } := by
  induction l generalizing db with
  | nil =>
    apply database_ext
    · apply Table.ext
      exact (map_id db.dtcs.rows).symm
    · exact (mapStatus_status db.events).symm
    · apply Table.ext
      exact (filter_true db.snapshots.rows).symm
    · rfl
  | cons d rest ih =>
    have hd := hl d (mem_cons_self ..)
    have hflts : (db.deleteData c d).1.faults = [] := by
      rw [deleteData_eq h hd]
      exact h
    have hrest : ∀ d' ∈ rest, (db.deleteData c d).1.readSuppressionByDtc d' = false :=
      fun d' hd' => readSuppression_deleteData h hd (hl d' (mem_cons_of_mem _ hd'))
    rw [foldl_cons, ih hflts hrest, deleteData_eq h hd]
    apply database_ext
    · dsimp only
      unfold Table.update
      rw [Table.mapRows_mapRows]
      apply Table.mapRows_congr
      intro r _
      by_cases hr : r.dtc = d <;> by_cases hmem : r.dtc ∈ rest <;> simp [newDtc, hr]
    · dsimp only
      unfold deletedEvents
      rw [foldl_setStatus_eq_mapStatus, mapStatus_mapStatus]
      apply mapStatus_congr
      intro r _
      by_cases hr : r.eventId ∈ getEventIds c d <;> simp [hr]
    · dsimp only
      rw [Table.filterRows_filterRows]
      apply Table.filterRows_congr
      intro r _
      by_cases hr : r.dtc = d <;> simp [hr]
    · rfl

theorem byName_deleteData (h : db.faults = []) (hd : db.readSuppressionByDtc d = false) :
    (db.deleteData c d).1.events.byName name =
      (db.events.byName name).map fun r =>
        if r.eventId ∈ getEventIds c d then { r with status := 0 } else r := by
  rw [deleteData_eq h hd]
  exact byName_foldl_setStatus _

end Database

end TelAF.DemDatabase
