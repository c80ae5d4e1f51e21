import TelAF.DtcClears

/-!
# Clearing all DTCs

A clear of the group of all DTCs deletes the data of the unsuppressed rows of the
database, then clears the contexts of all DTCs and stores them. A clear of one DTC
refuses a suppressed one. What the two leave is compared table by table: each of
them rewrites the contexts, the rows of the DTCs, those of the events and the
snapshots by a formula of its own, and the two formulas are compared.
-/

namespace TelAF.EventServer
open DemConfiguration EventStatus DemDatabase KeyedTable TransitionRuns Database EventTable Table
  List

variable {c : DemConf} {s : Dem} {d d' : DtcCode} {ds l : List DtcCode}

/-- The clears of several DTCs, each on its own; refused clears change nothing. -/
def clearEach (c : DemConf) (s : Dem) (ds : List DtcCode) : Dem :=
  ds.foldl (fun s d => (clearDtc c s d).1) s

def clearOne (c : DemConf) (s : Dem) (d : DtcCode) : Dem :=
  clearDtcAndEventData c { s with db := (s.db.deleteData c d).1 } d

/-- The clear of the one DTC is not refused. -/
def Clearable (c : DemConf) (s : Dem) (d : DtcCode) : Prop :=
  d ∈ dtcCtxList c ∧ d ≠ allDtcGroup ∧ (s.dtc d).suppressionStatus = false ∧
    s.db.readSuppressionByDtc d = false
deriving Decidable

theorem stores_clearOne (h : Stores s) (hd : s.db.readSuppressionByDtc d = false) :
    Stores (clearOne c s d) :=
  stores_clearData (stores_deleteData h hd)

theorem clearOne_suppression (h : Stores s) (hd : s.db.readSuppressionByDtc d = false)
    (d' : DtcCode) :
    ((clearOne c s d).dtc d').suppressionStatus = (s.dtc d').suppressionStatus ∧
      (clearOne c s d).db.readSuppressionByDtc d' = s.db.readSuppressionByDtc d' := by
  unfold clearOne
  constructor
  · rw [clearData_dtc]
    by_cases hsame : d' = d
    · rw [hsame, Function.update_self]
    · rw [Function.update_of_ne hsame]
  have hrow : (clearDtcAndEventData c { s with db := (s.db.deleteData c d).1 } d).db.dtcRow d' =
      if d' ∈ [d] then _ else _ :=
    foldl_clear_dtcRow (c := c) [d] (stores_deleteData h hd) d'
  rw [dtcRow_deleteData h hd] at hrow
  rw [readSuppression_eq] at hd
  rw [readSuppression_eq, readSuppression_eq, hrow]
  by_cases hsame : d' = d
  · rw [if_pos (mem_singleton.2 hsame), if_pos hsame, hsame, hd]
    rfl
  · rw [if_neg (mt mem_singleton.1 hsame), if_neg hsame]

theorem clearEach_eq (h : Stores s) (hgrou : allDtcGroup ∉ ds) :
    clearEach c s ds = (ds.filter fun d => decide (Clearable c s d)).foldl (clearOne c) s := by
  induction ds generalizing s with
  | nil => rfl
  | cons d rest ih =>
    have hd : d ≠ allDtcGroup := fun heq => hgrou (heq ▸ mem_cons_self ..)
    have hrest : allDtcGroup ∉ rest := fun hmem => hgrou (mem_cons_of_mem _ hmem)
    have hfst : clearEach c s (d :: rest) = clearEach c (clearDtc c s d).1 rest := rfl
    rw [hfst, filter_cons]
    unfold clearDtc
    rw [if_neg hd]
    rcases clearSingleDtc_cases (c := c) (d := d) h with
      ⟨result, hrefu, heq⟩ | ⟨hctx, hmemy, hstd, heq⟩
    · have hnot : ¬ Clearable c s d := by
        rintro ⟨hctx, -, hmemy, hstd⟩
        rw [clearSingleDtc_eq h hctx hmemy hstd] at heq
        exact hrefu (congrArg Prod.snd heq).symm
      rw [heq, if_neg (by simpa using hnot)]
      exact ih h hrest
    have hclbl : Clearable c s d := ⟨hctx, hd, hmemy, hstd⟩
    have hsame : (fun d' => decide (Clearable c (clearOne c s d) d'))
        = fun d' => decide (Clearable c s d') := by
      funext d'
      obtain ⟨hkep, hkptS⟩ := clearOne_suppression (c := c) h hstd d'
      rw [decide_eq_decide]
      unfold Clearable
      rw [hkep, hkptS]
    rw [heq, if_pos (by simpa using hclbl), ← hsame]
    exact ih (stores_clearOne h hstd) hrest

theorem clearedEvent_idem (debounce : Debounce) (ctx : EventCtx) :
    clearedEvent debounce (clearedEvent debounce ctx) = clearedEvent debounce ctx := by
  cases debounce <;> rfl

theorem foldl_clears_event {round : Dem → DtcCode → Dem} (e : EventId)
    (hrnd : ∀ s d, (round s d).event e = if e ∈ getEventNodes c d then
      clearedEvent (c.event e).debounce (s.event e) else s.event e) :
    (l.foldl round s).event e = if ∃ d ∈ l, e ∈ getEventNodes c d then
      clearedEvent (c.event e).debounce (s.event e) else s.event e := by
  induction l generalizing s with
  | nil => simp
  | cons d rest ih =>
    rw [foldl_cons, ih, hrnd]
    by_cases hfst : e ∈ getEventNodes c d <;>
      simp [hfst, clearedEvent_idem]

/-- A clear of the data of a DTC leaves cycles, conditions and requests for snapshots. -/
theorem clearData_kept :
    (clearDtcAndEventData c s d).operCycle = s.operCycle ∧
      (clearDtcAndEventData c s d).enableCond = s.enableCond ∧
      (clearDtcAndEventData c s d).triggered = s.triggered := by
  have hloop : ∀ (es : List EventId) (t : Dem), (es.foldl (clearEvent c) t).operCycle = t.operCycle ∧
      (es.foldl (clearEvent c) t).enableCond = t.enableCond ∧
      (es.foldl (clearEvent c) t).triggered = t.triggered := by
    intro es
    induction es with
    | nil => exact fun t => ⟨rfl, rfl, rfl⟩
    | cons e rest ih => exact fun t => ih (clearEvent c t e)
  exact hloop _ _

theorem memory_ext {m m' : Memory} (hev : m.event = m'.event) (hdtc : m.dtc = m'.dtc)
    (hcyc : m.operCycle = m'.operCycle) (hcond : m.enableCond = m'.enableCond)
    (htrig : m.triggered = m'.triggered) : m = m' := by
  cases m
  cases m'
  cases hev
  cases hdtc
  cases hcyc
  cases hcond
  cases htrig
  rfl

def clearedMemory (c : DemConf) (m : Memory) (l : List DtcCode) : Memory := { m with
  event := fun e => if ∃ d ∈ l, e ∈ getEventNodes c d then
    clearedEvent (c.event e).debounce (m.event e) else m.event e
  dtc := fun d => if d ∈ l then
    { m.dtc d with dtcStatus := clearedStatus, occurrenceCounter := 0 } else m.dtc d }

theorem foldl_clears_memory (round : Dem → DtcCode → Dem)
    (hrnd : ∀ s d, ∃ t, t.toMemory = s.toMemory ∧ round s d = clearDtcAndEventData c t d) :
    (l.foldl round s).toMemory = clearedMemory c s.toMemory l := by
  apply memory_ext
  · funext e
    apply foldl_clears_event e
    intro s d
    obtain ⟨t, ht, heq⟩ := hrnd s d
    rw [heq, clearData_event, ht]
  · funext d
    have hchg : ∀ s d, (round s d).dtc = Function.update s.dtc (id d)
        { s.dtc (id d) with dtcStatus := clearedStatus, occurrenceCounter := 0 } := by
      intro s d
      obtain ⟨t, ht, heq⟩ := hrnd s d
      rw [heq, clearData_dtc, ht]
      rfl
    have hloop := foldl_changes_idem (fun t : Dem => t.dtc) id
      (f := fun ctx : DtcCtx => { ctx with dtcStatus := clearedStatus, occurrenceCounter := 0 })
      hchg (fun _ => rfl) l s d
    rw [map_id] at hloop
    exact hloop
  all_goals
    induction l generalizing s with
    | nil => rfl
    | cons d rest ih =>
      obtain ⟨t, ht, heq⟩ := hrnd s d
      rw [foldl_cons, ih, heq]
      first
      | exact clearData_kept.1.trans (by rw [ht]; rfl)
      | exact clearData_kept.2.1.trans (by rw [ht]; rfl)
      | exact clearData_kept.2.2.trans (by rw [ht]; rfl)

theorem foldl_clearOne_memory :
    (l.foldl (clearOne c) s).toMemory = clearedMemory c s.toMemory l :=
  foldl_clears_memory _ fun s d => ⟨{ s with db := (s.db.deleteData c d).1 }, rfl, rfl⟩

theorem stores_deleteAllData (h : Stores s) :
    Stores { s with db := (s.db.deleteAllData c).1 } := (succeeds_deleteAllData s.db h).1

theorem clearAll_eq (h : Stores s) :
    (clearDtc c s allDtcGroup).1 = (dtcCtxList c).foldl (clearDtcAndEventData c)
      { s with db := (s.db.deleteAllData c).1 } := by
  unfold clearDtc
  rw [if_pos rfl, clearAllDtc_eq h]

theorem clearAll_memory (h : Stores s) :
    (clearDtc c s allDtcGroup).1.toMemory = clearedMemory c s.toMemory (dtcCtxList c) := by
  rw [clearAll_eq h]
  exact foldl_clears_memory _ fun s d => ⟨s, rfl, rfl⟩


section
variable (h : Stores s)
include h

theorem clearOne_query (hd : s.db.readSuppressionByDtc d = false) :
    (clearOne c s d).db.dtcs.query d' =
      if d' = d then some { newDtc d with status := clearedStatus } else s.db.dtcs.query d' := by
  unfold clearOne
  rw [clearData_query (stores_deleteData h hd)]
  rw [dtcRow_deleteData h hd, query_deleteData h hd, if_pos rfl]
  split_ifs <;> rfl

theorem clearOne_snapshots (hd : s.db.readSuppressionByDtc d = false) :
    (clearOne c s d).db.snapshots = s.db.snapshots.filterRows fun r => !decide (r.dtc = d) := by
  unfold clearOne
  rw [clearData_snapshots (stores_deleteData h hd)]
  rw [deleteData_eq h hd]

/-- The stores of a clear rewrite the rows of the events, and insert those that are missing. -/
theorem clearData_events :
    (clearDtcAndEventData c s d).db.events = (addAll (eventNames c d) s.db.events).mapStatus
      fun r => if r.eventName ∈ eventNames c d then clearedStatus else r.status := by
  have hloop : ∀ (es : List EventId) (t : Dem), Stores t →
      (es.foldl (clearEvent c) t).db.events =
      (es.map fun e => (c.event e).mnemonic).foldl (fun t name => t.put name clearedStatus)
        t.db.events := by
    intro es
    induction es with
    | nil => exact fun t _ => rfl
    | cons e rest ih =>
      intro t ht
      rw [foldl_cons, ih _ (stores_clearEvent ht), clearEvent_db, putEventStatus_eq ht]
      rfl
  have hdtc : (clearedDtc s d).db.events = s.db.events := by
    exact (writeByDtc_events h _).1
  rw [clearData_eq, hloop _ _ (stores_clearedDtc h), foldl_put_eq, hdtc]
  rfl

end

/-- What a single clear leaves in the row of an event: the stores go by name, after the
deletion went by id. -/
def statusAfterClear (c : DemConf) (r : EventEntity) (status : UdsStatus)
    (d : DtcCode) : UdsStatus :=
  if r.eventName ∈ eventNames c d then clearedStatus
  else if r.eventId ∈ getEventIds c d then 0
  else status

theorem clearOne_events (h : Stores s) (hd : s.db.readSuppressionByDtc d = false) :
    (clearOne c s d).db.events = (addAll (eventNames c d) s.db.events).mapStatus
      fun r => statusAfterClear c r r.status d := by
  unfold clearOne
  rw [clearData_events (stores_deleteData h hd)]
  rw [deleteData_eq h hd]
  unfold deletedEvents
  rw [foldl_setStatus_eq_mapStatus, mapStatus_addAll, mapStatus_mapStatus]
  · rfl
  · intro r _ _ hstat
    rw [hstat, ite_self]

section
variable (h : Stores s) (hl : ∀ d ∈ l, s.db.readSuppressionByDtc d = false)
include h hl

theorem unsuppressed_clearOne {rest : List DtcCode} (heq : l = d :: rest) :
    Stores (clearOne c s d) ∧
      ∀ d' ∈ rest, (clearOne c s d).db.readSuppressionByDtc d' = false := by
  subst heq
  have hd := hl d (mem_cons_self ..)
  constructor
  · exact stores_clearOne h hd
  · intro d' hd'
    rw [(clearOne_suppression h hd d').2]
    exact hl d' (mem_cons_of_mem _ hd')

theorem foldl_clearOne_query : (l.foldl (clearOne c) s).db.dtcs.query d =
    if d ∈ l then some { newDtc d with status := clearedStatus } else s.db.dtcs.query d := by
  induction l generalizing s with
  | nil => simp
  | cons d' rest ih =>
    obtain ⟨hsto, hrest⟩ := unsuppressed_clearOne (c := c) h hl rfl
    rw [foldl_cons, ih hsto hrest, clearOne_query h (hl d' (mem_cons_self ..))]
    by_cases hd : d = d' <;> by_cases hmem : d ∈ rest <;> simp [hd]

theorem foldl_clearOne_snapshots : (l.foldl (clearOne c) s).db.snapshots =
    s.db.snapshots.filterRows fun r => decide (r.dtc ∉ l) := by
  induction l generalizing s with
  | nil =>
    apply Table.ext
    exact (filter_true s.db.snapshots.rows).symm
  | cons d' rest ih =>
    obtain ⟨hsto, hrest⟩ := unsuppressed_clearOne (c := c) h hl rfl
    rw [foldl_cons, ih hsto hrest, clearOne_snapshots h (hl d' (mem_cons_self ..)),
      filterRows_filterRows]
    apply filterRows_congr
    intro r _
    by_cases hr : r.dtc = d' <;> simp [hr]

theorem foldl_clearOne_events : (l.foldl (clearOne c) s).db.events =
    (addAll (l.flatMap (eventNames c)) s.db.events).mapStatus
      fun r => l.foldl (statusAfterClear c r) r.status := by
  induction l generalizing s with
  | nil => exact (mapStatus_status s.db.events).symm
  | cons d' rest ih =>
    obtain ⟨hsto, hrest⟩ := unsuppressed_clearOne (c := c) h hl rfl
    rw [foldl_cons, ih hsto hrest, clearOne_events h (hl d' (mem_cons_self ..)),
      flatMap_cons, addAll_append, mapStatus_addAll, mapStatus_mapStatus]
    · rfl
    · intro r _ hnew hstat
      have hoth : r.eventName ∉ eventNames c d' :=
        fun hmem => hnew (mem_names_addAll.2 (.inr hmem))
      unfold statusAfterClear
      rw [if_neg hoth, hstat, ite_self]

end

theorem foldl_clear_query (h : Stores s) : (l.foldl (clearDtcAndEventData c) s).db.dtcs.query d =
    if d ∈ l then some { s.db.dtcRow d with status := clearedStatus, faultOccurenceCounter := 0 }
    else s.db.dtcs.query d := by
  induction l generalizing s with
  | nil => simp
  | cons d' rest ih =>
    have hrow : (clearDtcAndEventData c s d').db.dtcRow d = if d = d' then
        { s.db.dtcRow d with status := clearedStatus, faultOccurenceCounter := 0 }
        else s.db.dtcRow d := by
      simpa using foldl_clear_dtcRow (c := c) [d'] h d
    rw [foldl_cons, ih (stores_clearData h), hrow, clearData_query h]
    by_cases hd : d = d' <;> by_cases hmem : d ∈ rest <;> simp [hd]

theorem foldl_clear_snapshots (h : Stores s) :
    (l.foldl (clearDtcAndEventData c) s).db.snapshots = s.db.snapshots := by
  induction l generalizing s with
  | nil => rfl
  | cons d rest ih =>
    rw [foldl_cons, ih (stores_clearData h), clearData_snapshots h]

theorem foldl_clear_events (h : Stores s) : (l.foldl (clearDtcAndEventData c) s).db.events =
    (addAll (l.flatMap (eventNames c)) s.db.events).mapStatus fun r =>
      if r.eventName ∈ l.flatMap (eventNames c) then clearedStatus else r.status := by
  induction l generalizing s with
  | nil => exact (mapStatus_status s.db.events).symm
  | cons d rest ih =>
    rw [foldl_cons, ih (stores_clearData h), clearData_events h,
      flatMap_cons, addAll_append, mapStatus_addAll, mapStatus_mapStatus]
    · apply mapStatus_congr
      intro r _
      by_cases hr : r.eventName ∈ eventNames c d <;>
        by_cases hmem : r.eventName ∈ rest.flatMap (eventNames c) <;> simp only [hr, hmem,
          mem_append, true_or, or_true, or_self, if_true, if_false]
    · intro r _ hnew hstat
      rw [if_neg fun hmem => hnew (mem_names_addAll.2 (.inr hmem)), hstat]

/-- The table of the events with a row for each event of a DTC with a context. -/
def completed (c : DemConf) (s : Dem) : EventTable :=
  addAll ((dtcCtxList c).flatMap (eventNames c)) s.db.events

section
variable (h : Stores s)
include h

theorem clearAll_deleted : (s.db.deleteAllData c).1 = { s.db with
    dtcs :=
      s.db.dtcs.mapRows (fun r => if r.dtc ∈ s.db.getDtcWithUnsuppress then newDtc r.dtc else r)
      fun r => by split_ifs <;> rfl
    events := s.db.events.mapStatus fun r =>
      if ∃ d ∈ s.db.getDtcWithUnsuppress, r.eventId ∈ getEventIds c d then 0 else r.status
    snapshots :=
      s.db.snapshots.filterRows fun r => decide (r.dtc ∉ s.db.getDtcWithUnsuppress) } := by
  rw [deleteAllData_eq h]
  exact foldl_deleteData_eq h fun d hd => readSuppression_of_unsuppress hd

theorem clearAll_query : (clearDtc c s allDtcGroup).1.db.dtcs.query d =
    if d ∈ dtcCtxList c then
      some { (if (s.db.dtcRow d).suppression = false then newDtc d else s.db.dtcRow d) with
        status := clearedStatus, faultOccurenceCounter := 0 }
    else if d ∈ s.db.getDtcWithUnsuppress then some (newDtc d)
    else s.db.dtcs.query d := by
  rw [clearAll_eq h, foldl_clear_query (stores_deleteAllData h)]
  rw [dtcRow_deleteAllData h]
  congr 1
  rw [clearAll_deleted h, query_mapRows]
  cases hqry : s.db.dtcs.query d with
  | none =>
    rw [if_neg]
    · rfl
    · intro hd
      obtain ⟨row, hrow, -⟩ := mem_unsuppressed.1 hd
      rw [hqry] at hrow
      cases hrow
  | some row =>
    rw [Option.map_some, query_key hqry]
    split_ifs <;> rfl

theorem clearAll_snapshots : (clearDtc c s allDtcGroup).1.db.snapshots =
    s.db.snapshots.filterRows fun r => decide (r.dtc ∉ s.db.getDtcWithUnsuppress) := by
  rw [clearAll_eq h, foldl_clear_snapshots (stores_deleteAllData h)]
  rw [clearAll_deleted h]

theorem clearAll_events : (clearDtc c s allDtcGroup).1.db.events =
    (completed c s).mapStatus fun r =>
      if r.eventName ∈ (dtcCtxList c).flatMap (eventNames c) then clearedStatus
      else if ∃ d ∈ s.db.getDtcWithUnsuppress, r.eventId ∈ getEventIds c d then 0
      else r.status := by
  rw [clearAll_eq h, foldl_clear_events (stores_deleteAllData h)]
  rw [clearAll_deleted h, mapStatus_addAll, mapStatus_mapStatus]
  · rfl
  · intro r _ _ hstat
    rw [hstat, ite_self]

end

section
variable (h : Stores s) (hctx : d ∈ dtcCtxList c)
include h hctx

theorem clearAll_dtc : (clearDtc c s allDtcGroup).1.dtc d =
    { s.dtc d with dtcStatus := clearedStatus, occurrenceCounter := 0 } := by
  rw [clearAll_memory h]
  exact if_pos hctx

theorem clearAll_event {e : EventId} (he : e ∈ getEventNodes c d) :
    (clearDtc c s allDtcGroup).1.event e = clearedEvent (c.event e).debounce (s.event e) := by
  rw [clearAll_memory h]
  exact if_pos ⟨d, hctx, he⟩

theorem clearAll_storedDtc : (clearDtc c s allDtcGroup).1.db.dtcRow d =
    { (s.db.deleteAllData c).1.dtcRow d with
      status := clearedStatus
      faultOccurenceCounter := 0 } := by
  rw [clearAll_eq h, foldl_clear_dtcRow _ (stores_deleteAllData h), if_pos hctx]

theorem clearAll_storedEvent {e : EventId} (he : e ∈ getEventNodes c d) :
    (clearDtc c s allDtcGroup).1.db.getEventStatusByName (c.event e).mnemonic = clearedStatus := by
  have hname : (c.event e).mnemonic ∈ eventNames c d := mem_map.2 ⟨e, he, rfl⟩
  rw [clearAll_eq h, foldl_clear_status _ (stores_deleteAllData h), if_pos ⟨d, hctx, hname⟩]

end


/-- Two states of the event manager that hold the same; the order of the rows of DTCs, whose
code is their key, does not count. -/
structure SameState (s s' : Dem) : Prop where
  memory : s.toMemory = s'.toMemory
  dtcs : ∀ d, s.db.dtcs.query d = s'.db.dtcs.query d
  events : s.db.events = s'.db.events
  snapshots : s.db.snapshots = s'.db.snapshots

/-- Clearing all DTCs does what the single clears do in any order, and leaves suppressed
DTCs alone. -/
structure ClearAllIsSum (c : DemConf) (s : Dem) : Prop where
  sum : ∀ ds : List DtcCode, ds.Perm (c.dtcCodes.filter (· ≠ allDtcGroup)) →
    SameState (clearDtc c s allDtcGroup).1 (clearEach c s ds)
  dtcs : ∀ d ∈ dtcCtxList c, (s.dtc d).suppressionStatus = true →
    (clearDtc c s allDtcGroup).1.dtc d = s.dtc d ∧
      (clearDtc c s allDtcGroup).1.db.dtcRow d = s.db.dtcRow d
  events : ∀ d ∈ dtcCtxList c, (s.dtc d).suppressionStatus = true →
    ∀ e ∈ getEventNodes c d,
    (clearDtc c s allDtcGroup).1.event e = s.event e ∧
      (clearDtc c s allDtcGroup).1.db.getEventStatusByName (c.event e).mnemonic
        = s.db.getEventStatusByName (c.event e).mnemonic

/-- What a clear of all takes from a DTC whose own clear is refused is clear already; the rows
it takes without a context hold nothing; and no clear reaches the row of another event. -/
structure ClearsAgree (c : DemConf) (s : Dem) : Prop where
  memory : ∀ d ∈ dtcCtxList c, ¬ Clearable c s d →
    (s.dtc d).dtcStatus = clearedStatus ∧ (s.dtc d).occurrenceCounter = 0 ∧
      ∀ e ∈ getEventNodes c d, clearedEvent (c.event e).debounce (s.event e) = s.event e
  stored : ∀ d ∈ dtcCtxList c, ¬ Clearable c s d →
    (s.db.dtcRow d).status = clearedStatus ∧ (s.db.dtcRow d).faultOccurenceCounter = 0 ∧
      ((s.db.dtcRow d).suppression = false →
        s.db.dtcRow d = { newDtc d with status := clearedStatus })
  storedEvents : ∀ d ∈ dtcCtxList c, ¬ Clearable c s d → ∀ name ∈ eventNames c d,
    s.db.getEventStatusByName name = clearedStatus
  foreign : ∀ d ∈ s.db.getDtcWithUnsuppress, d ∉ dtcCtxList c → s.db.dtcRow d = newDtc d
  snapshots : ∀ r ∈ s.db.snapshots.rows, r.dtc ∈ s.db.getDtcWithUnsuppress ↔
    Clearable c s r.dtc
  /-- Rows are missing for the events of one DTC at most, so their ids do not depend on the
  order of the clears. -/
  missing : ∀ d ∈ dtcCtxList c, ∀ d' ∈ dtcCtxList c,
    ∀ name ∈ eventNames c d, ∀ name' ∈ eventNames c d',
      name ∉ s.db.events.names → name' ∉ s.db.events.names → d = d'
  owned : ∀ r ∈ (completed c s).rows, r.eventName ∈ (dtcCtxList c).flatMap (eventNames c) →
    ∀ d ∈ dtcCtxList c, Clearable c s d → r.eventId ∈ getEventIds c d →
      r.eventName ∈ eventNames c d
  others : ∀ r ∈ s.db.events.rows, r.eventName ∉ (dtcCtxList c).flatMap (eventNames c) →
    r.status = 0 ∨
      ((∃ d ∈ s.db.getDtcWithUnsuppress, r.eventId ∈ getEventIds c d) ↔
        ∃ d ∈ dtcCtxList c, Clearable c s d ∧ r.eventId ∈ getEventIds c d)

/-- The DTCs that are cleared one by one, in the order of the calls. -/
theorem clearEach_eq_of_perm (h : Stores s)
    (hperm : ds.Perm (c.dtcCodes.filter (· ≠ allDtcGroup))) :
    ∃ l : List DtcCode, l.Nodup ∧ (∀ d, d ∈ l ↔ Clearable c s d) ∧
      clearEach c s ds = l.foldl (clearOne c) s := by
  have hcod : c.dtcCodes.Nodup := c.dtcCodes_sorted.imp fun h => Nat.ne_of_lt h
  refine ⟨ds.filter fun d => decide (Clearable c s d), ?_, ?_, ?_⟩
  · exact (hperm.nodup_iff.2 (hcod.filter _)).filter _
  · intro d
    rw [mem_filter, decide_eq_true_iff, hperm.mem_iff, mem_filter]
    constructor
    · exact And.right
    · intro hd
      exact ⟨⟨(mem_dtcCtxList.1 hd.1).1, by simpa using hd.2.1⟩, hd⟩
  · apply clearEach_eq h
    intro hmem
    simpa using (mem_filter.1 (hperm.mem_iff.1 hmem)).2

/-- Every order of the DTCs that can be cleared is the one of some calls. -/
theorem exists_clearEach_eq (h : Stores s) (hnodup : l.Nodup)
    (hl : ∀ d, d ∈ l ↔ Clearable c s d) :
    ∃ ds : List DtcCode, ds.Perm (c.dtcCodes.filter (· ≠ allDtcGroup)) ∧
      clearEach c s ds = l.foldl (clearOne c) s := by
  have hcod : c.dtcCodes.Nodup := c.dtcCodes_sorted.imp fun h => Nat.ne_of_lt h
  have hrest : ∀ d ∈ c.dtcCodes.filter (fun d => d ≠ allDtcGroup ∧ ¬ Clearable c s d),
      ¬ Clearable c s d ∧ d ≠ allDtcGroup := by
    intro d hd
    simpa [and_comm] using (mem_filter.1 hd).2
  refine ⟨l ++ c.dtcCodes.filter fun d => d ≠ allDtcGroup ∧ ¬ Clearable c s d, ?_, ?_⟩
  · rw [perm_ext_iff_of_nodup]
    · intro d
      rw [mem_append, hl, mem_filter, mem_filter]
      by_cases hd : Clearable c s d
      · have hcode := (mem_dtcCtxList.1 hd.1).1
        simp [hd, hcode, hd.2.1]
      · simp [hd]
    · refine hnodup.append (hcod.filter _) ?_
      intro d hd hd'
      exact (hrest d hd').1 ((hl d).1 hd)
    · exact hcod.filter _
  · rw [clearEach_eq h]
    · congr 1
      rw [filter_append, filter_eq_self.2, filter_eq_nil_iff.2, append_nil]
      · intro d hd
        simpa using (hrest d hd).1
      · intro d hd
        simpa using (hl d).1 hd
    · rw [mem_append, not_or]
      constructor
      · intro hmem
        exact ((hl _).1 hmem).2.1 rfl
      · intro hmem
        exact (hrest _ hmem).2 rfl

theorem dtc_of_name {name : String} (hd : d ∈ dtcCtxList c)
    (hname : name ∈ eventNames c d) (hd' : d' ∈ dtcCtxList c)
    (hname' : name ∈ eventNames c d') :
    d = d' := by
  obtain ⟨e, he, rfl⟩ := mem_map.1 hname
  obtain ⟨e', he', heq⟩ := mem_map.1 hname'
  have hsame := eventCtxList_mnemonic_inj (mem_eventCtxList_of_node hd' he')
    (mem_eventCtxList_of_node hd he) heq
  rw [hsame] at he'
  rw [← dtcCode_of_node hd he, ← dtcCode_of_node hd' he']

section
variable (hl : ∀ d, d ∈ l ↔ Clearable c s d)
include hl

/-- What is refused a clear and clear already is not seen to be cleared once more. -/
theorem memory_agree_iff :
    clearedMemory c s.toMemory (dtcCtxList c) = clearedMemory c s.toMemory l ↔
      ∀ d ∈ dtcCtxList c, ¬ Clearable c s d →
        (s.dtc d).dtcStatus = clearedStatus ∧ (s.dtc d).occurrenceCounter = 0 ∧
          ∀ e ∈ getEventNodes c d, clearedEvent (c.event e).debounce (s.event e) = s.event e := by
  constructor
  · intro heq d hd hnot
    have hdtc := congrFun (congrArg Memory.dtc heq) d
    dsimp only [clearedMemory] at hdtc
    rw [if_pos hd, if_neg (mt (hl d).1 hnot)] at hdtc
    refine ⟨?_, ?_, ?_⟩
    · rw [← hdtc]
    · rw [← hdtc]
    intro e he
    have hev := congrFun (congrArg Memory.event heq) e
    dsimp only [clearedMemory] at hev
    rw [if_pos ⟨d, hd, he⟩, if_neg] at hev
    · exact hev
    rintro ⟨d', hd', he'⟩
    have hclbl := (hl d').1 hd'
    rw [← dtcCode_of_node hd he, dtcCode_of_node hclbl.1 he'] at hnot
    exact hnot hclbl
  · intro hclr
    apply memory_ext
    · funext e
      dsimp only [clearedMemory]
      by_cases hin : ∃ d ∈ l, e ∈ getEventNodes c d
      · obtain ⟨d, hd, he⟩ := hin
        rw [if_pos ⟨d, ((hl d).1 hd).1, he⟩, if_pos ⟨d, hd, he⟩]
      split_ifs with hctx
      · obtain ⟨d, hd, he⟩ := hctx
        have hnot : ¬ Clearable c s d := fun hclbl => hin ⟨d, (hl d).2 hclbl, he⟩
        exact (hclr d hd hnot).2.2 e he
      · rfl
    · funext d
      dsimp only [clearedMemory]
      by_cases hin : d ∈ l
      · rw [if_pos ((hl d).1 hin).1, if_pos hin]
      split_ifs with hctx
      · obtain ⟨hstat, hcntr, _⟩ := hclr d hctx (mt (hl d).2 hin)
        rw [← hstat, ← hcntr]
      · rfl
    all_goals rfl

theorem unsuppressed_of_clearable : ∀ d ∈ l, s.db.readSuppressionByDtc d = false :=
  fun d hd => ((hl d).1 hd).2.2.2

variable (h : Stores s)
include h

theorem dtcs_agree_iff :
    (∀ d, (clearDtc c s allDtcGroup).1.db.dtcs.query d = (l.foldl (clearOne c) s).db.dtcs.query d) ↔
      (∀ d ∈ dtcCtxList c, ¬ Clearable c s d →
        (s.db.dtcRow d).status = clearedStatus ∧ (s.db.dtcRow d).faultOccurenceCounter = 0 ∧
          ((s.db.dtcRow d).suppression = false →
            s.db.dtcRow d = { newDtc d with status := clearedStatus })) ∧
      ∀ d ∈ s.db.getDtcWithUnsuppress, d ∉ dtcCtxList c → s.db.dtcRow d = newDtc d := by
  have hsgl := fun d => foldl_clearOne_query (c := c) (d := d) h (unsuppressed_of_clearable hl)
  constructor
  · intro heq
    constructor
    · intro d hd hnot
      have hrow := heq d
      rw [clearAll_query h, if_pos hd, hsgl, if_neg (mt (hl d).1 hnot)] at hrow
      have hread := dtcRow_of_query hrow.symm
      refine ⟨?_, ?_, ?_⟩
      · rw [hread]
      · rw [hread]
      · intro hsupp
        rw [if_pos hsupp] at hread
        exact hread
    · intro d hd hctx
      have hrow := heq d
      rw [clearAll_query h, if_neg hctx, if_pos hd, hsgl,
        if_neg fun hmem => hctx ((hl d).1 hmem).1] at hrow
      exact dtcRow_of_query hrow.symm
  · rintro ⟨hstd, hfore⟩ d
    rw [clearAll_query h, hsgl]
    by_cases hd : d ∈ l
    · obtain ⟨hctx, -, -, hsupp⟩ := (hl d).1 hd
      rw [readSuppression_eq] at hsupp
      rw [if_pos hctx, if_pos hd, if_pos hsupp]
      rfl
    rw [if_neg hd]
    by_cases hctx : d ∈ dtcCtxList c
    · obtain ⟨hstat, hcntr, hrest⟩ := hstd d hctx (mt (hl d).2 hd)
      have hqry : s.db.dtcs.query d = some (s.db.dtcRow d) := by
        cases hrow : s.db.dtcs.query d with
        | none =>
          rw [dtcRow_of_query_none hrow] at hstat
          have hne : (0 : UdsStatus) ≠ clearedStatus := by decide
          exact absurd hstat hne
        | some row => rw [dtcRow_of_query hrow]
      rw [if_pos hctx, hqry]
      congr 1
      by_cases hsupp : (s.db.dtcRow d).suppression = false
      · rw [if_pos hsupp, hrest hsupp]
        rfl
      · rw [if_neg hsupp, ← hstat, ← hcntr]
    split_ifs with hun
    · obtain ⟨row, hrow, -⟩ := mem_unsuppressed.1 hun
      rw [hrow, ← hfore d hun hctx, dtcRow_of_query hrow]
    · rfl

theorem snapshots_agree_iff :
    (clearDtc c s allDtcGroup).1.db.snapshots = (l.foldl (clearOne c) s).db.snapshots ↔
      ∀ r ∈ s.db.snapshots.rows, r.dtc ∈ s.db.getDtcWithUnsuppress ↔
        Clearable c s r.dtc := by
  rw [clearAll_snapshots h, foldl_clearOne_snapshots h (unsuppressed_of_clearable hl)]
  constructor
  · intro heq r hr
    have hmem : ∀ t : Table SnapshotEntity SnapshotEntity.id, t = s.db.snapshots.filterRows
        (fun r => decide (r.dtc ∉ l)) → (r ∈ t.rows ↔ r.dtc ∉ l) := by
      rintro t rfl
      simp [filterRows, hr]
    have hiff := hmem _ heq
    rw [← hl, ← not_iff_not, ← hiff]
    simp [filterRows, hr]
  · intro hagr
    apply filterRows_congr
    intro r hr
    rw [decide_eq_decide, hagr r hr, hl]

end

section
variable {r : EventEntity} {status : UdsStatus}

/-- A row keeps the cleared status, or gets it, where no clear takes it for another one's. -/
theorem foldl_statusAfterClear_own
    (howne : ∀ d ∈ l, r.eventId ∈ getEventIds c d → r.eventName ∈ eventNames c d)
    (hown : (∃ d ∈ l, r.eventName ∈ eventNames c d) ∨ status = clearedStatus) :
    l.foldl (statusAfterClear c r) status = clearedStatus := by
  induction l generalizing status with
  | nil =>
    rcases hown with ⟨d, hd, -⟩ | hstat
    · cases hd
    · exact hstat
  | cons d rest ih =>
    apply ih fun d' hd' => howne d' (mem_cons_of_mem _ hd')
    by_cases hname : r.eventName ∈ eventNames c d
    · exact .inr (if_pos hname)
    have hid := mt (howne d (mem_cons_self ..)) hname
    have hkept : statusAfterClear c r status d = status := (if_neg hname).trans (if_neg hid)
    rw [hkept]
    rcases hown with ⟨d', hd', hname'⟩ | hstat
    · rcases mem_cons.1 hd' with rfl | hrest
      · exact absurd hname' hname
      · exact .inl ⟨d', hrest, hname'⟩
    · exact .inr hstat

theorem foldl_statusAfterClear_other (hoth : ∀ d ∈ l, r.eventName ∉ eventNames c d) :
    l.foldl (statusAfterClear c r) status =
      if ∃ d ∈ l, r.eventId ∈ getEventIds c d then 0 else status := by
  induction l generalizing status with
  | nil => simp
  | cons d rest ih =>
    rw [foldl_cons, ih fun d' hd' => hoth d' (mem_cons_of_mem _ hd')]
    have hname := hoth d (mem_cons_self ..)
    unfold statusAfterClear
    rw [if_neg hname]
    by_cases hid : r.eventId ∈ getEventIds c d <;> simp [hid]

theorem foldl_statusAfterClear_last (hname : r.eventName ∉ eventNames c d)
    (hid : r.eventId ∈ getEventIds c d) :
    (l ++ [d]).foldl (statusAfterClear c r) status = 0 := by
  rw [foldl_append, foldl_cons, foldl_nil]
  exact (if_neg hname).trans (if_pos hid)

end

theorem status_of_read {r : EventEntity} (hr : r ∈ (completed c s).rows)
    (hread : s.db.getEventStatusByName r.eventName = clearedStatus) : r.status = clearedStatus := by
  rw [getEventStatusByName, statusByName_eq] at hread
  cases hrow : s.db.events.byName r.eventName with
  | none =>
    rw [hrow] at hread
    have hne : (0 : UdsStatus) ≠ clearedStatus := by decide
    exact absurd hread hne
  | some r' =>
    obtain ⟨hr', hname⟩ := byName_eq_some.1 hrow
    have hmem : r' ∈ (completed c s).rows := subset_rows_addAll hr'
    rw [inj_on_of_nodup_map (completed c s).names_nodup hmem hr hname] at hrow
    rw [hrow] at hread
    exact hread

theorem eventNames_nodup (hctx : ∀ d ∈ l, d ∈ dtcCtxList c) (hnodup : l.Nodup) :
    (l.flatMap (eventNames c)).Nodup := by
  rw [nodup_flatMap]
  constructor
  · intro d hd
    apply (getEventNodes_nodup d).map_on
    intro e he e' he' heq
    exact eventCtxList_mnemonic_inj (mem_eventCtxList_of_node (hctx d hd) he)
      (mem_eventCtxList_of_node (hctx d hd) he') heq
  · apply hnodup.imp_of_mem
    intro d d' hd hd' hne name hname hname'
    exact hne (dtc_of_name (hctx d hd) hname (hctx d' hd') hname')

/-- Where at most one list of the parts is not empty, their order does not count. -/
theorem flatMap_eq_of_one {g : DtcCode → List String} (hnodup : l.Nodup)
    (hone : ∀ d' ∈ l, g d' ≠ [] → d' = d) : l.flatMap g = if d ∈ l then g d else [] := by
  induction l with
  | nil => rfl
  | cons d' rest ih =>
    obtain ⟨hnot, hrest⟩ := nodup_cons.1 hnodup
    rw [flatMap_cons, ih hrest fun d' hd' => hone d' (mem_cons_of_mem _ hd')]
    by_cases hd : d = d'
    · rw [hd, if_neg hnot, if_pos (mem_cons_self ..), append_nil]
    · have hemp : g d' = [] := by
        by_contra hne
        exact hd (hone d' (mem_cons_self ..) hne).symm
      rw [hemp, nil_append]
      simp [hd]

theorem exists_mem_clearables (hl : ∀ d, d ∈ l ↔ Clearable c s d) {P : DtcCode → Prop} :
    (∃ d ∈ l, P d) ↔ ∃ d ∈ dtcCtxList c, Clearable c s d ∧ P d := by
  constructor
  · rintro ⟨d, hd, hP⟩
    exact ⟨d, ((hl d).1 hd).1, (hl d).1 hd, hP⟩
  · rintro ⟨d, -, hclbl, hP⟩
    exact ⟨d, (hl d).2 hclbl, hP⟩

section
variable (hl : ∀ d, d ∈ l ↔ Clearable c s d) (hnodup : l.Nodup)
include hl hnodup

/-- The clears insert the rows that a clear of all inserts, in the same order. -/
theorem addAll_clearable (hagr : ClearsAgree c s) :
    addAll (l.flatMap (eventNames c)) s.db.events = completed c s := by
  have hfilt : ∀ ds : List DtcCode,
      addAll ((ds.flatMap (eventNames c)).filter (· ∉ s.db.events.names)) s.db.events =
        addAll (ds.flatMap (eventNames c)) s.db.events :=
    fun ds => addAll_filter fun name _ hnew => decide_eq_true hnew
  unfold completed
  rw [← hfilt l, ← hfilt, filter_flatMap, filter_flatMap]
  congr 1
  let missing := fun d => (eventNames c d).filter (· ∉ s.db.events.names)
  have hmiss : ∀ {d name}, name ∈ missing d → name ∈ eventNames c d ∧
      name ∉ s.db.events.names := by
    intro d name hname
    simpa [missing] using hname
  by_cases hnone : ∀ d ∈ dtcCtxList c, missing d = []
  · rw [flatMap_eq_nil_iff.2 hnone, flatMap_eq_nil_iff.2]
    exact fun d hd => hnone d ((hl d).1 hd).1
  push Not at hnone
  obtain ⟨d, hd, hne⟩ := hnone
  obtain ⟨name, hname⟩ := exists_mem_of_ne_nil _ hne
  have hone : ∀ d' ∈ dtcCtxList c, missing d' ≠ [] → d' = d := by
    intro d' hd' hne'
    obtain ⟨name', hname'⟩ := exists_mem_of_ne_nil _ hne'
    exact hagr.missing d' hd' d hd name' (hmiss hname').1 name (hmiss hname).1
      (hmiss hname').2 (hmiss hname).2
  have hclbl : Clearable c s d := by
    by_contra hnot
    have hstd := hagr.storedEvents d hd hnot name (hmiss hname).1
    rw [getEventStatusByName, statusByName_eq, byName_eq_none.2 (hmiss hname).2] at hstd
    have hne : (0 : UdsStatus) ≠ clearedStatus := by decide
    exact hne hstd
  rw [flatMap_eq_of_one hnodup fun d' hd' => hone d' ((hl d').1 hd').1,
    flatMap_eq_of_one dtcCtxList_nodup hone, if_pos ((hl d).2 hclbl), if_pos hd]

theorem events_agree (h : Stores s) (hagr : ClearsAgree c s) :
    (clearDtc c s allDtcGroup).1.db.events = (l.foldl (clearOne c) s).db.events := by
  rw [clearAll_events h, foldl_clearOne_events h (unsuppressed_of_clearable hl),
    addAll_clearable hl hnodup hagr]
  apply mapStatus_congr
  intro r hr
  by_cases hname : r.eventName ∈ (dtcCtxList c).flatMap (eventNames c)
  · rw [if_pos hname, foldl_statusAfterClear_own]
    · intro d hd hid
      exact hagr.owned r hr hname d ((hl d).1 hd).1 ((hl d).1 hd) hid
    · obtain ⟨d, hd, hown⟩ := mem_flatMap.1 hname
      by_cases hclbl : Clearable c s d
      · exact .inl ⟨d, (hl d).2 hclbl, hown⟩
      exact .inr (status_of_read hr (hagr.storedEvents d hd hclbl _ hown))
  · rw [if_neg hname]
    have hoth : ∀ d ∈ l, r.eventName ∉ eventNames c d :=
      fun d hd hown => hname (mem_flatMap.2 ⟨d, ((hl d).1 hd).1, hown⟩)
    rw [foldl_statusAfterClear_other hoth]
    have hrow : r ∈ s.db.events.rows := by
      rcases mem_rows_addAll hr with hrow | ⟨hnew, -⟩
      · exact hrow
      · exact absurd hnew hname
    rcases hagr.others r hrow hname with hzero | hiff
    · rw [hzero, ite_self, ite_self]
    · exact if_congr (hiff.trans (exists_mem_clearables hl).symm) rfl rfl

end

theorem exists_clearables :
    ∃ l : List DtcCode, l.Nodup ∧ ∀ d, d ∈ l ↔ Clearable c s d := by
  refine ⟨(dtcCtxList c).filter fun d => decide (Clearable c s d), dtcCtxList_nodup.filter _, ?_⟩
  intro d
  rw [mem_filter, decide_eq_true_iff]
  exact and_iff_right_of_imp And.left

/-- The single clears in any order leave the table of the events that a clear of all leaves. -/
def EventsAgree (c : DemConf) (s : Dem) : Prop :=
  ∀ l : List DtcCode, l.Nodup → (∀ d, d ∈ l ↔ Clearable c s d) →
    (clearDtc c s allDtcGroup).1.db.events = (l.foldl (clearOne c) s).db.events

/-- Every DTC that can be cleared may come first, and may come last. -/
theorem exists_order (hd : Clearable c s d) : ∃ rest : List DtcCode,
    (d :: rest).Nodup ∧ (∀ d', d' ∈ d :: rest ↔ Clearable c s d') ∧
      (rest ++ [d]).Nodup ∧ ∀ d', d' ∈ rest ++ [d] ↔ Clearable c s d' := by
  let rest := (dtcCtxList c).filter fun d' => d' ≠ d ∧ Clearable c s d'
  have hmem : ∀ d', d' ∈ d :: rest ↔ Clearable c s d' := by
    intro d'
    rw [mem_cons, mem_filter]
    by_cases hsame : d' = d
    · simp [hsame, hd]
    · simp only [hsame, false_or, ne_eq, not_false_eq_true, true_and, decide_eq_true_eq]
      exact and_iff_right_of_imp And.left
  have hnodup : (d :: rest).Nodup := by
    rw [nodup_cons]
    exact ⟨by simp [rest], dtcCtxList_nodup.filter _⟩
  have hperm : (rest ++ [d]).Perm (d :: rest) := perm_append_singleton ..
  exact ⟨rest, hnodup, hmem, hperm.nodup_iff.2 hnodup, fun d' => hperm.mem_iff.trans (hmem d')⟩

section
variable (h : Stores s) (hevents : EventsAgree c s)
include h hevents

theorem completed_eq (hl : ∀ d, d ∈ l ↔ Clearable c s d) (hnodup : l.Nodup) :
    completed c s = addAll (l.flatMap (eventNames c)) s.db.events := by
  have heq := hevents l hnodup hl
  rw [clearAll_events h, foldl_clearOne_events h (unsuppressed_of_clearable hl)] at heq
  have hnms := congrArg names heq
  rw [names_mapStatus, names_mapStatus] at hnms
  unfold completed at hnms ⊢
  rw [names_addAll (eventNames_nodup (fun d hd => hd) dtcCtxList_nodup),
    names_addAll (eventNames_nodup (fun d hd => ((hl d).1 hd).1) hnodup)] at hnms
  have hnew := append_cancel_left hnms
  rw [← addAll_filter (p := (· ∉ s.db.events.names)) fun name _ hnew => decide_eq_true hnew, hnew,
    addAll_filter fun name _ hnew => decide_eq_true hnew]

theorem status_eq (hl : ∀ d, d ∈ l ↔ Clearable c s d) (hnodup : l.Nodup) {r : EventEntity}
    (hr : r ∈ (completed c s).rows) :
    (if r.eventName ∈ (dtcCtxList c).flatMap (eventNames c) then clearedStatus
      else if ∃ d ∈ s.db.getDtcWithUnsuppress, r.eventId ∈ getEventIds c d then 0
      else r.status) = l.foldl (statusAfterClear c r) r.status := by
  have heq := hevents l hnodup hl
  rw [clearAll_events h, foldl_clearOne_events h (unsuppressed_of_clearable hl),
    ← completed_eq h hevents hl hnodup] at heq
  exact eq_of_mapStatus_eq heq hr

theorem storedEvents_of_agree (hd : d ∈ dtcCtxList c) (hnot : ¬ Clearable c s d) {name : String}
    (hname : name ∈ eventNames c d) : s.db.getEventStatusByName name = clearedStatus := by
  obtain ⟨l, hnodup, hl⟩ := exists_clearables (c := c) (s := s)
  have hin : name ∈ (dtcCtxList c).flatMap (eventNames c) := mem_flatMap.2 ⟨d, hd, hname⟩
  have hrow : name ∈ (completed c s).names := mem_names_addAll.2 (.inr hin)
  obtain ⟨r, hr, rfl⟩ := mem_map.1 hrow
  have hoth : ∀ d' ∈ l, r.eventName ∉ eventNames c d' := by
    intro d' hd' hname'
    have hclbl := (hl d').1 hd'
    rw [← dtc_of_name hd hname hclbl.1 hname'] at hclbl
    exact hnot hclbl
  have hne : (0 : UdsStatus) ≠ clearedStatus := by decide
  have hstat := status_eq h hevents hl hnodup hr
  rw [if_pos hin, foldl_statusAfterClear_other hoth] at hstat
  split_ifs at hstat with hhit
  · exact absurd hstat.symm hne
  rcases mem_rows_addAll hr with hmem | ⟨-, hzero⟩
  · exact (statusByName_of_mem hmem).trans hstat.symm
  · exact absurd (hzero.symm.trans hstat.symm) hne

theorem first_missing {name : String} (hd : d ∈ dtcCtxList c) (hname : name ∈ eventNames c d)
    (hmiss : name ∉ s.db.events.names) : ∃ name' new, name' ∈ eventNames c d ∧
      (completed c s).names = s.db.events.names ++ name' :: new := by
  have hclbl : Clearable c s d := by
    by_contra hnot
    have hstd := storedEvents_of_agree h hevents hd hnot hname
    rw [getEventStatusByName, statusByName_eq, byName_eq_none.2 hmiss] at hstd
    have hne : (0 : UdsStatus) ≠ clearedStatus := by decide
    exact hne hstd
  obtain ⟨rest, hnodup, hl, -, -⟩ := exists_order hclbl
  have hne : (eventNames c d).filter (· ∉ s.db.events.names) ≠ [] := by
    apply ne_nil_of_mem (a := name)
    rw [mem_filter]
    exact ⟨hname, decide_eq_true hmiss⟩
  obtain ⟨name', new, hfst⟩ := exists_cons_of_ne_nil hne
  have hmem : name' ∈ (eventNames c d).filter (· ∉ s.db.events.names) :=
    hfst ▸ mem_cons_self ..
  have hnms := congrArg names (completed_eq h hevents hl hnodup)
  rw [names_addAll (eventNames_nodup (fun d hd => ((hl d).1 hd).1) hnodup), flatMap_cons,
    filter_append, hfst, cons_append] at hnms
  exact ⟨name', _, (mem_filter.1 hmem).1, hnms⟩

theorem owned_of_agree {r : EventEntity} (hr : r ∈ (completed c s).rows)
    (hin : r.eventName ∈ (dtcCtxList c).flatMap (eventNames c)) (hclbl : Clearable c s d)
    (hid : r.eventId ∈ getEventIds c d) : r.eventName ∈ eventNames c d := by
  by_contra hname
  obtain ⟨rest, -, -, hnodup, hl⟩ := exists_order hclbl
  have hstat := status_eq h hevents hl hnodup hr
  rw [if_pos hin, foldl_statusAfterClear_last hname hid] at hstat
  have hne : clearedStatus ≠ 0 := by decide
  exact hne hstat

theorem others_of_agree {r : EventEntity} (hr : r ∈ s.db.events.rows)
    (hnot : r.eventName ∉ (dtcCtxList c).flatMap (eventNames c)) :
    r.status = 0 ∨
      ((∃ d ∈ s.db.getDtcWithUnsuppress, r.eventId ∈ getEventIds c d) ↔
        ∃ d ∈ dtcCtxList c, Clearable c s d ∧ r.eventId ∈ getEventIds c d) := by
  obtain ⟨l, hnodup, hl⟩ := exists_clearables (c := c) (s := s)
  have hoth : ∀ d ∈ l, r.eventName ∉ eventNames c d :=
    fun d hd hown => hnot (mem_flatMap.2 ⟨d, ((hl d).1 hd).1, hown⟩)
  have hstat := status_eq h hevents hl hnodup (subset_rows_addAll hr)
  rw [if_neg hnot, foldl_statusAfterClear_other hoth] at hstat
  rw [← exists_mem_clearables hl]
  by_cases hzero : r.status = 0
  · exact .inl hzero
  right
  by_cases hall : ∃ d ∈ s.db.getDtcWithUnsuppress, r.eventId ∈ getEventIds c d
  · rw [if_pos hall] at hstat
    by_contra hiff
    rw [if_neg fun hsgl => hiff ⟨fun _ => hsgl, fun _ => hall⟩] at hstat
    exact hzero hstat.symm
  · rw [if_neg hall] at hstat
    by_contra hiff
    have hsgl : ∃ d ∈ l, r.eventId ∈ getEventIds c d := by
      by_contra hnone
      exact hiff ⟨fun h => absurd h hall, fun h => absurd h hnone⟩
    rw [if_pos hsgl] at hstat
    exact hzero hstat

end

/-- Clearing all DTCs is the sum of the single clears exactly where the two agree on what the
clears of the DTCs leave out. -/
theorem clearAll_isSum (h : Stores s) : ClearAllIsSum c s ↔ ClearsAgree c s := by
  constructor
  · intro hsum
    have hsame : ∀ l : List DtcCode, l.Nodup → (∀ d, d ∈ l ↔ Clearable c s d) →
        SameState (clearDtc c s allDtcGroup).1 (l.foldl (clearOne c) s) := by
      intro l hnodup hl
      obtain ⟨ds, hperm, heq⟩ := exists_clearEach_eq h hnodup hl
      rw [← heq]
      exact hsum.sum ds hperm
    have hevents : EventsAgree c s := fun l hnodup hl => (hsame l hnodup hl).events
    obtain ⟨l, hnodup, hl⟩ := exists_clearables (c := c) (s := s)
    obtain ⟨hmemory, hdtcs, -, hsnapshots⟩ := hsame l hnodup hl
    rw [clearAll_memory h, foldl_clearOne_memory] at hmemory
    obtain ⟨hstored, hforeign⟩ := (dtcs_agree_iff hl h).1 hdtcs
    constructor
    · exact (memory_agree_iff hl).1 hmemory
    · exact hstored
    · intro d hd hnot name hname
      exact storedEvents_of_agree h hevents hd hnot hname
    · exact hforeign
    · exact (snapshots_agree_iff hl h).1 hsnapshots
    · intro d hd d' hd' name hname name' hname' hnew hnew'
      obtain ⟨first, new, hfirst, heq⟩ := first_missing h hevents hd hname hnew
      obtain ⟨first', new', hfirst', heq'⟩ := first_missing h hevents hd' hname' hnew'
      have hcons := append_cancel_left (heq.symm.trans heq')
      rw [(cons.inj hcons).1] at hfirst
      exact dtc_of_name hd hfirst hd' hfirst'
    · intro r hr hin d _ hclearable hid
      exact owned_of_agree h hevents hr hin hclearable hid
    · intro r hr hnot
      exact others_of_agree h hevents hr hnot
  · intro hagree
    have hrefused : ∀ d ∈ dtcCtxList c, (s.dtc d).suppressionStatus = true →
        ¬ Clearable c s d := by
      rintro d _ hsuppressed ⟨-, -, hmemory, -⟩
      rw [hsuppressed] at hmemory
      cases hmemory
    constructor
    · intro ds hperm
      obtain ⟨l, hnodup, hl, heq⟩ := clearEach_eq_of_perm h hperm
      rw [heq]
      constructor
      · rw [clearAll_memory h, foldl_clearOne_memory]
        exact (memory_agree_iff hl).2 hagree.memory
      · exact (dtcs_agree_iff hl h).2 ⟨hagree.stored, hagree.foreign⟩
      · exact events_agree hl hnodup h hagree
      · exact (snapshots_agree_iff hl h).2 hagree.snapshots
    · intro d hd hsuppressed
      have hnot := hrefused d hd hsuppressed
      obtain ⟨hstatus, hcounter, -⟩ := hagree.memory d hd hnot
      obtain ⟨hrowStatus, hrowCounter, hrest⟩ := hagree.stored d hd hnot
      constructor
      · rw [clearAll_dtc h hd, ← hstatus, ← hcounter]
      rw [clearAll_storedDtc h hd, dtcRow_deleteAllData h]
      by_cases hsuppression : (s.db.dtcRow d).suppression = false
      · rw [if_pos hsuppression, hrest hsuppression]
        rfl
      · rw [if_neg hsuppression, ← hrowStatus, ← hrowCounter]
    · intro d hd hsuppressed e he
      have hnot := hrefused d hd hsuppressed
      have hname : (c.event e).mnemonic ∈ eventNames c d := mem_map.2 ⟨e, he, rfl⟩
      rw [clearAll_event h hd he, clearAll_storedEvent h hd he,
        hagree.storedEvents d hd hnot _ hname]
      exact ⟨(hagree.memory d hd hnot).2.2 e he, rfl⟩

/-- A cleared DTC is suppressed, and the other one fails: both ways of clearing agree. -/
theorem clearAll_isSum_twoDtcs :
    ∃ s, exec (step (twoDtcs 1)) (initDem (twoDtcs 1) (Database.newDatabase (twoDtcs 1)))
        [.clearDtc 0x200, .setDtcSuppression 0x200 true, .setEnableCondition 1 true,
          .setOperCycleState 0 .start, .setStatus 1 .failed] = some s ∧
      ClearAllIsSum (twoDtcs 1) s := by
  refine ⟨_, rfl, (clearAll_isSum (by exact rfl)).2 ⟨?_, ?_, ?_, ?_, ?_, ?_, ?_, ?_⟩⟩
  all_goals decide

/-- The status of a suppressed DTC, whose own clear is refused, is lost in memory and in the
database. -/
theorem clearAll_clears_suppressed :
    ∃ s, exec (step (twoDtcs 1)) (initDem (twoDtcs 1) (Database.newDatabase (twoDtcs 1)))
        [.setEnableCondition 1 true, .setOperCycleState 0 .start, .setStatus 1 .failed,
          .setDtcSuppression 0x100 true] = some s ∧
      (clearDtc (twoDtcs 1) s 0x100).2 = .unavailable ∧
      (s.db.dtcRow 0x100).status = 0x2F ∧
      ((clearEach (twoDtcs 1) s [0x100, 0x200]).db.dtcRow 0x100).status = 0x2F ∧
      ((clearDtc (twoDtcs 1) s allDtcGroup).1.db.dtcRow 0x100).status = 0x50 ∧
      ¬ ClearAllIsSum (twoDtcs 1) s := by
  refine ⟨_, rfl, by decide, by decide, by decide, by decide, ?_⟩
  intro hsum
  have hkept := (hsum.dtcs 0x100 (by decide) (by decide)).2
  exact absurd (congrArg DtcEntity.status hkept) (by decide)

end TelAF.EventServer
