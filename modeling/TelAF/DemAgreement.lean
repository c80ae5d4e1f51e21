import TelAF.DtcClears

/-!
# The memory and the database of the event manager

The contexts in the memory hold what the database holds: a restart, which reads
the contexts from the database, would change none of them. Every operation writes
the two copies on its own. They stay equal but for three operations: a clear makes
a DTC active in the database alone, a clear of one DTC may hit the row of another
event, and a suppression of all DTCs misses a DTC without a row.
-/

namespace TelAF.EventServer
open DemConfiguration EventStatus DemDatabase KeyedTable TransitionRuns Database Function Dem

def ctxOfRow (row : DtcEntity) : DtcCtx where
  dtcStatus := row.status
  occurrenceCounter := row.faultOccurenceCounter
  activationStatus := row.activation
  suppressionStatus := row.suppression

structure Agrees (c : DemConf) (s : Dem) : Prop where
  event : ∀ e ∈ eventCtxList c,
    (s.event e).eventUdsStatus = s.db.getEventStatusByName (c.event e).mnemonic
  dtc : ∀ d ∈ dtcCtxList c, s.dtc d = ctxOfRow (s.db.dtcRow d)

/-- The rows with the configured ids of the events of a DTC hold no status of other events. -/
def HitsNoOther (c : DemConf) (db : Database) (d : DtcCode) : Prop :=
  ∀ e ∈ eventCtxList c, e ∉ getEventNodes c d → ∀ r ∈ db.events.rows,
    r.eventName = (c.event e).mnemonic → r.eventId ∈ Database.getEventIds c d → r.status = 0
deriving Decidable

/-- The condition for the clears and for the suppression of all DTCs: what is cleared is
active, no other row is hit, and every DTC that is suppressed has a row. -/
def KeepsAgreement (c : DemConf) (s : Dem) : Action → Prop
  | .clearDtc d =>
    if d = allDtcGroup then ∀ d ∈ dtcCtxList c, (s.dtc d).suppressionStatus = false →
      (s.dtc d).activationStatus = true
    else d ∈ dtcCtxList c → (s.dtc d).suppressionStatus = false →
      (s.dtc d).activationStatus = true ∧ HitsNoOther c s.db d
  | .setAllDtcSuppression true => ∀ d ∈ dtcCtxList c, d ∈ s.db.dtcs.keys
  | _ => True

instance (c : DemConf) : DecidableRel (KeepsAgreement c) := fun _ a => by
  unfold KeepsAgreement
  split <;> infer_instance

variable {c : DemConf} {s t : Dem} {e : EventId} {d d' : DtcCode}

theorem agrees_initDem (c : DemConf) (db : Database) : Agrees c (initDem c db) where
  event := fun _ _ => rfl
  dtc := by
    intro d _
    unfold ctxOfRow
    rw [← readStatusByDtc_eq, ← readOccurrenceCounterByDtc_eq,
      ← readActivationByDtc_eq, ← readSuppression_eq]
    rfl

/-- Where the two agree, a restart reads the contexts that are there. -/
theorem Agrees.restart (h : Agrees c s) :
    (∀ e ∈ eventCtxList c,
        ((initDem c s.db).event e).eventUdsStatus = (s.event e).eventUdsStatus) ∧
      ∀ d ∈ dtcCtxList c, (initDem c s.db).dtc d = s.dtc d := by
  constructor
  · intro e he
    rw [h.event e he]
    rfl
  · intro d hd
    rw [h.dtc d hd]
    exact (agrees_initDem c s.db).dtc d hd

/-- What changes no status of the memory and nothing in the database keeps the agreement. -/
theorem Agrees.of_same (h : Agrees c s)
    (hev : ∀ e ∈ eventCtxList c, (t.event e).eventUdsStatus = (s.event e).eventUdsStatus)
    (hdtc : t.dtc = s.dtc) (hdb : t.db = s.db) : Agrees c t := by
  constructor
  · intro e he
    rw [hev e he, hdb]
    exact h.event e he
  · intro d hd
    rw [hdtc, hdb]
    exact h.dtc d hd

theorem agrees_setEvent {ctx : EventCtx} (h : Agrees c s)
    (hstat : ctx.eventUdsStatus = (s.event e).eventUdsStatus) : Agrees c (s.setEvent e ctx) := by
  refine Agrees.of_same (t := s.setEvent e ctx) h ?_ rfl rfl
  intro e' _
  rw [setEvent_event]
  by_cases he : e' = e
  · rw [he, update_self, hstat]
  · rw [update_of_ne he]

/-- A changed event is stored under its name, which no other event has. -/
theorem agrees_storeEvent {ctx : EventCtx} (hsto : Stores s) (he : e ∈ eventCtxList c)
    (h : Agrees c s) :
    Agrees c (storeEventIfChanged c (s.setEvent e ctx) e (s.event e).eventUdsStatus).1 := by
  unfold storeEventIfChanged
  split_ifs with hchgd
  swap
  · rw [setEvent_event, update_self, not_not] at hchgd
    exact agrees_setEvent h hchgd.symm
  constructor
  · intro e' he'
    have hstd : (storeAndReportEventUdsStatus c (s.setEvent e ctx) e).1.db =
        (s.db.setEventStatusByName (c.event e).mnemonic ctx.eventUdsStatus).1 := by
      unfold storeAndReportEventUdsStatus
      rw [setEvent_event, update_self]
      rfl
    rw [hstd, getEventStatus_putEventStatus hsto,
      storeEventStatus_toMemory, setEvent_event]
    by_cases hsame : e' = e
    · rw [hsame, update_self, if_pos rfl]
    have hname : (c.event e').mnemonic ≠ (c.event e).mnemonic :=
      fun hname => hsame (eventCtxList_mnemonic_inj he' he hname)
    rw [update_of_ne hsame, if_neg hname]
    exact h.event e' he'
  · intro d hd
    have hdtcs : (storeAndReportEventUdsStatus c (s.setEvent e ctx) e).1.db.dtcRow d
        = s.db.dtcRow d := by
      unfold storeAndReportEventUdsStatus store
      dsimp only
      rw [setEvent_db, putEventStatus_eq hsto]
      rfl
    rw [hdtcs]
    exact h.dtc d hd

theorem agrees_writeByDtc {f : DtcEntity → DtcEntity} {ctx : DtcCtx} (hsto : Stores s)
    (h : Agrees c s) (hkey : ∀ r, (f r).dtc = r.dtc) (hev : t.event = s.event)
    (hdtc : t.dtc = update s.dtc d ctx) (hdb : t.db = (s.db.writeByDtc d f).1)
    (hctx : d ∈ dtcCtxList c → ctx = ctxOfRow (f (s.db.dtcRow d))) : Agrees c t := by
  constructor
  · intro e he
    have hevs : t.db.events = s.db.events := by
      rw [hdb]
      exact (writeByDtc_events hsto f).1
    unfold getEventStatusByName
    rw [hev, hevs]
    exact h.event e he
  · intro d' hd'
    rw [hdtc, hdb, dtcRow_writeByDtc hsto hkey]
    by_cases hsame : d' = d
    · rw [hsame, update_self, if_pos rfl]
      exact hctx (hsame ▸ hd')
    · rw [update_of_ne hsame, if_neg hsame]
      exact h.dtc d' hd'

/-- A DTC whose status or counter has changed is stored with both. -/
theorem agrees_storeDtc {ctx : DtcCtx} (hsto : Stores s) (h : Agrees c s)
    (hactn : ctx.activationStatus = (s.dtc d).activationStatus)
    (hsupp : ctx.suppressionStatus = (s.dtc d).suppressionStatus) :
    Agrees c (storeDtcIfChanged (s.setDtc d ctx) d (s.dtc d)).1 := by
  unfold storeDtcIfChanged
  split_ifs with hchgd
  · have hstd : (storeAndReportDtcStatus (s.setDtc d ctx) d).1.db =
        (s.db.writeStatusByDtc d ctx.dtcStatus ctx.occurrenceCounter).1 := by
      unfold storeAndReportDtcStatus
      rw [setDtc_dtc, update_self]
      rfl
    refine agrees_writeByDtc (t := (storeAndReportDtcStatus (s.setDtc d ctx) d).1)
      (f := fun row =>
        { row with status := ctx.dtcStatus, faultOccurenceCounter := ctx.occurrenceCounter })
      hsto h (fun _ => rfl) rfl rfl hstd ?_
    intro hd
    have hrow := h.dtc d hd
    rw [hrow] at hactn hsupp
    obtain ⟨status, counter, activation, suppression⟩ := ctx
    cases hactn
    cases hsupp
    rfl
  · rw [setDtc_dtc, update_self, not_or, not_not, not_not] at hchgd
    have hsame : s.setDtc d ctx = s := by
      have hctx : ctx = s.dtc d := by
        obtain ⟨status, counter, activation, suppression⟩ := ctx
        cases hactn
        cases hsupp
        obtain ⟨hcntr, hstat⟩ := hchgd
        dsimp only at hcntr hstat
        rw [hstat, ← hcntr]
      unfold setDtc
      rw [hctx, update_eq_self]
    rw [hsame]
    exact h

/-- The memory and the database agree, and writes succeed. -/
def AgreesStoring (c : DemConf) (s : Dem) : Prop := Stores s ∧ Agrees c s

theorem agrees_onFaultStatus {old : StatusType} (he : e ∈ eventCtxList c)
    (h : AgreesStoring c s) : AgreesStoring c (updateOnFaultStatus c s e old).1 := by
  have hev : ∀ ctx, AgreesStoring c
      (storeEventIfChanged c (s.setEvent e ctx) e (s.event e).eventUdsStatus).1 :=
    fun ctx => ⟨(does_storeEvent (by exact h.1) _).stores,
      agrees_storeEvent h.1 he h.2⟩
  unfold updateOnFaultStatus
  split_ifs
  · exact h
  cases (s.event e).eventFaultStatus with
  | failed =>
    apply thenDo_invariant (hev _)
    intro t ht
    exact ⟨(does_updateDtcOnFailed (by exact ht.1)).stores,
      agrees_storeDtc (by exact ht.1) (ht.2.of_same (fun _ _ => rfl) rfl rfl) rfl rfl⟩
  | passed =>
    apply thenDo_invariant (hev _)
    intro t ht
    exact ⟨(does_updateDtcOnPassed ht.1).stores, agrees_storeDtc ht.1 ht.2 rfl rfl⟩
  | _ => exact h

theorem agrees_setStatus (eventStatus : StatusType) (h : AgreesStoring c s) :
    AgreesStoring c (setStatusWithSupplierFaultCode c s e eventStatus).1 := by
  unfold setStatusWithSupplierFaultCode
  split_ifs with hknown
  · exact h
  · exact h
  dsimp only
  have he : e ∈ eventCtxList c := by tauto
  rcases hdeb : debounceEvent (c.event e).debounce (s.event e) eventStatus with _ | settled
  · exact ⟨h.1, h.2.of_same (fun _ _ => rfl) rfl rfl⟩
  have hset : Agrees c (s.setEvent e settled.1) :=
    agrees_setEvent h.2 (debounceEvent_spec hdeb).1
  exact agrees_onFaultStatus he ⟨h.1, hset.of_same (fun _ _ => rfl) rfl rfl⟩

theorem agrees_debounceTimer (he : e ∈ eventCtxList c) (h : AgreesStoring c s) :
    AgreesStoring c (timeBasedDebounceTimerHandler c s e) := by
  rw [debounceTimer_eq]
  refine agrees_onFaultStatus he ⟨h.1, agrees_setEvent h.2 ?_⟩
  unfold expiredEvent
  split <;> rfl

theorem agrees_updateEventAndDtc {onEvent : EventCtx → EventCtx}
    {onStatus : UdsStatus → UdsStatus} (he : e ∈ eventCtxList c) (h : AgreesStoring c s) :
    AgreesStoring c (updateEventAndDtc c onEvent onStatus s e).1 := by
  apply thenDo_invariant (P := AgreesStoring c)
  · exact ⟨(does_storeEvent (by exact h.1) _).stores,
      agrees_storeEvent h.1 he h.2⟩
  intro t ht
  exact ⟨(does_storeDtc (by exact ht.1) _).stores,
    agrees_storeDtc ht.1 ht.2 rfl rfl⟩

theorem agrees_startCycle (cycle : CycleId) (h : AgreesStoring c s) :
    AgreesStoring c (startOperationCycle c s cycle).1 :=
  forEach_invariant (fun _ _ he ht => agrees_updateEventAndDtc (mem_cycleEvents.1 he).1 ht) h

theorem agrees_stopCycle (cycle : CycleId) (h : AgreesStoring c s) :
    AgreesStoring c (stopOperationCycle c s cycle).1 :=
  forEach_invariant (fun _ _ he ht => agrees_updateEventAndDtc (mem_cycleEvents.1 he).1 ht) h

theorem agrees_setOperCycleState (cycle : CycleId) (state : OperationCycleState)
    (h : AgreesStoring c s) : AgreesStoring c (setOperCycleState c s cycle state).1 := by
  rcases setOperCycleState_cases c s cycle state with
    ⟨hsame, -⟩ | ⟨-, ⟨-, -, heq⟩ | ⟨-, -, heq⟩ | ⟨-, -, heq⟩⟩
  · rw [hsame]
    exact h
  · rw [heq]
    apply thenDo_invariant (agrees_stopCycle cycle h)
    intro t ht
    exact agrees_startCycle cycle ht
  · rw [heq]
    apply thenDo_invariant (agrees_startCycle cycle h)
    exact fun t ht => ⟨ht.1, ht.2.of_same (fun _ _ => rfl) rfl rfl⟩
  · rw [heq]
    apply thenDo_invariant (agrees_stopCycle cycle h)
    exact fun t ht => ⟨ht.1, ht.2.of_same (fun _ _ => rfl) rfl rfl⟩

theorem agrees_setDtcSetting (activation : Bool) (h : AgreesStoring c s) :
    AgreesStoring c (setDtcSetting c s d activation).1 := by
  refine ⟨stores_setDtcSetting activation h.1, ?_⟩
  unfold setDtcSetting
  split_ifs with hd
  · have hok : (s.store (·.writeActivationByDtc d activation)).2 = .ok :=
      (succeeds_writeByDtc _ s.db h.1).2
    rw [thenDo_of_ok hok]
    refine agrees_writeByDtc (f := fun row => { row with activation := activation }) h.1 h.2
      (fun _ => rfl) rfl rfl rfl fun _ => ?_
    rw [store_toMemory, h.2.dtc d hd]
    rfl
  · exact h.2

theorem agrees_setSuppression (suppression : Bool) (h : AgreesStoring c s) :
    AgreesStoring c (setDtcSuppression c s d suppression).1 := by
  refine ⟨stores_setSuppression suppression h.1, ?_⟩
  unfold setDtcSuppression
  split_ifs with hd
  · have hok : (s.store (·.writeSuppressionByDtc d suppression)).2 = .ok :=
      (succeeds_writeByDtc _ s.db h.1).2
    rw [thenDo_of_ok hok]
    refine agrees_writeByDtc (f := fun row => { row with suppression := suppression }) h.1 h.2
      (fun _ => rfl) rfl rfl rfl fun _ => ?_
    rw [store_toMemory, h.2.dtc d hd]
    rfl
  · exact h.2

theorem agrees_setAllSuppression (suppression : Bool) (h : AgreesStoring c s)
    (hrows : suppression = true → ∀ d ∈ dtcCtxList c, d ∈ s.db.dtcs.keys) :
    AgreesStoring c (setAllDtcSuppression c s suppression).1 := by
  refine ⟨stores_setAllSuppression suppression h.1, ?_⟩
  have hok : (s.store (·.writeAllSuppression suppression)).2 = .ok :=
    (succeeds_writeAllSuppression suppression s.db h.1).2
  have hqry : ∀ d, (s.store (·.writeAllSuppression suppression)).1.db.dtcs.query d =
      (s.db.dtcs.query d).map fun r => { r with suppression := suppression } :=
    fun d => query_writeAllSuppression h.1 suppression
  have hevs : (s.store (·.writeAllSuppression suppression)).1.db.events = s.db.events := by
    unfold store writeAllSuppression
    dsimp only
    rw [write_eq h.1]
  unfold setAllDtcSuppression
  rw [thenDo_of_ok hok]
  constructor
  · intro e he
    unfold getEventStatusByName
    rw [(updateSuppression_kept suppression).1,
      (updateSuppression_kept suppression).2, hevs]
    exact h.2.event e he
  intro d hd
  rw [updateSuppression_dtc, if_pos hd,
    (updateSuppression_kept suppression).2, store_toMemory, h.2.dtc d hd]
  unfold dtcRow
  rw [hqry]
  cases hrow : s.db.dtcs.query d with
  | none =>
    have hfal : suppression = false := by
      by_contra htrue
      exact Table.query_eq_none.1 hrow (hrows (by simpa using htrue) d hd)
    rw [hfal]
    rfl
  | some row => rfl

theorem agrees_clearAllDtc (h : AgreesStoring c s)
    (hact : ∀ d ∈ dtcCtxList c, (s.dtc d).suppressionStatus = false →
      (s.dtc d).activationStatus = true) : AgreesStoring c (clearAllDtc c s).1 := by
  have hdel : Stores { s with db := (s.db.deleteAllData c).1 } :=
    (succeeds_deleteAllData s.db h.1).1
  rw [clearAllDtc_eq h.1]
  refine ⟨stores_foldl_clear _ hdel, ?_, ?_⟩
  · intro e he
    obtain ⟨hctx, hnode⟩ := dtcCode_spec he
    have hname : (c.event e).mnemonic ∈ eventNames c (dtcCode c e) :=
      List.mem_map.2 ⟨e, hnode, rfl⟩
    rw [foldl_clear_status _ hdel, if_pos ⟨_, hctx, hname⟩]
    exact (foldl_clearData_event _ e ⟨_, hctx, hnode⟩ _).1
  intro d hd
  rw [foldl_clear_dtc, foldl_clear_dtcRow _ hdel, dtcRow_deleteAllData h.1]
  have hrow := h.2.dtc d hd
  have hunsup := hact d hd
  rw [hrow] at hunsup ⊢
  split_ifs with hsupp
  · have hactn : (s.db.dtcRow d).activation = true := hunsup hsupp
    unfold ctxOfRow
    rw [hactn, hsupp]
    rfl
  · rfl

theorem agrees_clearSingleDtc (h : AgreesStoring c s)
    (hkps : d ∈ dtcCtxList c → (s.dtc d).suppressionStatus = false →
      (s.dtc d).activationStatus = true ∧ HitsNoOther c s.db d) :
    AgreesStoring c (clearSingleDtc c s d).1 := by
  rcases clearSingleDtc_cases (c := c) (d := d) h.1 with
    ⟨result, -, heq⟩ | ⟨hd, hsupp, hstd, heq⟩
  · rw [heq]
    exact h
  obtain ⟨hactn, hoth⟩ := hkps hd hsupp
  have hdel := stores_deleteData (c := c) h.1 hstd
  rw [heq]
  refine ⟨stores_clearData hdel, ?_, ?_⟩
  · intro e he
    rw [clearData_status hdel, clearData_event]
    by_cases hnode : e ∈ getEventNodes c d
    · have hname : (c.event e).mnemonic ∈ eventNames c d := List.mem_map.2 ⟨e, hnode, rfl⟩
      rw [if_pos hnode, if_pos hname]
      exact (freshlyCleared_clearedEvent ..).1
    have hname : (c.event e).mnemonic ∉ eventNames c d := by
      intro hname
      obtain ⟨e', he', hsame⟩ := List.mem_map.1 hname
      rw [eventCtxList_mnemonic_inj (mem_eventCtxList_of_node hd he') he hsame] at he'
      exact hnode he'
    rw [getEventStatus_deleteData h.1 hstd]
    split_ifs with hhit
    · obtain ⟨r, hr, hrnam, hid⟩ := hhit
      have hzero := hoth e he hnode r hr hrnam hid
      rw [h.2.event e he, getEventStatusByName, EventTable.statusByName_eq,
        EventTable.byName_eq_some.2 ⟨hr, hrnam⟩]
      exact hzero
    · exact h.2.event e he
  · intro d' hd'
    rw [clearData_dtc]
    by_cases hsame : d' = d
    · rw [hsame, update_self, dtcRow_of_query (by
        rw [clearData_query hdel, if_pos rfl])]
      dsimp only
      rw [dtcRow_deleteData h.1 hstd, if_pos rfl]
      rw [hactn, hsupp]
      rfl
    · rw [update_of_ne hsame]
      unfold dtcRow
      rw [clearData_query hdel, if_neg hsame]
      rw [query_deleteData h.1 hstd, if_neg hsame]
      exact h.2.dtc d' hd'

theorem agrees_step {a : Action} (hkps : KeepsAgreement c s a) (h : AgreesStoring c s)
    (hstep : step c s a = some t) : AgreesStoring c t := by
  cases a with
  | setStatus e eventStatus =>
    cases hstep
    exact agrees_setStatus eventStatus h
  | debounceTimerExpires e =>
    obtain ⟨⟨he, _⟩, heq⟩ := Option.ite_none_right_eq_some.1 hstep
    cases heq
    exact agrees_debounceTimer he h
  | fdcTimerExpires e =>
    obtain ⟨_, heq⟩ := Option.ite_none_right_eq_some.1 hstep
    cases heq
    have hset : Agrees c (s.setEvent e { s.event e with fdcTimerRunning := false }) :=
      agrees_setEvent h.2 rfl
    exact ⟨h.1, hset.of_same (fun _ _ => rfl) rfl rfl⟩
  | setOperCycleState cycle state =>
    cases hstep
    exact agrees_setOperCycleState cycle state h
  | setEnableCondition id fulfilled =>
    refine ⟨step_stores h.1 hstep, ?_⟩
    cases hstep
    obtain ⟨hdtc, -, hdb⟩ := setEnableCondition_kept (c := c) (s := s) id fulfilled
    apply h.2.of_same _ hdtc hdb
    intro e he
    unfold setEnableCondition
    rw [setEnableStatus_event id he]
    exact (sameCore_enableEvent ..).1
  | resetDebounceStatus e status =>
    refine ⟨step_stores h.1 hstep, ?_⟩
    cases hstep
    apply h.2.of_same (fun e' _ => (sameCore_resetDebounceStatus e status).1)
    all_goals
      unfold resetDebounceStatus
      dsimp only
      split_ifs <;> rfl
  | clearDtc d =>
    cases hstep
    dsimp only [KeepsAgreement] at hkps
    unfold clearDtc
    split_ifs at hkps ⊢
    · exact agrees_clearAllDtc h hkps
    · exact agrees_clearSingleDtc h hkps
  | disableDtcSetting d =>
    cases hstep
    exact agrees_setDtcSetting false h
  | enableDtcSetting d =>
    cases hstep
    exact agrees_setDtcSetting true h
  | setDtcSuppression d suppressed =>
    cases hstep
    exact agrees_setSuppression suppressed h
  | setAllDtcSuppression suppressed =>
    cases hstep
    cases suppressed with
    | true => exact agrees_setAllSuppression true h fun _ => hkps
    | false => exact agrees_setAllSuppression false h (by simp)

/-- In a run from the initialisation by a database, in which the clears and suppressions
meet their condition, a restart would find every status, counter and flag as it is. -/
theorem restart_run {as : List Action} {db : Database} (hsto : db.faults = [])
    (hkeeps : Meets (step c) (KeepsAgreement c) (initDem c db) as)
    (hrun : exec (step c) (initDem c db) as = some t) :
    (∀ e ∈ eventCtxList c,
        ((initDem c t.db).event e).eventUdsStatus = (t.event e).eventUdsStatus) ∧
      ∀ d ∈ dtcCtxList c, (initDem c t.db).dtc d = t.dtc d := by
  have hinit : AgreesStoring c (initDem c db) := ⟨hsto, agrees_initDem c db⟩
  have hagrees : AgreesStoring c t :=
    exec_invariant (fun _ _ _ hs hok hstep => agrees_step hok hs hstep) hinit hkeeps hrun
  exact hagrees.2.restart

theorem restart_run_twoDtcs :
    ∃ t, exec (step (twoDtcs 1)) (initDem (twoDtcs 1) (Database.newDatabase (twoDtcs 1)))
        [.setEnableCondition 1 true, .setOperCycleState 0 .start, .setStatus 1 .failed,
          .setStatus 2 .failed, .clearDtc 0x100, .setAllDtcSuppression true] = some t ∧
      (∀ e ∈ eventCtxList (twoDtcs 1),
          ((initDem (twoDtcs 1) t.db).event e).eventUdsStatus = (t.event e).eventUdsStatus) ∧
        ∀ d ∈ dtcCtxList (twoDtcs 1), (initDem (twoDtcs 1) t.db).dtc d = t.dtc d := by
  obtain ⟨t, hrun⟩ : ∃ t, exec (step (twoDtcs 1))
      (initDem (twoDtcs 1) (Database.newDatabase (twoDtcs 1)))
      [.setEnableCondition 1 true, .setOperCycleState 0 .start, .setStatus 1 .failed,
        .setStatus 2 .failed, .clearDtc 0x100, .setAllDtcSuppression true] = some t := ⟨_, rfl⟩
  exact ⟨t, hrun, restart_run rfl (by decide) hrun⟩

/-- A disabled DTC is cleared: the database then has it active, the memory does not. -/
theorem clear_activates_stored_dtc :
    ∃ t, exec (step (twoDtcs 1)) (initDem (twoDtcs 1) (Database.newDatabase (twoDtcs 1)))
        [.disableDtcSetting 0x100, .clearDtc 0x100] = some t ∧
      0x100 ∈ dtcCtxList (twoDtcs 1) ∧ (t.dtc 0x100).activationStatus = false ∧
      t.db.readActivationByDtc 0x100 = true ∧
      (initDem (twoDtcs 1) t.db).dtc 0x100 ≠ t.dtc 0x100 :=
  ⟨_, rfl, by decide, by decide, by decide, by decide⟩

end TelAF.EventServer
