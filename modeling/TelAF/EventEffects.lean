import TelAF.EventServer

/-!
# Effects of the operations of the event server

What an operation does to the memory, in terms of the contexts it changes. The
first part holds whether the writes to the database succeed or not: an event is
changed in the memory before anything is written. The second part is about a
database in which no write fails, where every loop comes to its end.
-/

namespace TelAF.EventServer
open DemConfiguration EventStatus DemDatabase Function Database Dem Option List

section
variable {σ κ ν : Type*} [DecidableEq κ] (view : σ → κ → ν)

/-- Rounds that change their own key only, each key at most once. -/
theorem foldl_changes (change : κ → ν → ν) {round : σ → κ → σ}
    (hrnd : ∀ s k, view (round s k) = update (view s) k (change k (view s k)))
    {l : List κ} (hl : l.Nodup) (s : σ) (k : κ) :
    view (l.foldl round s) k = if k ∈ l then change k (view s k) else view s k := by
  induction l generalizing s with
  | nil => simp
  | cons a rest ih =>
    obtain ⟨hnot, hrest⟩ := nodup_cons.1 hl
    rw [foldl_cons, ih hrest, hrnd]
    by_cases hk : k = a
    · rw [hk, if_neg hnot, if_pos (mem_cons_self ..), update_self]
    · rw [update_of_ne hk]
      simp [hk]

/-- The same for rounds that may change a key repeatedly, when a change made twice is the
change made once. -/
theorem foldl_changes_idem {α : Type*} {round : σ → α → σ} (key : α → κ) {f : ν → ν}
    (hrnd : ∀ s a, view (round s a) = update (view s) (key a) (f (view s (key a))))
    (hidem : ∀ v, f (f v) = f v) (l : List α) (s : σ) (k : κ) :
    view (l.foldl round s) k = if k ∈ l.map key then f (view s k) else view s k := by
  induction l generalizing s with
  | nil => simp
  | cons a rest ih =>
    rw [foldl_cons, ih, hrnd]
    by_cases hk : k = key a
    · rw [hk, update_self, hidem, ite_self, if_pos (by simp)]
    · rw [update_of_ne hk]
      simp [hk]

end

variable {c : DemConf} {s : Dem} {e : EventId} {d : DtcCode}

@[simp] theorem store_toMemory (call : Database → Database × LeResult) :
    (s.store call).1.toMemory = s.toMemory := rfl

@[simp] theorem storeEventStatus_toMemory :
    (storeAndReportEventUdsStatus c s e).1.toMemory = s.toMemory := rfl

@[simp] theorem storeEvent_toMemory (oldStatus : UdsStatus) :
    (storeEventIfChanged c s e oldStatus).1.toMemory = s.toMemory := by
  unfold storeEventIfChanged
  split_ifs <;> rfl

@[simp] theorem storeDtc_toMemory (old : DtcCtx) :
    (storeDtcIfChanged s d old).1.toMemory = s.toMemory := by
  unfold storeDtcIfChanged
  split_ifs <;> rfl

/-- The event after its debouncer has settled on a fault status. -/
def judgedEvent (confirmationThreshold : UInt8) (oldEventFaultStatus : StatusType)
    (ctx : EventCtx) : EventCtx :=
  if oldEventFaultStatus = ctx.eventFaultStatus then ctx else
  match ctx.eventFaultStatus with
  | .failed => onFailed confirmationThreshold ctx
  | .passed => onPassed ctx
  | _ => ctx

/-- The event as its debouncer leaves it after a report, where the report is accepted. -/
def acceptedReport (c : DemConf) (s : Dem) (e : EventId) (eventStatus : StatusType) :
    Option EventCtx :=
  if e ∈ eventCtxList c ∧ eventStatus ≠ .unknown ∧ checkEventCondition c s e = .ok then
    (debounceEvent (c.event e).debounce (s.event e) eventStatus).map Prod.fst
  else none

/-- The event as its debounce timer leaves it. -/
def expiredEvent (ctx : EventCtx) : EventCtx :=
  match ctx.timerType with
  | .prefailed => { ctx with
      timerRunning := false
      debounceCounter := maxFaultDetectionCounter
      eventFaultStatus := .failed }
  | .prepassed => { ctx with
      timerRunning := false
      debounceCounter := minFaultDetectionCounter
      eventFaultStatus := .passed }
  | .unknown => { ctx with timerRunning := false }

theorem updateDtcOnFailed_event : (updateDtcOnFailed c s d).1.event = s.event := by
  unfold updateDtcOnFailed
  simp

theorem updateDtcOnPassed_event : (updateDtcOnPassed c s d).1.event = s.event := by
  unfold updateDtcOnPassed
  simp

theorem updateEventOnFailed_event :
    (updateEventOnFailed c s e).1.event =
      update s.event e (onFailed (c.event e).confirmationThreshold (s.event e)) := by
  apply thenDo_invariant (P := fun t : Dem => t.event = update s.event e
    (onFailed (c.event e).confirmationThreshold (s.event e)))
  · simp
  · intro t ht
    rw [updateDtcOnFailed_event, trigger_event, ht]

theorem updateEventOnPassed_event :
    (updateEventOnPassed c s e).1.event = update s.event e (onPassed (s.event e)) := by
  apply thenDo_invariant
    (P := fun t : Dem => t.event = update s.event e (onPassed (s.event e)))
  · simp
  · intro t ht
    rw [updateDtcOnPassed_event, ht]

theorem onFaultStatus_event (oldEventFaultStatus : StatusType) :
    (updateOnFaultStatus c s e oldEventFaultStatus).1.event =
      update s.event e
        (judgedEvent (c.event e).confirmationThreshold oldEventFaultStatus (s.event e)) := by
  unfold updateOnFaultStatus judgedEvent
  split_ifs
  · exact (update_eq_self e s.event).symm
  cases (s.event e).eventFaultStatus with
  | failed => exact updateEventOnFailed_event
  | passed => exact updateEventOnPassed_event
  | _ => exact (update_eq_self e s.event).symm

theorem setStatus_event (eventStatus : StatusType) :
    (setStatusWithSupplierFaultCode c s e eventStatus).1.event =
      match acceptedReport c s e eventStatus with
      | none => s.event
      | some ctx => update s.event e
          (judgedEvent (c.event e).confirmationThreshold (s.event e).eventFaultStatus ctx) := by
  unfold setStatusWithSupplierFaultCode acceptedReport
  by_cases hknw : e ∉ eventCtxList c ∨ eventStatus = .unknown
  · rw [if_pos hknw, if_neg (by tauto)]
  rw [if_neg hknw]
  by_cases hcond : checkEventCondition c s e = .ok
  · rw [if_neg (not_not.2 hcond), if_pos (by tauto)]
    dsimp only
    rcases debounceEvent (c.event e).debounce (s.event e) eventStatus with _ | settled
    · rfl
    dsimp only [map_some]
    rw [onFaultStatus_event]
    simp
  · rw [if_pos hcond, if_neg (by tauto)]

theorem onFaultStatus_of_eq {oldEventFaultStatus : StatusType}
    (h : oldEventFaultStatus = (s.event e).eventFaultStatus) :
    updateOnFaultStatus c s e oldEventFaultStatus = (s, .ok) := by
  unfold updateOnFaultStatus
  rw [if_pos h]

theorem debounceTimer_eq :
    timeBasedDebounceTimerHandler c s e =
      (updateOnFaultStatus c (s.setEvent e (expiredEvent (s.event e))) e
        (s.event e).eventFaultStatus).1 := by
  unfold timeBasedDebounceTimerHandler expiredEvent
  dsimp only
  cases (s.event e).timerType with
  | prefailed | prepassed => rfl
  | unknown =>
    dsimp only
    rw [onFaultStatus_of_eq (by simp)]

theorem debounceTimer_event :
    (timeBasedDebounceTimerHandler c s e).event =
      update s.event e
        (judgedEvent (c.event e).confirmationThreshold (s.event e).eventFaultStatus
          (expiredEvent (s.event e))) := by
  rw [debounceTimer_eq, onFaultStatus_event]
  simp

theorem fdcTimerHandler_event :
    (fdcTimerHandler c s e).event =
      update s.event e { s.event e with fdcTimerRunning := false } := rfl

variable {config : CounterBasedConfig} {eventStatus : StatusType}

section

variable (h : eventStatus ∈ [StatusType.failed, .passed, .prefailed, .prepassed])
include h

theorem counterFaultStatus_mem {counter : Int} :
    counterFaultStatus config counter eventStatus
      ∈ [StatusType.failed, .passed, .prefailed, .prepassed] := by
  unfold counterFaultStatus
  split_ifs
  · simp
  · simp
  · exact h

theorem timeFaultStatus_mem {counter : Int} :
    timeFaultStatus counter eventStatus
      ∈ [StatusType.failed, .passed, .prefailed, .prepassed] := by
  unfold timeFaultStatus
  split_ifs
  · simp
  · simp
  · exact h

end

theorem runTimer_core (type : RunningTimerType) (limit : Int) (ctx : EventCtx) :
    (runTimer type limit ctx).eventUdsStatus = ctx.eventUdsStatus ∧
      (runTimer type limit ctx).failureCounter = ctx.failureCounter := by
  unfold runTimer
  split_ifs <;> simp

variable {ctx ctx' : EventCtx} {triggers : List TriggerType}

theorem counterBased_spec
    (h : debounceCounterBased config ctx eventStatus = some (ctx', triggers)) :
    ctx'.eventUdsStatus = ctx.eventUdsStatus ∧ ctx'.failureCounter = ctx.failureCounter ∧
      ctx'.eventFaultStatus ∈ [StatusType.failed, .passed, .prefailed, .prepassed] := by
  unfold debounceCounterBased at h
  dsimp only at h
  split at h
  · cases h
    exact ⟨rfl, rfl, counterFaultStatus_mem (by simp)⟩
  · cases h
    exact ⟨rfl, rfl, counterFaultStatus_mem (by simp)⟩
  · cases h
    exact ⟨rfl, rfl, counterFaultStatus_mem (by simp)⟩
  · split_ifs at h
    all_goals
      cases h
      exact ⟨rfl, rfl, counterFaultStatus_mem (by simp)⟩
  · cases h

theorem debounceTimeBased_spec (h : debounceTimeBased ctx eventStatus = some ctx') :
    ctx'.eventUdsStatus = ctx.eventUdsStatus ∧ ctx'.failureCounter = ctx.failureCounter ∧
      ctx'.eventFaultStatus ∈ [StatusType.failed, .passed, .prefailed, .prepassed] := by
  unfold debounceTimeBased at h
  dsimp only at h
  split at h
  · cases h
    refine ⟨rfl, rfl, ?_⟩
    dsimp only
    apply timeFaultStatus_mem
    simp
  · cases h
    refine ⟨rfl, rfl, ?_⟩
    dsimp only
    apply timeFaultStatus_mem
    simp
  · cases h
    obtain ⟨hstat, hcntr⟩ := runTimer_core .prepassed minFaultDetectionCounter ctx
    exact ⟨hstat, hcntr, timeFaultStatus_mem (by simp)⟩
  · cases h
    obtain ⟨hstat, hcntr⟩ := runTimer_core .prefailed maxFaultDetectionCounter ctx
    exact ⟨hstat, hcntr, timeFaultStatus_mem (by simp)⟩
  · cases h

/-- A debouncer leaves the status and the failure counter alone, and settles on a result
or on the report of an unfinished test. -/
theorem debounceEvent_spec {debounce : Debounce}
    (h : debounceEvent debounce ctx eventStatus = some (ctx', triggers)) :
    ctx'.eventUdsStatus = ctx.eventUdsStatus ∧ ctx'.failureCounter = ctx.failureCounter ∧
      ctx'.eventFaultStatus ∈ [StatusType.failed, .passed, .prefailed, .prepassed] := by
  cases debounce with
  | monitorInternal =>
    unfold debounceEvent at h
    split_ifs at h with hres
    obtain ⟨rfl, -⟩ := Prod.mk.inj (some.inj h)
    rcases hres with rfl | rfl <;> simp
  | counterBased config => exact counterBased_spec h
  | timeBased =>
    obtain ⟨ctx', hsett, hpair⟩ := map_eq_some_iff.1 h
    cases hpair
    exact debounceTimeBased_spec hsett

theorem cycleEvents_nodup (cycle : CycleId) : (cycleEvents c cycle).Nodup :=
  List.Nodup.filter _ eventCtxList_nodup

@[simp] theorem mem_cycleEvents {cycle : CycleId} :
    e ∈ cycleEvents c cycle ↔ e ∈ eventCtxList c ∧ (c.event e).operationCycle = cycle := by
  simp [cycleEvents]

theorem setEnableStatus_event (id : UInt8) (he : e ∈ eventCtxList c) :
    (setEventEnableStatus c s id).event e = enableEvent (c.event e) s.enableCond id (s.event e) := by
  have hrnd : ∀ (t : Dem) e, (t.setEvent e (enableEvent (c.event e) s.enableCond id
      (t.event e))).event = update t.event e (enableEvent (c.event e) s.enableCond id
        (t.event e)) := fun t e => setEvent_event ..
  have hloop := foldl_changes (fun t : Dem => t.event)
    (fun e => enableEvent (c.event e) s.enableCond id) hrnd (eventCtxList_nodup (c := c)) s e
  rw [if_pos he] at hloop
  exact hloop

/-- An enable condition never changes a status, nor what has been counted or found. -/
def SameCore (ctx ctx' : EventCtx) : Prop :=
  ctx'.eventUdsStatus = ctx.eventUdsStatus ∧ ctx'.failureCounter = ctx.failureCounter ∧
    ctx'.eventFaultStatus = ctx.eventFaultStatus

theorem sameCore_resetCounter (debounce : Debounce) (ctx : EventCtx) :
    SameCore ctx (resetDebounceCounter debounce ctx) := by
  cases debounce <;> exact ⟨rfl, rfl, rfl⟩

theorem sameCore_enableEvent (entry : EventEntry) (enableCond : UInt8 → Bool) (id : UInt8)
    (ctx : EventCtx) : SameCore ctx (enableEvent entry enableCond id ctx) := by
  unfold enableEvent
  rcases newEnableStatus entry.enableCondition enableCond id with _ | status
  · exact ⟨rfl, rfl, rfl⟩
  dsimp only
  split_ifs
  · exact sameCore_resetCounter entry.debounce { ctx with eventEnableStatus := status }
  · exact ⟨rfl, rfl, rfl⟩

theorem sameCore_resetDebounceStatus (e' : EventId) (status : DebounceResetStatus) :
    SameCore (s.event e) ((resetDebounceStatus c s e' status).1.event e) := by
  unfold resetDebounceStatus
  dsimp only
  split_ifs
  · rw [setEvent_event]
    by_cases he : e = e'
    · rw [he, update_self]
      exact sameCore_resetCounter (c.event e').debounce
        { s.event e' with debounceBehavior := status }
    · rw [update_of_ne he]
      exact ⟨rfl, rfl, rfl⟩
  · rw [setEvent_event]
    by_cases he : e = e'
    · rw [he, update_self]
      exact ⟨rfl, rfl, rfl⟩
    · rw [update_of_ne he]
      exact ⟨rfl, rfl, rfl⟩
  · exact ⟨rfl, rfl, rfl⟩

theorem setDtcSetting_event (activation : Bool) :
    (setDtcSetting c s d activation).1.event = s.event := by
  unfold setDtcSetting
  split_ifs
  · apply thenDo_invariant (P := fun t : Dem => t.event = s.event) rfl
    exact fun t ht => ht
  · rfl

theorem setSuppression_event (suppression : Bool) :
    (setDtcSuppression c s d suppression).1.event = s.event := by
  unfold setDtcSuppression
  split_ifs
  · apply thenDo_invariant (P := fun t : Dem => t.event = s.event) rfl
    exact fun t ht => ht
  · rfl

theorem updateSuppression_kept (suppression : Bool) :
    (updateAllDtcSuppressionStatus c s suppression).event = s.event ∧
      (updateAllDtcSuppressionStatus c s suppression).db = s.db := by
  unfold updateAllDtcSuppressionStatus
  induction dtcCtxList c generalizing s with
  | nil => exact ⟨rfl, rfl⟩
  | cons d rest ih => exact ih (s := s.setDtc d { s.dtc d with suppressionStatus := suppression })

theorem setAllSuppression_event (suppression : Bool) :
    (setAllDtcSuppression c s suppression).1.event = s.event := by
  apply thenDo_invariant (P := fun t : Dem => t.event = s.event) rfl
  intro t ht
  rw [(updateSuppression_kept suppression).1]
  exact ht

theorem clearEvent_event :
    (clearEvent c s e).event =
      update s.event e (clearedEvent (c.event e).debounce (s.event e)) := rfl

theorem clearData_event :
    (clearDtcAndEventData c s d).event e =
      if e ∈ getEventNodes c d then clearedEvent (c.event e).debounce (s.event e)
      else s.event e := by
  exact foldl_changes (fun t : Dem => t.event)
    (fun e => clearedEvent (c.event e).debounce) (fun t e => clearEvent_event)
    (getEventNodes_nodup d) _ e

theorem clearData_dtc :
    (clearDtcAndEventData c s d).dtc =
      update s.dtc d { s.dtc d with dtcStatus := clearedStatus, occurrenceCounter := 0 } := by
  unfold clearDtcAndEventData
  have hkept : ∀ (l : List EventId) (t : Dem), (l.foldl (clearEvent c) t).dtc = t.dtc := by
    intro l
    induction l with
    | nil => exact fun t => rfl
    | cons e rest ih => exact fun t => ih (clearEvent c t e)
  rw [hkept]
  rfl

def Stores (s : Dem) : Prop := s.db.faults = []

/-- An operation succeeds with `m` in the memory, and later writes still succeed. -/
structure Does (outcome : Dem × LeResult) (m : Memory) : Prop where
  memory : outcome.1.toMemory = m
  stores : Stores outcome.1
  ok : outcome.2 = .ok

theorem Does.store {call : Database → Database × LeResult} (hcall : Database.Succeeds call)
    (h : Stores s) : Does (s.store call) s.toMemory where
  memory := rfl
  stores := (hcall s.db h).1
  ok := (hcall s.db h).2

theorem Does.thenDo {outcome : Dem × LeResult} {next : Dem → Dem × LeResult} {m m' : Memory}
    (hfst : Does outcome m) (hnext : ∀ t, t.toMemory = m → Stores t → Does (next t) m') :
    Does (thenDo outcome next) m' := by
  rw [thenDo_of_ok hfst.ok]
  exact hnext outcome.1 hfst.memory hfst.stores

theorem Does.forEach {α : Type*} {f : Dem → α → Dem × LeResult} {g : Memory → α → Memory}
    (hrnd : ∀ t a, Stores t → Does (f t a) (g t.toMemory a)) (l : List α) (h : Stores s) :
    Does (forEach f l s) (l.foldl g s.toMemory) := by
  induction l generalizing s with
  | nil => exact ⟨rfl, h, rfl⟩
  | cons a rest ih =>
    apply (hrnd s a h).thenDo
    intro t ht hsto
    rw [foldl_cons, ← ht]
    exact ih hsto

section

variable (h : Stores s)
include h

theorem does_storeEventStatus : Does (storeAndReportEventUdsStatus c s e) s.toMemory :=
  Does.store (succeeds_putEventStatus _ _) h

theorem does_storeDtcStatus : Does (storeAndReportDtcStatus s d) s.toMemory :=
  Does.store (succeeds_writeByDtc _) h

theorem does_storeEvent (oldStatus : UdsStatus) :
    Does (storeEventIfChanged c s e oldStatus) s.toMemory := by
  unfold storeEventIfChanged
  split_ifs
  · exact does_storeEventStatus h
  · exact ⟨rfl, h, rfl⟩

theorem does_storeDtc (old : DtcCtx) : Does (storeDtcIfChanged s d old) s.toMemory := by
  unfold storeDtcIfChanged
  split_ifs
  · exact does_storeDtcStatus h
  · exact ⟨rfl, h, rfl⟩

end

/-! ### Cycles -/

/-- A round of a loop over the events of a cycle, in the memory. -/
def cycleRound (c : DemConf) (onEvent : EventId → EventCtx → EventCtx)
    (onStatus : UdsStatus → UdsStatus) (m : Memory) (e : EventId) : Memory :=
  let d := dtcCode c e
  { m with
    event := Function.update m.event e (onEvent e (m.event e))
    dtc := Function.update m.dtc d { m.dtc d with dtcStatus := onStatus (m.dtc d).dtcStatus } }

theorem does_updateEventAndDtc (onEvent : EventId → EventCtx → EventCtx)
    (onStatus : UdsStatus → UdsStatus) (h : Stores s) :
    Does (updateEventAndDtc c (onEvent e) onStatus s e)
      (cycleRound c onEvent onStatus s.toMemory e) := by
  apply (does_storeEvent (by exact h) _).thenDo
  intro t ht hsto
  have hdtc := does_storeDtc (d := dtcCode c e) (s := t.setDtc (dtcCode c e)
    { t.dtc (dtcCode c e) with dtcStatus := onStatus (t.dtc (dtcCode c e)).dtcStatus })
    (by exact hsto) (t.dtc (dtcCode c e))
  refine ⟨?_, hdtc.stores, hdtc.ok⟩
  rw [hdtc.memory]
  unfold setDtc
  rw [ht]
  rfl

theorem does_startCycle (cycle : CycleId) (h : Stores s) :
    Does (startOperationCycle c s cycle)
      ((cycleEvents c cycle).foldl
        (cycleRound c (fun e => startedEvent (c.event e).debounce) startedStatus) s.toMemory) :=
  Does.forEach (fun _ _ ht => does_updateEventAndDtc _ _ ht) _ h

theorem does_stopCycle (cycle : CycleId) (h : Stores s) :
    Does (stopOperationCycle c s cycle)
      ((cycleEvents c cycle).foldl
        (cycleRound c (fun _ => stoppedEvent) stoppedStatus) s.toMemory) :=
  Does.forEach (fun _ _ ht => does_updateEventAndDtc (fun _ => stoppedEvent) _ ht) _ h

section
variable {onEvent : EventId → EventCtx → EventCtx}
  {onStatus : UdsStatus → UdsStatus} {m : Memory}
  {l : List EventId}

theorem foldl_cycleRound_event (hl : l.Nodup) (e : EventId) :
    (l.foldl (cycleRound c onEvent onStatus) m).event e =
      if e ∈ l then onEvent e (m.event e) else m.event e :=
  foldl_changes Memory.event onEvent (fun _ _ => rfl) hl m e

theorem foldl_cycleRound_dtc (hidem : ∀ status, onStatus (onStatus status) = onStatus status)
    (d : DtcCode) :
    (l.foldl (cycleRound c onEvent onStatus) m).dtc d =
      if d ∈ l.map (dtcCode c) then { m.dtc d with dtcStatus := onStatus (m.dtc d).dtcStatus }
      else m.dtc d := by
  apply foldl_changes_idem Memory.dtc (dtcCode c)
    (f := fun ctx : DtcCtx => { ctx with dtcStatus := onStatus ctx.dtcStatus }) (fun _ _ => rfl)
  intro ctx
  rw [hidem]

end

theorem startedStatus_idem (status : UdsStatus) :
    startedStatus (startedStatus status) = startedStatus status := by
  apply ext_has
  intro b
  cases b <;> simp [startedStatus]

theorem stoppedStatus_idem (status : UdsStatus) :
    stoppedStatus (stoppedStatus status) = stoppedStatus status := by
  unfold stoppedStatus
  apply ext_has
  intro b
  split_ifs <;> simp

/-! ### Reports -/

section

variable (h : Stores s)
include h

theorem does_updateDtcOnFailed :
    Does (updateDtcOnFailed c s d) (s.setDtc d { s.dtc d with
      dtcStatus := statusOfEvents c s d
      occurrenceCounter :=
        countOccurrence c.occurrenceCounterProcessing (s.dtc d) (statusOfEvents c s d) }).toMemory :=
  does_storeDtc (by exact h) _

theorem does_updateDtcOnPassed :
    Does (updateDtcOnPassed c s d)
      (s.setDtc d { s.dtc d with dtcStatus := statusOfEvents c s d }).toMemory :=
  does_storeDtc (by exact h) _

/-- A failed result changes the event, then combines its DTC anew. -/
theorem updateEventOnFailed_eq :
    ∃ t, Stores t ∧ t.event = update s.event e
        (onFailed (c.event e).confirmationThreshold (s.event e)) ∧ t.dtc = s.dtc ∧
      updateEventOnFailed c s e = updateDtcOnFailed c t (dtcCode c e) := by
  have hstd := does_storeEvent (c := c) (e := e) (s := s.setEvent e
    (onFailed (c.event e).confirmationThreshold (s.event e))) (by exact h)
    (s.event e).eventUdsStatus
  refine ⟨_, ?_, ?_, ?_, thenDo_of_ok hstd.ok⟩
  · exact hstd.stores
  · rw [trigger_event, hstd.memory, setEvent_event]
  · rw [trigger_dtc, hstd.memory, setEvent_dtc]

theorem updateEventOnPassed_eq :
    ∃ t, Stores t ∧ t.event = update s.event e (onPassed (s.event e)) ∧ t.dtc = s.dtc ∧
      updateEventOnPassed c s e = updateDtcOnPassed c t (dtcCode c e) := by
  have hstd := does_storeEvent (c := c) (e := e)
    (s := s.setEvent e (onPassed (s.event e))) (by exact h) (s.event e).eventUdsStatus
  refine ⟨_, ?_, ?_, ?_, thenDo_of_ok hstd.ok⟩
  · exact hstd.stores
  · rw [hstd.memory, setEvent_event]
  · rw [hstd.memory, setEvent_dtc]

end

theorem stores_onFaultStatus (oldEventFaultStatus : StatusType) (h : Stores s) :
    Stores (updateOnFaultStatus c s e oldEventFaultStatus).1 := by
  have hstor : ∀ ctx, Stores (storeEventIfChanged c (s.setEvent e ctx) e
      (s.event e).eventUdsStatus).1 :=
    fun ctx => (does_storeEvent (by exact h) _).stores
  unfold updateOnFaultStatus
  split_ifs
  · exact h
  cases (s.event e).eventFaultStatus with
  | failed =>
    apply thenDo_invariant (hstor _)
    exact fun t ht => (does_updateDtcOnFailed (by exact ht)).stores
  | passed =>
    apply thenDo_invariant (hstor _)
    exact fun t ht => (does_updateDtcOnPassed ht).stores
  | _ => exact h

theorem stores_setStatus (eventStatus : StatusType) (h : Stores s) :
    Stores (setStatusWithSupplierFaultCode c s e eventStatus).1 := by
  unfold setStatusWithSupplierFaultCode
  split_ifs
  · exact h
  · exact h
  dsimp only
  split
  · exact h
  · exact stores_onFaultStatus _ h

theorem stores_debounceTimer (h : Stores s) :
    Stores (timeBasedDebounceTimerHandler c s e) := by
  rw [debounceTimer_eq]
  exact stores_onFaultStatus _ h

/-- A request for a state of a cycle changes nothing, or goes through the loops. -/
theorem setOperCycleState_cases (c : DemConf) (s : Dem) (cycle : CycleId)
    (state : OperationCycleState) :
    (setOperCycleState c s cycle state).1 = s ∧ (cycle < maxNumOfOperCycle c →
        state = .restart ∧ s.operCycle cycle ≠ .start ∨
          state ≠ .restart ∧ s.operCycle cycle = state) ∨
      cycle < maxNumOfOperCycle c ∧
        (state = .restart ∧ s.operCycle cycle = .start ∧
            setOperCycleState c s cycle state =
              thenDo (stopOperationCycle c s cycle) (startOperationCycle c · cycle) ∨
          state = .start ∧ s.operCycle cycle ≠ .start ∧
            setOperCycleState c s cycle state =
              thenDo (startOperationCycle c s cycle) (fun s => (s.setOperCycle cycle .start, .ok)) ∨
          state = .stop ∧ s.operCycle cycle ≠ .stop ∧
            setOperCycleState c s cycle state =
              thenDo (stopOperationCycle c s cycle) (fun s => (s.setOperCycle cycle .stop, .ok))) := by
  unfold setOperCycleState
  by_cases hcyc : cycle < maxNumOfOperCycle c
  swap
  · rw [if_pos hcyc]
    exact Or.inl ⟨rfl, fun hlt => absurd hlt hcyc⟩
  rw [if_neg (not_not.2 hcyc)]
  cases state with
  | restart =>
    by_cases hst : s.operCycle cycle = .start
    · rw [if_pos hst]
      exact Or.inr ⟨hcyc, Or.inl ⟨rfl, hst, rfl⟩⟩
    · rw [if_neg hst]
      exact Or.inl ⟨rfl, fun _ => Or.inl ⟨rfl, hst⟩⟩
  | start =>
    by_cases hst : s.operCycle cycle ≠ .start
    · rw [if_pos hst]
      exact Or.inr ⟨hcyc, Or.inr (Or.inl ⟨rfl, hst, rfl⟩)⟩
    · rw [if_neg hst]
      exact Or.inl ⟨rfl, fun _ => Or.inr ⟨by simp, not_not.1 hst⟩⟩
  | stop =>
    by_cases hst : s.operCycle cycle ≠ .stop
    · rw [if_pos hst]
      exact Or.inr ⟨hcyc, Or.inr (Or.inr ⟨rfl, hst, rfl⟩)⟩
    · rw [if_neg hst]
      exact Or.inl ⟨rfl, fun _ => Or.inr ⟨by simp, not_not.1 hst⟩⟩

theorem stores_setOperCycleState (cycle : CycleId) (state : OperationCycleState) (h : Stores s) :
    Stores (setOperCycleState c s cycle state).1 := by
  rcases setOperCycleState_cases c s cycle state with
    ⟨hsame, _⟩ | ⟨_, ⟨_, _, heq⟩ | ⟨_, _, heq⟩ | ⟨_, _, heq⟩⟩
  · rw [hsame]
    exact h
  · rw [heq]
    apply thenDo_invariant (P := Stores) (does_stopCycle cycle h).stores
    exact fun t ht => (does_startCycle cycle ht).stores
  · rw [heq]
    apply thenDo_invariant (P := Stores) (does_startCycle cycle h).stores
    exact fun t ht => ht
  · rw [heq]
    apply thenDo_invariant (P := Stores) (does_stopCycle cycle h).stores
    exact fun t ht => ht

/-- A change of an enable condition reaches neither the DTCs nor the database. -/
theorem setEnableCondition_kept (id : UInt8) (fulfilled : Bool) :
    (setEnableCondition c s id fulfilled).dtc = s.dtc ∧
      (setEnableCondition c s id fulfilled).operCycle = s.operCycle ∧
      (setEnableCondition c s id fulfilled).db = s.db := by
  have hkept : ∀ (l : List EventId) (onEvent : Dem → EventId → EventCtx) (t : Dem),
      (l.foldl (fun t e => t.setEvent e (onEvent t e)) t).dtc = t.dtc ∧
      (l.foldl (fun t e => t.setEvent e (onEvent t e)) t).operCycle = t.operCycle ∧
      (l.foldl (fun t e => t.setEvent e (onEvent t e)) t).db = t.db := by
    intro l onEvent
    induction l with
    | nil => exact fun t => ⟨rfl, rfl, rfl⟩
    | cons e rest ih => exact fun t => ih (t.setEvent e (onEvent t e))
  exact hkept _ _ _

/-! ### Clears -/

theorem stores_clearData (h : Stores s) : Stores (clearDtcAndEventData c s d) := by
  have hloop : ∀ (l : List EventId) (t : Dem), Stores t → Stores (l.foldl (clearEvent c) t) := by
    intro l
    induction l with
    | nil => exact fun t ht => ht
    | cons e rest ih =>
      intro t ht
      exact ih _ (does_storeEventStatus (by exact ht)).stores
  exact hloop _ _ (does_storeDtcStatus (by exact h)).stores

theorem stores_foldl_clear (l : List DtcCode) (h : Stores s) :
    Stores (l.foldl (clearDtcAndEventData c) s) := by
  induction l generalizing s with
  | nil => exact h
  | cons d rest ih => exact ih (stores_clearData h)

section

variable (h : Stores s)
include h

/-- A clear of an unsuppressed DTC is done in the database and then in the memory. -/
theorem clearSingleDtc_eq (hd : d ∈ dtcCtxList c) (hmemy : (s.dtc d).suppressionStatus = false)
    (hstd : s.db.readSuppressionByDtc d = false) :
    clearSingleDtc c s d
      = (clearDtcAndEventData c { s with db := (s.db.deleteData c d).1 } d, .ok) := by
  have hok : (s.store (·.deleteData c d)).2 = .ok := by
    unfold store
    dsimp only
    rw [deleteData_eq h hstd]
  unfold clearSingleDtc
  rw [if_neg (not_not.2 hd), hmemy, thenDo_of_ok hok]
  rfl

theorem clearSingleDtc_cases :
    (∃ result, result ≠ .ok ∧ clearSingleDtc c s d = (s, result)) ∨
      d ∈ dtcCtxList c ∧ (s.dtc d).suppressionStatus = false ∧
        s.db.readSuppressionByDtc d = false ∧
        clearSingleDtc c s d
          = (clearDtcAndEventData c { s with db := (s.db.deleteData c d).1 } d, .ok) := by
  by_cases hd : d ∈ dtcCtxList c
  swap
  · refine Or.inl ⟨.unsupported, by simp, ?_⟩
    unfold clearSingleDtc
    rw [if_pos hd]
  cases hmemy : (s.dtc d).suppressionStatus with
  | true =>
    refine Or.inl ⟨.unavailable, by simp, ?_⟩
    unfold clearSingleDtc
    rw [if_neg (not_not.2 hd), if_pos hmemy]
  | false =>
    cases hstd : s.db.readSuppressionByDtc d with
    | true =>
      have hdlt : s.db.deleteData c d = (s.db, .unavailable) := by
        unfold deleteData
        rw [if_pos hstd]
      have hstor : s.store (·.deleteData c d) = (s, .unavailable) := by
        unfold store
        dsimp only
        rw [hdlt]
      refine Or.inl ⟨.unavailable, by simp, ?_⟩
      unfold clearSingleDtc
      rw [if_neg (not_not.2 hd), hmemy, hstor]
      rfl
    | false => exact Or.inr ⟨hd, rfl, rfl, clearSingleDtc_eq h hd hmemy hstd⟩

theorem clearAllDtc_eq :
    clearAllDtc c s = ((dtcCtxList c).foldl (clearDtcAndEventData c)
      { s with db := (s.db.deleteAllData c).1 }, .ok) := by
  have hok : (s.store (·.deleteAllData c)).2 = .ok := (succeeds_deleteAllData s.db h).2
  unfold clearAllDtc
  rw [thenDo_of_ok hok]
  rfl

theorem stores_deleteData (hunsup : s.db.readSuppressionByDtc d = false) :
    Stores { s with db := (s.db.deleteData c d).1 } := by
  rw [deleteData_eq h hunsup]
  exact h

theorem stores_clearDtc : Stores (clearDtc c s d).1 := by
  unfold clearDtc
  split_ifs
  · rw [clearAllDtc_eq h]
    exact stores_foldl_clear _ (succeeds_deleteAllData s.db h).1
  rcases clearSingleDtc_cases (c := c) (d := d) h with ⟨result, -, heq⟩ | ⟨-, -, hstd, heq⟩
  · rw [heq]
    exact h
  · rw [heq]
    exact stores_clearData (stores_deleteData h hstd)

end

/-! ### Settings -/

theorem does_setDtcSetting (activation : Bool) (h : Stores s) (hd : d ∈ dtcCtxList c) :
    Does (setDtcSetting c s d activation)
      (s.setDtc d { s.dtc d with activationStatus := activation }).toMemory := by
  unfold setDtcSetting
  rw [if_neg (not_not.2 hd)]
  apply (Does.store (succeeds_writeByDtc _) h).thenDo
  rintro t ht hsto
  refine ⟨?_, hsto, rfl⟩
  unfold setDtc
  rw [ht]

theorem does_setSuppression (suppression : Bool) (h : Stores s) (hd : d ∈ dtcCtxList c) :
    Does (setDtcSuppression c s d suppression)
      (s.setDtc d { s.dtc d with suppressionStatus := suppression }).toMemory := by
  unfold setDtcSuppression
  rw [if_neg (not_not.2 hd)]
  apply (Does.store (succeeds_writeByDtc _) h).thenDo
  rintro t ht hsto
  refine ⟨?_, hsto, rfl⟩
  unfold setDtc
  rw [ht]

theorem updateSuppression_dtc (suppression : Bool) (d : DtcCode) :
    (updateAllDtcSuppressionStatus c s suppression).dtc d =
      if d ∈ dtcCtxList c then { s.dtc d with suppressionStatus := suppression } else s.dtc d :=
  foldl_changes (fun t : Dem => t.dtc)
    (fun _ ctx => { ctx with suppressionStatus := suppression }) (fun _ _ => rfl)
    dtcCtxList_nodup s d

theorem stores_setDtcSetting (activation : Bool) (h : Stores s) :
    Stores (setDtcSetting c s d activation).1 := by
  by_cases hd : d ∈ dtcCtxList c
  · exact (does_setDtcSetting activation h hd).stores
  unfold setDtcSetting
  rw [if_pos hd]
  exact h

theorem stores_setSuppression (suppression : Bool) (h : Stores s) :
    Stores (setDtcSuppression c s d suppression).1 := by
  by_cases hd : d ∈ dtcCtxList c
  · exact (does_setSuppression suppression h hd).stores
  unfold setDtcSuppression
  rw [if_pos hd]
  exact h

theorem stores_setAllSuppression (suppression : Bool) (h : Stores s) :
    Stores (setAllDtcSuppression c s suppression).1 := by
  apply thenDo_invariant (P := Stores)
    (Does.store (succeeds_writeAllSuppression suppression) h).stores
  intro t ht
  unfold Stores
  rw [(updateSuppression_kept suppression).2]
  exact ht

theorem step_stores {a : Action} {t : Dem} (h : Stores s) (hstep : step c s a = some t) :
    Stores t := by
  cases a with
  | setStatus e eventStatus =>
    cases hstep
    exact stores_setStatus eventStatus h
  | debounceTimerExpires e =>
    obtain ⟨_, heq⟩ := ite_none_right_eq_some.1 hstep
    cases heq
    exact stores_debounceTimer h
  | fdcTimerExpires e =>
    obtain ⟨_, heq⟩ := ite_none_right_eq_some.1 hstep
    cases heq
    exact h
  | setOperCycleState cycle state =>
    cases hstep
    exact stores_setOperCycleState cycle state h
  | setEnableCondition id fulfilled =>
    cases hstep
    unfold Stores
    rw [(setEnableCondition_kept id fulfilled).2.2]
    exact h
  | resetDebounceStatus e status =>
    cases hstep
    unfold resetDebounceStatus
    dsimp only
    split_ifs <;> exact h
  | clearDtc d =>
    cases hstep
    exact stores_clearDtc h
  | disableDtcSetting d =>
    cases hstep
    exact stores_setDtcSetting false h
  | enableDtcSetting d =>
    cases hstep
    exact stores_setDtcSetting true h
  | setDtcSuppression d suppressed =>
    cases hstep
    exact stores_setSuppression suppressed h
  | setAllDtcSuppression suppressed =>
    cases hstep
    exact stores_setAllSuppression suppressed h

end TelAF.EventServer
