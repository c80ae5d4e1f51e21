import TelAF.ClearAll

/-!
# Counter based debouncing

A report moves the counter of an event between its thresholds, and the fault status says at
which of them it stands. The counter is set back with the start of a cycle and by a clear, and
the fault status with it; a disabled event and a reset of the debounce set back the counter
alone. The flag of the threshold for fault detection is given back by the start of a cycle.
-/

namespace TelAF.EventServer
open DemConfiguration DemDatabase EventStatus TransitionRuns Function Option List

structure SameDebounce (ctx ctx' : EventCtx) : Prop where
  counter : ctx'.debounceCounter = ctx.debounceCounter
  fault : ctx'.eventFaultStatus = ctx.eventFaultStatus
  flag : ctx'.fdcTriggerFlag = ctx.fdcTriggerFlag
  timer : ctx'.timerRunning = ctx.timerRunning

variable {c : DemConf} {s t : Dem} {e : EventId} {a : Action} {ctx ctx' : EventCtx}
  {config : CounterBasedConfig} {eventStatus : StatusType} {triggers : List TriggerType}

/-- The step sets the counter of an event back alone: the event is disabled by a condition, or
its debounce is reset while it is disabled. -/
def ResetsCounter (c : DemConf) (e : EventId) (s : Dem) : Action → Prop
  | .setEnableCondition id fulfilled => (s.event e).debounceBehavior = .reset ∧
      newEnableStatus (c.event e).enableCondition (update s.enableCond id fulfilled) id = some false
  | .resetDebounceStatus e' status =>
    e' = e ∧ status = .reset ∧ (s.event e).eventEnableStatus = false
  | _ => False

/-- The counter is set back alone from a threshold that the fault status stands for. -/
def LosesThreshold (c : DemConf) (e : EventId) (s : Dem) (a : Action) : Prop :=
  ResetsCounter c e s a ∧
    ((s.event e).eventFaultStatus = .passed ∨ (s.event e).eventFaultStatus = .failed)

instance : DecidableRel (LosesThreshold c e) := by
  rintro s ⟨⟩ <;> unfold LosesThreshold ResetsCounter <;> infer_instance

def StartsCycle (c : DemConf) (e : EventId) (s : Dem) (a : Action) : Prop :=
  .started ∈ happenings c s e a

structure Keeps (c : DemConf) (e : EventId) (config : CounterBasedConfig) (s : Dem) (a : Action)
    (P : EventCtx → Prop) : Prop where
  same : ∀ {ctx ctx'}, P ctx → SameDebounce ctx ctx' → P ctx'
  quiet : ∀ {ctx}, P ctx → ctx.timerRunning = false
  reported : ∀ {ctx ctx' eventStatus triggers},
    debounceCounterBased config ctx eventStatus = some (ctx', triggers) → P ctx → P ctx'
  started : StartsCycle c e s a → ∀ {ctx}, P ctx →
    P { ctx with debounceCounter := 0, eventFaultStatus := .unknown, fdcTriggerFlag := false }
  cleared : ∀ {ctx}, P ctx → P { ctx with debounceCounter := 0, eventFaultStatus := .unknown }
  reset : ResetsCounter c e s a → P (s.event e) → P { s.event e with debounceCounter := 0 }

theorem sameDebounce_judgedEvent {threshold : UInt8} {old : StatusType} :
    SameDebounce ctx (judgedEvent threshold old ctx) := by
  unfold judgedEvent
  split
  · exact ⟨rfl, rfl, rfl, rfl⟩
  split
  · unfold onFailed
    dsimp only
    split_ifs <;> exact ⟨rfl, rfl, rfl, rfl⟩
  all_goals exact ⟨rfl, rfl, rfl, rfl⟩

variable {onStatus : UdsStatus → UdsStatus}

theorem updateEventAndDtc_event {onEvent : EventCtx → EventCtx} :
    (updateEventAndDtc c onEvent onStatus s e).1.event = update s.event e (onEvent (s.event e)) := by
  refine thenDo_invariant (P := fun t : Dem => t.event = _) (by simp) fun t ht => ?_
  simpa using ht

variable {P : EventCtx → Prop}

/-- A loop over the events of another cycle does not reach the event. -/
theorem forEach_event (onEvent : EventId → EventCtx → EventCtx) {cycle : CycleId}
    (hrnd : (c.event e).operationCycle = cycle → e ∈ eventCtxList c → ∀ ctx, P ctx → P (onEvent e ctx))
    (h : P (s.event e)) :
    P ((forEach (fun s e => updateEventAndDtc c (onEvent e) onStatus s e) (cycleEvents c cycle) s).1.event e) := by
  refine forEach_invariant (P := fun t : Dem => P (t.event e)) (fun t e' he' ht => ?_) h
  obtain ⟨hctx, hcyc⟩ := mem_cycleEvents.1 he'
  rw [updateEventAndDtc_event]
  by_cases he : e = e'
  · subst he
    rw [update_self]
    exact hrnd hcyc hctx _ ht
  · rwa [update_of_ne he]

theorem clearDtc_event {d : DtcCode}
    (hclr : ∀ ctx, P ctx → P (clearedEvent (c.event e).debounce ctx)) (h : P (s.event e)) :
    P ((clearDtc c s d).1.event e) := by
  have hrnd : ∀ t d, P (t.event e) → P ((clearDtcAndEventData c t d).event e) := by
    intro t d ht
    rw [clearData_event]
    split_ifs
    · exact hclr _ ht
    · exact ht
  unfold clearDtc clearSingleDtc
  split
  · refine thenDo_invariant (P := fun t : Dem => P (t.event e)) h fun t ht => ?_
    exact foldlRecOn _ _ (motive := fun t : Dem => P (t.event e)) ht fun t ht d _ => hrnd t d ht
  split
  · exact h
  split
  · exact h
  · exact thenDo_invariant (P := fun t : Dem => P (t.event e)) h fun t ht => hrnd t d ht

section
variable (h : Keeps c e config s a P) (hdeb : (c.event e).debounce = .counterBased config)
  (hs : P (s.event e))
include h hdeb hs

theorem Keeps.setStatus (e' : EventId) (eventStatus : StatusType) :
    P ((setStatusWithSupplierFaultCode c s e' eventStatus).1.event e) := by
  rw [setStatus_event]
  split
  · exact hs
  rename_i ctx haccd
  by_cases he : e = e'
  · subst he
    rw [update_self]
    refine h.same ?_ sameDebounce_judgedEvent
    unfold acceptedReport at haccd
    split_ifs at haccd
    obtain ⟨settled, hsett, rfl⟩ := map_eq_some_iff.1 haccd
    rw [hdeb] at hsett
    exact h.reported hsett hs
  · rwa [update_of_ne he]

theorem Keeps.setOperCycleState {cycle : CycleId} {state : OperationCycleState}
    (ha : a = .setOperCycleState cycle state) :
    P ((setOperCycleState c s cycle state).1.event e) := by
  have hstop : ∀ {u : Dem}, P (u.event e) → P ((stopOperationCycle c u cycle).1.event e) :=
    fun hu => forEach_event (fun _ => stoppedEvent)
      (fun _ _ ctx hctx => h.same hctx ⟨rfl, rfl, rfl, rfl⟩) hu
  have hsta : (state = .restart ∧ s.operCycle cycle = .start ∨
      state = .start ∧ s.operCycle cycle ≠ .start) → cycle < maxNumOfOperCycle c →
      ∀ {u : Dem}, P (u.event e) → P ((startOperationCycle c u cycle).1.event e) := by
    intro hchg hlt u hu
    refine forEach_event (fun e => startedEvent (c.event e).debounce)
      (fun hcyc _ ctx hctx => ?_) hu
    refine h.same (h.started ?_ hctx) ?_
    · unfold StartsCycle happenings
      rw [ha]
      dsimp only
      rw [if_pos ⟨hcyc, hlt⟩]
      rcases hchg with ⟨rfl, hst⟩ | ⟨rfl, hst⟩ <;> simp [cycleChange, hst]
    · unfold startedEvent
      rw [hdeb]
      exact ⟨rfl, rfl, rfl, rfl⟩
  rcases setOperCycleState_cases c s cycle state with
    ⟨hsame, _⟩ | ⟨hlt, ⟨hst, hnow, heq⟩ | ⟨hst, hnow, heq⟩ | ⟨_, _, heq⟩⟩
  · rwa [hsame]
  · rw [heq]
    exact thenDo_invariant (P := fun t : Dem => P (t.event e)) (hstop hs)
      fun u hu => hsta (Or.inl ⟨hst, hnow⟩) hlt hu
  · rw [heq]
    exact thenDo_invariant (P := fun t : Dem => P (t.event e))
      (hsta (Or.inr ⟨hst, hnow⟩) hlt hs) fun u hu => hu
  · rw [heq]
    exact thenDo_invariant (P := fun t : Dem => P (t.event e)) (hstop hs) fun u hu => hu

theorem Keeps.setEnableCondition {id : UInt8} {fulfilled : Bool}
    (ha : a = .setEnableCondition id fulfilled) :
    P ((setEnableCondition c s id fulfilled).event e) := by
  unfold EventServer.setEnableCondition
  by_cases he : e ∈ eventCtxList c
  · rw [setEnableStatus_event id he]
    unfold enableEvent
    split
    · exact hs
    rename_i status hstat
    dsimp only
    split_ifs with hrset
    · rw [hdeb]
      refine h.same (h.reset ?_ hs) ⟨rfl, rfl, rfl, rfl⟩
      rw [ha]
      exact ⟨hrset.2, hrset.1 ▸ hstat⟩
    · exact h.same hs ⟨rfl, rfl, rfl, rfl⟩
  · refine foldlRecOn (motive := fun t : Dem => P (t.event e)) _ _ hs fun t ht e' he' => ?_
    rw [Dem.setEvent_event, update_of_ne]
    · exact ht
    · rintro rfl
      exact he he'

theorem Keeps.resetDebounceStatus {e' : EventId} {status : DebounceResetStatus}
    (ha : a = .resetDebounceStatus e' status) :
    P ((resetDebounceStatus c s e' status).1.event e) := by
  unfold EventServer.resetDebounceStatus
  dsimp only
  split
  · exact hs
  by_cases he : e' = e
  · subst he
    split <;> rw [Dem.setEvent_event, update_self]
    · rename_i hrset
      rw [hdeb]
      refine h.same (h.reset ?_ hs) ⟨rfl, rfl, rfl, rfl⟩
      rw [ha]
      exact ⟨rfl, hrset⟩
    · exact h.same hs ⟨rfl, rfl, rfl, rfl⟩
  · split <;> rwa [Dem.setEvent_event, update_of_ne fun heq => he heq.symm]

/-- What the operations on an event keep, a step of the server does. -/
theorem Keeps.step (hstep : step c s a = some t) : P (t.event e) := by
  cases a with
  | setStatus e' eventStatus =>
    cases hstep
    exact h.setStatus hdeb hs e' eventStatus
  | debounceTimerExpires e' =>
    obtain ⟨henab, heq⟩ := ite_none_right_eq_some.1 hstep
    cases heq
    rw [debounceTimer_event, update_of_ne]
    · exact hs
    rintro rfl
    rw [h.quiet hs] at henab
    exact absurd henab.2 (by decide)
  | fdcTimerExpires e' =>
    obtain ⟨-, heq⟩ := ite_none_right_eq_some.1 hstep
    cases heq
    rw [fdcTimerHandler_event]
    by_cases he : e = e'
    · subst he
      rw [update_self]
      exact h.same hs ⟨rfl, rfl, rfl, rfl⟩
    · rwa [update_of_ne he]
  | setOperCycleState cycle state =>
    cases hstep
    exact h.setOperCycleState hdeb hs rfl
  | setEnableCondition id fulfilled =>
    cases hstep
    exact h.setEnableCondition hdeb hs rfl
  | resetDebounceStatus e' status =>
    cases hstep
    exact h.resetDebounceStatus hdeb hs rfl
  | clearDtc d =>
    cases hstep
    refine clearDtc_event (fun ctx hctx => h.same (h.cleared hctx) ?_) hs
    rw [hdeb]
    exact ⟨rfl, rfl, rfl, rfl⟩
  | disableDtcSetting d =>
    cases hstep
    rwa [show (disableDtcSetting c s d).1.event = s.event from setDtcSetting_event false]
  | enableDtcSetting d =>
    cases hstep
    rwa [show (enableDtcSetting c s d).1.event = s.event from setDtcSetting_event true]
  | setDtcSuppression d suppressed =>
    cases hstep
    rwa [setSuppression_event]
  | setAllDtcSuppression suppressed =>
    cases hstep
    rwa [setAllSuppression_event]

end

structure InRange (config : CounterBasedConfig) (ctx : EventCtx) : Prop where
  lower : config.passedThreshold ≤ ctx.debounceCounter
  upper : ctx.debounceCounter ≤ config.failedThreshold
  quiet : ctx.timerRunning = false

/-- The fault status says at which threshold the counter stands. -/
def FaultFollows (config : CounterBasedConfig) (ctx : EventCtx) : Prop :=
  (ctx.eventFaultStatus = .passed ↔ ctx.debounceCounter = config.passedThreshold) ∧
    (ctx.eventFaultStatus = .failed ↔ ctx.debounceCounter = config.failedThreshold)

structure AtThreshold (config : CounterBasedConfig) (ctx : EventCtx) : Prop extends
    InRange config ctx where
  passed : ctx.eventFaultStatus = .passed ↔ ctx.debounceCounter = config.passedThreshold
  failed : ctx.eventFaultStatus = .failed ↔ ctx.debounceCounter = config.failedThreshold

theorem countDown_spec {counter : Int} (hlowe : config.passedThreshold ≤ counter) :
    config.passedThreshold ≤ countDown config counter ∧
      countDown config counter ≤ counter := by
  have hstep := config.decrement_range
  unfold countDown
  dsimp only
  split_ifs <;> omega

theorem countUp_spec {counter : Int} (huppe : counter ≤ config.failedThreshold) :
    counter ≤ countUp config counter ∧ countUp config counter ≤ config.failedThreshold := by
  have hstep := config.increment_range
  unfold countUp
  dsimp only
  split_ifs <;> omega

structure Counts (config : CounterBasedConfig) (ctx ctx' : EventCtx) (eventStatus : StatusType)
    (triggers : List TriggerType) : Prop where
  inRange : InRange config ctx'
  fault : ctx'.eventFaultStatus = counterFaultStatus config ctx'.debounceCounter eventStatus
  passed : eventStatus = .passed → ctx'.debounceCounter = config.passedThreshold
  failed : eventStatus = .failed → ctx'.debounceCounter = config.failedThreshold
  up : eventStatus = .prefailed → ctx.debounceCounter ≤ ctx'.debounceCounter
  down : eventStatus = .prepassed → ctx'.debounceCounter ≤ ctx.debounceCounter
  once : triggers = [] ∧ ctx'.fdcTriggerFlag = ctx.fdcTriggerFlag ∨
    triggers = [.fdcThreshold] ∧ ctx.fdcTriggerFlag = false ∧ ctx'.fdcTriggerFlag = true

theorem counterBased_counts (h : InRange config ctx)
    (hrpt : debounceCounterBased config ctx eventStatus = some (ctx', triggers)) :
    Counts config ctx ctx' eventStatus triggers := by
  have hdown := countDown_spec h.lower
  have hup := countUp_spec h.upper
  have hlowe := h.lower
  have huppe := h.upper
  unfold debounceCounterBased at hrpt
  dsimp only at hrpt
  split at hrpt
  · cases hrpt
    exact ⟨⟨le_rfl, by dsimp only; omega, h.quiet⟩, rfl, fun _ => rfl, nofun, nofun,
      nofun, .inl ⟨rfl, rfl⟩⟩
  · cases hrpt
    exact ⟨⟨by dsimp only; omega, le_rfl, h.quiet⟩, rfl, nofun, fun _ => rfl, nofun,
      nofun, .inl ⟨rfl, rfl⟩⟩
  · cases hrpt
    exact ⟨⟨hdown.1, hdown.2.trans huppe, h.quiet⟩, rfl, nofun, nofun, nofun, fun _ => hdown.2,
      .inl ⟨rfl, rfl⟩⟩
  · split_ifs at hrpt with hbelow hflag
    · cases hrpt
      exact ⟨⟨hlowe.trans hup.1, hup.2, h.quiet⟩, rfl, nofun, nofun, fun _ => hup.1, nofun,
        .inr ⟨rfl, hflag.1, rfl⟩⟩
    · cases hrpt
      exact ⟨⟨hlowe.trans hup.1, hup.2, h.quiet⟩, rfl, nofun, nofun, fun _ => hup.1,
        nofun, .inl ⟨rfl, rfl⟩⟩
    · cases hrpt
      exact ⟨⟨hlowe, huppe, h.quiet⟩, rfl, nofun, nofun, fun _ => le_rfl, nofun, .inl ⟨rfl, rfl⟩⟩
  · cases hrpt

theorem Counts.atThreshold (h : Counts config ctx ctx' eventStatus triggers) :
    AtThreshold config ctx' := by
  have hpass := config.passed_range
  have hfail := config.failed_range
  have hlowe := h.inRange.lower
  have huppe := h.inRange.upper
  refine ⟨h.inRange, ?_, ?_⟩
  · rw [h.fault]
    unfold counterFaultStatus
    split_ifs with hp hf
    · simp only [true_iff]
      omega
    · simp only [false_iff]
      omega
    · exact ⟨h.passed, fun heq => absurd heq.le hp⟩
  · rw [h.fault]
    unfold counterFaultStatus
    split_ifs with hp hf
    · simp only [false_iff]
      omega
    · simp only [true_iff]
      omega
    · exact ⟨h.failed, fun heq => absurd heq.ge hf⟩

theorem InRange.zero (h : InRange config ctx) : InRange config { ctx with debounceCounter := 0 } :=
  ⟨config.passed_range.2.le, by have := config.failed_range; dsimp only; omega, h.quiet⟩

theorem InRange.same (h : InRange config ctx) (hsame : SameDebounce ctx ctx') :
    InRange config ctx' :=
  ⟨hsame.counter ▸ h.lower, hsame.counter ▸ h.upper, hsame.timer.trans h.quiet⟩

theorem keeps_inRange (s : Dem) (a : Action) : Keeps c e config s a (InRange config) where
  same := InRange.same
  quiet := InRange.quiet
  reported hrpt h := (counterBased_counts h hrpt).inRange
  started _ _ h := ⟨h.zero.lower, h.zero.upper, h.quiet⟩
  cleared h := ⟨h.zero.lower, h.zero.upper, h.quiet⟩
  reset _ h := h.zero

theorem atThreshold_zero (h : InRange config ctx) (hzero : ctx.debounceCounter = 0)
    (hflt : ¬ (ctx.eventFaultStatus = .passed ∨ ctx.eventFaultStatus = .failed)) :
    AtThreshold config ctx := by
  have hpass := config.passed_range
  have hfail := config.failed_range
  obtain ⟨hnotP, hnotF⟩ := not_or.1 hflt
  exact ⟨h, iff_of_false hnotP (by omega), iff_of_false hnotF (by omega)⟩

theorem AtThreshold.follows (h : AtThreshold config ctx) (hsame : SameDebounce ctx ctx') :
    FaultFollows config ctx' := by
  unfold FaultFollows
  rw [hsame.fault, hsame.counter]
  exact ⟨h.passed, h.failed⟩

theorem keeps_atThreshold (s : Dem) (ha : ¬ LosesThreshold c e s a) :
    Keeps c e config s a (AtThreshold config) where
  same h hsame := ⟨h.toInRange.same hsame, (h.follows hsame).1, (h.follows hsame).2⟩
  quiet h := h.quiet
  reported hrpt h := (counterBased_counts h.toInRange hrpt).atThreshold
  started _ _ h := atThreshold_zero ⟨h.zero.lower, h.zero.upper, h.quiet⟩ rfl (by simp)
  cleared h := atThreshold_zero ⟨h.zero.lower, h.zero.upper, h.quiet⟩ rfl (by simp)
  reset hrset h := atThreshold_zero h.toInRange.zero rfl fun hflt => ha ⟨hrset, hflt⟩

/-- The flag of the threshold for fault detection stays set until the cycle is started. -/
theorem keeps_flag (s : Dem) (ha : ¬ StartsCycle c e s a) :
    Keeps c e config s a fun ctx => InRange config ctx ∧ ctx.fdcTriggerFlag = true where
  same h hsame := ⟨h.1.same hsame, hsame.flag.trans h.2⟩
  quiet h := h.1.quiet
  reported hrpt h := by
    have hcnts := counterBased_counts h.1 hrpt
    refine ⟨hcnts.inRange, ?_⟩
    rcases hcnts.once with ⟨-, hflag⟩ | ⟨-, hclr, -⟩
    · exact hflag.trans h.2
    · rw [h.2] at hclr
      cases hclr
  started h := absurd h ha
  cleared h := ⟨⟨h.1.zero.lower, h.1.zero.upper, h.1.quiet⟩, h.2⟩
  reset _ h := ⟨h.1.zero, h.2⟩

/-- The snapshots asked for with this trigger. -/
def fdcSnapshots (c : DemConf) (e : EventId) (s : Dem) : Nat :=
  s.triggered.count (dtcCode c e, .fdcThreshold)

/-- The snapshots that the reports of the event ask for in a run. -/
def snapshotsByReports (c : DemConf) (e : EventId) : Dem → List Action → Nat
  | _, [] => 0
  | s, a :: rest =>
    match step c s a with
    | none => 0
    | some t =>
      (match a with
        | .setStatus e' _ => if e' = e then fdcSnapshots c e t - fdcSnapshots c e s else 0
        | _ => 0) + snapshotsByReports c e t rest

theorem fdcSnapshots_congr {t : Dem} (h : t.triggered = s.triggered) :
    fdcSnapshots c e t = fdcSnapshots c e s := by
  unfold fdcSnapshots
  rw [h]

theorem fdcSnapshots_trigger (types : List TriggerType) :
    fdcSnapshots c e (s.trigger (dtcCode c e) types) = fdcSnapshots c e s +
        types.count .fdcThreshold := by
  unfold fdcSnapshots Dem.trigger
  rw [count_append, count_map_of_injective _ _ (Prod.mk_right_injective _)]

/-- A new fault status asks for snapshots, but not for this one. -/
theorem onFaultStatus_fdcSnapshots {old : StatusType} :
    fdcSnapshots c e (updateOnFaultStatus c s e old).1 = fdcSnapshots c e s := by
  have hstor : ∀ {u : Dem} {old : DtcCtx} {d : DtcCode},
      (storeDtcIfChanged u d old).1.triggered = u.triggered :=
    fun {u old d} => congrArg Memory.triggered (storeDtc_toMemory old)
  have hev : ∀ {u : Dem} {status : UdsStatus},
      (storeEventIfChanged c u e status).1.triggered = u.triggered :=
    fun {u status} => congrArg Memory.triggered (storeEvent_toMemory status)
  unfold updateOnFaultStatus
  split_ifs
  · rfl
  split
  · refine thenDo_invariant (P := fun t : Dem => fdcSnapshots c e t = fdcSnapshots c e s)
      (fdcSnapshots_congr hev) fun t ht => ?_
    refine (fdcSnapshots_congr hstor).trans ((fdcSnapshots_trigger _).trans ?_)
    rw [ht, count_eq_zero.2 (by simp [triggerSnapshotData])]
    rfl
  · refine thenDo_invariant (P := fun t : Dem => fdcSnapshots c e t = fdcSnapshots c e s)
      (fdcSnapshots_congr hev) fun t ht => ?_
    exact (fdcSnapshots_congr hstor).trans ht
  all_goals rfl

section

variable (hdeb : (c.event e).debounce = .counterBased config)
include hdeb

/-- A report asks for the snapshot at most once, and only where it sets the flag. -/
theorem setStatus_fdcSnapshots
    (h : InRange config (s.event e))
    (ht : (setStatusWithSupplierFaultCode c s e eventStatus).1 = t) :
    fdcSnapshots c e t = fdcSnapshots c e s ∨ fdcSnapshots c e t = fdcSnapshots c e s + 1 ∧
      (s.event e).fdcTriggerFlag = false ∧ (t.event e).fdcTriggerFlag = true := by
  subst ht
  unfold setStatusWithSupplierFaultCode
  rw [hdeb]
  split
  · exact .inl rfl
  split
  · exact .inl rfl
  dsimp only [debounceEvent]
  rcases hrpt : debounceCounterBased config (s.event e) eventStatus with _ | settled
  · exact .inl (fdcSnapshots_trigger [.everyTestFailed])
  obtain ⟨ctx, triggers⟩ := settled
  rw [onFaultStatus_fdcSnapshots, fdcSnapshots_trigger, onFaultStatus_event]
  have hbef : fdcSnapshots c e ((s.trigger (dtcCode c e) [.everyTestFailed]).setEvent e ctx) =
      fdcSnapshots c e s := fdcSnapshots_trigger [.everyTestFailed]
  rw [hbef, update_self, sameDebounce_judgedEvent.flag]
  rcases (counterBased_counts h hrpt).once with ⟨rfl, -⟩ | ⟨rfl, hclr, hset⟩
  · exact .inl rfl
  · exact .inr ⟨rfl, hclr, by simpa using hset⟩

theorem snapshotsByReports_le {during : List Action} (h : InRange config (s.event e))
    (hcyc : Meets (step c) (fun s a => ¬ StartsCycle c e s a) s during) :
    snapshotsByReports c e s during ≤ if (s.event e).fdcTriggerFlag then 0 else 1 := by
  induction during generalizing s with
  | nil => exact Nat.zero_le _
  | cons a rest ih =>
    unfold snapshotsByReports
    rcases hstep : step c s a with _ | t
    · exact Nat.zero_le _
    have hrest := ih ((keeps_inRange s a).step hdeb h hstep) (hcyc.2 t hstep)
    have hflag : (s.event e).fdcTriggerFlag = true → (t.event e).fdcTriggerFlag = true :=
      fun hset => ((keeps_flag s hcyc.1).step hdeb ⟨h, hset⟩ hstep).2
    have hstill : snapshotsByReports c e t rest ≤ if (s.event e).fdcTriggerFlag then 0 else 1 := by
      split_ifs with hset
      · rwa [if_pos (hflag hset)] at hrest
      · exact hrest.trans (by split_ifs <;> decide)
    dsimp only
    split
    · rename_i e' eventStatus
      by_cases he : e' = e
      · subst he
        rw [if_pos rfl]
        rcases setStatus_fdcSnapshots hdeb h (some.inj hstep) with hsame | ⟨hmore, hclr, hset⟩
        · rwa [hsame, Nat.sub_self, Nat.zero_add]
        rw [if_pos hset] at hrest
        rw [hclr, if_neg Bool.false_ne_true]
        omega
      · rwa [if_neg he, Nat.zero_add]
    · rwa [Nat.zero_add]

end

/-- What debouncing by a counter promises of an event: the counter stays in its range and in
sixteen bits, the fault status follows it after every accepted report, and further on until the
counter alone is set back from a threshold, a report moves it in its direction, and the reports of
a cycle ask for one snapshot. -/
structure CounterDebounced (c : DemConf) (db : Database) (e : EventId)
    (config : CounterBasedConfig) :
    Prop where
  inRange : ∀ actions s, exec (step c) (initDem c db) actions = some s →
    config.passedThreshold ≤ (s.event e).debounceCounter ∧
      (s.event e).debounceCounter ≤ config.failedThreshold ∧
      -32768 ≤ (s.event e).debounceCounter ∧ (s.event e).debounceCounter < 32768
  status : ∀ actions s, Meets (step c) (fun s a => ¬ LosesThreshold c e s a) (initDem c db) actions →
    exec (step c) (initDem c db) actions = some s → FaultFollows config (s.event e)
  reported : ∀ actions s eventStatus t, exec (step c) (initDem c db) actions = some s →
    step c s (.setStatus e eventStatus) = some t → (acceptedReport c s e eventStatus).isSome →
      FaultFollows config (t.event e)
  direction : ∀ actions s eventStatus t, exec (step c) (initDem c db) actions = some s →
    step c s (.setStatus e eventStatus) = some t →
      (eventStatus = .prefailed → (s.event e).debounceCounter ≤ (t.event e).debounceCounter) ∧
      (eventStatus = .prepassed → (t.event e).debounceCounter ≤ (s.event e).debounceCounter)
  onceACycle : ∀ before s during, exec (step c) (initDem c db) before = some s →
    Meets (step c) (fun s a => ¬ StartsCycle c e s a) s during →
      snapshotsByReports c e s during ≤ 1

theorem setStatus_counts (hdeb : (c.event e).debounce = .counterBased config)
    (h : InRange config (s.event e))
    (ht : (setStatusWithSupplierFaultCode c s e eventStatus).1 = t) :
    acceptedReport c s e eventStatus = none ∧ t.event e = s.event e ∨
      ∃ ctx triggers, Counts config (s.event e) ctx eventStatus triggers ∧
        SameDebounce ctx (t.event e) := by
  rw [← ht, setStatus_event]
  rcases haccd : acceptedReport c s e eventStatus with _ | ctx
  · exact .inl ⟨rfl, rfl⟩
  unfold acceptedReport at haccd
  split_ifs at haccd
  obtain ⟨⟨ctx, triggers⟩, hrpt, rfl⟩ := map_eq_some_iff.1 haccd
  rw [hdeb] at hrpt
  dsimp only
  rw [update_self]
  exact .inr ⟨ctx, triggers, counterBased_counts h hrpt, sameDebounce_judgedEvent⟩

theorem inRange_init (config : CounterBasedConfig) (db : Database) :
    InRange config ((initDem c db).event e) := by
  have hpass := config.passed_range
  have hfail := config.failed_range
  exact ⟨hpass.2.le, by simp only [initDem]; omega, rfl⟩

theorem inRange_run {db : Database} {actions : List Action}
    (hdeb : (c.event e).debounce = .counterBased config)
    (hrun : exec (step c) (initDem c db) actions = some s) : InRange config (s.event e) := by
  let Inv (s : Dem) : Prop := InRange config (s.event e)
  have hstep : ∀ s a t, Inv s → step c s a = some t → Inv t :=
    fun s a t h hstep => (keeps_inRange s a).step hdeb h hstep
  exact exec_invariant_of_step hstep (inRange_init config db) hrun

/-- Every configuration that the start accepts debounces as it should. -/
theorem counterDebounced (c : DemConf) (db : Database) (e : EventId) (config : CounterBasedConfig)
    (hdeb : (c.event e).debounce = .counterBased config) : CounterDebounced c db e config := by
  have hpassed := config.passed_range
  have hfailed := config.failed_range
  have hinit := inRange_init (c := c) (e := e) config db
  constructor
  · intro actions s hrun
    obtain ⟨hlower, hupper, -⟩ := inRange_run hdeb hrun
    exact ⟨hlower, hupper, by omega, by omega⟩
  · intro actions s hmeets hrun
    let Inv (s : Dem) : Prop := AtThreshold config (s.event e)
    have hstep : ∀ s a t, Inv s → ¬ LosesThreshold c e s a → step c s a = some t → Inv t :=
      fun s a t h ha hstep => (keeps_atThreshold s ha).step hdeb h hstep
    have hstatus := exec_invariant hstep (atThreshold_zero hinit rfl (by simp [initDem])) hmeets hrun
    exact hstatus.follows ⟨rfl, rfl, rfl, rfl⟩
  · intro actions s eventStatus t hrun hstep hsome
    rcases setStatus_counts hdeb (inRange_run hdeb hrun) (some.inj hstep) with
      ⟨hnone, -⟩ | ⟨ctx, triggers, hcounts, hsame⟩
    · rw [hnone] at hsome
      cases hsome
    · exact hcounts.atThreshold.follows hsame
  · intro actions s eventStatus t hrun hstep
    rcases setStatus_counts hdeb (inRange_run hdeb hrun) (some.inj hstep) with
      ⟨-, hevent⟩ | ⟨ctx, triggers, hcounts, hsame⟩
    · rw [hevent]
      exact ⟨fun _ => le_rfl, fun _ => le_rfl⟩
    · rw [hsame.counter]
      exact ⟨hcounts.up, hcounts.down⟩
  · intro before s during hrun hcycle
    refine (snapshotsByReports_le hdeb (inRange_run hdeb hrun) hcycle).trans ?_
    split_ifs <;> decide

/-- Steps by two, a jump above the threshold and one below it. -/
def jumpingCounter : CounterBasedConfig where
  decrementStepSize := 2
  incrementStepSize := 2
  failedThreshold := 3
  passedThreshold := -3
  jumpDown := true
  jumpUp := true
  jumpDownValue := -100
  jumpUpValue := 1
  fdcThreshold := 2
  decrement_range := by decide
  increment_range := by decide
  failed_range := by decide
  passed_range := by decide
  jumpDown_range := by decide
  jumpUp_range := by decide
  fdc_range := by decide

/-- The event is enabled, reported twice, disabled with its counter at the threshold, and reported
again. -/
def disabledWhileFailed : List Action :=
  [.setEnableCondition 1 true, .setOperCycleState 0 .start, .setStatus 1 .prefailed,
    .setStatus 1 .failed, .setEnableCondition 1 false, .setEnableCondition 1 true,
    .setStatus 1 .passed]

theorem counterDebounced_jumping :
    CounterDebounced (oneEvent 1 (.counterBased jumpingCounter))
      (Database.newDatabase (oneEvent 1 (.counterBased jumpingCounter))) 1 jumpingCounter ∧
    ((exec (step (oneEvent 1 (.counterBased jumpingCounter)))
      (initDem (oneEvent 1 (.counterBased jumpingCounter))
        (Database.newDatabase (oneEvent 1 (.counterBased jumpingCounter)))) disabledWhileFailed).map
      fun s => (s.event 1).eventFaultStatus) = some .passed :=
  ⟨counterDebounced _ _ _ _ rfl, by decide⟩

end TelAF.EventServer
