import TelAF.EventHistory

/-!
# When results are recorded

A report is taken only while the operation cycle of its event is started, its
enable condition holds and its DTC is active. A time based debounce that was
started by such a report ends later, in a timer handler that does not look at
these conditions again. No other operation records a result.
-/

namespace TelAF.EventServer
open DemConfiguration EventStatus DemDatabase StatusBit TransitionRuns Function

/-- A change of a byte that tells of no passed or failed result: no bit for a failure is
set anew, and no bit for an open test is taken away. -/
def Silent (old new : UdsStatus) : Prop :=
  has new tf = has old tf ∧
    (∀ b ∈ [tftoc, pdtc, cdtc, tfslc], has new b = true → has old b = true) ∧
    ∀ b ∈ [tncslc, tnctoc], has old b = true → has new b = true
deriving Decidable

/-- A result shows only where the three conditions of a report hold: in the byte of an event
for that event, in the byte of a DTC for an event of it. -/
def RecordsWhileAllowed (c : DemConf) (s t : Dem) : Prop :=
  (∀ e ∈ eventCtxList c, Silent (s.event e).eventUdsStatus (t.event e).eventUdsStatus ∨
      checkEventCondition c s e = .ok) ∧
    ∀ d ∈ dtcCtxList c, Silent (s.dtc d).dtcStatus (t.dtc d).dtcStatus ∨
      ∃ e ∈ getEventNodes c d, checkEventCondition c s e = .ok
deriving Decidable

/-- A debounce timer expires while the conditions of a report hold, or with the result that
the event had last. -/
def ChecksTimer (c : DemConf) (s : Dem) : Action → Prop
  | .debounceTimerExpires e => checkEventCondition c s e = .ok ∨
      (s.event e).eventFaultStatus = (expiredEvent (s.event e)).eventFaultStatus
  | _ => True

instance (c : DemConf) : DecidableRel (ChecksTimer c) := fun _ => by
  rintro ⟨⟩ <;> unfold ChecksTimer <;> infer_instance

variable {c : DemConf} {s t u : Dem} {e : EventId} {d : DtcCode}

theorem Silent.refl (status : UdsStatus) : Silent status status :=
  ⟨rfl, fun _ _ h => h, fun _ _ h => h⟩

theorem Silent.trans {status status' status'' : UdsStatus} (h : Silent status status')
    (h' : Silent status' status'') : Silent status status'' := by
  refine ⟨h'.1.trans h.1, ?_, ?_⟩
  · intro b hb hnew
    exact h.2.1 b hb (h'.2.1 b hb hnew)
  · intro b hb hold
    exact h'.2.2 b hb (h.2.2 b hb hold)

theorem silent_startedStatus (status : UdsStatus) : Silent status (startedStatus status) := by
  simp [Silent, startedStatus]

theorem silent_stoppedStatus (status : UdsStatus) : Silent status (stoppedStatus status) := by
  unfold stoppedStatus
  split_ifs
  · simp [Silent]
  · exact Silent.refl status

/-- No byte of an event or of a DTC tells of a result. -/
def SilentDem (s t : Dem) : Prop :=
  (∀ e, Silent (s.event e).eventUdsStatus (t.event e).eventUdsStatus) ∧
    ∀ d, Silent (s.dtc d).dtcStatus (t.dtc d).dtcStatus

theorem SilentDem.refl (s : Dem) : SilentDem s s :=
  ⟨fun _ => Silent.refl _, fun _ => Silent.refl _⟩

theorem SilentDem.trans (h : SilentDem s t) (h' : SilentDem t u) : SilentDem s u :=
  ⟨fun e => (h.1 e).trans (h'.1 e), fun d => (h.2 d).trans (h'.2 d)⟩

theorem SilentDem.of_same (hev : ∀ e, (t.event e).eventUdsStatus = (s.event e).eventUdsStatus)
    (hdtc : ∀ d, (t.dtc d).dtcStatus = (s.dtc d).dtcStatus) : SilentDem s t := by
  constructor
  · intro e
    rw [hev]
    exact Silent.refl _
  · intro d
    rw [hdtc]
    exact Silent.refl _

theorem SilentDem.recordsWhileAllowed (h : SilentDem s t) : RecordsWhileAllowed c s t :=
  ⟨fun e _ => Or.inl (h.1 e), fun d _ => Or.inl (h.2 d)⟩

theorem silentDem_setEvent {ctx : EventCtx}
    (h : Silent (s.event e).eventUdsStatus ctx.eventUdsStatus) : SilentDem s (s.setEvent e ctx) := by
  constructor
  · intro e'
    rw [Dem.setEvent_event]
    by_cases he : e' = e
    · rw [he, update_self]
      exact h
    · rw [update_of_ne he]
      exact Silent.refl _
  · intro d
    exact Silent.refl _

theorem silentDem_setDtc {ctx : DtcCtx} (h : Silent (s.dtc d).dtcStatus ctx.dtcStatus) :
    SilentDem s (s.setDtc d ctx) := by
  constructor
  · intro e
    exact Silent.refl _
  intro d'
  rw [Dem.setDtc_dtc]
  by_cases hd : d' = d
  · rw [hd, update_self]
    exact h
  · rw [update_of_ne hd]
    exact Silent.refl _

theorem silentDem_updateEventAndDtc {onEvent : EventCtx → EventCtx}
    {onStatus : UdsStatus → UdsStatus} (hstat : ∀ status, Silent status (onStatus status))
    (hev : ∀ ctx, (onEvent ctx).eventUdsStatus = onStatus ctx.eventUdsStatus) :
    SilentDem s (updateEventAndDtc c onEvent onStatus s e).1 := by
  have hfst : SilentDem s (s.setEvent e (onEvent (s.event e))) := by
    apply silentDem_setEvent
    rw [hev]
    exact hstat _
  apply thenDo_invariant (P := SilentDem s)
  · apply hfst.trans
    apply SilentDem.of_same <;> simp
  intro t ht
  have hdtc : SilentDem t (t.setDtc (dtcCode c e)
      { t.dtc (dtcCode c e) with dtcStatus := onStatus (t.dtc (dtcCode c e)).dtcStatus }) :=
    silentDem_setDtc (hstat _)
  apply (ht.trans hdtc).trans
  apply SilentDem.of_same <;> simp

theorem silentDem_startCycle (cycle : CycleId) :
    SilentDem s (startOperationCycle c s cycle).1 :=
  forEach_invariant (P := SilentDem s)
    (fun _ _ _ ht => ht.trans (silentDem_updateEventAndDtc silent_startedStatus fun _ => rfl))
    (SilentDem.refl s)

theorem silentDem_stopCycle (cycle : CycleId) :
    SilentDem s (stopOperationCycle c s cycle).1 :=
  forEach_invariant (P := SilentDem s)
    (fun _ _ _ ht => ht.trans (silentDem_updateEventAndDtc silent_stoppedStatus fun _ => rfl))
    (SilentDem.refl s)

theorem silentDem_setOperCycleState (cycle : CycleId) (state : OperationCycleState) :
    SilentDem s (setOperCycleState c s cycle state).1 := by
  rcases setOperCycleState_cases c s cycle state with
    ⟨hsame, -⟩ | ⟨-, ⟨-, -, heq⟩ | ⟨-, -, heq⟩ | ⟨-, -, heq⟩⟩
  · rw [hsame]
    exact SilentDem.refl s
  · rw [heq]
    apply thenDo_invariant (P := SilentDem s) (silentDem_stopCycle cycle)
    intro t ht
    exact ht.trans (silentDem_startCycle cycle)
  · rw [heq]
    apply thenDo_invariant (P := SilentDem s) (silentDem_startCycle cycle)
    intro t ht
    exact ht
  · rw [heq]
    apply thenDo_invariant (P := SilentDem s) (silentDem_stopCycle cycle)
    intro t ht
    exact ht

theorem silentDem_setDtcSetting (activation : Bool) :
    SilentDem s (setDtcSetting c s d activation).1 := by
  unfold setDtcSetting
  split_ifs
  · apply thenDo_invariant (P := SilentDem s) (SilentDem.refl s)
    intro t ht
    exact ht.trans (silentDem_setDtc (Silent.refl _))
  · exact SilentDem.refl s

theorem silentDem_setSuppression (suppression : Bool) :
    SilentDem s (setDtcSuppression c s d suppression).1 := by
  unfold setDtcSuppression
  split_ifs
  · apply thenDo_invariant (P := SilentDem s) (SilentDem.refl s)
    intro t ht
    exact ht.trans (silentDem_setDtc (Silent.refl _))
  · exact SilentDem.refl s

theorem silentDem_setAllSuppression (suppression : Bool) :
    SilentDem s (setAllDtcSuppression c s suppression).1 := by
  apply thenDo_invariant (P := SilentDem s) (SilentDem.refl s)
  intro t ht
  apply ht.trans
  apply SilentDem.of_same
  · intro e
    rw [(updateSuppression_kept suppression).1]
  intro d
  rw [updateSuppression_dtc]
  split_ifs <;> rfl

theorem updateDtcOnFailed_dtc_of_ne {d' : DtcCode} (h : d' ≠ d) :
    (updateDtcOnFailed c s d).1.dtc d' = s.dtc d' := by
  unfold updateDtcOnFailed
  simp [h]

theorem updateDtcOnPassed_dtc_of_ne {d' : DtcCode} (h : d' ≠ d) :
    (updateDtcOnPassed c s d).1.dtc d' = s.dtc d' := by
  unfold updateDtcOnPassed
  simp [h]

/-- A result of an event reaches no DTC but the one of the event. -/
theorem onFaultStatus_dtc_of_ne {old : StatusType} (h : d ≠ dtcCode c e) :
    (updateOnFaultStatus c s e old).1.dtc d = s.dtc d := by
  unfold updateOnFaultStatus
  split_ifs
  · rfl
  cases (s.event e).eventFaultStatus with
  | failed =>
    apply thenDo_invariant (P := fun t : Dem => t.dtc d = s.dtc d)
    · simp
    intro t ht
    rw [updateDtcOnFailed_dtc_of_ne h]
    exact ht
  | passed =>
    apply thenDo_invariant (P := fun t : Dem => t.dtc d = s.dtc d)
    · simp
    intro t ht
    rw [updateDtcOnPassed_dtc_of_ne h]
    exact ht
  | _ => rfl

theorem recorded_onFaultStatus {ctx : EventCtx} {old : StatusType}
    (he : e ∈ eventCtxList c) (hallw : checkEventCondition c s e = .ok)
    (hev : u.event = update s.event e ctx) (hdtc : u.dtc = s.dtc) :
    RecordsWhileAllowed c s (updateOnFaultStatus c u e old).1 := by
  constructor
  · intro e' _
    by_cases he' : e' = e
    · rw [he']
      exact Or.inr hallw
    left
    rw [onFaultStatus_event, update_of_ne he', hev, update_of_ne he']
    exact Silent.refl _
  · intro d' hd'
    by_cases hd : d' = dtcCode c e
    · rw [hd]
      exact Or.inr ⟨e, (dtcCode_spec he).2, hallw⟩
    left
    rw [onFaultStatus_dtc_of_ne hd, hdtc]
    exact Silent.refl _

theorem recorded_setStatus (eventStatus : StatusType) :
    RecordsWhileAllowed c s (setStatusWithSupplierFaultCode c s e eventStatus).1 := by
  unfold setStatusWithSupplierFaultCode
  split_ifs with hknown hallw
  iterate 2 exact (SilentDem.refl s).recordsWhileAllowed
  dsimp only
  have he : e ∈ eventCtxList c := by tauto
  split
  · apply SilentDem.recordsWhileAllowed
    exact SilentDem.of_same (fun _ => rfl) fun _ => rfl
  · exact recorded_onFaultStatus he (not_not.1 hallw) rfl rfl

theorem recorded_debounceTimer (he : e ∈ eventCtxList c)
    (hchkd : ChecksTimer c s (.debounceTimerExpires e)) :
    RecordsWhileAllowed c s (timeBasedDebounceTimerHandler c s e) := by
  rw [debounceTimer_eq]
  rcases hchkd with hallw | hrepe
  · exact recorded_onFaultStatus he hallw rfl rfl
  rw [onFaultStatus_of_eq (by rw [Dem.setEvent_event, update_self]; exact hrepe)]
  apply SilentDem.recordsWhileAllowed
  apply silentDem_setEvent
  unfold expiredEvent
  split <;> exact Silent.refl _

theorem recorded_step {a : Action} (hchkd : ChecksTimer c s a)
    (hclr : ∀ d, a ≠ .clearDtc d) (hstep : step c s a = some t) : RecordsWhileAllowed c s t := by
  cases a with
  | setStatus e eventStatus =>
    cases hstep
    exact recorded_setStatus eventStatus
  | debounceTimerExpires e =>
    obtain ⟨⟨he, _⟩, heq⟩ := Option.ite_none_right_eq_some.1 hstep
    cases heq
    exact recorded_debounceTimer he hchkd
  | fdcTimerExpires e =>
    obtain ⟨_, heq⟩ := Option.ite_none_right_eq_some.1 hstep
    cases heq
    have hset : SilentDem s (s.setEvent e { s.event e with fdcTimerRunning := false }) :=
      silentDem_setEvent (Silent.refl _)
    exact hset.recordsWhileAllowed
  | setOperCycleState cycle state =>
    cases hstep
    exact (silentDem_setOperCycleState cycle state).recordsWhileAllowed
  | setEnableCondition id fulfilled =>
    cases hstep
    constructor
    · intro e he
      left
      unfold setEnableCondition
      rw [setEnableStatus_event id he, (sameCore_enableEvent ..).1]
      exact Silent.refl _
    · intro d _
      rw [(setEnableCondition_kept id fulfilled).1]
      exact Or.inl (Silent.refl _)
  | resetDebounceStatus e status =>
    cases hstep
    apply SilentDem.recordsWhileAllowed
    apply SilentDem.of_same
    · intro e'
      exact (sameCore_resetDebounceStatus e status).1
    intro d
    unfold resetDebounceStatus
    dsimp only
    split_ifs <;> rfl
  | clearDtc d => exact absurd rfl (hclr d)
  | disableDtcSetting d =>
    cases hstep
    exact (silentDem_setDtcSetting false).recordsWhileAllowed
  | enableDtcSetting d =>
    cases hstep
    exact (silentDem_setDtcSetting true).recordsWhileAllowed
  | setDtcSuppression d suppressed =>
    cases hstep
    exact (silentDem_setSuppression suppressed).recordsWhileAllowed
  | setAllDtcSuppression suppressed =>
    cases hstep
    exact (silentDem_setAllSuppression suppressed).recordsWhileAllowed

/-- In a run whose timers expire while the conditions hold, every step but a clear records
results only where a report would be taken, whichever writes to the database fail. -/
theorem recorded_only_while_allowed {as : List Action}
    (hchecked : Meets (step c) (ChecksTimer c) s as) :
    Meets (step c) (fun s a => ∀ t, step c s a = some t → (∀ d, a ≠ .clearDtc d) →
      RecordsWhileAllowed c s t) s as :=
  hchecked.mono fun _ _ hok _ hstep hclear => recorded_step hok hclear hstep

theorem recorded_only_while_allowed_oneEvent :
    Meets (step (oneEvent 1 .timeBased)) (fun s a => ∀ t, step (oneEvent 1 .timeBased) s a = some t →
        (∀ d, a ≠ .clearDtc d) → RecordsWhileAllowed (oneEvent 1 .timeBased) s t)
      (clearedDem (oneEvent 1 .timeBased))
      [.setEnableCondition 1 true, .setOperCycleState 0 .start, .setStatus 1 .prefailed,
        .debounceTimerExpires 1, .setOperCycleState 0 .stop] :=
  recorded_only_while_allowed (by decide)

/-- A debounce started in the cycle ends after it, with a failed result. -/
theorem timer_records_in_stopped_cycle :
    ∃ s t, exec (step (oneEvent 1 .timeBased)) (clearedDem (oneEvent 1 .timeBased))
        [.setEnableCondition 1 true, .setOperCycleState 0 .start, .setStatus 1 .prefailed,
          .setOperCycleState 0 .stop] = some s ∧
      step (oneEvent 1 .timeBased) s (.debounceTimerExpires 1) = some t ∧
      checkEventCondition (oneEvent 1 .timeBased) s 1 = .notPossible ∧
      has (s.event 1).eventUdsStatus tf = false ∧ has (t.event 1).eventUdsStatus tf = true ∧
      has (s.dtc 0x100).dtcStatus tf = false ∧ has (t.dtc 0x100).dtcStatus tf = true ∧
      ¬ RecordsWhileAllowed (oneEvent 1 .timeBased) s t :=
  ⟨_, _, rfl, rfl, by decide, by decide, by decide, by decide, by decide, by decide⟩

end TelAF.EventServer
