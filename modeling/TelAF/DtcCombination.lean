import TelAF.EventEffects
import TelAF.TransitionRuns

/-!
# The status of a DTC and the statuses of its events

A failed or passed report combines the status byte of the DTC anew from the bytes
of its events. The loops over the events of an operation cycle change single bits
of the DTC instead, as if all of its events belonged to the cycle and had come
through it alike. The DTC keeps the combination through a loop exactly under the
conditions below, which compare what the loop does to the bits of the DTC with
what it leaves of the bits of the events.
-/

namespace TelAF.EventServer
open DemConfiguration EventStatus DemDatabase StatusBit TransitionRuns Function List Database Dem

/-- The byte of every DTC is the combination of its events. -/
def Combined (c : DemConf) (s : Dem) : Prop :=
  ∀ d ∈ dtcCtxList c, (s.dtc d).dtcStatus = statusOfEvents c s d

/-- A start takes the bit for a failure in the cycle from every DTC with an event in it, so
no other event of the DTC may have that bit. -/
def StartKeeps (c : DemConf) (s : Dem) (cycle : CycleId) : Prop :=
  ∀ d ∈ dtcCtxList c, ∀ e ∈ getEventNodes c d, (c.event e).operationCycle = cycle →
    ∀ e' ∈ getEventNodes c d, (c.event e').operationCycle ≠ cycle →
      has (s.event e').eventUdsStatus tftoc = false
deriving Decidable

/-- The event is pending, and stays so when the cycle is stopped. -/
def StaysPending (c : DemConf) (s : Dem) (cycle : CycleId) (e : EventId) : Prop :=
  has (s.event e).eventUdsStatus pdtc = true ∧ ((c.event e).operationCycle = cycle →
    has (s.event e).eventUdsStatus tnctoc = true ∨ has (s.event e).eventUdsStatus tftoc = true)
deriving Decidable

/-- A stop leaves a DTC pending when some event of it is untested or has failed; some event
of it must then stay pending, and none otherwise. -/
def StopKeeps (c : DemConf) (s : Dem) (cycle : CycleId) : Prop :=
  ∀ d ∈ dtcCtxList c, ∀ e ∈ getEventNodes c d, (c.event e).operationCycle = cycle →
    has (s.dtc d).dtcStatus pdtc = true →
      ((∃ e' ∈ getEventNodes c d, has (s.event e').eventUdsStatus tnctoc = true ∨
          has (s.event e').eventUdsStatus tftoc = true) ↔
        ∃ e' ∈ getEventNodes c d, StaysPending c s cycle e')
deriving Decidable

/-- The condition for the loops that an action runs. -/
def KeepsCombination (c : DemConf) (s : Dem) : Action → Prop
  | .setOperCycleState cycle .start => s.operCycle cycle ≠ .start → StartKeeps c s cycle
  | .setOperCycleState cycle .stop => s.operCycle cycle ≠ .stop → StopKeeps c s cycle
  | .setOperCycleState cycle .restart =>
    s.operCycle cycle = .start → StopKeeps c s cycle ∧ StartKeeps c s cycle
  | _ => True

instance (c : DemConf) : DecidableRel (KeepsCombination c) := fun _ a => by
  unfold KeepsCombination
  split <;> infer_instance

variable {c : DemConf} {s : Dem} {e : EventId} {d : DtcCode} {cycle : CycleId}

theorem has_statusOfEvents (b : StatusBit) :
    has (statusOfEvents c s d) b = true ↔
      (∃ e ∈ getEventNodes c d, has (s.event e).eventUdsStatus b = true) ∧
      ¬ (b = tncslc ∧ ∃ e ∈ getEventNodes c d, has (s.event e).eventUdsStatus tfslc = true) ∧
      ¬ (b = tnctoc ∧ ∃ e ∈ getEventNodes c d, has (s.event e).eventUdsStatus tftoc = true) := by
  unfold statusOfEvents
  rw [has_combine]
  simp only [any_map, Bool.and_eq_true, Bool.not_eq_true',
    Bool.or_eq_false_iff, Bool.and_eq_false_iff]
  grind

variable {t : Dem}

theorem statusOfEvents_congr
    (h : ∀ e ∈ getEventNodes c d, (t.event e).eventUdsStatus = (s.event e).eventUdsStatus) :
    statusOfEvents c t d = statusOfEvents c s d := by
  exact congrArg combine (map_congr_left h)

theorem Combined.of_same (h : Combined c s)
    (hev : ∀ e ∈ eventCtxList c, (t.event e).eventUdsStatus = (s.event e).eventUdsStatus)
    (hdtc : ∀ d ∈ dtcCtxList c, (t.dtc d).dtcStatus = (s.dtc d).dtcStatus) : Combined c t := by
  intro d hd
  rw [hdtc d hd, h d hd]
  exact (statusOfEvents_congr fun e he => hev e (mem_eventCtxList_of_node hd he)).symm

theorem combined_of_recombined {ctx : EventCtx} (h : Combined c s)
    (hev : t.event = update s.event e ctx)
    (hkept : ∀ d, d ≠ dtcCode c e → t.dtc d = s.dtc d)
    (hnew : (t.dtc (dtcCode c e)).dtcStatus = statusOfEvents c t (dtcCode c e)) : Combined c t := by
  intro d hd
  by_cases hd' : d = dtcCode c e
  · rw [hd']
    exact hnew
  have hoths : statusOfEvents c t d = statusOfEvents c s d := by
    apply statusOfEvents_congr
    intro e' he'
    have hoth : e' ≠ e := by
      rintro rfl
      exact hd' (dtcCode_of_node hd he').symm
    rw [hev, update_of_ne hoth]
  rw [hkept d hd', hoths]
  exact h d hd

theorem combined_onFaultStatus {old : StatusType} (hsto : Stores s)
    (h : Combined c s) : Combined c (updateOnFaultStatus c s e old).1 := by
  unfold updateOnFaultStatus
  split_ifs
  · exact h
  cases (s.event e).eventFaultStatus with
  | failed =>
    obtain ⟨t, ht, hev, hdtc, heq⟩ := updateEventOnFailed_eq (c := c) (e := e) hsto
    rw [heq]
    have hdone := does_updateDtcOnFailed (c := c) (d := dtcCode c e) ht
    apply combined_of_recombined (e := e) h (by rw [hdone.memory, setDtc_event, hev])
    · intro d hd
      rw [hdone.memory, setDtc_dtc, update_of_ne hd, hdtc]
    unfold statusOfEvents
    rw [hdone.memory, setDtc_dtc, update_self]
    rfl
  | passed =>
    obtain ⟨t, ht, hev, hdtc, heq⟩ := updateEventOnPassed_eq (c := c) (e := e) hsto
    rw [heq]
    have hdone := does_updateDtcOnPassed (c := c) (d := dtcCode c e) ht
    apply combined_of_recombined (e := e) h (by rw [hdone.memory, setDtc_event, hev])
    · intro d hd
      rw [hdone.memory, setDtc_dtc, update_of_ne hd, hdtc]
    unfold statusOfEvents
    rw [hdone.memory, setDtc_dtc, update_self]
    rfl
  | _ => exact h

/-- The event as its debouncer leaves it has the status that it had. -/
theorem combined_setEvent {ctx : EventCtx} (h : Combined c s)
    (hstat : ctx.eventUdsStatus = (s.event e).eventUdsStatus) : Combined c (s.setEvent e ctx) := by
  apply h.of_same
  · intro e' _
    rw [setEvent_event]
    by_cases he : e' = e
    · rw [he, update_self, hstat]
    · rw [update_of_ne he]
  · intro d _
    rfl

theorem combined_setStatus {eventStatus : StatusType} (hsto : Stores s) (h : Combined c s) :
    Combined c (setStatusWithSupplierFaultCode c s e eventStatus).1 := by
  unfold setStatusWithSupplierFaultCode
  split_ifs
  · exact h
  · exact h
  dsimp only
  rcases hdeb : debounceEvent (c.event e).debounce (s.event e) eventStatus with _ | settled
  · exact h
  apply combined_onFaultStatus (by exact hsto)
  exact combined_setEvent (s := s.trigger (dtcCode c e) [.everyTestFailed]) h
    (debounceEvent_spec hdeb).1

theorem combined_debounceTimer (hsto : Stores s) (h : Combined c s) :
    Combined c (timeBasedDebounceTimerHandler c s e) := by
  rw [debounceTimer_eq]
  apply combined_onFaultStatus (by exact hsto)
  apply combined_setEvent h
  unfold expiredEvent
  split <;> rfl

/-- A clear leaves a DTC and its events, of which there is one, with the same byte. -/
theorem combined_clearData (hd : d ∈ dtcCtxList c) (h : Combined c s) :
    Combined c (clearDtcAndEventData c s d) := by
  intro d' hd'
  rw [clearData_dtc]
  by_cases hsame : d' = d
  · subst hsame
    obtain ⟨e, he⟩ := (mem_dtcCtxList.1 hd).2
    have hevs : ∀ e ∈ getEventNodes c d',
        ((clearDtcAndEventData c s d').event e).eventUdsStatus = clearedStatus := by
      intro e he
      rw [clearData_event, if_pos he]
      exact (sameCore_resetCounter _ _).1
    have hany : ∀ b, (∃ e ∈ getEventNodes c d',
        has ((clearDtcAndEventData c s d').event e).eventUdsStatus b = true) ↔
          has clearedStatus b = true := by
      intro b
      constructor
      · rintro ⟨e', he', hb⟩
        rw [hevs e' he'] at hb
        exact hb
      intro hb
      refine ⟨e, he, ?_⟩
      rw [hevs e he]
      exact hb
    apply ext_has
    intro b
    rw [Bool.eq_iff_iff, has_statusOfEvents, hany, hany, hany]
    cases b <;> simp
  · rw [update_of_ne hsame, h d' hd']
    symm
    apply statusOfEvents_congr
    intro e he
    rw [clearData_event, if_neg]
    intro hnode
    exact hsame ((dtcCode_of_node hd' he).symm.trans (dtcCode_of_node hd hnode))

theorem combined_clearDtc (hsto : Stores s) (h : Combined c s) :
    Combined c (clearDtc c s d).1 := by
  unfold clearDtc
  split_ifs
  · rw [clearAllDtc_eq hsto]
    have hloop : ∀ (l : List DtcCode) (t : Dem), (∀ d ∈ l, d ∈ dtcCtxList c) → Combined c t →
        Combined c (l.foldl (clearDtcAndEventData c) t) := by
      intro l
      induction l with
      | nil => exact fun t _ ht => ht
      | cons d rest ih =>
        intro t hl ht
        exact ih _ (fun d' hd' => hl d' (mem_cons_of_mem _ hd'))
          (combined_clearData (hl d (mem_cons_self ..)) ht)
    exact hloop _ _ (fun d hd => hd) h
  · rcases clearSingleDtc_cases (c := c) (d := d) hsto with ⟨result, -, heq⟩ | ⟨hd, -, -, heq⟩
    · rw [heq]
      exact h
    · rw [heq]
      exact combined_clearData hd h

theorem mem_map_cycleEvents (hd : d ∈ dtcCtxList c) :
    d ∈ (cycleEvents c cycle).map (dtcCode c) ↔
      ∃ e ∈ getEventNodes c d, (c.event e).operationCycle = cycle := by
  rw [mem_map]
  constructor
  · rintro ⟨e, he, rfl⟩
    obtain ⟨hctx, hcyc⟩ := mem_cycleEvents.1 he
    exact ⟨e, (dtcCode_spec hctx).2, hcyc⟩
  · rintro ⟨e, he, hcyc⟩
    exact ⟨e, mem_cycleEvents.2 ⟨mem_eventCtxList_of_node hd he, hcyc⟩, dtcCode_of_node hd he⟩

/-- What a loop over the events of a cycle does to the events of one DTC and to the DTC. -/
theorem cycleLoop_status {onEvent : EventId → EventCtx → EventCtx}
    {onStatus : UdsStatus → UdsStatus}
    (hmemy : t.toMemory = (cycleEvents c cycle).foldl (cycleRound c onEvent onStatus) s.toMemory)
    (hidem : ∀ status, onStatus (onStatus status) = onStatus status)
    (hev : ∀ e ctx, (onEvent e ctx).eventUdsStatus = onStatus ctx.eventUdsStatus)
    (hd : d ∈ dtcCtxList c) :
    (∀ e ∈ getEventNodes c d, (t.event e).eventUdsStatus =
        if (c.event e).operationCycle = cycle then onStatus (s.event e).eventUdsStatus
        else (s.event e).eventUdsStatus) ∧
      (t.dtc d).dtcStatus =
        if ∃ e ∈ getEventNodes c d, (c.event e).operationCycle = cycle then
          onStatus (s.dtc d).dtcStatus
        else (s.dtc d).dtcStatus := by
  constructor
  · intro e he
    rw [hmemy, foldl_cycleRound_event (cycleEvents_nodup cycle)]
    have hctx := mem_eventCtxList_of_node hd he
    by_cases hcyc : (c.event e).operationCycle = cycle
    · rw [if_pos (mem_cycleEvents.2 ⟨hctx, hcyc⟩), if_pos hcyc, hev]
    · rw [if_neg (fun hmem => hcyc (mem_cycleEvents.1 hmem).2), if_neg hcyc]
  · rw [hmemy, foldl_cycleRound_dtc hidem]
    by_cases hpart : ∃ e ∈ getEventNodes c d, (c.event e).operationCycle = cycle
    · rw [if_pos ((mem_map_cycleEvents hd).2 hpart), if_pos hpart]
    · rw [if_neg (mt (mem_map_cycleEvents hd).1 hpart), if_neg hpart]

theorem startedEvent_eventUdsStatus (debounce : Debounce) (ctx : EventCtx) :
    (startedEvent debounce ctx).eventUdsStatus = startedStatus ctx.eventUdsStatus := rfl

theorem has_startedStatus (status : UdsStatus) (b : StatusBit) :
    has (startedStatus status) b = true ↔ b = tnctoc ∨ has status b = true ∧ b ≠ tftoc := by
  cases b <;> simp [startedStatus]

theorem has_stoppedStatus (status : UdsStatus) (b : StatusBit) :
    has (stoppedStatus status) b = true ↔ has status b = true ∧
      (b = pdtc → has status tnctoc = true ∨ has status tftoc = true) := by
  unfold stoppedStatus
  by_cases hcomp : has status tnctoc = false ∧ has status tftoc = false
  · rw [if_pos hcomp]
    cases b <;> simp [hcomp]
  rw [if_neg hcomp]
  cases b <;> simp
  grind

section

variable (hsto : Stores s)
include hsto

theorem combined_startCycle (hkps : StartKeeps c s cycle)
    (h : Combined c s) : Combined c (startOperationCycle c s cycle).1 := by
  intro d hd
  obtain ⟨hevs, hdtc⟩ := cycleLoop_status (does_startCycle cycle hsto).memory
    startedStatus_idem (fun e ctx => startedEvent_eventUdsStatus (c.event e).debounce ctx) hd
  rw [hdtc]
  split_ifs with hpart
  · obtain ⟨e, he, hcyc⟩ := hpart
    have hoth := hkps d hd e he hcyc
    -- The bits of the events after the loop; no event outside of the cycle has `tftoc`.
    have hbits : ∀ b, (∃ e' ∈ getEventNodes c d,
        has ((startOperationCycle c s cycle).1.event e').eventUdsStatus b = true) ↔
          b = tnctoc ∨ b ≠ tftoc ∧
            ∃ e' ∈ getEventNodes c d, has (s.event e').eventUdsStatus b = true := by
      intro b
      constructor
      · rintro ⟨e', he', hb⟩
        rw [hevs e' he'] at hb
        split_ifs at hb with hcyc'
        · rcases (has_startedStatus _ b).1 hb with hb | ⟨hb, hne⟩
          · exact Or.inl hb
          · exact Or.inr ⟨hne, e', he', hb⟩
        refine Or.inr ⟨?_, e', he', hb⟩
        rintro rfl
        rw [hoth e' he' hcyc'] at hb
        cases hb
      · rintro (rfl | ⟨hne, e', he', hb⟩)
        · refine ⟨e, he, ?_⟩
          rw [hevs e he, if_pos hcyc, has_startedStatus]
          exact Or.inl rfl
        refine ⟨e', he', ?_⟩
        rw [hevs e' he']
        split_ifs
        · exact (has_startedStatus _ b).2 (Or.inr ⟨hb, hne⟩)
        · exact hb
    apply ext_has
    intro b
    rw [Bool.eq_iff_iff, has_startedStatus, h d hd, has_statusOfEvents, has_statusOfEvents,
      hbits, hbits, hbits]
    cases b <;> simp
  · rw [h d hd]
    symm
    apply statusOfEvents_congr
    intro e he
    rw [hevs e he, if_neg (fun hcyc => hpart ⟨e, he, hcyc⟩)]

theorem combined_stopCycle (hkps : StopKeeps c s cycle)
    (h : Combined c s) : Combined c (stopOperationCycle c s cycle).1 := by
  intro d hd
  obtain ⟨hevs, hdtc⟩ := cycleLoop_status (does_stopCycle cycle hsto).memory
    stoppedStatus_idem (fun _ _ => rfl) hd
  rw [hdtc]
  split_ifs with hpart
  · obtain ⟨e, he, hcyc⟩ := hpart
    have hpend := hkps d hd e he hcyc
    -- Only the pending bit can change, and the events that keep it are those that stay pending.
    have hbits : ∀ b, (∃ e' ∈ getEventNodes c d,
        has ((stopOperationCycle c s cycle).1.event e').eventUdsStatus b = true) ↔
          (b ≠ pdtc ∧ ∃ e' ∈ getEventNodes c d, has (s.event e').eventUdsStatus b = true) ∨
            b = pdtc ∧ ∃ e' ∈ getEventNodes c d, StaysPending c s cycle e' := by
      have hbit : ∀ b, ∀ e' ∈ getEventNodes c d,
          (has ((stopOperationCycle c s cycle).1.event e').eventUdsStatus b = true ↔
            has (s.event e').eventUdsStatus b = true ∧
              (b = pdtc → StaysPending c s cycle e')) := by
        intro b e' he'
        unfold StaysPending
        rw [hevs e' he']
        split_ifs with hcyc'
        · rw [has_stoppedStatus]
          grind
        · grind
      intro b
      by_cases hb : b = pdtc
      · subst hb
        constructor
        · rintro ⟨e', he', hb⟩
          exact Or.inr ⟨rfl, e', he', ((hbit pdtc e' he').1 hb).2 rfl⟩
        rintro (⟨hne, _⟩ | ⟨_, e', he', hsty⟩)
        · exact absurd rfl hne
        · exact ⟨e', he', (hbit pdtc e' he').2 ⟨hsty.1, fun _ => hsty⟩⟩
      · constructor
        · rintro ⟨e', he', hbit'⟩
          exact Or.inl ⟨hb, e', he', ((hbit b e' he').1 hbit').1⟩
        rintro (⟨_, e', he', hbit'⟩ | ⟨heq, _⟩)
        · exact ⟨e', he', (hbit b e' he').2 ⟨hbit', fun heq => absurd heq hb⟩⟩
        · exact absurd heq hb
    apply ext_has
    intro b
    rw [h d hd] at hpend ⊢
    rw [Bool.eq_iff_iff, has_stoppedStatus, has_statusOfEvents, has_statusOfEvents,
      has_statusOfEvents, has_statusOfEvents, hbits, hbits, hbits]
    rw [has_statusOfEvents] at hpend
    cases b
    case pdtc =>
      simp only [reduceCtorEq, false_and, not_false_eq_true, and_true, true_and] at hpend ⊢
      simp only [ne_eq, not_true_eq_false, false_and, false_or, forall_const]
      constructor
      · rintro ⟨hsome, hunte | ⟨e', he', hfail⟩⟩
        · obtain ⟨⟨e', he', hunte⟩, -⟩ := hunte
          exact (hpend hsome).1 ⟨e', he', Or.inl hunte⟩
        · exact (hpend hsome).1 ⟨e', he', Or.inr hfail⟩
      rintro ⟨e', he', hsty⟩
      have hsome : ∃ e ∈ getEventNodes c d, has (s.event e).eventUdsStatus pdtc = true :=
        ⟨e', he', hsty.1⟩
      refine ⟨hsome, ?_⟩
      by_cases hfail : ∃ e ∈ getEventNodes c d, has (s.event e).eventUdsStatus tftoc = true
      · exact Or.inr hfail
      obtain ⟨e'', he'', hunte | hfail'⟩ := (hpend hsome).2 ⟨e', he', hsty⟩
      · exact Or.inl ⟨⟨e'', he'', hunte⟩, hfail⟩
      · exact absurd ⟨e'', he'', hfail'⟩ hfail
    all_goals simp
  · rw [h d hd]
    symm
    apply statusOfEvents_congr
    intro e he
    rw [hevs e he, if_neg (fun hcyc => hpart ⟨e, he, hcyc⟩)]

/-- A stop leaves the bits for failures in a cycle as they are. -/
theorem startKeeps_stopCycle (hkps : StartKeeps c s cycle) :
    StartKeeps c (stopOperationCycle c s cycle).1 cycle := by
  intro d hd e he hcyc e' he' hcyc'
  obtain ⟨hevs, -⟩ := cycleLoop_status (does_stopCycle cycle hsto).memory
    stoppedStatus_idem (fun _ _ => rfl) hd
  rw [hevs e' he', if_neg hcyc']
  exact hkps d hd e he hcyc e' he' hcyc'

theorem combined_setOperCycleState {state : OperationCycleState}
    (hkps : KeepsCombination c s (.setOperCycleState cycle state)) (h : Combined c s) :
    Combined c (setOperCycleState c s cycle state).1 := by
  rcases setOperCycleState_cases c s cycle state with
    ⟨hsame, -⟩ | ⟨-, ⟨rfl, hst, heq⟩ | ⟨rfl, hst, heq⟩ | ⟨rfl, hst, heq⟩⟩
  · rw [hsame]
    exact h
  · obtain ⟨hstop, hsta⟩ := hkps hst
    have hstopped := does_stopCycle (c := c) cycle hsto
    rw [heq, thenDo_of_ok hstopped.ok]
    exact combined_startCycle hstopped.stores
      (startKeeps_stopCycle hsto hsta) (combined_stopCycle hsto hstop h)
  · rw [heq, thenDo_of_ok (does_startCycle (c := c) cycle hsto).ok]
    exact combined_startCycle hsto (hkps hst) h
  · rw [heq, thenDo_of_ok (does_stopCycle (c := c) cycle hsto).ok]
    exact combined_stopCycle hsto (hkps hst) h

end

theorem combined_setDtcSetting {activation : Bool} (hsto : Stores s) (h : Combined c s) :
    Combined c (setDtcSetting c s d activation).1 := by
  by_cases hd : d ∈ dtcCtxList c
  · have hdone := does_setDtcSetting (c := c) activation hsto hd
    apply h.of_same
    · intro e _
      rw [hdone.memory]
      rfl
    intro d' _
    rw [hdone.memory, setDtc_dtc]
    by_cases hd' : d' = d
    · rw [hd', update_self]
    · rw [update_of_ne hd']
  · unfold setDtcSetting
    rw [if_pos hd]
    exact h

variable {suppression : Bool}

theorem combined_setSuppression (hsto : Stores s) (h : Combined c s) :
    Combined c (setDtcSuppression c s d suppression).1 := by
  by_cases hd : d ∈ dtcCtxList c
  · have hdone := does_setSuppression (c := c) suppression hsto hd
    apply h.of_same
    · intro e _
      rw [hdone.memory]
      rfl
    intro d' _
    rw [hdone.memory, setDtc_dtc]
    by_cases hd' : d' = d
    · rw [hd', update_self]
    · rw [update_of_ne hd']
  · unfold setDtcSuppression
    rw [if_pos hd]
    exact h

theorem combined_setAllSuppression (h : Combined c s) :
    Combined c (setAllDtcSuppression c s suppression).1 := by
  apply thenDo_invariant (P := Combined c) h
  intro t ht
  apply ht.of_same
  · intro e _
    rw [(updateSuppression_kept suppression).1]
  · intro d hd
    rw [updateSuppression_dtc, if_pos hd]

theorem combined_step {a : Action} (hsto : Stores s)
    (hkps : KeepsCombination c s a) (h : Combined c s) (hstep : step c s a = some t) :
    Combined c t := by
  cases a with
  | setStatus e eventStatus =>
    cases hstep
    exact combined_setStatus hsto h
  | debounceTimerExpires e =>
    obtain ⟨_, heq⟩ := Option.ite_none_right_eq_some.1 hstep
    cases heq
    exact combined_debounceTimer hsto h
  | fdcTimerExpires e =>
    obtain ⟨_, heq⟩ := Option.ite_none_right_eq_some.1 hstep
    cases heq
    have hset : Combined c (s.setEvent e { s.event e with fdcTimerRunning := false }) :=
      combined_setEvent h rfl
    exact hset.of_same (fun _ _ => rfl) fun _ _ => rfl
  | setOperCycleState cycle state =>
    cases hstep
    exact combined_setOperCycleState hsto hkps h
  | setEnableCondition id fulfilled =>
    cases hstep
    apply h.of_same
    · intro e he
      unfold setEnableCondition
      rw [setEnableStatus_event id he]
      exact (sameCore_enableEvent ..).1
    · intro d _
      rw [(setEnableCondition_kept id fulfilled).1]
  | resetDebounceStatus e status =>
    cases hstep
    apply h.of_same
    · intro e' _
      exact (sameCore_resetDebounceStatus e status).1
    intro d _
    unfold resetDebounceStatus
    dsimp only
    split_ifs <;> rfl
  | clearDtc d =>
    cases hstep
    exact combined_clearDtc hsto h
  | disableDtcSetting d | enableDtcSetting d =>
    cases hstep
    exact combined_setDtcSetting hsto h
  | setDtcSuppression d suppressed =>
    cases hstep
    exact combined_setSuppression hsto h
  | setAllDtcSuppression suppressed =>
    cases hstep
    exact combined_setAllSuppression h

/-- Reports and clears keep the combination, and the loops over cycles keep it under their
condition. -/
theorem dtcStatus_combined_run {as : List Action} {t : Dem} (hsto : Stores s)
    (h : Combined c s) (hkeeps : Meets (step c) (KeepsCombination c) s as)
    (hrun : exec (step c) s as = some t) :
    ∀ d ∈ dtcCtxList c, (t.dtc d).dtcStatus = statusOfEvents c t d := by
  have hstep : ∀ s a t, (Stores s ∧ Combined c s) → KeepsCombination c s a →
      step c s a = some t → (Stores t ∧ Combined c t) :=
    fun s a t hs hok hstep => ⟨step_stores hs.1 hstep, combined_step hs.1 hok hs.2 hstep⟩
  exact (exec_invariant hstep ⟨hsto, h⟩ hkeeps hrun).2

/-- All bytes of a new database are zero, as is their combination. -/
theorem combined_initDem (c : DemConf) : Combined c (initDem c (newDatabase c)) := by
  intro d _
  have hdtc : (newDatabase c).readStatusByDtc d = 0 := by
    unfold readStatusByDtc
    rcases hqry : (newDatabase c).dtcs.query d with _ | entity
    · rfl
    obtain ⟨hmem, -⟩ := KeyedTable.Table.query_eq_some.1 hqry
    obtain ⟨d', _, rfl⟩ := mem_map.1 hmem
    rfl
  have hev : ∀ e, (newDatabase c).getEventStatusByName (c.event e).mnemonic = 0 := by
    intro e
    apply foldlRecOn (motive := fun status => status = 0) _ _ rfl
    rintro status rfl r hr
    obtain ⟨p, _, rfl⟩ := mem_map.1 (mem_filter.1 hr).1
    simp
  change (newDatabase c).readStatusByDtc d = _
  rw [hdtc]
  apply ext_has
  intro b
  rw [Bool.eq_iff_iff, has_statusOfEvents]
  constructor
  · intro hb
    cases b <;> cases hb
  rintro ⟨⟨e, _, hb⟩, _⟩
  change has ((newDatabase c).getEventStatusByName (c.event e).mnemonic) b = true at hb
  rw [hev] at hb
  exact hb

theorem oneCode_sorted : List.Pairwise (· < ·) ([0x100] : List DtcCode) := by simp

/-- Two events of one DTC in one operation cycle. -/
def twoEvents : DemConf where
  eventIds := [1, 2]
  event := fun e => ⟨if e = 1 then "A" else "B", 0, 2, .monitorInternal, .freeze, ⟨[1], []⟩⟩
  dtcCodes := [0x100]
  dtcEvents := fun _ => [1, 2]
  occurrenceCounterProcessing := .testFailedBit
  eventIds_sorted := by simp
  dtcCodes_sorted := oneCode_sorted
  mnemonic_inj := by decide
  one_dtc := by simp

theorem dtcStatus_combined_run_twoEvents :
    ∃ t, exec (step twoEvents) (initDem twoEvents (Database.newDatabase twoEvents))
        [.setEnableCondition 1 true, .setOperCycleState 0 .start, .setStatus 1 .failed,
          .setStatus 2 .passed, .setOperCycleState 0 .restart, .setStatus 1 .passed,
          .setStatus 2 .passed, .setOperCycleState 0 .stop] = some t ∧
      ∀ d ∈ dtcCtxList twoEvents, (t.dtc d).dtcStatus = statusOfEvents twoEvents t d := by
  obtain ⟨t, hrun⟩ : ∃ t, exec (step twoEvents) (initDem twoEvents (Database.newDatabase twoEvents))
      [.setEnableCondition 1 true, .setOperCycleState 0 .start, .setStatus 1 .failed,
        .setStatus 2 .passed, .setOperCycleState 0 .restart, .setStatus 1 .passed,
        .setStatus 2 .passed, .setOperCycleState 0 .stop] = some t := ⟨_, rfl⟩
  exact ⟨t, hrun, dtcStatus_combined_run (by exact rfl) (combined_initDem twoEvents) (by decide) hrun⟩

/-- The second event has not been tested when the cycle stops: the first one loses its
pending bit, the DTC keeps it. -/
theorem stop_of_untested_event :
    ∃ t, exec (step twoEvents) (initDem twoEvents (Database.newDatabase twoEvents))
        [.setEnableCondition 1 true, .setOperCycleState 0 .start, .setStatus 1 .failed,
          .setStatus 2 .passed, .setOperCycleState 0 .restart, .setStatus 1 .passed,
          .setOperCycleState 0 .stop] = some t ∧
      Combined twoEvents (initDem twoEvents (Database.newDatabase twoEvents)) ∧
      0x100 ∈ dtcCtxList twoEvents ∧
      has (t.dtc 0x100).dtcStatus pdtc = true ∧
      has (statusOfEvents twoEvents t 0x100) pdtc = false ∧
      (t.dtc 0x100).dtcStatus ≠ statusOfEvents twoEvents t 0x100 :=
  ⟨_, rfl, combined_initDem twoEvents, by decide, by decide, by decide, by decide⟩

end TelAF.EventServer
