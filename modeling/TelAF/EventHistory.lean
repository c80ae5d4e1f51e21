import TelAF.EventEffects
import TelAF.StatusHistory
import TelAF.TransitionRuns

/-!
# The status byte and the history of an event

The test results, cycle changes and clears of a run, as far as one event is
concerned, and the proof that the status byte of the event always tells what the
history says. The failure counter is part of the relation until the event is
confirmed, and the last fault status of the debouncer explains why a result that
it repeats can be dropped.
-/

namespace TelAF.EventServer
open DemConfiguration EventStatus DemDatabase StatusHistory StatusBit TransitionRuns Function List
  Option

/-- A completed test, by the fault status on which a debouncer has settled. -/
def resultOf : StatusType → List Happening
  | .failed => [.failed]
  | .passed => [.passed]
  | _ => []

def timerResult : RunningTimerType → List Happening
  | .prefailed => [.failed]
  | .prepassed => [.passed]
  | .unknown => []

/-- What a request for a state does to a cycle, the latest first. -/
def cycleChange (current : OperationCycleState) : OperationCycleState → List Happening
  | .start => if current = .start then [] else [.started]
  | .stop => if current = .stop then [] else [.stopped]
  | .restart => if current = .start then [.started, .stopped] else []

/-- What an action does that concerns the event, the latest first. -/
def happenings (c : DemConf) (s : Dem) (e : EventId) : Action → List Happening
  | .setStatus e' eventStatus =>
    if e' = e then ((acceptedReport c s e eventStatus).map (resultOf ·.eventFaultStatus)).getD []
    else []
  | .debounceTimerExpires e' => if e' = e then timerResult (s.event e).timerType else []
  | .setOperCycleState cycle state =>
    if (c.event e).operationCycle = cycle ∧ cycle < maxNumOfOperCycle c then
      cycleChange (s.operCycle cycle) state
    else []
  | .clearDtc d =>
    if (clearDtc c s d).2 = .ok ∧ (d = allDtcGroup ∨ d = dtcCode c e) then [.cleared] else []
  | _ => []

/-- The history of an event in a run, the latest happening first. -/
def history (c : DemConf) (e : EventId) : Dem → List Action → List Happening
  | _, [] => []
  | s, a :: rest =>
    match step c s a with
    | none => []
    | some t => history c e t rest ++ happenings c s e a

/-- The bits of a status byte are those of a history. -/
structure StatusOf (confirmationThreshold : UInt8) (h : List Happening) (status : UdsStatus) :
    Prop where
  tf : has status tf = true ↔ TestFailed h
  tftoc : has status tftoc = true ↔ FailedIn (thisCycle h)
  pdtc : has status pdtc = true ↔ Pending h
  cdtc : has status cdtc = true ↔ max 1 confirmationThreshold.toNat ≤ failedCycles h
  tncslc : has status tncslc = true ↔ ¬ TestedIn (sinceClear h)
  tfslc : has status tfslc = true ↔ FailedIn (sinceClear h)
  tnctoc : has status tnctoc = true ↔ ¬ TestedIn (thisCycle h)

/-- The failure counter counts the failed cycles until the event is confirmed. -/
structure Counted (confirmationThreshold : UInt8) (h : List Happening) (ctx : EventCtx) : Prop
    extends StatusOf confirmationThreshold h ctx.eventUdsStatus where
  counter : max 1 confirmationThreshold.toNat ≤ failedCycles h ∨
    ctx.failureCounter.toNat = failedCycles h

structure Settled (h : List Happening) (eventFaultStatus : StatusType) : Prop where
  failed : eventFaultStatus = .failed → TestFailed h ∧ FailedIn (thisCycle h) ∧ Pending h
  passed : eventFaultStatus = .passed → ¬ TestFailed h ∧ TestedIn (thisCycle h)

structure Tracks (confirmationThreshold : UInt8) (h : List Happening) (ctx : EventCtx) : Prop
    extends Counted confirmationThreshold h ctx where
  settled : Settled h ctx.eventFaultStatus

/-- An event just cleared, in a started or a stopped cycle. -/
def FreshlyCleared (ctx : EventCtx) : Prop :=
  ctx.eventUdsStatus = clearedStatus ∧ ctx.failureCounter = 0 ∧ ctx.eventFaultStatus = .unknown

variable {c : DemConf} {s : Dem} {e : EventId} {threshold : UInt8} {h : List Happening}
  {ctx ctx' : EventCtx}

theorem failedIn_sinceClear (hfail : FailedIn (thisCycle h)) : FailedIn (sinceClear h) :=
  (takeWhile_sublist _).subset hfail

theorem testedIn_sinceClear (htest : TestedIn (thisCycle h)) : TestedIn (sinceClear h) :=
  htest.imp (fun hfail => (takeWhile_sublist _).subset hfail)
    fun hpass => (takeWhile_sublist _).subset hpass

theorem settled_of_open {eventFaultStatus : StatusType} (hfail : eventFaultStatus ≠ .failed)
    (hpass : eventFaultStatus ≠ .passed) : Settled h eventFaultStatus :=
  ⟨fun heq => absurd heq hfail, fun heq => absurd heq hpass⟩

theorem Counted.of_same (hcntd : Counted threshold h ctx)
    (hstat : ctx'.eventUdsStatus = ctx.eventUdsStatus)
    (hcntr : ctx'.failureCounter = ctx.failureCounter) : Counted threshold h ctx' := by
  constructor
  · rw [hstat]
    exact hcntd.toStatusOf
  · rw [hcntr]
    exact hcntd.counter

theorem Tracks.of_sameCore (htrk : Tracks threshold h ctx) (hsame : SameCore ctx ctx') :
    Tracks threshold h ctx' := by
  obtain ⟨hstat, hcntr, hflt⟩ := hsame
  constructor
  · exact htrk.toCounted.of_same hstat hcntr
  · rw [hflt]
    exact htrk.settled

theorem statusOf_cleared (hclr : sinceClear h = []) : StatusOf threshold h clearedStatus := by
  constructor <;> simp [TestFailed, thisCycle, Pending, failedCycles, hclr]

theorem tracks_of_freshlyCleared (hclr : sinceClear h = []) (hclrd : FreshlyCleared ctx) :
    Tracks threshold h ctx := by
  obtain ⟨hstat, hcntr, hflt⟩ := hclrd
  refine ⟨⟨?_, ?_⟩, ?_⟩
  · rw [hstat]
    exact statusOf_cleared hclr
  · rw [hcntr]
    simp [failedCycles, hclr]
  · rw [hflt]
    exact settled_of_open (by simp) (by simp)

theorem freshlyCleared_clearedEvent (debounce : Debounce) (ctx : EventCtx) :
    FreshlyCleared (clearedEvent debounce ctx) :=
  sameCore_resetCounter debounce
    { ctx with eventUdsStatus := clearedStatus, failureCounter := 0, eventFaultStatus := .unknown }

variable {status : UdsStatus}

theorem statusOf_started (hstat : StatusOf threshold h status) :
    StatusOf threshold (.started :: h) (startedStatus status) where
  tf := by simpa [startedStatus] using hstat.tf
  tftoc := by simp [startedStatus]
  pdtc := by simpa [startedStatus] using hstat.pdtc
  cdtc := by simpa [startedStatus] using hstat.cdtc
  tncslc := by simpa [startedStatus, sinceClear_cons] using hstat.tncslc
  tfslc := by simpa [startedStatus, sinceClear_cons] using hstat.tfslc
  tnctoc := by simp [startedStatus]

theorem Tracks.started (debounce : Debounce) (htrk : Tracks threshold h ctx) :
    Tracks threshold (.started :: h) (startedEvent debounce ctx) := by
  obtain ⟨-, hcntr, hflt⟩ :=
    sameCore_resetCounter debounce { ctx with eventFaultStatus := .unknown }
  unfold startedEvent
  refine ⟨⟨statusOf_started htrk.toStatusOf, ?_⟩, ?_⟩
  · dsimp only
    rw [hcntr]
    exact htrk.counter
  · dsimp only
    rw [hflt]
    exact settled_of_open (by simp) (by simp)

theorem statusOf_stopped (hstat : StatusOf threshold h status) :
    StatusOf threshold (.stopped :: h) (stoppedStatus status) := by
  have hcyc : thisCycle (.stopped :: h) = .stopped :: thisCycle h :=
    thisCycle_cons (by decide) (by decide)
  have hpass : (has status tnctoc = false ∧ has status tftoc = false) ↔ PassedCycle h := by
    unfold PassedCycle
    rw [← hstat.tftoc, Bool.not_eq_true, ← not_iff_comm.1 hstat.tnctoc.symm, Bool.not_eq_true]
  have hkept : ∀ b, b ≠ pdtc → has (stoppedStatus status) b = has status b := by
    intro b hb
    unfold stoppedStatus
    split_ifs
    · simp [hb]
    · rfl
  constructor
  · simpa [hkept] using hstat.tf
  · simpa [hkept, hcyc] using hstat.tftoc
  · unfold stoppedStatus
    rw [pending_stopped, ← hpass, ← hstat.pdtc]
    split_ifs with hcomp
    all_goals simp [hcomp]
  · simpa [hkept] using hstat.cdtc
  · simpa [hkept, sinceClear_cons] using hstat.tncslc
  · simpa [hkept, sinceClear_cons] using hstat.tfslc
  · simpa [hkept, hcyc] using hstat.tnctoc

theorem Tracks.stopped (htrk : Tracks threshold h ctx) :
    Tracks threshold (.stopped :: h) (stoppedEvent ctx) := by
  have hcyc : thisCycle (.stopped :: h) = .stopped :: thisCycle h :=
    thisCycle_cons (by decide) (by decide)
  refine ⟨⟨statusOf_stopped htrk.toStatusOf, ?_⟩, ⟨fun hflt => ?_, fun hflt => ?_⟩⟩
  · rw [failedCycles_stopped]
    exact htrk.counter
  · obtain ⟨hlast, hfail, hpend⟩ := htrk.settled.failed hflt
    rw [hcyc, failedIn_cons, pending_stopped]
    exact ⟨hlast, Or.inr hfail, hpend, fun hpass => hpass.2 hfail⟩
  · obtain ⟨hlast, htest⟩ := htrk.settled.passed hflt
    rw [hcyc, testedIn_cons]
    exact ⟨hlast, Or.inr (Or.inr htest)⟩

theorem statusOf_passed (hstat : StatusOf threshold h status) :
    StatusOf threshold (.passed :: h) (passedStatus status) := by
  have hcyc : thisCycle (.passed :: h) = .passed :: thisCycle h :=
    thisCycle_cons (by decide) (by decide)
  constructor
  · simp [passedStatus]
  · simpa [passedStatus, hcyc] using hstat.tftoc
  · simpa [passedStatus] using hstat.pdtc
  · simpa [passedStatus] using hstat.cdtc
  · simp [passedStatus, sinceClear_cons]
  · simpa [passedStatus, sinceClear_cons] using hstat.tfslc
  · simp [passedStatus, hcyc]

theorem statusOf_passed_again (hstat : StatusOf threshold h status)
    (hlast : ¬ TestFailed h) (htest : TestedIn (thisCycle h)) :
    StatusOf threshold (.passed :: h) status := by
  have hkept : passedStatus status = status := by
    have htf : has status tf = false := by
      rw [← Bool.not_eq_true, hstat.tf]
      exact hlast
    have htncs : has status tncslc = false := by
      rw [← Bool.not_eq_true, hstat.tncslc, not_not]
      exact testedIn_sinceClear htest
    have htnct : has status tnctoc = false := by
      rw [← Bool.not_eq_true, hstat.tnctoc, not_not]
      exact htest
    apply ext_has
    intro b
    cases b <;> simp [passedStatus, htf, htncs, htnct]
  rw [← hkept]
  exact statusOf_passed hstat

/-- All bits but that for a confirmed event after a failed result. -/
theorem statusOf_failed (status : UdsStatus) {status' : UdsStatus}
    (hbits : ∀ b, b ≠ cdtc → has status' b = has (failedStatus status) b)
    (hcdtc : has status' cdtc = true ↔ max 1 threshold.toNat ≤ failedCycles (.failed :: h)) :
    StatusOf threshold (.failed :: h) status' := by
  have hcyc : thisCycle (.failed :: h) = .failed :: thisCycle h :=
    thisCycle_cons (by decide) (by decide)
  constructor
  case cdtc => exact hcdtc
  all_goals
    rw [hbits _ (by decide)]
    simp [failedStatus, hcyc, sinceClear_cons]

theorem statusOf_failed_again (hstat : StatusOf threshold h status)
    (hlast : TestFailed h) (hfail : FailedIn (thisCycle h)) (hpend : Pending h) :
    StatusOf threshold (.failed :: h) status := by
  have hsame : failedCycles (.failed :: h) = failedCycles h := by simp [hfail]
  have hslc : FailedIn (sinceClear h) := failedIn_sinceClear hfail
  have htncs : has status tncslc = false := by
    rw [← Bool.not_eq_true, hstat.tncslc, not_not]
    exact Or.inl hslc
  have htnct : has status tnctoc = false := by
    rw [← Bool.not_eq_true, hstat.tnctoc, not_not]
    exact Or.inl hfail
  have hbits : ∀ b, b ≠ cdtc → has status b = has (failedStatus status) b := by
    intro b hb
    cases b <;> simp [failedStatus, htncs, htnct, hstat.tf.2 hlast, hstat.tftoc.2 hfail,
      hstat.pdtc.2 hpend, hstat.tfslc.2 hslc]
  apply statusOf_failed _ hbits
  rw [hsame]
  exact hstat.cdtc

/-- The failure counter after a failed result. -/
def countFailure (ctx : EventCtx) : UInt8 :=
  if has ctx.eventUdsStatus tftoc = false ∧ ctx.failureCounter < maxTestFailureCounter then
    ctx.failureCounter + 1
  else ctx.failureCounter

/-- The counter goes along with the failed cycles until the event is confirmed. -/
theorem countFailure_toNat (hcntd : Counted threshold h ctx)
    (hopen : ¬ max 1 threshold.toNat ≤ failedCycles h) :
    (countFailure ctx).toNat = failedCycles (.failed :: h) := by
  have hcntr : ctx.failureCounter.toNat = failedCycles h := hcntd.counter.resolve_left hopen
  have hlimit : threshold.toNat < 256 := threshold.toNat_lt
  have hboun : ctx.failureCounter.toNat < 255 := by omega
  unfold countFailure
  rw [failedCycles_failed]
  by_cases htfto : has ctx.eventUdsStatus tftoc = true
  · rw [if_neg (by simp [htfto]), if_neg (not_not.2 (hcntd.tftoc.1 htfto))]
    exact hcntr
  rw [if_pos ⟨by simpa using htfto, hboun⟩, if_pos (mt hcntd.tftoc.2 htfto)]
  change (ctx.failureCounter.toNat + 1) % 256 = failedCycles h + 1
  omega

theorem onFailed_eq (threshold : UInt8) (ctx : EventCtx) :
    onFailed threshold ctx =
      if threshold ≤ countFailure ctx then
        { ctx with eventUdsStatus := set (failedStatus ctx.eventUdsStatus) cdtc, failureCounter := 0 }
      else { ctx with
        eventUdsStatus := failedStatus ctx.eventUdsStatus,
        failureCounter := countFailure ctx } := rfl

theorem counted_failed (hcntd : Counted threshold h ctx) :
    Counted threshold (.failed :: h) (onFailed threshold ctx) := by
  have hgrow : failedCycles h ≤ failedCycles (.failed :: h) := by
    rw [failedCycles_failed]
    omega
  have hpositive : 0 < failedCycles (.failed :: h) := by
    apply failedCycles_pos
    rw [thisCycle_cons (by decide) (by decide)]
    simp
  have hkept : has (failedStatus ctx.eventUdsStatus) cdtc = has ctx.eventUdsStatus cdtc := by
    simp [failedStatus]
  rw [onFailed_eq]
  by_cases hrchd : threshold ≤ countFailure ctx
  · have hconf : max 1 threshold.toNat ≤ failedCycles (.failed :: h) := by
      by_cases hbef : max 1 threshold.toNat ≤ failedCycles h
      · exact le_trans hbef hgrow
      have hcnt := countFailure_toNat hcntd hbef
      have hreachedNat : threshold.toNat ≤ (countFailure ctx).toNat := hrchd
      omega
    rw [if_pos hrchd]
    refine ⟨statusOf_failed ctx.eventUdsStatus ?_ ?_, Or.inl hconf⟩
    · intro b hb
      simp [hb]
    · simpa using hconf
  rw [if_neg hrchd]
  have hbits : ∀ b, b ≠ cdtc → has (failedStatus ctx.eventUdsStatus) b
      = has (failedStatus ctx.eventUdsStatus) b := fun b _ => rfl
  by_cases hbef : max 1 threshold.toNat ≤ failedCycles h
  · have hconf := le_trans hbef hgrow
    refine ⟨statusOf_failed _ hbits ?_, Or.inl hconf⟩
    rw [hkept, hcntd.cdtc]
    exact iff_of_true hbef hconf
  have hcnt := countFailure_toNat hcntd hbef
  have hopen : ¬ threshold.toNat ≤ (countFailure ctx).toNat := hrchd
  refine ⟨statusOf_failed _ hbits ?_, Or.inr hcnt⟩
  rw [hkept, hcntd.cdtc]
  apply iff_of_false hbef
  omega

theorem settled_failed : Settled (.failed :: h) .failed := by
  have hcyc : thisCycle (.failed :: h) = .failed :: thisCycle h :=
    thisCycle_cons (by decide) (by decide)
  constructor
  · intro _
    simp [hcyc]
  · simp

theorem settled_passed : Settled (.passed :: h) .passed := by
  have hcyc : thisCycle (.passed :: h) = .passed :: thisCycle h :=
    thisCycle_cons (by decide) (by decide)
  constructor
  · simp
  · intro _
    simp [hcyc]

theorem tracks_judgedFailed (htrk : Tracks threshold h ctx)
    (hcntd : Counted threshold h ctx') (hflt : ctx'.eventFaultStatus = .failed) :
    Tracks threshold (.failed :: h) (judgedEvent threshold ctx.eventFaultStatus ctx') := by
  unfold judgedEvent
  rw [hflt]
  by_cases hrepe : ctx.eventFaultStatus = .failed
  · obtain ⟨hlast, hfail, hpend⟩ := htrk.settled.failed hrepe
    rw [if_pos hrepe]
    refine ⟨⟨statusOf_failed_again hcntd.toStatusOf hlast hfail hpend, ?_⟩, ?_⟩
    · rw [failedCycles_failed, if_neg (not_not.2 hfail)]
      exact hcntd.counter
    · rw [hflt]
      exact settled_failed
  · rw [if_neg hrepe]
    refine ⟨counted_failed hcntd, ?_⟩
    have hkept : (onFailed threshold ctx').eventFaultStatus = ctx'.eventFaultStatus := by
      rw [onFailed_eq]
      split_ifs <;> rfl
    rw [hkept, hflt]
    exact settled_failed

theorem tracks_judgedPassed (htrk : Tracks threshold h ctx)
    (hcntd : Counted threshold h ctx') (hflt : ctx'.eventFaultStatus = .passed) :
    Tracks threshold (.passed :: h) (judgedEvent threshold ctx.eventFaultStatus ctx') := by
  have hsett : Settled (.passed :: h) ctx'.eventFaultStatus := by
    rw [hflt]
    exact settled_passed
  have hcntr : max 1 threshold.toNat ≤ failedCycles (.passed :: h) ∨
      ctx'.failureCounter.toNat = failedCycles (.passed :: h) := by
    rw [failedCycles_passed]
    exact hcntd.counter
  unfold judgedEvent
  rw [hflt]
  by_cases hrepe : ctx.eventFaultStatus = .passed
  · obtain ⟨hlast, htest⟩ := htrk.settled.passed hrepe
    rw [if_pos hrepe]
    exact ⟨⟨statusOf_passed_again hcntd.toStatusOf hlast htest, hcntr⟩, hsett⟩
  · rw [if_neg hrepe]
    exact ⟨⟨statusOf_passed hcntd.toStatusOf, hcntr⟩, hsett⟩

theorem tracks_judgedOpen (hcntd : Counted threshold h ctx') (old : StatusType)
    (hfail : ctx'.eventFaultStatus ≠ .failed) (hpass : ctx'.eventFaultStatus ≠ .passed) :
    Tracks threshold h (judgedEvent threshold old ctx') := by
  have hsame : judgedEvent threshold old ctx' = ctx' := by
    unfold judgedEvent
    split_ifs
    · rfl
    cases hflt : ctx'.eventFaultStatus with
    | failed => exact absurd hflt hfail
    | passed => exact absurd hflt hpass
    | _ => rfl
  rw [hsame]
  exact ⟨hcntd, settled_of_open hfail hpass⟩

theorem tracks_judged (htrk : Tracks threshold h ctx)
    (hstat : ctx'.eventUdsStatus = ctx.eventUdsStatus)
    (hcntr : ctx'.failureCounter = ctx.failureCounter) :
    Tracks threshold (resultOf ctx'.eventFaultStatus ++ h)
      (judgedEvent threshold ctx.eventFaultStatus ctx') := by
  have hcntd : Counted threshold h ctx' := htrk.toCounted.of_same hstat hcntr
  cases hflt : ctx'.eventFaultStatus with
  | failed => exact tracks_judgedFailed htrk hcntd hflt
  | passed => exact tracks_judgedPassed htrk hcntd hflt
  | _ => exact tracks_judgedOpen hcntd _ (by simp [hflt]) (by simp [hflt])

theorem tracks_expired (htrk : Tracks threshold h ctx) :
    Tracks threshold (timerResult ctx.timerType ++ h)
      (judgedEvent threshold ctx.eventFaultStatus (expiredEvent ctx)) := by
  have hstat : (expiredEvent ctx).eventUdsStatus = ctx.eventUdsStatus := by
    unfold expiredEvent
    split <;> rfl
  have hcntr : (expiredEvent ctx).failureCounter = ctx.failureCounter := by
    unfold expiredEvent
    split <;> rfl
  have hjudg := tracks_judged htrk hstat hcntr
  cases htype : ctx.timerType with
  | prefailed =>
    have hflt : (expiredEvent ctx).eventFaultStatus = .failed := by simp [expiredEvent, htype]
    rw [hflt] at hjudg
    exact hjudg
  | prepassed =>
    have hflt : (expiredEvent ctx).eventFaultStatus = .passed := by simp [expiredEvent, htype]
    rw [hflt] at hjudg
    exact hjudg
  | unknown =>
    have hflt : (expiredEvent ctx).eventFaultStatus = ctx.eventFaultStatus := by
      simp [expiredEvent, htype]
    unfold judgedEvent
    rw [if_pos hflt.symm]
    exact htrk.of_sameCore ⟨hstat, hcntr, hflt⟩

theorem tracks_setStatus {e' : EventId} {eventStatus : StatusType}
    (htrk : Tracks (c.event e).confirmationThreshold h (s.event e)) :
    Tracks (c.event e).confirmationThreshold
      (happenings c s e (.setStatus e' eventStatus) ++ h)
      ((setStatusWithSupplierFaultCode c s e' eventStatus).1.event e) := by
  rw [setStatus_event]
  dsimp only [happenings]
  by_cases he : e' = e
  · subst he
    rw [if_pos rfl]
    rcases haccd : acceptedReport c s e' eventStatus with _ | ctx
    · exact htrk
    dsimp only [getD_some]
    rw [update_self]
    obtain ⟨_, hdebo⟩ := ite_none_right_eq_some.1 haccd
    obtain ⟨settled, hsett, rfl⟩ := map_eq_some_iff.1 hdebo
    obtain ⟨hstat, hcntr, _⟩ := debounceEvent_spec hsett
    exact tracks_judged htrk hstat hcntr
  · rw [if_neg he]
    rcases acceptedReport c s e' eventStatus with _ | ctx
    · exact htrk
    dsimp only
    rw [update_of_ne (Ne.symm he)]
    exact htrk

theorem tracks_startCycle (cycle : CycleId) (hsto : Stores s) (he : e ∈ eventCtxList c)
    (htrk : Tracks threshold h (s.event e)) :
    Tracks threshold ((if (c.event e).operationCycle = cycle then [.started] else []) ++ h)
      ((startOperationCycle c s cycle).1.event e) := by
  rw [(does_startCycle cycle hsto).memory,
    foldl_cycleRound_event (cycleEvents_nodup cycle)]
  by_cases hcyc : (c.event e).operationCycle = cycle
  · rw [if_pos hcyc, if_pos (mem_cycleEvents.2 ⟨he, hcyc⟩)]
    exact htrk.started (c.event e).debounce
  · rw [if_neg hcyc, if_neg (fun hmem => hcyc (mem_cycleEvents.1 hmem).2)]
    exact htrk

theorem tracks_stopCycle (cycle : CycleId) (hsto : Stores s) (he : e ∈ eventCtxList c)
    (htrk : Tracks threshold h (s.event e)) :
    Tracks threshold ((if (c.event e).operationCycle = cycle then [.stopped] else []) ++ h)
      ((stopOperationCycle c s cycle).1.event e) := by
  rw [(does_stopCycle cycle hsto).memory,
    foldl_cycleRound_event (cycleEvents_nodup cycle)]
  by_cases hcyc : (c.event e).operationCycle = cycle
  · rw [if_pos hcyc, if_pos (mem_cycleEvents.2 ⟨he, hcyc⟩)]
    exact htrk.stopped
  · rw [if_neg hcyc, if_neg (fun hmem => hcyc (mem_cycleEvents.1 hmem).2)]
    exact htrk

theorem tracks_setOperCycleState {cycle : CycleId} {state : OperationCycleState}
    (hsto : Stores s) (he : e ∈ eventCtxList c) (htrk : Tracks threshold h (s.event e)) :
    Tracks threshold (happenings c s e (.setOperCycleState cycle state) ++ h)
      ((setOperCycleState c s cycle state).1.event e) := by
  have hsta := does_startCycle (c := c) cycle hsto
  have hstop := does_stopCycle (c := c) cycle hsto
  dsimp only [happenings]
  rcases setOperCycleState_cases c s cycle state with
    ⟨hsame, hidle⟩ | ⟨hcyc, ⟨rfl, hst, heq⟩ | ⟨rfl, hst, heq⟩ | ⟨rfl, hst, heq⟩⟩
  · have hnoth : cycle < maxNumOfOperCycle c → cycleChange (s.operCycle cycle) state = [] := by
      intro hcyc
      rcases hidle hcyc with ⟨rfl, hst⟩ | ⟨hrst, hst⟩
      · simp [cycleChange, hst]
      rw [hst]
      cases state with
      | restart => exact absurd rfl hrst
      | _ => rfl
    rw [hsame]
    split_ifs with hev
    · rw [hnoth hev.2]
      exact htrk
    · exact htrk
  · rw [heq, thenDo_of_ok hstop.ok]
    have hstopped := tracks_stopCycle cycle hsto he htrk
    have hstrt := tracks_startCycle cycle hstop.stores he hstopped
    by_cases hev : (c.event e).operationCycle = cycle
    · simpa [hev, hcyc, hst, cycleChange] using hstrt
    · simpa [hev] using hstrt
  · rw [heq, thenDo_of_ok hsta.ok]
    have hstrt := tracks_startCycle cycle hsto he htrk
    by_cases hev : (c.event e).operationCycle = cycle
    · simpa [hcyc, hst, cycleChange] using hstrt
    · simpa [hev] using hstrt
  · rw [heq, thenDo_of_ok hstop.ok]
    have hstopped := tracks_stopCycle cycle hsto he htrk
    by_cases hev : (c.event e).operationCycle = cycle
    · simpa [hcyc, hst, cycleChange] using hstopped
    · simpa [hev] using hstopped

theorem foldl_clearData_event (l : List DtcCode) (e : EventId)
    (hl : ∃ d ∈ l, e ∈ getEventNodes c d) (s : Dem) :
    FreshlyCleared ((l.foldl (clearDtcAndEventData c) s).event e) := by
  have hkept : ∀ (l : List DtcCode) (s : Dem), FreshlyCleared (s.event e) →
      FreshlyCleared ((l.foldl (clearDtcAndEventData c) s).event e) := by
    intro l
    induction l with
    | nil => exact fun s hs => hs
    | cons d rest ih =>
      intro s hs
      apply ih
      rw [clearData_event]
      split_ifs
      · exact freshlyCleared_clearedEvent _ _
      · exact hs
  induction l generalizing s with
  | nil => simp at hl
  | cons d rest ih =>
    rw [foldl_cons]
    by_cases hd : e ∈ getEventNodes c d
    · apply hkept
      rw [clearData_event, if_pos hd]
      exact freshlyCleared_clearedEvent _ _
    apply ih
    obtain ⟨d', hd', hnode⟩ := hl
    rcases mem_cons.1 hd' with rfl | hrest
    · exact absurd hnode hd
    · exact ⟨d', hrest, hnode⟩

theorem tracks_clearDtc {d : DtcCode} (hsto : Stores s) (he : e ∈ eventCtxList c)
    (htrk : Tracks threshold h (s.event e)) :
    Tracks threshold (happenings c s e (.clearDtc d) ++ h) ((clearDtc c s d).1.event e) := by
  obtain ⟨hctx, hnode⟩ := dtcCode_spec he
  have hclr : sinceClear (.cleared :: h) = [] := sinceClear_cleared
  dsimp only [happenings]
  unfold clearDtc
  by_cases hall : d = allDtcGroup
  · rw [if_pos hall, clearAllDtc_eq hsto, if_pos ⟨rfl, Or.inl hall⟩]
    apply tracks_of_freshlyCleared hclr
    exact foldl_clearData_event _ e ⟨dtcCode c e, hctx, hnode⟩ _
  rw [if_neg hall]
  rcases clearSingleDtc_cases (c := c) (d := d) hsto with
    ⟨result, hrefu, heq⟩ | ⟨hd, -, -, heq⟩
  · rw [heq, if_neg (fun hok => hrefu hok.1)]
    exact htrk
  rw [heq, clearData_event]
  by_cases hev : e ∈ getEventNodes c d
  · rw [if_pos hev, if_pos ⟨rfl, Or.inr (dtcCode_of_node hd hev).symm⟩]
    exact tracks_of_freshlyCleared hclr (freshlyCleared_clearedEvent _ _)
  rw [if_neg hev, if_neg]
  · exact htrk
  rintro ⟨_, rfl | rfl⟩
  · exact hall rfl
  · exact hev hnode

/-- A step records in the status byte what it adds to the history. -/
theorem tracks_step {a : Action} {t : Dem} (hsto : Stores s) (he : e ∈ eventCtxList c)
    (htrk : Tracks (c.event e).confirmationThreshold h (s.event e))
    (hstep : step c s a = some t) :
    Tracks (c.event e).confirmationThreshold (happenings c s e a ++ h) (t.event e) := by
  cases a with
  | setStatus e' eventStatus =>
    cases hstep
    exact tracks_setStatus htrk
  | debounceTimerExpires e' =>
    obtain ⟨_, heq⟩ := ite_none_right_eq_some.1 hstep
    cases heq
    rw [debounceTimer_event]
    dsimp only [happenings]
    by_cases he' : e' = e
    · subst he'
      rw [if_pos rfl, update_self]
      exact tracks_expired htrk
    · rw [if_neg he', update_of_ne (Ne.symm he')]
      exact htrk
  | fdcTimerExpires e' =>
    obtain ⟨_, heq⟩ := ite_none_right_eq_some.1 hstep
    cases heq
    rw [fdcTimerHandler_event]
    by_cases he' : e' = e
    · subst he'
      rw [update_self]
      exact htrk.of_sameCore ⟨rfl, rfl, rfl⟩
    · rw [update_of_ne (Ne.symm he')]
      exact htrk
  | setOperCycleState cycle state =>
    cases hstep
    exact tracks_setOperCycleState hsto he htrk
  | setEnableCondition id fulfilled =>
    cases hstep
    unfold setEnableCondition
    rw [setEnableStatus_event id he]
    exact htrk.of_sameCore (sameCore_enableEvent ..)
  | resetDebounceStatus e' status =>
    cases hstep
    exact htrk.of_sameCore (sameCore_resetDebounceStatus ..)
  | clearDtc d =>
    cases hstep
    exact tracks_clearDtc hsto he htrk
  | disableDtcSetting d =>
    cases hstep
    rw [disableDtcSetting, setDtcSetting_event]
    exact htrk
  | enableDtcSetting d =>
    cases hstep
    rw [enableDtcSetting, setDtcSetting_event]
    exact htrk
  | setDtcSuppression d suppressed =>
    cases hstep
    rw [setSuppression_event]
    exact htrk
  | setAllDtcSuppression suppressed =>
    cases hstep
    rw [setAllSuppression_event]
    exact htrk

/-- What holds of the history before a run holds of that history and the run's. -/
theorem tracks_run {as : List Action} {t : Dem} (hsto : Stores s) (he : e ∈ eventCtxList c)
    (htrk : Tracks (c.event e).confirmationThreshold h (s.event e))
    (hrun : exec (step c) s as = some t) :
    Tracks (c.event e).confirmationThreshold (history c e s as ++ h) (t.event e) := by
  induction as generalizing s h with
  | nil =>
    cases hrun
    exact htrk
  | cons a rest ih =>
    obtain ⟨u, hstep, hrest⟩ := bind_eq_some_iff.1 hrun
    have htail := ih (step_stores hsto hstep) (tracks_step hsto he htrk hstep) hrest
    dsimp only [history]
    rw [hstep, append_assoc]
    exact htail

/-- The status byte of an event tells its history since the last clear, from a cleared
event on and whatever is reported, expires, starts, stops or is cleared. -/
theorem eventUdsStatus_run {as : List Action} {t : Dem} (hsto : Stores s)
    (he : e ∈ eventCtxList c) (hcleared : FreshlyCleared (s.event e))
    (hrun : exec (step c) s as = some t) :
    StatusOf (c.event e).confirmationThreshold (history c e s as) (t.event e).eventUdsStatus := by
  have htracks := tracks_run hsto he (tracks_of_freshlyCleared (h := []) rfl hcleared) hrun
  rw [List.append_nil] at htracks
  exact htracks.toStatusOf

/-- One event of one DTC, that depends on one enable condition. -/
def oneEvent (confirmationThreshold : UInt8) (debounce : Debounce) : DemConf where
  eventIds := [1]
  event := fun _ => ⟨"Event", 0, confirmationThreshold, debounce, .freeze, ⟨[1], []⟩⟩
  dtcCodes := [0x100]
  dtcEvents := fun _ => [1]
  occurrenceCounterProcessing := .testFailedBit
  eventIds_sorted := List.pairwise_singleton ..
  dtcCodes_sorted := List.pairwise_singleton ..
  mnemonic_inj := by simp
  one_dtc := by simp

/-- A server on a new database, after a clear of all DTCs. -/
def clearedDem (c : DemConf) : Dem := (clearDtc c (initDem c (Database.newDatabase c)) allDtcGroup).1

theorem stores_clearedDem (c : DemConf) : Stores (clearedDem c) :=
  stores_clearDtc (s := initDem c (Database.newDatabase c)) (by exact rfl)

theorem eventUdsStatus_run_oneEvent :
    ∃ t, exec (step (oneEvent 2 .monitorInternal)) (clearedDem (oneEvent 2 .monitorInternal))
        [.setEnableCondition 1 true, .setOperCycleState 0 .start, .setStatus 1 .failed,
          .setOperCycleState 0 .restart, .setStatus 1 .passed, .setStatus 1 .failed] = some t ∧
      StatusOf 2 [.failed, .passed, .started, .stopped, .failed, .started]
        (t.event 1).eventUdsStatus := by
  obtain ⟨t, hrun⟩ : ∃ t, exec (step (oneEvent 2 .monitorInternal))
      (clearedDem (oneEvent 2 .monitorInternal))
      [.setEnableCondition 1 true, .setOperCycleState 0 .start, .setStatus 1 .failed,
        .setOperCycleState 0 .restart, .setStatus 1 .passed, .setStatus 1 .failed] = some t := ⟨_, rfl⟩
  exact ⟨t, hrun, eventUdsStatus_run (e := 1) (stores_clearedDem _) (by decide) ⟨rfl, rfl, rfl⟩ hrun⟩

/-- A clear within a cycle takes the results of that cycle and the last result away. A
threshold of zero does not confirm an event that has never failed. -/
theorem cleared_within_cycle :
    ∃ t, exec (step (oneEvent 0 .monitorInternal)) (clearedDem (oneEvent 0 .monitorInternal))
        [.setEnableCondition 1 true, .setOperCycleState 0 .start, .setStatus 1 .failed,
          .clearDtc 0x100] = some t ∧
      history (oneEvent 0 .monitorInternal) 1 (clearedDem (oneEvent 0 .monitorInternal))
        [.setEnableCondition 1 true, .setOperCycleState 0 .start, .setStatus 1 .failed,
          .clearDtc 0x100] = [.cleared, .failed, .started] ∧
      [Happening.cleared, .failed, .started].find? (fun x => x = .failed ∨ x = .passed)
        = some .failed ∧
      FailedIn ([Happening.cleared, .failed, .started].takeWhile (· ≠ .started)) ∧
      has (t.event 1).eventUdsStatus tf = false ∧
      has (t.event 1).eventUdsStatus tftoc = false ∧
      has (t.event 1).eventUdsStatus pdtc = false ∧
      has (t.event 1).eventUdsStatus tnctoc = true ∧
      has ((clearedDem (oneEvent 0 .monitorInternal)).event 1).eventUdsStatus cdtc = false :=
  ⟨_, rfl, by decide, by decide, by decide, by decide, by decide, by decide, by decide, by decide⟩

end TelAF.EventServer
