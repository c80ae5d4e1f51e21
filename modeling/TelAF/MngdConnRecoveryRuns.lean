import TelAF.MngdConnSchedules

/-!
# Recoveries in every run

Most handlers leave all recoveries alone, and those of a recovery leave those of the other data
objects alone. So a step is checked at one data object at most; what has been queued for it and the
call that waits are part of the invariant.
-/

namespace TelAF.MngdConn

open TransitionRuns State SmEvent DataCtx List Option

/-! ## Events and calls -/

/-- The events by which the recovery of the data object goes on. -/
def SmEvent.Carries (dataId : Nat) (e : SmEvent) : Prop :=
  e = .recoveryStartL1 dataId ∨ e = .recoveryInterrupted dataId ∨
    e = .recoveryCancelSendInd dataId

def Act.About (dataId : Nat) : Act → Prop
  | .recovery other _ _ | .radioOff other | .simOff other | .restart other => other = dataId
  | _ => False

def SmEvent.waited : SmEvent → Bool
  | .dataStartSync _ | .dataStopSync _ | .dataStartRetryAppReq _ _ | .recoveryCancelSync _ => true
  | _ => false

/-- The events of the recoveries of the first level, and all others. -/
def SmEvent.Expected : SmEvent → Prop
  | .recoveryStartL2 _ | .recoveryScheduleL3 _ | .recoveryStartL3 _ | .recoveryCancel _ => False
  | _ => True

def Call.event : Call → SmEvent
  | .startData _ dataId => .dataStartSync dataId
  | .stopData _ dataId => .dataStopSync dataId
  | .startDataRetry client dataId => .dataStartRetryAppReq dataId client
  | .cancelRecovery _ dataId => .recoveryCancelSync dataId

def Call.cancels : Call → Bool
  | .cancelRecovery _ _ => true
  | _ => false

def Event.handles : Event → Bool
  | .handle _ => true
  | _ => false

def State.awaited (s : State) : List SmEvent :=
  match s.call with
  | some (call, none) => [call.event]
  | _ => []

variable {e : SmEvent}

theorem SmEvent.Plain.note (h : e.Plain) (dataId : Nat) : e.note dataId = none := by
  cases e
  all_goals first | rfl | exact h.elim

theorem SmEvent.Plain.waited (h : e.Plain) : e.waited = false := by
  cases e
  all_goals first | rfl | exact h.elim

theorem SmEvent.Plain.expected (h : e.Plain) : e.Expected := by
  cases e
  all_goals trivial

variable {dataId other : Nat}

theorem SmEvent.Carries.note (h : e.Carries dataId)
    (hne : other ≠ dataId) : e.note other = none := by
  obtain rfl | rfl | rfl := h
  all_goals exact if_neg (Ne.symm hne)

theorem SmEvent.Carries.waited (h : e.Carries dataId) : e.waited = false := by
  obtain rfl | rfl | rfl := h
  all_goals rfl

theorem SmEvent.Carries.expected (h : e.Carries dataId) : e.Expected := by
  obtain rfl | rfl | rfl := h
  all_goals trivial

variable {v : Recoveries}

theorem Recoveries.same_act {a : Act}
    (h : a.Plain ∨ ∃ other, other ≠ dataId ∧ a.About other) : v.Same (v.act dataId a) := by
  obtain hplai | ⟨other, hne, habou⟩ := h
  · cases a with
    | dataState other state =>
      cases state with
      | connected =>
        unfold Recoveries.act
        dsimp only
        split_ifs
        all_goals exact ⟨rfl, rfl⟩
      | disconnected | connectionFailed | connectionStalled => exact ⟨rfl, rfl⟩
    | recovery other event operation | radioOff other | simOff other | restart other =>
      exact hplai.elim
    | answered call r | startData other r | stopData other r | clearClients other
    | radioOn other | simOn other => exact ⟨rfl, rfl⟩
  · have hsame : v.act dataId a = v := by
      cases a
      all_goals first
        | exact if_neg fun heq => hne (habou.symm.trans heq)
        | exact habou.elim
    rw [hsame]
    exact ⟨rfl, rfl⟩

/-! ## What a step leaves alone -/

structure Work.Within (w : Work) (dataId : Nat) : Prop where
  posted : ∀ e ∈ w.posted, e.Plain ∨ e.Carries dataId
  acts : ∀ a ∈ w.acts, a.Plain ∨ a.About dataId

/-- From `s` to `t` the recoveries of all data objects but a busy one are left alone. -/
structure State.Works (busy : Option Nat) (s t : State) : Prop where
  dataIds : t.dataIds = s.dataIds
  known : ∀ dataId, (∃ c', t.ctx dataId = some c') ↔ ∃ c, s.ctx dataId = some c
  restarts : t.restarts = s.restarts
  posted : ∃ es, t.events = s.events ++ es ∧ ∀ e ∈ es, e.Plain ∨
    ∃ dataId ∈ busy, e.Carries dataId
  acts : ∃ as, t.acts = s.acts ++ as ∧ ∀ a ∈ as, a.Plain ∨
    ∃ dataId ∈ busy, a.About dataId
  ctx : ∀ dataId, dataId ∉ busy → ∀ c', t.ctx dataId = some c' →
    ∃ c, s.ctx dataId = some c ∧ c.Calm c'

variable {s t : State}

theorem State.known_onCtx {f : Work → Work} :
    (∃ c', (s.onCtx dataId f).ctx other = some c') ↔ ∃ c, s.ctx other = some c := by
  by_cases heq : other = dataId
  · subst other
    exact ⟨fun ⟨c, hc⟩ => (ctx_onCtx_eq_some.1 hc).imp fun _ hb => hb.1,
      fun ⟨b, hb⟩ => ⟨_, ctx_onCtx_eq_some.2 ⟨b, hb, rfl⟩⟩⟩
  · rw [ctx_onCtx, if_neg heq]

variable {es : List SmEvent} {as : List Act} {r : Result} {g : Nat → Work → Work} {client : Nat}

namespace State.Works

variable {p : Policy} {s t u : State} {busy : Option Nat} {dataId : Nat} {f : Work → Work}

theorem refl : s.Works busy s where
  dataIds := rfl
  known := fun _ => Iff.rfl
  restarts := rfl
  posted := ⟨[], (append_nil _).symm, forall_mem_nil _⟩
  acts := ⟨[], (append_nil _).symm, forall_mem_nil _⟩
  ctx := fun _ _ c' hc' => ⟨c', hc', .refl⟩

theorem trans (h : s.Works busy t) (h' : t.Works busy u) : s.Works busy u where
  dataIds := h'.dataIds.trans h.dataIds
  known := fun dataId => (h'.known dataId).trans (h.known dataId)
  restarts := h'.restarts.trans h.restarts
  posted := by
    obtain ⟨es, hes, hplai⟩ := h.posted
    obtain ⟨es', hes', hplai'⟩ := h'.posted
    refine ⟨es ++ es', ?_, fun e he => (mem_append.1 he).elim (hplai e) (hplai' e)⟩
    rw [hes', hes, append_assoc]
  acts := by
    obtain ⟨as, has, hplai⟩ := h.acts
    obtain ⟨as', has', hplai'⟩ := h'.acts
    refine ⟨as ++ as', ?_, fun a ha => (mem_append.1 ha).elim (hplai a) (hplai' a)⟩
    rw [has', has, append_assoc]
  ctx := by
    intro dataId hnot c' hc'
    obtain ⟨b, hb, hcalm'⟩ := h'.ctx dataId hnot c' hc'
    obtain ⟨c, hc, hcalm⟩ := h.ctx dataId hnot b hb
    exact ⟨c, hc, hcalm.trans hcalm'⟩

theorem of_eq (hids : t.dataIds = s.dataIds) (hctx : t.ctx = s.ctx) (hrsrt : t.restarts = s.restarts)
    (hevs : t.events = s.events ++ es) (hes : ∀ e ∈ es, e.Plain)
    (hacts : t.acts = s.acts ++ as) (has : ∀ a ∈ as, a.Plain) : s.Works busy t where
  dataIds := hids
  known := fun dataId => by rw [hctx]
  restarts := hrsrt
  posted := ⟨es, hevs, fun e he => Or.inl (hes e he)⟩
  acts := ⟨as, hacts, fun a ha => Or.inl (has a ha)⟩
  ctx := fun dataId _ c' hc' => ⟨c', congrFun hctx dataId ▸ hc', .refl⟩

theorem of_same (hids : t.dataIds = s.dataIds) (hctx : t.ctx = s.ctx)
    (hrsrt : t.restarts = s.restarts)
    (hevs : t.events = s.events) (hacts : t.acts = s.acts) : s.Works busy t :=
  of_eq hids hctx hrsrt (hevs.trans (append_nil _).symm) (forall_mem_nil _)
    (hacts.trans (append_nil _).symm) (forall_mem_nil _)

theorem listed (h : s.Works busy t) (hlstd : s.Listed) : t.Listed :=
  ⟨h.dataIds ▸ hlstd.nodup, fun dataId => by rw [h.dataIds, h.known, hlstd.mem_iff]⟩

theorem fulfill : s.Works busy (s.fulfill r) := by
  unfold State.fulfill
  split
  · exact of_same rfl rfl rfl rfl rfl
  · exact refl

theorem onCtx (h : ∀ c, s.ctx dataId = some c → (f { ctx := c }).Calm c) :
    s.Works busy (s.onCtx dataId f) := by
  rcases hc : s.ctx dataId with _ | c
  · rw [onCtx_of_none hc]
    exact refl
  refine ⟨dataIds_onCtx, fun _ => known_onCtx, onCtx_keeps State.restarts fun _ => rfl, ?_, ?_,
    fun other _ c' hc' => ?_⟩
  · rw [onCtx_of_some hc]
    exact ⟨_, rfl, fun e he => Or.inl ((h c hc).posted e he)⟩
  · rw [onCtx_of_some hc]
    exact ⟨_, rfl, fun a ha => Or.inl ((h c hc).acts a ha)⟩
  by_cases heq : other = dataId
  · subst other
    obtain ⟨b, hb, rfl⟩ := ctx_onCtx_eq_some.1 hc'
    exact ⟨b, hb, (h b hb).ctx⟩
  · rw [ctx_onCtx, if_neg heq] at hc'
    exact ⟨c', hc', .refl⟩

theorem onCtx_of (h : ∀ c, (f { ctx := c }).Calm c) : s.Works busy (s.onCtx dataId f) :=
  onCtx fun c _ => h c

theorem onBusy (h : ∀ c, (f { ctx := c }).Within dataId) :
    s.Works (some dataId) (s.onCtx dataId f) := by
  rcases hc : s.ctx dataId with _ | c
  · rw [onCtx_of_none hc]
    exact refl
  refine ⟨dataIds_onCtx, fun _ => known_onCtx, onCtx_keeps State.restarts fun _ => rfl, ?_, ?_,
    fun other hne c' hc' => ?_⟩
  · rw [onCtx_of_some hc]
    exact ⟨_, rfl, fun e he => ((h c).posted e he).imp_right fun hcarr => ⟨dataId, rfl, hcarr⟩⟩
  · rw [onCtx_of_some hc]
    exact ⟨_, rfl, fun a ha => ((h c).acts a ha).imp_right fun habou => ⟨dataId, rfl, habou⟩⟩
  · rw [ctx_onCtx, if_neg fun heq => hne (congrArg some heq.symm)] at hc'
    exact ⟨c', hc', .refl⟩

theorem forAll (h : ∀ dataId c, (g dataId { ctx := c }).Calm c) : s.Works busy (s.forAll g) :=
  forAll_induction (fun _ dataId hs => hs.trans (onCtx_of (h dataId))) refl

/-- A handler of all data objects, each of which is as it requires. -/
theorem forAll_of {Q : DataCtx → Prop} (hs : ∀ dataId c, s.ctx dataId = some c → Q c)
    (h : ∀ dataId c, Q c → (g dataId { ctx := c }).Calm c ∧ Q (g dataId { ctx := c }).ctx) :
    s.Works busy (s.forAll g) ∧ ∀ dataId c, (s.forAll g).ctx dataId = some c → Q c := by
  apply forAll_induction (P := fun u => s.Works busy u ∧ ∀ dataId c,
    u.ctx dataId = some c → Q c) _ ⟨refl, hs⟩
  rintro u dataId ⟨hworks, hu⟩
  refine ⟨hworks.trans (onCtx fun c hc => (h dataId c (hu dataId c hc)).1), fun other c hc => ?_⟩
  by_cases heq : other = dataId
  · subst other
    obtain ⟨b, hb, rfl⟩ := ctx_onCtx_eq_some.1 hc
    exact (h dataId b (hu dataId b hb)).2
  · rw [ctx_onCtx, if_neg heq] at hc
    exact hu other c hc

theorem onCtxSync {f : Work → Result × Work}
    (h : ∀ c, s.ctx dataId = some c → (f { ctx := c }).2.Calm c) :
    s.Works busy (s.onCtxSync dataId r f) := by
  unfold State.onCtxSync
  split
  · exact fulfill
  rename_i c hc
  have hput : s.Works busy (s.onCtx dataId fun w => (f w).2) := onCtx h
  rw [onCtx_of_some hc] at hput
  exact hput.trans fulfill

theorem reset : s.Works busy (s.reset dataId) :=
  onCtx_of fun _ => Work.Calm.idle.set fun _ => ⟨rfl, rfl, rfl, rfl, rfl⟩

theorem resetAll : s.Works busy s.resetAll :=
  forAll fun _ _ => Work.Calm.idle.set fun _ => ⟨rfl, rfl, rfl, rfl, rfl⟩

theorem resetThen (h : ∀ c, s.ctx dataId = some c →
      (f { ctx := c.resetDataRetryPeriodicConnCheckValues }).Calm c.resetDataRetryPeriodicConnCheckValues) :
    s.Works busy ((s.reset dataId).onCtx dataId f) := by
  refine reset.trans (onCtx fun c hc => ?_)
  obtain ⟨b, hb, rfl⟩ := ctx_onCtx_eq_some.1 hc
  exact h b hb

theorem startDataRetryAppReq {a : Answers} :
    s.Works busy (s.startDataRetryAppReq p dataId client a) := by
  unfold State.startDataRetryAppReq
  split
  · exact fulfill
  rename_i c hc
  have hput : s.Works busy (s.onCtx dataId
      fun w => (eventStartDataRetryAppReq p dataId client a s.retryClients w).2.1) :=
    onCtx_of fun _ => calm_retryAppReq
  rw [onCtx_of_some hc] at hput
  refine (hput.trans ?_).trans fulfill
  exact of_same rfl rfl rfl rfl rfl

end State.Works

/-! ## The invariant -/

/-- Every recovery is where it may stand, and the event of a call that waits is the only one of its
kind. -/
structure Standing (l : RecoveryLedger) : Prop where
  listed : l.state.Listed
  waiting : l.state.events.filter SmEvent.waited = l.state.awaited
  expected : ∀ e ∈ l.state.events, e.Expected
  restarts : l.state.restarts = []
  life : ∀ dataId c, l.state.ctx dataId = some c →
    Life c (l.state.notes dataId) (l.state.asked dataId) (l.log dataId)

/-- The step of the event goes to `t`. -/
abbrev RecoveryLedger.to (l : RecoveryLedger) (event : Event) (t : State) : RecoveryLedger :=
  ⟨t, fun dataId => l.state.recoveries t event dataId (l.log dataId)⟩

theorem State.notes_append (h : t.events = s.events ++ es) (dataId : Nat) :
    t.notes dataId = s.notes dataId ++ es.filterMap (note dataId) := by
  unfold notes
  rw [h, filterMap_append]

theorem asked_of_cancel (h : s.events.filter waited = s.awaited)
    (hin : .cancel ∈ s.notes dataId) : s.asked dataId = some none := by
  obtain ⟨e, he, hnote⟩ := mem_filterMap.1 hin
  have hev : e = .recoveryCancelSync dataId := by
    unfold note at hnote
    split at hnote
    all_goals try split_ifs at hnote with heq
    all_goals first
      | exact congrArg _ heq
      | cases hnote
  subst hev
  have hwts : .recoveryCancelSync dataId ∈ s.awaited := h ▸ mem_filter.2 ⟨he, rfl⟩
  unfold awaited at hwts
  unfold asked
  split at hwts
  · rename_i call hcall
    have heq := mem_singleton.1 hwts
    cases call with
    | cancelRecovery client other =>
      simp only [Call.event, recoveryCancelSync.injEq] at heq
      simp [hcall, heq]
    | startData client other | stopData client other | startDataRetry client other => cases heq
  · exact absurd hwts not_mem_nil

variable {c : DataCtx}

/-- What is done for others does not change the recoveries of a data object. -/
theorem same_recoveries {e : Event} {c' : DataCtx}
    (hc : s.ctx dataId = some c) (hc' : t.ctx dataId = some c') (hcalm : c.Calm c')
    (hcanc : s.cancels t dataId e = false) (hacts : t.acts = s.acts ++ as)
    (has : ∀ a ∈ as, a.Plain ∨ ∃ other, other ≠ dataId ∧ a.About other) :
    v.Same (s.recoveries t e dataId v) := by
  have hsche : v.schedule c.adminState c'.adminState = v := by
    unfold Recoveries.schedule
    rcases hcalm.state with heq | ⟨hlvl, -⟩
    · split
      · exact if_pos heq.symm
      · rfl
    · rw [scheduledOperation_eq_none (hlvl ▸ Nat.zero_le 1) fun heq => by
        rw [heq] at hlvl
        cases hlvl]
  have hfold : ∀ (as : List Act) (v : Recoveries),
      (∀ a ∈ as, a.Plain ∨ ∃ other, other ≠ dataId ∧ a.About other) →
        v.Same (as.foldl (Recoveries.act dataId) v) := by
    intro as
    induction as with
    | nil => exact fun _ _ => ⟨rfl, rfl⟩
    | cons a as ih =>
      intro v has
      obtain ⟨hfst, hrest⟩ := forall_mem_cons.1 has
      exact (Recoveries.same_act hfst).trans (ih _ hrest)
  unfold recoveries
  rw [hc, hc', hacts, drop_left, hcanc]
  unfold Recoveries.after
  simp only [hsche, Bool.false_eq_true]
  exact (hfold as v has).trans Recoveries.same_fail

variable {event : Event}

namespace Standing

variable {p : Policy} {l : RecoveryLedger} {s₀ t : State} {busy : Option Nat}
  {dataId : Nat} {a : Answers}
  {e : SmEvent} {rest : List SmEvent}

section

variable (h : Standing l)
include h

/-- A step that leaves the recoveries alone, but for a busy data object; `s₀` has the queue it
starts with. -/
theorem step (hworks : s₀.Works busy t) (hctx : s₀.ctx = l.state.ctx)
    (hids : s₀.dataIds = l.state.dataIds) (hrsrt : s₀.restarts = l.state.restarts)
    (hacts : s₀.acts = l.state.acts) (hexp : ∀ e ∈ s₀.events, e.Expected)
    (hwait : s₀.events.filter waited = t.awaited)
    (hoths : ∀ dataId, dataId ∉ busy → s₀.notes dataId = l.state.notes dataId ∧
      t.asked dataId = l.state.asked dataId ∧ l.state.cancels t dataId event = false)
    (hbusy : ∀ dataId ∈ busy, ∀ c', t.ctx dataId = some c' →
      Life c' (t.notes dataId) (t.asked dataId) (l.state.recoveries t event dataId (l.log dataId))) :
    Standing (l.to event t) := by
  obtain ⟨es, hes, hpstd⟩ := hworks.posted
  obtain ⟨as, has, hdone⟩ := hworks.acts
  refine ⟨hworks.listed ⟨hids ▸ h.listed.nodup, fun dataId => by rw [hids, hctx, h.listed.mem_iff]⟩, ?_, ?_,
    hworks.restarts.trans (hrsrt.trans h.restarts), fun dataId c' hc' => ?_⟩
  · change t.events.filter waited = t.awaited
    have hnone : es.filter waited = [] := filter_eq_nil_iff.2 fun e he => by
      rcases hpstd e he with hplai | ⟨dataId, -, hcarr⟩
      · rw [hplai.waited]
        exact Bool.false_ne_true
      · rw [hcarr.waited]
        exact Bool.false_ne_true
    rw [hes, filter_append, hnone, append_nil, hwait]
  · intro e he
    rcases mem_append.1 (hes ▸ he) with hold | hnew
    · exact hexp e hold
    · exact (hpstd e hnew).elim SmEvent.Plain.expected fun ⟨_, _, hcarr⟩ => hcarr.expected
  by_cases hin : dataId ∈ busy
  · exact hbusy dataId hin c' hc'
  obtain ⟨c, hc, hcalm⟩ := hworks.ctx dataId hin c' hc'
  obtain ⟨hnts, hask, hcanc⟩ := hoths dataId hin
  have hne {other : Nat} (hoth : other ∈ busy) : dataId ≠ other := fun heq => hin (heq ▸ hoth)
  have hqui : es.filterMap (note dataId) = [] := filterMap_eq_nil_iff.2 fun e he => by
    rcases hpstd e he with hplai | ⟨other, hoth, hcarr⟩
    · exact hplai.note dataId
    · exact hcarr.note (hne hoth)
  rw [notes_append hes, hqui, append_nil, hnts, hask]
  refine (h.life dataId c (hctx ▸ hc)).calm hcalm (same_recoveries (hctx ▸ hc) hc' hcalm hcanc
    (hacts ▸ has) fun a ha => ?_)
  exact (hdone a ha).imp_right fun ⟨other, hoth, habou⟩ => ⟨other, (hne hoth).symm, habou⟩

/-- A step at which no event is handled and no call begins or ends. -/
theorem quiet (hworks : l.state.Works none t)
    (hcall : t.call = l.state.call) (hev : ∀ dataId, l.state.cancels t dataId event = false) :
    Standing (l.to event t) := by
  refine h.step hworks rfl rfl rfl rfl h.expected ?_ (fun dataId _ => ⟨rfl, ?_, hev dataId⟩)
    fun _ hin => nomatch hin
  · rw [h.waiting]
    unfold awaited
    rw [hcall]
  · unfold asked
    rw [hcall]

variable (hevs : l.state.events = e :: rest)
include hevs

theorem handlePlain (he : e.Plain)
    (hworks : State.Works none { l.state with events := rest } t) (hcall : t.call = l.state.call) :
    Standing (l.to (.handle a) t) := by
  have hwait := h.waiting
  have hexp := h.expected
  rw [hevs] at hwait hexp
  refine h.step hworks rfl rfl rfl rfl (forall_mem_cons.1 hexp).2 ?_ (fun dataId _ => ⟨?_, ?_, ?_⟩)
    fun _ hin => nomatch hin
  · rw [filter_cons_of_neg (by simp [he.waited])] at hwait
    rw [hwait]
    unfold awaited
    rw [hcall]
  · unfold notes
    rw [hevs, filterMap_cons, he.note]
  · unfold asked
    rw [hcall]
  · unfold cancels
    rw [hevs]
    cases e
    all_goals first | rfl | exact he.elim

theorem call_of_head (he : e.waited = true) :
    rest.filter waited = [] ∧ ∃ call, l.state.call = some (call, none) ∧ call.event = e := by
  have hwait := h.waiting
  rw [hevs, filter_cons_of_pos he] at hwait
  unfold awaited at hwait
  split at hwait
  · rename_i call hcall
    obtain ⟨heq, hrest⟩ := cons.inj hwait
    exact ⟨hrest, call, hcall, heq.symm⟩
  · cases hwait

/-- The event of a call other than `CancelRecovery` is handled. -/
theorem handleWaited (he : e.waited = true) (hnote : ∀ dataId, e ≠ .recoveryCancelSync dataId)
    (hworks : State.Works none { l.state with events := rest } t)
    (hcall : ∃ r, t.call = l.state.call.map fun x => (x.1, some (x.2.getD r))) :
    Standing (l.to (.handle a) t) := by
  obtain ⟨hrest, call, hst, rfl⟩ := h.call_of_head hevs he
  obtain ⟨r, hcall⟩ := hcall
  rw [hst] at hcall
  have hexp := h.expected
  rw [hevs] at hexp
  have hkind (dataId : Nat) : call.event.note dataId = none ∧
      (∀ r, { l.state with call := some (call, r) }.asked dataId = none) ∧
      l.state.cancels t dataId (.handle a) = false := by
    unfold cancels
    rw [hevs]
    cases call with
    | cancelRecovery client other => exact absurd rfl (hnote other)
    | startData client other | stopData client other | startDataRetry client other =>
      exact ⟨rfl, fun _ => rfl, rfl⟩
  refine h.step hworks rfl rfl rfl rfl (forall_mem_cons.1 hexp).2 ?_
    (fun dataId _ => ⟨?_, ?_, (hkind dataId).2.2⟩) fun _ hin => nomatch hin
  · change rest.filter _ = _
    rw [hrest]
    unfold awaited
    rw [hcall]
    rfl
  · unfold notes
    rw [hevs, filterMap_cons, (hkind dataId).1]
  · have hbef := (hkind dataId).2.1 none
    have haft := (hkind dataId).2.1 (some r)
    unfold asked at *
    rw [hcall, hst]
    exact haft.trans hbef.symm

end

theorem cancels_of_head (hevs : l.state.events = e :: rest) (he : e.Expected)
    (hwai : e.waited = false) :
    l.state.cancels t dataId (.handle a) = false := by
  unfold cancels
  rw [hevs]
  cases e
  all_goals first
    | rfl
    | exact he.elim
    | exact nomatch hwai

theorem handleOn (h : Standing l) (hevs : l.state.events = e :: rest) (hwai : e.waited = false)
    (hoth : ∀ other, other ≠ dataId → e.note other = none)
    (hworks : State.Works (some dataId) { l.state with events := rest } t)
    (hcall : t.call = l.state.call)
    {f : Work → Work}
    (ht : ∀ c, l.state.ctx dataId = some c → t.events = rest ++ (f { ctx := c }).posted ∧
      t.acts = l.state.acts ++ (f { ctx := c }).acts ∧ ∀ c', t.ctx dataId = some c' →
        (f { ctx := c }).ctx.Calm c' ∧ c'.adminState = (f { ctx := c }).ctx.adminState)
    (hlife : ∀ c, l.state.ctx dataId = some c →
      Life c ((e.note dataId).toList ++ rest.filterMap (note dataId)) (l.state.asked dataId)
        (l.log dataId) →
      Life.Leaves dataId c (rest.filterMap (note dataId)) (l.state.asked dataId) false (l.log dataId)
        (f { ctx := c })) :
    Standing (l.to (.handle a) t) := by
  have hwait := h.waiting
  have hexp := h.expected
  rw [hevs] at hwait hexp
  obtain ⟨he, hrest⟩ := forall_mem_cons.1 hexp
  have hask (other : Nat) : t.asked other = l.state.asked other := by
    unfold asked
    rw [hcall]
  refine h.step hworks rfl rfl rfl rfl hrest ?_
    (fun other hne => ⟨?_, hask other, cancels_of_head hevs he hwai⟩) fun other hin c' hc' => ?_
  · rw [filter_cons_of_neg (by simp [hwai])] at hwait
    rw [hwait]
    unfold awaited
    rw [hcall]
  · unfold notes
    rw [hevs, filterMap_cons, hoth other fun heq => hne (congrArg some heq.symm)]
  obtain rfl := some.inj hin
  rcases hc : l.state.ctx dataId with _ | c
  · obtain ⟨c, hsome⟩ := (hworks.known dataId).1 ⟨c', hc'⟩
    cases hc.symm.trans hsome
  obtain ⟨hpstd, hacts, hctx⟩ := ht c hc
  obtain ⟨hcalm, hst⟩ := hctx c' hc'
  have hnts : t.notes dataId =
      rest.filterMap (note dataId) ++ (f { ctx := c }).posted.filterMap (note dataId) := by
    unfold notes
    rw [hpstd, filterMap_append]
  have hlog : l.state.recoveries t (.handle a) dataId (l.log dataId) = (l.log dataId).after dataId
      c.adminState (f { ctx := c }).ctx.adminState false (f { ctx := c }).acts := by
    unfold recoveries
    simp only [hc, hc', hacts, drop_left, cancels_of_head hevs he hwai, hst]
  rw [hnts, hask, hlog]
  refine Life.calm (hlife c hc ?_) hcalm ⟨rfl, rfl⟩
  have hbef := h.life dataId c hc
  unfold notes at hbef
  rw [hevs] at hbef
  cases hnote : e.note dataId with
  | none | some n => simpa [hnote] using hbef

/-- The event of `CancelRecovery` is handled. -/
theorem handleCancel (h : Standing l) (hevs : l.state.events = .recoveryCancelSync dataId :: rest)
    (ht : t = { l.state with events := rest }.onCtxSync dataId .notFound eventConnRecoveryCancelSync) :
    Standing (l.to (.handle a) t) := by
  obtain ⟨hrest, call, hst, hcal⟩ := h.call_of_head hevs rfl
  obtain ⟨client, rfl⟩ : ∃ client, call = .cancelRecovery client dataId := by
    cases call with
    | cancelRecovery client other =>
      cases hcal
      exact ⟨client, rfl⟩
    | startData client other | stopData client other | startDataRetry client other => cases hcal
  have hexp := h.expected
  rw [hevs] at hexp
  have hworks : State.Works (some dataId) { l.state with events := rest } t := by
    have hput : State.Works (some dataId) { l.state with events := rest }
        ({ l.state with events := rest }.onCtx dataId fun w => (eventConnRecoveryCancelSync w).2) :=
      .onBusy fun _ => ⟨forall_mem_nil _, forall_mem_nil _⟩
    rw [ht]
    unfold onCtxSync
    split
    · exact .fulfill
    rename_i c hc
    rw [onCtx_of_some hc] at hput
    exact hput.trans .fulfill
  have hfulf {s : State} {r : Result} (hs : s.call = l.state.call) :
      (s.fulfill r).call = some (.cancelRecovery client dataId, some r) := by
    unfold fulfill
    rw [hs, hst]
  have hcall : ∃ r, t.call = some (.cancelRecovery client dataId, some r) := by
    rw [ht]
    unfold onCtxSync
    split
    all_goals exact ⟨_, hfulf rfl⟩
  obtain ⟨r, hcall⟩ := hcall
  refine h.step hworks rfl rfl rfl rfl (forall_mem_cons.1 hexp).2 ?_ (fun other hne => ?_)
    fun other hin c' hc' => ?_
  · change rest.filter _ = _
    rw [hrest]
    unfold awaited
    rw [hcall]
  · have hne' : dataId ≠ other := fun heq => hne (congrArg some heq)
    refine ⟨?_, ?_, ?_⟩
    · unfold notes
      rw [hevs, filterMap_cons, show note other (.recoveryCancelSync dataId) = none from
        if_neg hne']
    · unfold asked
      rw [hcall, hst]
      exact (if_neg hne').trans (if_neg hne').symm
    · unfold cancels
      rw [hevs]
      exact decide_eq_false fun heq => hne' heq.1
  obtain rfl := some.inj hin
  rcases hc : l.state.ctx dataId with _ | c
  · obtain ⟨c, hsome⟩ := (hworks.known dataId).1 ⟨c', hc'⟩
    cases hc.symm.trans hsome
  have hput : t = ({ l.state with events := rest }.put dataId
      (eventConnRecoveryCancelSync { ctx := c }).2).fulfill (eventConnRecoveryCancelSync { ctx := c }).1 := by
    rw [ht]
    unfold onCtxSync
    simp only [hc]
  have hr : t.call = some (.cancelRecovery client dataId,
      some (eventConnRecoveryCancelSync { ctx := c }).1) := by
    rw [hput]
    exact hfulf rfl
  have hctx : (eventConnRecoveryCancelSync { ctx := c }).2.ctx = c' := by
    rw [hput, fulfill_keeps ctx fun _ => rfl, ctx_put, if_pos rfl] at hc'
    exact some.inj hc'
  have hpstd : t.events = rest := by
    rw [hput, fulfill_keeps events fun _ => rfl]
    exact append_nil _
  have hacts : t.acts = l.state.acts ++ (eventConnRecoveryCancelSync { ctx := c }).2.acts := by
    rw [hput, fulfill_keeps acts fun _ => rfl]
    rfl
  have hcanc : l.state.cancels t dataId (.handle a) =
      decide ((eventConnRecoveryCancelSync { ctx := c }).1 = .ok) := by
    unfold cancels
    rw [hevs, hr]
    simp
  have hask : t.asked dataId = some (some (eventConnRecoveryCancelSync { ctx := c }).1) := by
    unfold asked
    rw [hr]
    exact if_pos rfl
  have hbef : Life c (.cancel :: rest.filterMap (note dataId)) (some none) (l.log dataId) := by
    have hlife := h.life dataId c hc
    have hwts : l.state.asked dataId = some none := by
      unfold asked
      rw [hst]
      exact if_pos rfl
    rw [hwts] at hlife
    unfold notes at hlife
    rw [hevs, filterMap_cons, show note dataId (.recoveryCancelSync dataId) =
      some .cancel from if_pos rfl] at hlife
    exact hlife
  have hlog : l.state.recoveries t (.handle a) dataId (l.log dataId) = (l.log dataId).after dataId
      c.adminState c'.adminState (decide ((eventConnRecoveryCancelSync { ctx := c }).1 = .ok))
      (eventConnRecoveryCancelSync { ctx := c }).2.acts := by
    unfold recoveries
    simp only [hc, hc', hacts, drop_left, hcanc]
  have haft : Life.Leaves dataId c _ _ _ _ _ := hbef.leaves_cancelSync
  unfold Life.Leaves at haft
  rw [hctx] at haft
  unfold notes
  rw [hpstd, hask, hlog]
  simpa [eventConnRecoveryCancelSync] using haft

end Standing

/-! ## Handlers of all data objects -/

/-- The other sessions that are up are marked when a recovery starts. -/
theorem marked : (s.forAll fun _ w => w.update markReconnect).events = s.events ∧
    (s.forAll fun _ w => w.update markReconnect).acts = s.acts ∧
    (s.forAll fun _ w => w.update markReconnect).call = s.call ∧
    ∀ dataId c', (s.forAll fun _ w => w.update markReconnect).ctx dataId = some c' →
      ∃ c, s.ctx dataId = some c ∧ c.Calm c' ∧ c'.adminState = c.adminState := by
  have hmark (b : DataCtx) : b.Calm b.markReconnect ∧
      b.markReconnect.adminState = b.adminState := by
    unfold markReconnect
    split_ifs
    · exact ⟨⟨rfl, rfl, rfl, id, Or.inl rfl⟩, rfl⟩
    · exact ⟨.refl, rfl⟩
  apply forAll_induction (P := fun u => u.events = s.events ∧ u.acts = s.acts ∧ u.call = s.call ∧
    ∀ dataId c', u.ctx dataId = some c' →
      ∃ c, s.ctx dataId = some c ∧ c.Calm c' ∧ c'.adminState = c.adminState)
  · rintro u dataId ⟨hevs, hacts, hcall, hctx⟩
    refine ⟨?_, ?_, call_onCtx.trans hcall, fun other c' hc' => ?_⟩
    · cases hc : u.ctx dataId with
      | none => rw [onCtx_of_none hc, hevs]
      | some c =>
        rw [onCtx_of_some hc]
        exact (append_nil _).trans hevs
    · cases hc : u.ctx dataId with
      | none => rw [onCtx_of_none hc, hacts]
      | some c =>
        rw [onCtx_of_some hc]
        exact (append_nil _).trans hacts
    by_cases heq : other = dataId
    · subst other
      obtain ⟨b, hb, rfl⟩ := ctx_onCtx_eq_some.1 hc'
      obtain ⟨c, hc, hcalm, hst⟩ := hctx dataId b hb
      exact ⟨c, hc, hcalm.trans (hmark b).1, (hmark b).2.trans hst⟩
    · rw [ctx_onCtx, if_neg heq] at hc'
      exact hctx other c' hc'
  · exact ⟨rfl, rfl, rfl, fun dataId c' hc' => ⟨c', hc', .refl, rfl⟩⟩

/-- The network is lost where no recovery of the phone's sessions is scheduled. -/
theorem works_networkUnreg {busy : Option Nat} {phoneId : Nat}
    (h : ∀ dataId c, s.ctx dataId = some c → c.phoneId = phoneId →
      c.adminState ≠ .recoveryScheduledL1) :
    s.Works busy (s.resetAll.forAll fun dataId => eventNetworkUnregState phoneId dataId) := by
  have hrset : s.Works busy s.resetAll ∧ ∀ dataId c, s.resetAll.ctx dataId = some c →
      c.phoneId = phoneId → c.adminState ≠ .recoveryScheduledL1 :=
    State.Works.forAll_of h fun _ _ hc => ⟨.set .idle fun _ => ⟨rfl, rfl, rfl, rfl, rfl⟩, hc⟩
  refine hrset.1.trans (State.Works.forAll_of hrset.2 fun dataId c hc => ?_).1
  refine ⟨calm_networkUnreg hc, ?_⟩
  unfold eventNetworkUnregState
  split_ifs
  · simp
  · simp
  · exact hc

theorem calm_clientGone
    (h : c.autoStart = false → (c.eraseClient client).clients = [] →
      c.isConnectivityRecoveryScheduled = false) :
    (clientDisconnected client dataId { ctx := c }).Calm c := by
  have heras : (Work.update { ctx := c } (eraseClient client)).Calm c :=
    Work.Calm.idle.set fun _ => ⟨rfl, rfl, rfl, rfl, rfl⟩
  have hstop : ((Work.update { ctx := c } (eraseClient client)).post (.dataStop dataId)).Calm c :=
    heras.post (by trivial)
  have hcancel {w : Work} (hw : w.Calm c) (hflag : c.isConnectivityRecoveryScheduled = false) :
      w.requestCancel dataId = w := by
    exact if_neg (by simp [hw.ctx.scheduled, hflag])
  unfold clientDisconnected
  dsimp only
  split_ifs with hauto hlast hstops
  · rw [hcancel hstop (h hauto hlast)]
    exact hstop.reconnect
  · rw [hcancel heras (h hauto hlast)]
    exact heras.reconnect
  · exact heras
  · exact .idle

/-- A client disconnects, with no recovery scheduled for a session that it is the last client of. -/
theorem works_disconnect {busy : Option Nat}
    (h : ∀ dataId c, s.ctx dataId = some c → c.autoStart = false →
      (c.eraseClient client).clients = [] →
      c.isConnectivityRecoveryScheduled =
          false) : s.Works busy (s.forAll (clientDisconnected client)) := by
  refine (State.Works.forAll_of h fun dataId c hc => ?_).1
  refine ⟨calm_clientGone hc, fun hauto hlast => ?_⟩
  rw [(calm_clientGone hc).ctx.scheduled]
  have hsame : (clientDisconnected client dataId { ctx := c }).ctx.autoStart = c.autoStart := by
    unfold clientDisconnected Work.requestCancel
    dsimp only
    split_ifs
    all_goals rfl
  rw [hsame] at hauto
  refine hc hauto ?_
  have hcls : (clientDisconnected client dataId { ctx := c }).ctx.clients =
      (c.eraseClient client).clients := by
    unfold clientDisconnected Work.requestCancel
    dsimp only
    split_ifs
    all_goals rfl
  unfold eraseClient at hlast ⊢
  rw [hcls] at hlast
  unfold eraseClient at hlast
  simpa using hlast

/-! ## The steps -/

/-- A recovery is scheduled in the state only while its timer runs. -/
theorem Life.timer_of_state {q : List Note} {asked : Option (Option Result)}
    (h : Life c q asked v) (hst : c.adminState = .recoveryScheduledL1) :
    c.recoveryScheduleTimer = true := by
  cases h with
  | unscheduled h | closed h => exact absurd hst h.state
  | armed h => exact h.timer
  | expired h => exact absurd hst h.level.2.1

theorem State.call_fulfill : (s.fulfill r).call = s.call.map fun x => (x.1, some (x.2.getD r)) := by
  unfold fulfill
  rcases hcall : s.call with _ | x
  · exact hcall
  obtain ⟨call, r'⟩ := x
  cases r' with
  | none => rfl
  | some r' => exact hcall

theorem State.call_onCtxSync {f : Work → Result × Work} :
    ∃ r', (s.onCtxSync dataId r f).call = s.call.map fun x => (x.1, some (x.2.getD r')) := by
  unfold onCtxSync
  split
  all_goals exact ⟨_, call_fulfill⟩

theorem State.call_startDataRetryAppReq {p : Policy} {a : Answers} :
    ∃ r', (s.startDataRetryAppReq p dataId client a).call =
      s.call.map fun x => (x.1, some (x.2.getD r')) := by
  unfold startDataRetryAppReq
  split
  all_goals exact ⟨_, call_fulfill⟩

@[simp] theorem State.call_forAll : (s.forAll g).call = s.call :=
  forAll_induction (P := fun u => u.call = s.call) (fun _ _ hu => call_onCtx.trans hu) rfl

namespace Standing

variable {p : Policy} {l : RecoveryLedger} {s t : State} {dataId : Nat} {a : Answers} {e : SmEvent}
  {rest : List SmEvent}

theorem handleCtx (h : Standing l) (hevs : l.state.events = e :: rest) (hwai : e.waited = false)
    (hoth : ∀ other, other ≠ dataId → e.note other = none) {f : Work → Work}
    (hwthn : ∀ c, (f { ctx := c }).Within dataId)
    (hlife : ∀ c, l.state.ctx dataId = some c →
      Life c ((e.note dataId).toList ++ rest.filterMap (note dataId)) (l.state.asked dataId)
        (l.log dataId) →
      Life.Leaves dataId c (rest.filterMap (note dataId)) (l.state.asked dataId) false (l.log dataId)
        (f { ctx := c }))
    (ht : t = { l.state with events := rest }.onCtx dataId f) :
    Standing (l.to (.handle a) t) := by
  refine h.handleOn hevs hwai hoth (ht ▸ .onBusy hwthn) (ht ▸ call_onCtx) (fun c hc => ?_) hlife
  rw [onCtx_of_some (s := { l.state with events := rest }) hc] at ht
  subst ht
  refine ⟨rfl, rfl, fun c' hc' => ?_⟩
  rw [ctx_put, if_pos rfl] at hc'
  cases hc'
  exact ⟨.refl, rfl⟩

/-- The start of a recovery, with the mark in the other contexts. -/
theorem handleStart (h : Standing l) (hevs : l.state.events = .recoveryStartL1 dataId :: rest)
    (ht : t = { l.state with events := rest }.startRecovery dataId a (eventL1ConnRecoveryStart dataId a)) :
    Standing (l.to (.handle a) t) := by
  have hwthn (c : DataCtx) : (eventL1ConnRecoveryStart dataId a { ctx := c }).Within dataId := by
    unfold eventL1ConnRecoveryStart
    split_ifs
    all_goals constructor
    all_goals simp [SmEvent.Carries, Act.About]
  have hmark {s : State} : s.Works (some dataId) (s.forAll fun _ w => w.update markReconnect) := by
    refine .forAll fun _ _ => Work.Calm.idle.set fun b => ?_
    unfold markReconnect
    split_ifs
    all_goals exact ⟨rfl, rfl, rfl, rfl, rfl⟩
  have hsta : (∃ c, l.state.ctx dataId = some c) → t = if a.eCallInProgress = true then
      { l.state with events := rest }.onCtx dataId (eventL1ConnRecoveryStart dataId a)
    else ({ l.state with events := rest }.onCtx dataId (eventL1ConnRecoveryStart dataId a)).forAll
      fun _ w => w.update markReconnect := by
    rintro ⟨c, hc⟩
    rw [ht]
    unfold startRecovery
    simp only [hc]
  have hworks : State.Works (some dataId) { l.state with events := rest } t := by
    cases hc : l.state.ctx dataId with
    | none =>
      have hsame : t = { l.state with events := rest } := by
        rw [ht]
        unfold startRecovery
        simp only [hc]
      exact hsame ▸ .refl
    | some c =>
      rw [hsta ⟨c, hc⟩]
      split_ifs
      · exact .onBusy hwthn
      · exact (State.Works.onBusy hwthn).trans hmark
  have hcall : t.call = l.state.call := by
    rw [ht]
    unfold startRecovery
    split
    · rfl
    split_ifs
    · exact call_onCtx
    · exact call_forAll.trans call_onCtx
  refine h.handleOn (f := eventL1ConnRecoveryStart dataId a) hevs rfl
    (fun other hne => if_neg hne.symm) hworks hcall (fun c hc => ?_) fun c hc hlife => ?_
  · have hput : { l.state with events := rest }.onCtx dataId (eventL1ConnRecoveryStart dataId a) =
      { l.state with events := rest }.put dataId (eventL1ConnRecoveryStart dataId a { ctx := c }) :=
      onCtx_of_some hc
    have hctx : ({ l.state with events := rest }.put dataId
        (eventL1ConnRecoveryStart dataId a { ctx := c })).ctx dataId =
          some (eventL1ConnRecoveryStart dataId a { ctx := c }).ctx := ctx_put.trans (if_pos rfl)
    rw [hsta ⟨c, hc⟩, hput]
    split_ifs
    · refine ⟨rfl, rfl, fun c' hc' => ?_⟩
      rw [hctx] at hc'
      cases hc'
      exact ⟨.refl, rfl⟩
    obtain ⟨hpstd, hacts, -, hmrk⟩ := marked (s := { l.state with events := rest }.put dataId
      (eventL1ConnRecoveryStart dataId a { ctx := c }))
    refine ⟨hpstd, hacts, fun c' hc' => ?_⟩
    obtain ⟨b, hb, hcalm, hst⟩ := hmrk dataId c' hc'
    rw [hctx] at hb
    cases hb
    exact ⟨hcalm, hst⟩
  · rw [show note dataId (.recoveryStartL1 dataId) = some .start from if_pos rfl] at hlife
    exact hlife.leaves_startL1

theorem handle (h : Standing l) (hcare : CarefulRecovery p l.state (.handle a))
    (hevs : l.state.events = e :: rest) (ht : t = { l.state with events := rest }.handle p a e) :
    Standing (l.to (.handle a) t) := by
  have hexp : e.Expected := by
    have hall := h.expected
    rw [hevs] at hall
    exact (forall_mem_cons.1 hall).1
  -- In these handlers the state with a scheduled recovery is one with a running timer.
  have htim {dataId : Nat} {c : DataCtx} (hc : l.state.ctx dataId = some c)
      (hst : c.adminState = .recoveryScheduledL1) : c.recoveryScheduleTimer = true :=
    (h.life dataId c hc).timer_of_state hst
  simp only [CarefulRecovery, hevs] at hcare
  unfold State.handle at ht
  cases e with
  | radioPowerOn =>
    refine h.handlePlain hevs trivial (ht ▸ State.Works.resetAll.trans ?_) (ht ▸ ?_)
    · exact .forAll fun _ _ => calm_eventSetRadioPowerOn
    · simp [State.resetAll]
  | simReady slotId =>
    refine h.handlePlain hevs trivial (ht ▸ State.Works.resetAll.trans ?_) (ht ▸ ?_)
    · exact .forAll fun _ _ => calm_eventSimReadyState
    · simp [State.resetAll]
  | simNotReady slotId =>
    refine h.handlePlain hevs trivial (ht ▸ ?_) (ht ▸ State.call_forAll)
    exact .forAll fun _ _ => calm_simNotReady
  | networkRegState phoneId =>
    refine h.handlePlain hevs trivial (ht ▸ State.Works.resetAll.trans ?_) (ht ▸ ?_)
    · exact .forAll fun _ _ => calm_networkReg
    · simp [State.resetAll]
  | networkUnregState phoneId =>
    refine h.handlePlain hevs trivial (ht ▸ works_networkUnreg fun dataId c hc hphon hst => ?_)
      (ht ▸ ?_)
    · have hoff := hcare dataId ((h.listed.mem_iff dataId).2 ⟨c, hc⟩) c hc hphon
      rw [htim hc hst] at hoff
      cases hoff
    · simp [State.resetAll]
  | dataStart dataId =>
    exact h.handlePlain hevs trivial (ht ▸ .onCtx_of fun _ => calm_eventStartData)
      (ht ▸ State.call_onCtx)
  | dataStartSync dataId =>
    exact h.handleWaited hevs rfl (by simp)
      (ht ▸ .onCtxSync fun _ _ => calm_eventStartData) (ht ▸ State.call_onCtxSync)
  | dataStartRetry dataId =>
    refine h.handlePlain hevs trivial (ht ▸ .onCtx fun c hc => ?_) (ht ▸ State.call_onCtx)
    exact calm_eventStartDataRetry fun hst => hcare c hc (htim hc hst)
  | dataStartRetryAppReq dataId client =>
    exact h.handleWaited hevs rfl (by simp) (ht ▸ .startDataRetryAppReq)
      (ht ▸ State.call_startDataRetryAppReq)
  | dataStop dataId =>
    refine h.handlePlain hevs trivial (ht ▸ .resetThen fun _ _ => calm_eventStopData) (ht ▸ ?_)
    simp [State.reset]
  | dataStopSync dataId =>
    refine h.handleWaited hevs rfl (by simp)
      (ht ▸ State.Works.reset.trans (.onCtxSync fun _ _ => calm_eventStopData)) ?_
    have hcall : ({ l.state with events := rest }.reset dataId).call = l.state.call :=
      State.call_onCtx
    exact ht ▸ hcall ▸ State.call_onCtxSync
  | connected dataId =>
    refine h.handlePlain hevs trivial
      (ht ▸ .resetThen fun c hc => calm_eventDataConnected fun hst => ?_)
      (ht ▸ ?_)
    · exact hcare c hc (htim hc hst)
    · simp [State.reset]
  | connectedActive dataId =>
    exact h.handlePlain hevs trivial (ht ▸ .onCtx_of fun _ => calm_connectedActive)
      (ht ▸ State.call_onCtx)
  | disconnected dataId =>
    exact h.handlePlain hevs trivial (ht ▸ .onCtx_of fun _ => calm_dataDisconnected)
      (ht ▸ State.call_onCtx)
  | startConnectionTest dataId =>
    refine h.handlePlain hevs trivial (ht ▸ .onCtx fun c hc => ?_) (ht ▸ State.call_onCtx)
    exact calm_startTest fun hst => hcare c hc (htim hc hst)
  | periodicConnectionTest dataId =>
    exact h.handlePlain hevs trivial (ht ▸ .onCtx_of fun _ => calm_periodicTest)
      (ht ▸ State.call_onCtx)
  | startConnectionTestDone dataId passed generation =>
    exact h.handlePlain hevs trivial (ht ▸ .onCtx_of fun _ => calm_startTestDone)
      (ht ▸ State.call_onCtx)
  | periodicConnectionTestDone dataId passed generation =>
    exact h.handlePlain hevs trivial (ht ▸ .onCtx_of fun _ => calm_periodicTestDone)
      (ht ▸ State.call_onCtx)
  | recoveryScheduleL1 dataId =>
    refine h.handleCtx hevs rfl (fun _ _ => rfl) (fun c => ?_) (fun c hc hlife => ?_) ht
    · unfold eventL1ConnRecoverySchedule
      split_ifs
      all_goals constructor
      all_goals simp [SmEvent.Plain, SmEvent.Carries, Act.About]
    · exact hlife.leaves_scheduleL1 (hcare c hc)
  | recoveryScheduleL2 dataId =>
    refine h.handlePlain hevs trivial (ht ▸ .onCtx fun c hc => ?_) (ht ▸ State.call_onCtx)
    unfold eventL2ConnRecoverySchedule
    rw [if_pos (hcare c hc)]
    exact .idle
  | recoveryStartL1 dataId => exact h.handleStart hevs ht
  | recoveryCancelSync dataId => exact h.handleCancel hevs ht
  | recoveryCancelSendInd dataId =>
    refine h.handleCtx hevs rfl (fun other hne => if_neg hne.symm) (fun c => ?_)
      (fun c hc hlife => ?_) ht
    · unfold eventConnRecoveryCancelSendInd
      split
      all_goals constructor
      all_goals simp [Act.About]
    · rw [show note dataId (.recoveryCancelSendInd dataId) = some .indicate from if_pos rfl] at hlife
      exact hlife.leaves_cancelSendInd
  | recoveryInterrupted dataId =>
    refine h.handleCtx hevs rfl (fun other hne => if_neg hne.symm) (fun c => ?_)
      (fun c hc hlife => ?_) ht
    · unfold eventConnRecoveryInterrupted
      split_ifs
      all_goals constructor
      all_goals simp [SmEvent.Carries]
    · rw [show note dataId (.recoveryInterrupted dataId) = some .interrupted from if_pos rfl] at hlife
      exact hlife.leaves_interrupted
  | recoveryStartL2 dataId | recoveryScheduleL3 dataId | recoveryStartL3 dataId
  | recoveryCancel dataId => exact hexp.elim

/-- A cancellation is handled in a step of the state machine only. -/
theorem not_cancels (hev : event.handles = false) : l.state.cancels t dataId event = false := by
  cases event
  case handle a => exact nomatch hev
  all_goals rfl

/-- A call begins whose event is another one than that of `CancelRecovery`. -/
theorem awaits (h : Standing l) (hfree : l.state.call = none) (event : Event) (call : Call)
    (hev : event.handles = false) (hcall : call.cancels = false)
    (hs : l.state.Works none s) (hevs : s.events = l.state.events)
    (ht : t = s.await call.event call) :
    Standing (l.to event t) := by
  subst ht
  have hkind : call.event.waited = true ∧ call.event.Expected ∧
      ∀ dataId, call.event.note dataId = none ∧
      (s.await call.event call).asked dataId = none := by
    cases call with
    | cancelRecovery client dataId => exact nomatch hcall
    | startData client dataId | stopData client dataId | startDataRetry client dataId =>
      exact ⟨rfl, trivial, fun _ => ⟨rfl, rfl⟩⟩
  obtain ⟨hwai, hexp, hqui⟩ := hkind
  have hworks : State.Works none { l.state with events := l.state.events ++ [call.event] }
      (s.await call.event call) :=
    ⟨hs.dataIds, hs.known, hs.restarts,
      ⟨[], (congrArg (· ++ [call.event]) hevs).trans (append_nil _).symm,
        forall_mem_nil _⟩, hs.acts, hs.ctx⟩
  refine h.step hworks rfl rfl rfl rfl ?_ ?_ (fun dataId _ => ⟨?_, ?_, not_cancels hev⟩)
    fun _ hin => nomatch hin
  · exact fun e he => (mem_append.1 he).elim (h.expected e) fun heq =>
      mem_singleton.1 heq ▸ hexp
  · have hwait := h.waiting
    unfold awaited at hwait ⊢
    rw [hfree] at hwait
    rw [filter_append, hwait, filter_cons_of_pos hwai]
    rfl
  · unfold notes
    rw [filterMap_append, filterMap_cons, (hqui dataId).1]
    exact append_nil _
  · rw [(hqui dataId).2]
    unfold asked
    rw [hfree]

theorem asksCancel (h : Standing l) (hfree : l.state.call = none)
    (hc : l.state.ctx dataId = some c) (hst : c.recoveryOperation.Cancelable c.adminState)
    (event : Event) (hev : event.handles = false)
    (ht : t = l.state.await (.recoveryCancelSync dataId) (.cancelRecovery client dataId)) :
    Standing (l.to event t) := by
  subst ht
  have hask (other : Nat) : l.state.asked other = none := by
    unfold asked
    rw [hfree]
  have hwait := h.waiting
  unfold awaited at hwait
  rw [hfree] at hwait
  have hworks : State.Works (some dataId)
      { l.state with events := l.state.events ++ [.recoveryCancelSync dataId] }
      (l.state.await (.recoveryCancelSync dataId) (.cancelRecovery client dataId)) :=
    .of_same rfl rfl rfl rfl rfl
  refine h.step hworks rfl rfl rfl rfl ?_ ?_ (fun other hne => ⟨?_, ?_, not_cancels hev⟩)
    fun other hin c' hc' => ?_
  · exact fun e he => (mem_append.1 he).elim (h.expected e) fun heq =>
      mem_singleton.1 heq ▸ trivial
  · unfold awaited
    rw [filter_append, hwait]
    rfl
  · unfold notes
    rw [filterMap_append, filterMap_cons, show note other (.recoveryCancelSync dataId) =
      none from if_neg fun heq => hne (congrArg some heq)]
    exact append_nil _
  · rw [hask]
    exact if_neg fun heq => hne (congrArg some heq)
  obtain rfl := some.inj hin
  obtain rfl := some.inj (hc.symm.trans hc')
  have hlife := h.life dataId c hc
  have hcancel : .cancel ∉ l.state.notes dataId := fun hin => by
    have hwts := asked_of_cancel h.waiting hin
    rw [hask] at hwts
    cases hwts
  rw [hask] at hlife
  have haft :
      (l.state.await (.recoveryCancelSync dataId) (.cancelRecovery client dataId)).asked dataId =
      some none := if_pos rfl
  have hnts :
      (l.state.await (.recoveryCancelSync dataId) (.cancelRecovery client dataId)).notes dataId =
      l.state.notes dataId ++ [.cancel] := by
    rw [notes_append (s := l.state) rfl]
    simp [note]
  rw [haft, hnts]
  exact (hlife.asks hcancel hst).calm .refl (same_recoveries hc hc' .refl (not_cancels hev)
    (append_nil _).symm (forall_mem_nil _))

variable {call : Call}

section

variable (h : Standing l)
include h

/-- A call returns, other than `CancelRecovery`. -/
theorem returns (hcall : l.state.call = some (call, some r))
    (hne : call.cancels = false) (hworks : l.state.Works none t)
    (ht : t.call = none) (event : Event) (hev : event.handles = false) :
    Standing (l.to event t) := by
  refine h.step hworks rfl rfl rfl rfl h.expected ?_ (fun dataId _ => ⟨rfl, ?_, not_cancels hev⟩)
    fun _ hin => nomatch hin
  · rw [h.waiting]
    unfold awaited
    rw [hcall, ht]
  unfold asked
  rw [hcall, ht]
  cases call with
  | cancelRecovery client other => exact nomatch hne
  | startData client other | stopData client other | startDataRetry client other => rfl

/-- `CancelRecovery` returns, and reports the interruption. -/
theorem returnsCancel (hcall : l.state.call = some (.cancelRecovery client dataId, some r))
    (ht : t = l.state.finish (.cancelRecovery client dataId) r) (event : Event)
    (hev : event.handles = false) : Standing (l.to event t) := by
  subst ht
  have hnone (other : Nat) :
      (l.state.finish (.cancelRecovery client dataId) r).asked other = none := rfl
  have hworks : l.state.Works (some dataId) (l.state.finish (.cancelRecovery client dataId) r) :=
    ⟨rfl, fun _ => Iff.rfl, rfl,
      ⟨[.recoveryInterrupted dataId], rfl, fun e he => Or.inr ⟨dataId, rfl, Or.inr (Or.inl
        (mem_singleton.1 he))⟩⟩,
      ⟨[.answered (.cancelRecovery client dataId) r], rfl, fun a ha => Or.inl
        (mem_singleton.1 ha ▸ trivial)⟩,
      fun _ _ c' hc' => ⟨c', hc', .refl⟩⟩
  refine h.step hworks rfl rfl rfl rfl h.expected ?_ (fun other hne => ⟨rfl, ?_, not_cancels hev⟩)
    fun other hin c' hc' => ?_
  · rw [h.waiting]
    unfold awaited
    rw [hcall]
    rfl
  · rw [hnone]
    unfold asked
    rw [hcall]
    exact (if_neg fun heq => hne (congrArg some heq)).symm
  obtain rfl := some.inj hin
  have hlife := h.life dataId c' hc'
  have hask : l.state.asked dataId = some (some r) := by
    unfold asked
    rw [hcall]
    exact if_pos rfl
  have hcancel : .cancel ∉ l.state.notes dataId := fun hin => by
    have hwts := asked_of_cancel h.waiting hin
    rw [hask] at hwts
    cases hwts
  rw [hask] at hlife
  have hnts : (l.state.finish (.cancelRecovery client dataId) r).notes dataId =
      l.state.notes dataId ++ [.interrupted] := by
    rw [notes_append (s := l.state) rfl]
    simp [note]
  rw [hnts]
  exact (hlife.returned hcancel).calm .refl (same_recoveries hc' hc' .refl (not_cancels hev) rfl
    fun a ha => Or.inl (mem_singleton.1 ha ▸ trivial))

/-- A call is answered at once, or nothing but the calls and sessions changes. -/
theorem answers (event : Event) (hev : event.handles = false)
    (hids : t.dataIds = l.state.dataIds) (hctx : t.ctx = l.state.ctx)
    (hrsrt : t.restarts = l.state.restarts) (hcall : t.call = l.state.call)
    (hevs : t.events = l.state.events ++ es) (hes : ∀ e ∈ es, e.Plain)
    (hacts : t.acts = l.state.acts ++ as) (has : ∀ a ∈ as, a.Plain) : Standing (l.to event t) :=
  h.quiet (.of_eq hids hctx hrsrt hevs hes hacts has) hcall fun _ => not_cancels hev

theorem answered (event : Event) (hev : event.handles = false) (ht : t = l.state.answer call r) :
    Standing (l.to event t) := by
  subst ht
  exact h.answers event hev rfl rfl rfl rfl (append_nil _).symm (forall_mem_nil _) rfl
    fun a ha => mem_singleton.1 ha ▸ trivial

theorem reports (event : Event) (hev : event.handles = false) (he : e.Plain)
    (ht : t = l.state.report e) : Standing (l.to event t) := by
  subst ht
  exact h.answers event hev rfl rfl rfl rfl rfl (fun x hx => mem_singleton.1 hx ▸ he)
    (append_nil _).symm (forall_mem_nil _)

section

variable (hfree : l.state.call = none)
include hfree

theorem startData
    (ht : t = l.state.startdata client dataId) : Standing (l.to (.startData client dataId) t) := by
  unfold startdata at ht
  split at ht
  · exact h.answered (.startData client dataId) rfl ht
  split_ifs at ht
  · exact h.answered (.startData client dataId) rfl ht
  · exact h.awaits hfree (.startData client dataId) (.startData client dataId) rfl rfl .refl rfl ht

theorem stopData
    (ht : t = l.state.stopdata client dataId) : Standing (l.to (.stopData client dataId) t) := by
  have heras : l.state.Works none (l.state.onCtx dataId fun w => w.update (eraseClient client)) :=
    .onCtx_of fun _ => Work.Calm.idle.set fun _ => ⟨rfl, rfl, rfl, rfl, rfl⟩
  unfold stopdata at ht
  split at ht
  · exact h.answered (.stopData client dataId) rfl ht
  rename_i c hc
  rw [onCtx_of_some hc] at heras ht
  split_ifs at ht
  · exact h.answered (.stopData client dataId) rfl ht
  · refine h.quiet (heras.trans (ht ▸ ?_)) (ht ▸ rfl) fun _ => rfl
    exact .of_eq rfl rfl rfl (append_nil _).symm (forall_mem_nil _) rfl
      fun a ha => mem_singleton.1 ha ▸ trivial
  · exact h.awaits hfree (.stopData client dataId) (.stopData client dataId) rfl rfl
      heras (append_nil _) ht

theorem startDataRetry
    (ht : t = l.state.startDataRetry client dataId) :
    Standing (l.to (.startDataRetry client dataId) t) := by
  unfold State.startDataRetry at ht
  split at ht
  · exact h.answered (.startDataRetry client dataId) rfl ht
  split_ifs at ht
  · exact h.answered (.startDataRetry client dataId) rfl ht
  · exact h.awaits hfree (.startDataRetry client dataId) (.startDataRetry client dataId)
      rfl rfl .refl rfl ht

theorem cancelRecovery
    (ht : t = l.state.cancelRecovery p client dataId) :
    Standing (l.to (.cancelRecovery client dataId) t) := by
  unfold State.cancelRecovery at ht
  split at ht
  · exact h.answered (.cancelRecovery client dataId) rfl ht
  rename_i c hc
  split_ifs at ht with hlvl hallow hverify hst
  iterate 3 exact h.answered (.cancelRecovery client dataId) rfl ht
  · exact h.asksCancel hfree hc hst (.cancelRecovery client dataId) rfl ht
  · exact h.answered (.cancelRecovery client dataId) rfl ht

end

theorem resume (hcare : CarefulRecovery p l.state .resume)
    (hcall : l.state.call = some (call, some r)) (ht : t = l.state.finish call r) :
    Standing ⟨t, fun dataId => l.state.recoveries t .resume dataId (l.log dataId)⟩ := by
  have hansw {s : State} : s.Works none ({ s with call := none }.answer call r) :=
    .of_eq rfl rfl rfl (append_nil _).symm (forall_mem_nil _) rfl
      fun a ha => mem_singleton.1 ha ▸ trivial
  simp only [CarefulRecovery, hcall] at hcare
  cases call with
  | startData client dataId =>
    have hsta : l.state.Works none (l.state.onCtx dataId (Work.started client r)) := by
      refine .onCtx_of fun c => ?_
      have hinse : (Work.update { ctx := c } (insertClient client)).Calm c :=
        Work.Calm.idle.set fun _ => ⟨rfl, rfl, rfl, rfl, rfl⟩
      unfold Work.started
      dsimp only
      split_ifs
      · have htwic : (Work.update (Work.update { ctx := c } (insertClient client))
            (insertClient client)).Calm c := hinse.set fun _ => ⟨rfl, rfl, rfl, rfl, rfl⟩
        exact htwic.reconnect
      · exact hinse
      · exact hinse.reconnect
      · exact .idle
    exact h.returns hcall rfl (ht ▸ hsta.trans hansw) (ht ▸ rfl) .resume rfl
  | stopData client dataId =>
    have hstop : l.state.Works none (l.state.onCtx dataId fun w =>
        if w.ctx.autoStart = false then w.requestCancel dataId else w) := by
      refine .onCtx fun c hc => ?_
      split_ifs with hauto
      · unfold Work.requestCancel
        rw [if_neg (by simp [hcare c hc hauto])]
        exact .idle
      · exact .idle
    exact h.returns hcall rfl (ht ▸ hstop.trans hansw) (ht ▸ rfl) .resume rfl
  | startDataRetry client dataId => exact h.returns hcall rfl (ht ▸ hansw) (ht ▸ rfl) .resume rfl
  | cancelRecovery client dataId => exact h.returnsCancel hcall ht .resume rfl

theorem expiresSchedule (hc : l.state.ctx dataId = some c)
    (hruns : c.recoveryScheduleTimer = true) (halon : l.state.asked dataId = none)
    (ht : t = l.state.onCtx dataId (recoveryScheduleTimerHandler dataId)) :
    Standing (l.to (.expire dataId .recoverySchedule) t) := by
  have hlife := h.life dataId c hc
  rw [halon] at hlife
  have hst : c.adminState = .recoveryScheduledL1 := by
    cases hlife with
    | unscheduled hu => exact absurd hruns (by simp [hu.timer])
    | armed ha => exact ha.state
    | expired he => exact absurd hruns (by simp [he.timer])
    | closed hd => exact absurd hruns (by simp [hd.timer])
  have hwork : recoveryScheduleTimerHandler dataId { ctx := c } =
      { ctx := { c with recoveryScheduleTimer := false, adminState := .recoveryStartedL1 }
        posted := [.recoveryStartL1 dataId] } := by
    unfold recoveryScheduleTimerHandler
    simp only [Work.update, hst]
    rfl
  rw [onCtx_of_some hc] at ht
  subst ht
  have hput : (l.state.put dataId (recoveryScheduleTimerHandler dataId { ctx := c })).ctx dataId =
      some (recoveryScheduleTimerHandler dataId { ctx := c }).ctx := ctx_put.trans (if_pos rfl)
  have hworks : l.state.Works (some dataId)
      (l.state.put dataId (recoveryScheduleTimerHandler dataId { ctx := c })) := by
    refine ⟨rfl, fun other => ?_, rfl, ⟨_, rfl, fun e he => ?_⟩, ⟨_, rfl, fun a ha => ?_⟩,
      fun other hne c' hc' => ?_⟩
    · rw [← onCtx_of_some hc]
      exact known_onCtx
    · rw [hwork] at he
      exact Or.inr ⟨dataId, rfl, Or.inl (mem_singleton.1 he)⟩
    · rw [hwork] at ha
      exact absurd ha not_mem_nil
    · rw [ctx_put, if_neg fun heq => hne (congrArg some heq.symm)] at hc'
      exact ⟨c', hc', .refl⟩
  refine h.step hworks rfl rfl rfl rfl h.expected h.waiting (fun _ _ => ⟨rfl, rfl, rfl⟩)
    fun other hin c' hc' => ?_
  obtain rfl := some.inj hin
  obtain rfl := some.inj (hput.symm.trans hc')
  have haft : Life.Leaves dataId c _ _ _ _ _ := hlife.leaves_expired hruns
  have hlog :
      l.state.recoveries (l.state.put dataId (recoveryScheduleTimerHandler dataId { ctx := c }))
      (.expire dataId .recoverySchedule) dataId (l.log dataId) =
          (l.log dataId).after dataId c.adminState
        (recoveryScheduleTimerHandler dataId { ctx := c }).ctx.adminState false
        (recoveryScheduleTimerHandler dataId { ctx := c }).acts := by
    unfold recoveries
    simp only [hc, hput]
    rw [show (l.state.put dataId (recoveryScheduleTimerHandler dataId { ctx := c })).acts.drop
      l.state.acts.length = (recoveryScheduleTimerHandler dataId { ctx := c }).acts from drop_left]
    rfl
  have hask :
      (l.state.put dataId (recoveryScheduleTimerHandler dataId { ctx := c })).asked dataId = none :=
    halon
  rw [notes_append rfl, hask, hlog]
  exact haft

end

theorem calm_timerHandler {timer : Timer} (hne : timer ≠ .recoverySchedule)
    (hlvl : c.adminState.recoveryLevel ≤ 1) : (timerHandler dataId timer { ctx := c }).Calm c := by
  cases timer with
  | recoverySchedule => exact absurd rfl hne
  | dataStartRetry =>
    have htim : (Work.update { ctx := c } fun c => { c with dataStartRetryTimer := false }).Calm c :=
      .set .idle fun _ => ⟨rfl, rfl, rfl, rfl, rfl⟩
    unfold timerHandler dataRetryTimerHandler
    dsimp only
    split_ifs
    · exact htim.post (by trivial)
    · exact htim
  | periodicConnectivityTest =>
    exact .post (.set .idle fun _ => ⟨rfl, rfl, rfl, rfl, rfl⟩) (by trivial)
  | recoveryRetry =>
    have htim : (Work.update { ctx := c } fun c => { c with recoveryRetryTimer := false }).Calm c :=
      .set .idle fun _ => ⟨rfl, rfl, rfl, rfl, rfl⟩
    unfold timerHandler recoveryRetryTimerHandler
    dsimp only
    split
    all_goals first
      | exact htim
      | exact htim.post (by trivial)
      | (rename_i hst
         have hst : c.adminState = _ := hst
         rw [hst] at hlvl
         exact absurd hlvl (by decide))
  | radioOffOnInterval | simOffOnInterval =>
    exact .act (.set .idle fun _ => ⟨rfl, rfl, rfl, rfl, rfl⟩) (by trivial)
  | minTimeBetweenTriggers =>
    exact .set (f := fun c => { c with minTimeBetweenTriggers := false }) .idle
      fun _ => ⟨rfl, rfl, rfl, rfl, rfl⟩
  | maxTimeBetweenTriggers =>
    exact .set (f := fun c => { c with maxTimeBetweenTriggers := false }) .idle
      fun _ => ⟨rfl, rfl, rfl, rfl, rfl⟩

theorem expires (h : Standing l) {timer : Timer}
    (hcare : CarefulRecovery p l.state (.expire dataId timer))
    (ht : l.state.expire dataId timer = some t) :
    Standing (l.to (.expire dataId timer) t) := by
  obtain ⟨c, hc, ht⟩ := bind_eq_some_iff.1 ht
  split_ifs at ht with hruns hmax
  · obtain rfl := some.inj ht
    have hforg : l.state.Works none { l.state with
        retryClients := Function.update l.state.retryClients c.sessionRef none } :=
      .of_same rfl rfl rfl rfl rfl
    refine h.quiet (hforg.trans (.onCtx fun b hb => ?_)) call_onCtx fun _ => rfl
    exact calm_timerHandler (hmax ▸ nofun) (h.life dataId b hb).level
  · obtain rfl := some.inj ht
    by_cases hsche : timer = .recoverySchedule
    · subst hsche
      exact h.expiresSchedule hc hruns hcare rfl
    · refine h.quiet (.onCtx fun b hb => ?_) call_onCtx fun _ => rfl
      exact calm_timerHandler hsche (h.life dataId b hb).level

theorem watch (h : Standing l) (hcare : CarefulRecovery p l.state event)
    {l' : RecoveryLedger} (hstep : l.watch p event = some l') : Standing l' := by
  obtain ⟨t, ht, rfl⟩ := map_eq_some_iff.1 hstep
  cases event with
  | connect client =>
    simp only [State.step, ite_none_right_eq_some, some.injEq] at ht
    obtain ⟨-, rfl⟩ := ht
    exact h.quiet (.of_same rfl rfl rfl rfl rfl) rfl fun _ => rfl
  | disconnect client =>
    simp only [State.step, ite_none_right_eq_some, some.injEq] at ht
    obtain ⟨-, rfl⟩ := ht
    unfold State.onClientDisconnect
    dsimp only
    split_ifs with hrec
    · have hgone : l.state.Works none { l.state with
          sessions := l.state.sessions.filter (· ≠ client)
          connectedClients :=
            l.state.connectedClients.filter (· ≠ client) } := .of_same rfl rfl rfl rfl rfl
      refine h.quiet (hgone.trans (works_disconnect fun dataId c hc => ?_))
        State.call_forAll fun _ => rfl
      exact hcare hrec dataId ((h.listed.mem_iff dataId).2 ⟨c, hc⟩) c hc
    · exact h.quiet (.of_same rfl rfl rfl rfl rfl) rfl fun _ => rfl
  | startData client dataId =>
    simp only [State.step, ite_none_right_eq_some, some.injEq] at ht
    exact h.startData ht.1.1 ht.2.symm
  | stopData client dataId =>
    simp only [State.step, ite_none_right_eq_some, some.injEq] at ht
    exact h.stopData ht.1.1 ht.2.symm
  | startDataRetry client dataId =>
    simp only [State.step, ite_none_right_eq_some, some.injEq] at ht
    exact h.startDataRetry ht.1.1 ht.2.symm
  | cancelRecovery client dataId =>
    simp only [State.step, ite_none_right_eq_some, some.injEq] at ht
    exact h.cancelRecovery ht.1.1 ht.2.symm
  | resume =>
    simp only [State.step] at ht
    split at ht
    · rename_i call r hcall
      exact h.resume hcare hcall (some.inj ht).symm
    · cases ht
  | handle a =>
    simp only [State.step] at ht
    split at ht
    · cases ht
    · rename_i e rest hevs
      exact h.handle hcare hevs (some.inj ht).symm
  | expire dataId timer => exact h.expires hcare ht
  | runTest url ipv4Addr =>
    simp only [State.step, State.runTest] at ht
    split at ht
    · cases ht
    obtain rfl := some.inj ht
    refine h.answers (.runTest url ipv4Addr) rfl rfl rfl rfl rfl rfl (fun e he => ?_)
      (append_nil _).symm (forall_mem_nil _)
    rw [mem_singleton.1 he]
    split
    all_goals trivial
  | restartResponse ready =>
    simp only [State.step, State.restartReqAsyncCallBack] at ht
    rw [h.restarts] at ht
    cases ht
  | sessionConnected dataId =>
    exact h.reports (.sessionConnected dataId) rfl (by trivial) (some.inj ht).symm
  | sessionDisconnected dataId =>
    exact h.reports (.sessionDisconnected dataId) rfl (by trivial) (some.inj ht).symm
  | registered phoneId => exact h.reports (.registered phoneId) rfl (by trivial) (some.inj ht).symm
  | unregistered phoneId =>
    exact h.reports (.unregistered phoneId) rfl (by trivial) (some.inj ht).symm
  | simReady slotId => exact h.reports (.simReady slotId) rfl (by trivial) (some.inj ht).symm
  | simNotReady slotId => exact h.reports (.simNotReady slotId) rfl (by trivial) (some.inj ht).symm

theorem initial {config : List DataConfig} : Standing (RecoveryLedger.initial config) := by
  have hst : (∀ e ∈ (State.initial config).events, e.Plain) ∧
      (State.initial config).restarts = [] ∧
      (State.initial config).call = none := by
    apply initial_induction (P := fun s => (∀ e ∈ s.events, e.Plain) ∧ s.restarts = [] ∧ s.call = none)
    · exact ⟨forall_mem_nil _, rfl, rfl⟩
    rintro s d ⟨hevs, hrsrt, hcall⟩
    have hpstd (c : DataCtx) : ∀ e ∈ ((Work.update { ctx := c }
        (configure d)).initializeAdminState d).posted, e.Plain := by
      have hrpt {w : Work} {state : DataState} (hw : ∀ e ∈ w.posted, e.Plain) :
          ∀ e ∈ (w.reportAndUpdateDataState d.dataId state).posted, e.Plain := by
        unfold Work.reportAndUpdateDataState
        dsimp only
        split_ifs
        · exact hw
        iterate 2 exact fun e he => (mem_append.1 he).elim (hw e) fun heq => mem_singleton.1 heq ▸ trivial
        exact hw
      unfold Work.initializeAdminState
      split_ifs
      all_goals first
        | exact hrpt (by simp [SmEvent.Plain])
        | simp [SmEvent.Plain]
    have hconf {u : State} (hu : (∀ e ∈ u.events, e.Plain) ∧ u.restarts = [] ∧ u.call = none) :
        (∀ e ∈ (u.onCtx d.dataId fun w => (w.update (configure d)).initializeAdminState d).events,
          e.Plain) ∧
        (u.onCtx d.dataId fun w => (w.update (configure d)).initializeAdminState d).restarts = [] ∧
        (u.onCtx d.dataId fun w => (w.update (configure d)).initializeAdminState d).call = none := by
      cases hc : u.ctx d.dataId with
      | none =>
        rw [State.onCtx_of_none hc]
        exact hu
      | some c =>
        rw [State.onCtx_of_some hc]
        exact ⟨fun e he => (mem_append.1 he).elim (hu.1 e) (hpstd c e), hu.2⟩
    unfold State.initializeState
    cases s.ctx d.dataId with
    | some c | none => exact hconf ⟨hevs, hrsrt, hcall⟩
  obtain ⟨hevs, hrsrt, hcall⟩ := hst
  have hnts (dataId : Nat) : (State.initial config).notes dataId = [] :=
    filterMap_eq_nil_iff.2 fun e he => (hevs e he).note dataId
  refine ⟨listed_initial, ?_, fun e he => (hevs e he).expected, hrsrt, fun dataId c hc => ?_⟩
  · have hnone : (State.initial config).events.filter waited = [] :=
      filter_eq_nil_iff.2 fun e he => by
        rw [(hevs e he).waited]
        exact Bool.false_ne_true
    change (State.initial config).events.filter waited = (State.initial config).awaited
    unfold State.awaited
    rw [hnone, hcall]
  have hctx : c.recoveryScheduleTimer = false ∧ c.isConnectivityRecoveryScheduled = false ∧
      c.recoveryOperation = .none ∧ c.wasL1ConnectivityRecoveryDone = false ∧
        c.adminState.recoveryLevel = 0 := by
    refine initial_ctx (Q := fun _ c => c.recoveryScheduleTimer = false ∧
      c.isConnectivityRecoveryScheduled = false ∧ c.recoveryOperation = .none ∧
        c.wasL1ConnectivityRecoveryDone = false ∧
          c.adminState.recoveryLevel = 0) (fun d b hb => ?_) hc
    have hb' : b.recoveryScheduleTimer = false ∧ b.isConnectivityRecoveryScheduled = false ∧
        b.recoveryOperation = .none ∧ b.wasL1ConnectivityRecoveryDone = false := by
      obtain rfl | ⟨h1, h2, h3, h4, -⟩ := hb
      · exact ⟨rfl, rfl, rfl, rfl⟩
      · exact ⟨h1, h2, h3, h4⟩
    unfold Work.initializeAdminState
    split_ifs
    all_goals simp [configure, hb', AdminState.recoveryLevel]
  obtain ⟨htim, hflag, hop, hdone, hlvl⟩ := hctx
  change Life c ((State.initial config).notes dataId) ((State.initial config).asked dataId) {}
  rw [hnts]
  refine .unscheduled ⟨htim, hflag, hop, hdone, hlvl ▸ Nat.zero_le 1, fun heq => ?_,
    not_mem_nil, rfl, rfl⟩
  rw [heq] at hlvl
  cases hlvl

end Standing

/-- In every careful run the recoveries of all data objects are in order. -/
theorem recovery_run {p : Policy} {config : List DataConfig} {l : RecoveryLedger}
    {events : List Event}
    (hcare : Meets (RecoveryLedger.watch p) (fun l e => CarefulRecovery p l.state e)
      (RecoveryLedger.initial config) events)
    (hrun : exec (RecoveryLedger.watch p) (RecoveryLedger.initial config) events = some l) :
    l.Orderly :=
  fun dataId c hc =>
    ((exec_invariant (fun _ _ _ h hok hstep => h.watch hok hstep) Standing.initial hcare hrun).life
      dataId c hc).recovers

/-! A recovery is cancelled by the client, scheduled again and performed. -/

def firstLevel : Policy where
  level := .l1
  allowCancel := true
  verifyCancelingApp := false
  retryWaitTime := 30
  appMngdEnable := false
  verifyCallingApp := false
  maxSessions := 4

def failingData : DataConfig where
  dataId := 1
  slotId := 1
  phoneId := 1
  autoStart := false
  connTestUrl := []
  connTestIpv4Addr := []
  dataRetry := false
  maxdataRetryCount := 0
  connPeriodicTestUrl := []
  connPeriodicTestMaxRetryCount := 0
  simReady := true
  registered := true

/-- A session cannot be started, and its recovery is scheduled. -/
def failStart : List Event :=
  [.connect 7, .handle (answering .ok), .startData 7 1, .handle (answering .fault), .resume,
    .handle (answering .ok), .handle (answering .ok)]

def cancelThenRecover : List Event :=
  failStart ++ [.cancelRecovery 7 1, .handle (answering .ok), .resume, .handle (answering .ok),
    .handle (answering .ok), .expire 1 .recoveryRetry, .handle (answering .ok),
    .expire 1 .recoverySchedule, .handle (answering .ok), .expire 1 .radioOffOnInterval]

theorem recovery_run_cancelThenRecover : ∃ l, exec (RecoveryLedger.watch firstLevel)
    (RecoveryLedger.initial [failingData]) cancelThenRecover = some l ∧ l.Orderly :=
  ⟨_, rfl, @recovery_run firstLevel [failingData] _ cancelThenRecover (by decide +kernel) rfl⟩

/-- The schedule timer expires while the state machine has not handled the cancellation yet. -/
def expireWhileCancelling : List Event :=
  failStart ++ [.cancelRecovery 7 1, .expire 1 .recoverySchedule, .handle (answering .ok), .resume,
    .handle (answering .ok), .handle (answering .ok), .handle (answering .ok)]

/-- The applications are told that the recovery has started, and then that it is cancelled. -/
theorem not_recovery_run : ¬ ∀ (p : Policy) (config : List DataConfig) (events : List Event)
    (l : RecoveryLedger),
    exec (RecoveryLedger.watch p) (RecoveryLedger.initial config) events = some l → l.Orderly := by
  intro h
  have horderly := h firstLevel [failingData] expireWhileCancelling _ rfl
  have hproper := (horderly 1 _ rfl).proper
    ⟨.radioOffOn,
      [.told .scheduled, .told .started, .performed true, .told .canceled]⟩ (by decide +kernel)
  exact absurd hproper.once (by decide)

end TelAF.MngdConn
