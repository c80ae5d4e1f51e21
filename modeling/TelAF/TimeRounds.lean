import TelAF.TimePriority

/-!
# Priority over runs

The polling rounds are watched together with the sets since boot: the source of the last one, the
rounds that failed since, and the sets of each source. Every round keeps to the priorities, and the
recorded source and the counters follow the sets.
-/

namespace TelAF.TimeService

open TransitionRuns List

/-- The configuration at boot, the source that last set the time, the rounds that failed since, and
the sets of each source. -/
structure Rounds where
  state : State
  start : List Source
  lastSet : TimeSource
  failed : Nat
  sets : TimeSource → Nat

/-- The source at the first place comes before that at the second one. -/
def Precedes (l : List Source) (i j : Fin l.length) : Prop :=
  l[i].priority < l[j].priority ∨ l[i].priority = l[j].priority ∧ i < j
deriving Decidable

theorem InOrder.precedes {l : List Source} (h : InOrder l) {i j : Fin l.length}
    (hij : Precedes l i j) : i < j := by
  rcases hij with hlt | ⟨_, hlt⟩
  · by_contra hge
    have hle : l[j].priority ≤ l[i].priority := by
      rcases Nat.lt_or_eq_of_le (Nat.not_lt.1 hge) with hlt' | heq
      · exact pairwise_iff_getElem.1 h j i j.isLt i.isLt hlt'
      have : j = i := Fin.ext heq
      subst this
      exact le_refl _
    omega
  · exact hlt

namespace Rounds

variable (w : Rounds)

def boot (s : State) : Rounds := ⟨s, s.source, .unknown, 0, fun _ => 0⟩

/-- The sources that set the time in this step. -/
def accepted (e : Event) : List TimeSource := acceptedIn (w.state.step e).attempts

/-- An application has supplied the time since the last round, as the source at this place. -/
def appSuppliedAt (i : Fin w.state.source.length) : Prop :=
  w.state.externalSetTime = true ∧ w.state.source[i].sourceName = .exApp
deriving Decidable

/-- A round without a time, from a source or from an application. -/
def fails : Event → Bool
  | .poll _ => w.state.source ≠ [] ∧ ∀ i, ¬ w.appSuppliedAt i
  | _ => false

def failedAfter (e : Event) : Nat :=
  if w.accepted e ≠ [] then 0 else if w.fails e then w.failed + 1 else w.failed

def after (e : Event) : Rounds :=
  if e.reboots then boot (w.state.step e)
  else
    { w with
      state := w.state.step e
      lastSet := (w.accepted e).head?.getD w.lastSet
      failed := w.failedAfter e
      sets := fun id => w.sets id + (w.accepted e).count id }

def watch (w : Rounds) (e : Event) : Option Rounds := some (w.after e)

/-- The source may set the time: it is configured to, has sets left, and is not of lower priority
than the one that set it last, unless the configured number of rounds has failed. -/
def Permitted (id : TimeSource) : Prop :=
  ∃ c, w.state.conf id = some c ∧ c.setSystemTime = true ∧ c.setTimeCounter ≠ 0 ∧
    (w.lastSet = .unknown ∨
      (∃ curr, w.state.conf w.lastSet = some curr ∧ c.priority ≤ curr.priority) ∨
      0 ≤ w.state.confAllowOverride ∧ w.state.confAllowOverride ≤ w.failed)

/-- A counter that limits the sets is down by their number, another one is as it was. -/
def Counted : Prop :=
  ∀ id c, (w.start.find? fun c => c.sourceName = id) = some c →
    ∃ now, w.state.conf id = some now ∧
      (0 ≤ c.setTimeCounter →
        0 ≤ now.setTimeCounter ∧ now.setTimeCounter + w.sets id = c.setTimeCounter) ∧
      (c.setTimeCounter < 0 → now.setTimeCounter = c.setTimeCounter)

/-- The recorded source, the validities and the configuration with its counters are as they were. -/
structure AsBefore (s t : State) : Prop where
  source : t.source = s.source
  systemSourceId : t.systemSourceId = s.systemSourceId
  systemValidity : t.latest.sourceValidity = s.latest.sourceValidity
  validity : ∀ id, (t.info id).sourceValidity = (s.info id).sourceValidity

structure Prioritized (e : Event) : Prop where
  /-- A round sets the time from a source that may set it. -/
  permitted : ∀ replies, e = .poll replies → ∀ id ∈ w.accepted e, w.Permitted id
  /-- The time is set from one source at most. -/
  once : (w.accepted e).length ≤ 1
  /-- In a round that is the first one that has a time, is allowed and is not refused by the clock;
  the time an application supplied comes before those of lower priority. -/
  highest : ∀ replies, e = .poll replies → ∀ id ∈ w.accepted e,
    ∃ i, w.state.source[i].sourceName = id ∧ w.state.wouldSetAt replies i = true ∧
      ∀ j, w.state.wouldSetAt replies j = true ∨ w.appSuppliedAt j →
        ¬ Precedes w.state.source j i
  /-- Where there is such a source the round sets the time. -/
  served : ∀ replies, e = .poll replies → ∀ i, w.state.wouldSetAt replies i = true →
    (∀ j, w.appSuppliedAt j → ¬ Precedes w.state.source j i) → w.accepted e ≠ []
  /-- The recorded source is the one that last set the time. -/
  recorded : (w.after e).state.systemSourceId = (w.after e).lastSet
  counted : (w.after e).Counted
  /-- A set that the clock refuses changes nothing. -/
  refused : (w.state.step e).attempts ≠ [] → w.accepted e = [] →
    AsBefore w.state (w.state.step e)
  /-- Nor does it where another source sets the time instead. -/
  refusedInRound : ∀ a ∈ (w.state.step e).attempts, a.1 ∉ w.accepted e → a.1 ≠ .rtc →
    ((w.state.step e).info a.1).sourceValidity = (w.state.info a.1).sourceValidity

/-- The sources are in order at boot. A round that finds a time an application supplied sets the
time from a source before that of the application, or it finds no source after it that would set the
time and no count of failed rounds to go down. -/
def CarefulTime (e : Event) : Prop :=
  match e with
  | .poll replies => ∀ i, w.appSuppliedAt i →
      (∃ j, Precedes w.state.source j i ∧ w.state.wouldSetAt replies j = true) ∨
        w.state.allowOverrideAfterFail ≤ 0 ∧
          ∀ j, Precedes w.state.source i j → w.state.wouldSetAt replies j = false
  | .reboot conf .. => InOrder conf.timeSources
  | _ => True

instance : DecidableRel CarefulTime := fun _ a => by
  cases a <;> unfold CarefulTime <;> infer_instance

structure Agreed : Prop where
  recorded : w.state.systemSourceId = w.lastSet
  inOrder : InOrder w.state.source
  counted : w.Counted
  overrides : w.lastSet ≠ .unknown → w.state.allowOverrideAfterFail =
    if 0 < w.state.confAllowOverride then max (w.state.confAllowOverride - w.failed) 0
    else w.state.confAllowOverride

variable {w} {e : Event}

theorem after_of_not_reboots (h : e.reboots = false) :
    w.after e =
      { w with
        state := w.state.step e
        lastSet := (w.accepted e).head?.getD w.lastSet
        failed := w.failedAfter e
        sets := fun id => w.sets id + (w.accepted e).count id } := by
  simp [after, h]

def before (w : Rounds) : State := w.state.begin

variable {id : TimeSource}

theorem accepted_setFrom (h : SetFrom id w.before (w.state.step e)) :
    w.accepted e = [id] := h.accepted

theorem attempts_idle (h : Idle w.before (w.state.step e)) :
    (w.state.step e).attempts = [] := h.attempts

theorem accepted_idle (h : Idle w.before (w.state.step e)) : w.accepted e = [] := by
  rw [accepted, attempts_idle h]
  rfl

theorem Agreed.permitted (h : w.Agreed)
    (hallw : w.state.isNewTimeSrcSetTimeAllowed id = true) : w.Permitted id := by
  unfold State.isNewTimeSrcSetTimeAllowed at hallw
  rcases hconf : w.state.conf id with _ | c
  · simp [hconf] at hallw
  simp only [hconf] at hallw
  split at hallw
  · simp at hallw
  next hcntr =>
  split at hallw
  · simp at hallw
  next hflag =>
  refine ⟨c, hconf, by simpa using hflag, hcntr, ?_⟩
  by_cases hlast : w.lastSet = .unknown
  · exact Or.inl hlast
  refine Or.inr ?_
  rw [h.recorded, if_neg hlast] at hallw
  rcases hcurr : w.state.conf w.lastSet with _ | curr
  · simp [hcurr] at hallw
  simp only [hcurr] at hallw
  split at hallw
  next hprio => exact Or.inl ⟨curr, rfl, hprio⟩
  next hprio =>
    refine Or.inr ?_
    have hzero : w.state.allowOverrideAfterFail = 0 := by
      split at hallw
      next hboth => exact hboth.2
      next => simp at hallw
    have hover := h.overrides hlast
    split at hover
    all_goals omega

/-- The source that sets the time has a counter that is not used up. -/
theorem Permitted.counter (h : w.Permitted id) :
    ∃ c, w.state.conf id = some c ∧ c.setTimeCounter ≠ 0 := by
  obtain ⟨c, hconf, _, hcntr, _⟩ := h
  exact ⟨c, hconf, hcntr⟩

theorem Agreed.afterSet (h : w.Agreed) (hrun : e.reboots = false)
    (hallw : w.state.isNewTimeSrcSetTimeAllowed id = true)
    (hset : SetFrom id w.before (w.state.step e)) : (w.after e).Agreed := by
  have haccd := accepted_setFrom hset
  have hfail : w.failedAfter e = 0 := by simp [failedAfter, haccd]
  obtain ⟨mine, hmine, hcntr⟩ := (h.permitted hallw).counter
  rw [after_of_not_reboots hrun, haccd]
  refine ⟨hset.systemSourceId, ?_, ?_, ?_⟩
  · change InOrder (w.state.step e).source
    rw [hset.source]
    exact h.inOrder.countDown id
  · intro other c hsta
    obtain ⟨now, hnow, hlimi, hfree⟩ := h.counted other c hsta
    have hfind : (w.state.step e).conf other = some (if other = id then now.countedDown else now) := by
      unfold State.conf at hnow ⊢
      rw [hset.source, find_countDown]
      change ((w.state.source.find? _).map _) = _
      rw [hnow]
      rfl
    refine ⟨_, hfind, ?_, ?_⟩
    · intro hnonn
      obtain ⟨hpos, hsum⟩ := hlimi hnonn
      by_cases hid : other = id
      · subst hid
        have heq : now = mine := Option.some.inj (hnow.symm.trans hmine)
        have hgt : 0 < now.setTimeCounter := by
          rw [heq] at hpos ⊢
          omega
        simp only [if_true, Source.countedDown, hgt, count_cons_self, count_nil]
        constructor
        · omega
        · push_cast
          omega
      · have hne : ¬ id = other := fun heq => hid heq.symm
        simp only [hid, if_false]
        refine ⟨hpos, ?_⟩
        simpa [count_cons, hne] using hsum
    · intro hneg
      have hsame := hfree hneg
      split
      · have hnot : ¬ 0 < now.setTimeCounter := by omega
        simp only [Source.countedDown, hnot, if_false]
        exact hsame
      · exact hsame
  · intro _
    have hconf : (w.state.step e).confAllowOverride = w.state.confAllowOverride :=
      hset.confAllowOverride
    have hagai : (w.state.step e).allowOverrideAfterFail = w.state.confAllowOverride :=
      hset.allowOverrideAfterFail
    simp only [hfail, hconf, hagai]
    split
    · push_cast
      omega
    · rfl

/-- Where nothing is set, the count of the failed rounds is what may change. -/
theorem Agreed.afterUnset (h : w.Agreed) (hrun : e.reboots = false)
    (haccd : w.accepted e = []) (hsrc : (w.state.step e).source = w.state.source)
    (hsys : (w.state.step e).systemSourceId = w.state.systemSourceId)
    (hconf : (w.state.step e).confAllowOverride = w.state.confAllowOverride)
    (hover : (w.state.step e).allowOverrideAfterFail =
      if w.fails e ∧ 0 < w.state.allowOverrideAfterFail then w.state.allowOverrideAfterFail - 1
      else w.state.allowOverrideAfterFail) : (w.after e).Agreed := by
  rw [after_of_not_reboots hrun, haccd]
  refine ⟨?_, ?_, ?_, ?_⟩
  · exact hsys.trans h.recorded
  · change InOrder (w.state.step e).source
    rw [hsrc]
    exact h.inOrder
  · intro id c hsta
    obtain ⟨now, hnow, hcnt⟩ := h.counted id c hsta
    refine ⟨now, ?_, by simpa using hcnt⟩
    rw [← hnow]
    exact congrArg _ hsrc
  intro hknw
  have hbef := h.overrides hknw
  change (w.state.step e).allowOverrideAfterFail =
    if 0 < (w.state.step e).confAllowOverride then
      max ((w.state.step e).confAllowOverride - (w.failedAfter e : Int)) 0
    else (w.state.step e).confAllowOverride
  have hcnt : w.failedAfter e = if w.fails e then w.failed + 1 else w.failed := by
    simp [failedAfter, haccd]
  rw [hover, hconf, hcnt]
  rcases w.fails e with _ | _
  · simpa using hbef
  simp only [true_and, if_true]
  split at hbef
  all_goals split_ifs
  all_goals push_cast
  all_goals omega

/-- The events other than a round set the time from a source that may set it, or change nothing the
choice depends on. -/
theorem other_spec (s : State) (hrun : e.reboots = false)
    (hpoll : ∀ replies, e ≠ .poll replies) :
    (∃ id, s.isNewTimeSrcSetTimeAllowed id = true ∧ SetFrom id s (s.handle e)) ∨ Unset s (s.handle e) ∨
      Idle s (s.handle e) := by
  cases e with
  | poll replies => exact absurd rfl (hpoll replies)
  | reboot => simp [Event.reboots] at hrun
  | setTrustTime r sourceRef timeVal validity permission =>
    rcases s.setTrustTime_spec r sourceRef timeVal validity permission with ⟨hallw, hset⟩ | hwait
    · exact Or.inl ⟨.exApp, hallw, hset⟩
    · exact Or.inr (Or.inl hwait.toUnset)
  | getRtcTimeResp r rtcTime response =>
    rcases s.getRtcTimeResp_spec r rtcTime response with ⟨hallw, hset⟩ | hunse
    · exact Or.inl ⟨.rtc, hallw, hset⟩
    · exact Or.inr (Or.inl hunse)
  | gnssUtcTime utc bootTime => exact Or.inr (Or.inr (Idle.gnssUtcTimeUpdate s utc bootTime))
  | networkTimeResponse second error converted bootTime =>
    exact Or.inr (Or.inr (Idle.networkTimeResponseUpdate s second error converted bootTime))
  | networkTimeChange second converted bootTime =>
    exact Or.inr (Or.inr (Idle.networkTimeChange s second converted bootTime))
  | rtcPerforms n status => exact Or.inr (Or.inr (Idle.rtcPerforms s n status))
  | rtcSetResponse r => exact Or.inr (Or.inr (Idle.rtcSetResponse s r))
  | syncRtcTrustInfo r => exact Or.inr (Or.inr (Idle.syncRtcTrustInfoWithMSS s r))
  | isSourceValid r id => exact Or.inr (Or.inr (Idle.isSourceValid s r id))
  | mssDisconnect => exact Or.inr (Or.inr ⟨rfl, rfl, rfl, rfl, rfl⟩)

/-- What a step does to the choice, with the source it sets the time from. -/
inductive Moved (w : Rounds) (e : Event) : Prop where
  | set (id : TimeSource) (allowed : w.state.isNewTimeSrcSetTimeAllowed id = true)
      (set : SetFrom id w.before (w.state.step e)) : Moved w e
  | unset (u : State) (unset : Unset w.before u)
      (counts : w.state.step e =
        if w.fails e ∧ 0 < u.allowOverrideAfterFail then
          { u with allowOverrideAfterFail := u.allowOverrideAfterFail - 1 }
        else u) : Moved w e
  | idle (fails : w.fails e = false) (idle : Idle w.before (w.state.step e)) : Moved w e

theorem before_sameTimes (w : Rounds) : SameTimes w.state w.before := ⟨rfl, rfl, rfl, rfl, rfl⟩

theorem before_wouldSetAt (w : Rounds) (replies : Nat → Replies) (i : Fin w.state.source.length) :
    w.before.wouldSetAt replies i = w.state.wouldSetAt replies i :=
  w.before_sameTimes.wouldSet (replies i) w.state.source[i].sourceName

theorem round_spec (w : Rounds) (replies : Nat → Replies) :
    (∃ i : Fin w.state.source.length, w.state.wouldSetAt replies i = true ∧
        (∀ j, j < i → w.state.wouldSetAt replies j = false) ∧
        SetFrom w.state.source[i].sourceName w.before (w.state.step (.poll replies))) ∨
      (∀ i, w.state.wouldSetAt replies i = false) ∧
        ∃ u, Waited w.before u ∧
          w.state.step (.poll replies) = if w.state.source = [] then u else u.countFailed := by
  rcases w.before.setTimeBaseOnConfig_spec replies with ⟨i, hwoul, hfst, hset⟩ | ⟨hnone, hrnd⟩
  · refine Or.inl ⟨i, (before_wouldSetAt w replies i).symm.trans hwoul, ?_, hset⟩
    intro j hj
    exact (before_wouldSetAt w replies j).symm.trans (hfst j hj)
  · exact Or.inr ⟨fun i => (before_wouldSetAt w replies i).symm.trans (hnone i), hrnd⟩

variable {replies : Nat → Replies}
variable {s u : State}

theorem wouldSetAt_allowed {i : Fin s.source.length} (h : s.wouldSetAt replies i = true) :
    s.isNewTimeSrcSetTimeAllowed (s.source.get i).sourceName = true := by
  simp only [State.wouldSetAt, State.wouldSet, Bool.and_eq_true] at h
  exact h.1.2

theorem fails_poll (w : Rounds) (replies : Nat → Replies) :
    w.fails (.poll replies) = true ↔ w.state.source ≠ [] ∧ ∀ i, ¬ w.appSuppliedAt i := by
  simp [fails]

theorem moved (hrun : e.reboots = false) (hcare : w.CarefulTime e) : w.Moved e := by
  by_cases hpoll : ∃ replies, e = .poll replies
  · obtain ⟨replies, rfl⟩ := hpoll
    rcases w.round_spec replies with ⟨i, hwoul, _, hset⟩ | ⟨hnone, u, hwait, hrnd⟩
    · exact .set _ (wouldSetAt_allowed hwoul) hset
    refine .unset u hwait.toUnset ?_
    have hove : u.allowOverrideAfterFail = w.state.allowOverrideAfterFail :=
      hwait.allowOverrideAfterFail
    rw [hrnd]
    by_cases hemp : w.state.source = []
    · have hno : w.fails (.poll replies) = false := by simp [fails, hemp]
      simp [hemp, hno]
    by_cases happ : ∃ i, w.appSuppliedAt i
    · obtain ⟨i, hi⟩ := happ
      rcases hcare i hi with ⟨j, _, hj⟩ | ⟨hdown, _⟩
      · rw [hnone j] at hj
        simp at hj
      · have hnot : ¬ 0 < u.allowOverrideAfterFail := by omega
        simp [hemp, State.countFailed, hnot]
    · have hno : w.fails (.poll replies) = true :=
        (fails_poll w replies).2 ⟨hemp, fun i hi => happ ⟨i, hi⟩⟩
      simp [hemp, hno, State.countFailed]
  · have hoth : ∀ replies, e ≠ .poll replies := fun replies heq => hpoll ⟨replies, heq⟩
    have hno : w.fails e = false := by
      cases e with
      | poll replies => exact absurd rfl (hoth replies)
      | _ => rfl
    rcases other_spec w.before hrun hoth with ⟨id, hallw, hset⟩ | hunse | hidle
    · exact .set id (by rwa [← w.before_sameTimes.allowed]) hset
    · exact .unset _ hunse (by simp [hno]; rfl)
    · exact .idle hno hidle

theorem accepted_counted (hunse : Unset w.before u)
    (hcnts : w.state.step e =
      if w.fails e ∧ 0 < u.allowOverrideAfterFail then
        { u with allowOverrideAfterFail := u.allowOverrideAfterFail - 1 }
      else u) : w.accepted e = [] := by
  rw [accepted, hcnts]
  split
  all_goals exact hunse.accepted

theorem Agreed.step (h : w.Agreed) (hcare : w.CarefulTime e) : (w.after e).Agreed := by
  cases hrun : e.reboots with
  | true =>
    cases e with
    | reboot conf vhal ready =>
      refine ⟨rfl, hcare, ?_, fun hknw => absurd rfl hknw⟩
      intro id c hsta
      exact ⟨c, hsta, fun hpos => ⟨hpos, by simp [after, Event.reboots, boot]⟩, fun _ => rfl⟩
    | _ => simp [Event.reboots] at hrun
  | false =>
    cases moved hrun hcare with
    | set id hallw hset => exact h.afterSet hrun hallw hset
    | unset u hunse hcnts =>
      have hove : u.allowOverrideAfterFail = w.state.allowOverrideAfterFail :=
        hunse.allowOverrideAfterFail
      refine h.afterUnset hrun (accepted_counted hunse hcnts) ?_ ?_ ?_ ?_
      · rw [hcnts]
        split
        all_goals exact hunse.source
      · rw [hcnts]
        split
        all_goals exact hunse.systemSourceId
      · rw [hcnts]
        split
        all_goals exact hunse.confAllowOverride
      rw [hcnts, hove]
      split
      next => rfl
      next => exact hove
    | idle hno hidle =>
      refine h.afterUnset hrun (accepted_idle hidle) hidle.source hidle.systemSourceId
        hidle.confAllowOverride ?_
      rw [hno, if_neg (by simp)]
      exact hidle.allowOverrideAfterFail

theorem round_served {i : Fin w.state.source.length}
    (h : w.state.wouldSetAt replies i = true) : w.accepted (.poll replies) ≠ [] := by
  rcases w.round_spec replies with ⟨_, _, _, hset⟩ | ⟨hnone, _⟩
  · rw [accepted_setFrom hset]
    simp
  · rw [hnone i] at h
    simp at h

theorem asBefore_unset (h : Unset w.before u) : AsBefore w.state u :=
  ⟨h.source, h.systemSourceId, congrArg _ h.latest, fun id => by rw [h.info]; rfl⟩

theorem Agreed.prioritized (h : w.Agreed) (hcare : w.CarefulTime e) : w.Prioritized e := by
  have haft := h.step hcare
  cases hrun : e.reboots with
  | true =>
    cases e with
    | reboot conf vhal ready =>
      exact ⟨nofun, Nat.zero_le _, nofun, nofun, haft.recorded, haft.counted,
        fun hne => absurd rfl hne, nofun⟩
    | _ => simp [Event.reboots] at hrun
  | false =>
    cases moved hrun hcare with
    | set id hallw hset =>
      have haccd := accepted_setFrom hset
      refine ⟨?_, by simp [haccd], ?_, ?_, haft.recorded, haft.counted, ?_, ?_⟩
      · intro replies _ other hmem
        rw [haccd, mem_singleton] at hmem
        subst hmem
        exact h.permitted hallw
      · rintro replies rfl other hmem
        rw [haccd, mem_singleton] at hmem
        subst hmem
        rcases w.round_spec replies with ⟨i, hwoul, hfst, hset'⟩ | ⟨_, u, hwait, hrnd⟩
        · have hsame : w.state.source[i].sourceName = other :=
            hset'.systemSourceId.symm.trans hset.systemSourceId
          refine ⟨i, hsame, hwoul, ?_⟩
          intro j hj hprec
          have hlt := h.inOrder.precedes hprec
          rcases hj with hj | hj
          · rw [hfst j hlt] at hj
            simp at hj
          rcases hcare j hj with ⟨k, hkj, hk⟩ | ⟨_, hlate⟩
          · have hki := (h.inOrder.precedes hkj).trans hlt
            rw [hfst k hki] at hk
            simp at hk
          · rw [hlate i hprec] at hwoul
            simp at hwoul
        · exfalso
          have hnone : w.accepted (.poll replies) = [] := by
            rw [accepted, hrnd]
            split
            · exact hwait.accepted
            unfold State.countFailed
            split
            all_goals exact hwait.accepted
          rw [haccd] at hnone
          simp at hnone
      · rintro replies rfl i hwoul _
        exact round_served hwoul
      · intro _ hnone
        rw [haccd] at hnone
        simp at hnone
      · intro a _ hoth hrtc
        rw [haccd, mem_singleton] at hoth
        rw [hset.info a.1 hrtc hoth]
        rfl
    | unset u hunse hcnts =>
      have hnone := accepted_counted hunse hcnts
      have hsame : AsBefore w.state (w.state.step e) := by
        rw [hcnts]
        have hu := asBefore_unset hunse
        split
        · exact ⟨hu.source, hu.systemSourceId, hu.systemValidity, hu.validity⟩
        · exact hu
      refine ⟨?_, by simp [hnone], ?_, ?_, haft.recorded, haft.counted, fun _ _ => hsame, ?_⟩
      · intro _ _ _ hmem
        simp [hnone] at hmem
      · intro _ _ _ hmem
        simp [hnone] at hmem
      · rintro replies rfl i hwoul _
        exact round_served hwoul
      · intro a _ _ _
        exact hsame.validity a.1
    | idle hno hidle =>
      have hnone := accepted_idle hidle
      have hatte := attempts_idle hidle
      refine ⟨?_, by simp [hnone], ?_, ?_, haft.recorded, haft.counted, ?_, ?_⟩
      · intro _ _ _ hmem
        simp [hnone] at hmem
      · intro _ _ _ hmem
        simp [hnone] at hmem
      · rintro replies rfl i hwoul _
        exact round_served hwoul
      · intro hne
        exact absurd hatte hne
      · intro a hmem
        simp [hatte] at hmem

theorem boot_agreed (hsrc : InOrder s.source) (hsys : s.systemSourceId = .unknown) :
    (boot s).Agreed := by
  refine ⟨hsys, hsrc, ?_, fun hknw => absurd rfl hknw⟩
  intro id c hsta
  exact ⟨c, hsta, fun hpos => ⟨hpos, by simp [boot]⟩, fun _ => rfl⟩

/-- In every careful run the sets keep to the priorities. -/
theorem prioritized_run (conf : Configuration) (vhal : Vhal) (ready : TimeSource → Bool)
    (device : Device) (events : List Event) (hconf : InOrder conf.timeSources)
    (hcare : Meets watch CarefulTime (boot (init conf vhal ready device)) events) :
    Meets watch Prioritized (boot (init conf vhal ready device)) events := by
  refine Meets.of_invariant Agreed ?_ ?_ (boot_agreed hconf rfl) hcare
  · intro w e h hcare
    exact Agreed.prioritized h hcare
  intro w e u h hcare hstep
  cases hstep
  exact Agreed.step h hcare

/-! An application's time above that of the satellites. -/

def clockReplies (now : Nat) : Replies where
  bootTime := some ⟨10, 0⟩
  systemTime := some ⟨now, 0⟩
  clockSettime := .ok
  getRtcTimeHAL := (.fault, .zero)
  systemTimeAfter := some ⟨now, 0⟩
  bootTimeAfter := some ⟨10, 0⟩
  setRtcTime := .fault
  storage := ⟨false, false, false, .fault, .fault, .fault, .fault⟩

def applicationFirst (allowOverride : Int) : Configuration where
  source := [⟨2, true, .gnss, 200, -1⟩, ⟨1, true, .exApp, 200, 5⟩]
  loaded := true
  confAllowOverride := allowOverride
  allowOverrideAfterFail := allowOverride

def roundReplies : Nat → Replies := fun _ => clockReplies 7000

/-- The satellites' time arrives, an application sets a time of its own, and a round follows. -/
def applicationThenRound : List Event :=
  [.gnssUtcTime 5000000 (some ⟨10, 0⟩),
    .setTrustTime (clockReplies 20) (some .exApp) ⟨7000, 0⟩ true .ok, .poll roundReplies]

def noVhal : Vhal := ⟨false, false, false, false, false⟩

def bootWith (allowOverride : Int) : Rounds :=
  boot (init (applicationFirst allowOverride) noVhal (fun _ => true) ⟨none, none⟩)

/-- Where the satellites may not override, the round leaves the application's time alone. -/
theorem prioritized_run_application : Meets watch Prioritized (bootWith (-1)) applicationThenRound :=
  prioritized_run (applicationFirst (-1)) noVhal (fun _ => true) ⟨none, none⟩ applicationThenRound
    (by decide +kernel) (by decide +kernel)

def beforeRound (allowOverride : Int) : Rounds :=
  (applicationThenRound.take 2).foldl after (bootWith allowOverride)

/-- Where they may, the round that follows an application's time sets theirs over it. -/
theorem not_prioritized :
    ¬ ∀ (conf : Configuration) (vhal : Vhal) (ready : TimeSource → Bool) (device : Device)
      (events : List Event), InOrder conf.timeSources →
        Meets watch Prioritized (boot (init conf vhal ready device)) events := by
  intro h
  have hrun := h (applicationFirst 0) noVhal (fun _ => true) ⟨none, none⟩ applicationThenRound
    (by decide +kernel)
  have hround : (beforeRound 0).Prioritized (.poll roundReplies) := ((hrun.2 _ rfl).2 _ rfl).1
  have hset : TimeSource.gnss ∈ (beforeRound 0).accepted (.poll roundReplies) := by decide +kernel
  have hnone : ¬ ∃ i, (beforeRound 0).state.source[i].sourceName = .gnss ∧
      (beforeRound 0).state.wouldSetAt roundReplies i = true ∧
      ∀ j, (beforeRound 0).state.wouldSetAt roundReplies j = true ∨
        (beforeRound 0).appSuppliedAt j →
        ¬ Precedes (beforeRound 0).state.source j i := by
    decide +kernel
  exact hnone (hround.highest roundReplies rfl .gnss hset)

end Rounds

end TelAF.TimeService
