import TelAF.TimeService

/-!
# Which source sets the system time

A polling round sets the time from one source at most, the first in the order of the priorities that
has a time and may set it. What the RTC does with the time that was set leaves the choice of the
next one alone; a set that the clock refuses leaves everything alone.
-/

namespace TelAF.TimeService

open TransitionRuns State List

structure SameChoice (s t : State) : Prop where
  source : t.source = s.source
  confAllowOverride : t.confAllowOverride = s.confAllowOverride
  allowOverrideAfterFail : t.allowOverrideAfterFail = s.allowOverrideAfterFail
  vhal : t.vhal = s.vhal
  systemSourceId : t.systemSourceId = s.systemSourceId
  externalSetTime : t.externalSetTime = s.externalSetTime
  deltaTime : t.deltaTime = s.deltaTime
  attempts : t.attempts = s.attempts
  info : ∀ id, id ≠ .rtc → t.info id = s.info id

namespace SameChoice

variable {s t u : State}

theorem refl (s : State) : SameChoice s s :=
  ⟨rfl, rfl, rfl, rfl, rfl, rfl, rfl, rfl, fun _ _ => rfl⟩

theorem trans (h : SameChoice s t) (k : SameChoice t u) : SameChoice s u where
  source := k.source.trans h.source
  confAllowOverride := k.confAllowOverride.trans h.confAllowOverride
  allowOverrideAfterFail := k.allowOverrideAfterFail.trans h.allowOverrideAfterFail
  vhal := k.vhal.trans h.vhal
  systemSourceId := k.systemSourceId.trans h.systemSourceId
  externalSetTime := k.externalSetTime.trans h.externalSetTime
  deltaTime := k.deltaTime.trans h.deltaTime
  attempts := k.attempts.trans h.attempts
  info := fun id hid => (k.info id hid).trans (h.info id hid)

variable (s : State)

theorem setRtcInfo (inf : SourceInf) : SameChoice s (s.setInfo .rtc inf) := by
  refine ⟨rfl, rfl, rfl, rfl, rfl, rfl, rfl, rfl, ?_⟩
  intro id hid
  simp [setInfo, hid]

theorem isSecStorageConnected (r : StorageReplies) :
    SameChoice s (s.isSecStorageConnected r).2 := by
  unfold State.isSecStorageConnected
  split
  · exact refl s
  · exact ⟨rfl, rfl, rfl, rfl, rfl, rfl, rfl, rfl, fun _ _ => rfl⟩

theorem writeValidtyToSecStorage (r : StorageReplies) (v : Bool) :
    SameChoice s (s.writeValidtyToSecStorage r v).2 := by
  unfold State.writeValidtyToSecStorage
  split_ifs
  all_goals exact ⟨rfl, rfl, rfl, rfl, rfl, rfl, rfl, rfl, fun _ _ => rfl⟩

theorem syncValidityToMSS (r : StorageReplies) : SameChoice s (s.syncValidityToMSS r).2 := by
  have hconn := isSecStorageConnected s r
  unfold State.syncValidityToMSS
  simp only
  split
  · exact hconn
  have hwrit := hconn.trans (writeValidtyToSecStorage (s.isSecStorageConnected r).2 r
    (s.isSecStorageConnected r).2.latest.sourceValidity)
  split
  · exact hwrit
  · exact hwrit.trans (setRtcInfo _ _)

theorem syncRtcInRam (v : Bool) : SameChoice s (s.syncValidityInRam .rtc v) := by
  have hinfo := setRtcInfo s { s.info .rtc with sourceValidity := v }
  unfold syncValidityInRam
  simp only
  split
  · exact hinfo.trans ⟨rfl, rfl, rfl, rfl, rfl, rfl, rfl, rfl, fun _ _ => rfl⟩
  · exact hinfo

theorem setRtcTrustTimeValidityHandler (r : StorageReplies) (response : Result) :
    SameChoice s (s.setRtcTrustTimeValidityHandler r response) := by
  unfold State.setRtcTrustTimeValidityHandler
  split_ifs
  · exact refl s
  · exact refl s
  have hram := syncRtcInRam s s.latest.sourceValidity
  simp only
  split
  · exact hram
  · exact hram.trans (syncValidityToMSS _ r)

theorem setTimeToRtc (r : Replies) (timeVal : TimeSpec) :
    SameChoice s (s.setTimeToRtc r timeVal).2 := by
  unfold State.setTimeToRtc
  split
  · exact refl s
  split
  · split
    · exact refl s
    split
    · exact ⟨rfl, rfl, rfl, rfl, rfl, rfl, rfl, rfl, fun _ _ => rfl⟩
    · exact refl s
  split
  · refine trans ?_ (setRtcTrustTimeValidityHandler _ r.storage r.setRtcTime)
    split
    · exact ⟨rfl, rfl, rfl, rfl, rfl, rfl, rfl, rfl, fun _ _ => rfl⟩
    · exact refl s
  · exact refl s

theorem setTimeOrValidity (r : Replies) (systemTime bootTime : TimeSpec) :
    SameChoice s (s.setTimeOrValidity r systemTime bootTime) := by
  unfold State.setTimeOrValidity
  split
  · exact setTimeToRtc s r systemTime
  have hfnd : SameChoice s { s with rtcFound := some s.latest.sourceValidity } :=
    ⟨rfl, rfl, rfl, rfl, rfl, rfl, rfl, rfl, fun _ _ => rfl⟩
  exact hfnd.trans (setRtcTrustTimeValidityHandler _ r.storage .ok)

theorem markUnsynced : SameChoice s s.markUnsynced := by
  unfold State.markUnsynced
  split
  · exact setRtcInfo s _
  · exact refl s

theorem rtcTrustTimeUpdateHandler (r : Replies) : SameChoice s (s.rtcTrustTimeUpdateHandler r) := by
  unfold State.rtcTrustTimeUpdateHandler
  split
  · exact refl s
  split
  next systemTime bootTime _ _ =>
    split
    · exact refl s
    have hmark := markUnsynced s
    simp only
    split
    · exact hmark.trans (setTimeOrValidity _ r systemTime bootTime)
    split
    · exact hmark.trans (setTimeOrValidity _ r systemTime bootTime)
    have hstd := hmark.trans (syncValidityToMSS s.markUnsynced r.storage)
    split
    · exact hstd.trans (setTimeOrValidity _ r systemTime bootTime)
    · exact hstd
  exact refl s

end SameChoice

/-- The clock was set, or left alone within the tolerance. -/
def acceptedIn (attempts : List (TimeSource × Result)) : List TimeSource :=
  (attempts.filter fun a => a.2 = .ok).map Prod.fst

variable {id : TimeSource}

theorem acceptedIn_refused {result : Result} (h : result ≠ .ok)
    (attempts : List (TimeSource × Result)) :
    acceptedIn ((id, result) :: attempts) = acceptedIn attempts := by
  simp [acceptedIn, h]

/-- Nothing was set: what a source was asked for is all that is left, and the clock refused the
attempts. -/
structure Unset (s t : State) : Prop where
  source : t.source = s.source
  confAllowOverride : t.confAllowOverride = s.confAllowOverride
  allowOverrideAfterFail : t.allowOverrideAfterFail = s.allowOverrideAfterFail
  systemSourceId : t.systemSourceId = s.systemSourceId
  latest : t.latest = s.latest
  info : t.info = s.info
  accepted : acceptedIn t.attempts = acceptedIn s.attempts

structure Waited (s t : State) : Prop extends Unset s t where
  vhal : t.vhal = s.vhal
  deltaTime : t.deltaTime = s.deltaTime

/-- The time was set from the source: it is the system's, its counter went down, and the failed
rounds are counted anew. -/
structure SetFrom (id : TimeSource) (s t : State) : Prop where
  configured : (s.conf id).isSome
  source : t.source = countDown id s.source
  confAllowOverride : t.confAllowOverride = s.confAllowOverride
  allowOverrideAfterFail : t.allowOverrideAfterFail = s.confAllowOverride
  systemSourceId : t.systemSourceId = id
  accepted : acceptedIn t.attempts = id :: acceptedIn s.attempts
  info : ∀ other, other ≠ .rtc → other ≠ id → t.info other = s.info other

namespace Unset

variable {s t u : State}

theorem refl (s : State) : Unset s s := ⟨rfl, rfl, rfl, rfl, rfl, rfl, rfl⟩

variable (h : Unset s t)
include h

theorem trans (k : Unset t u) : Unset s u where
  source := k.source.trans h.source
  confAllowOverride := k.confAllowOverride.trans h.confAllowOverride
  allowOverrideAfterFail := k.allowOverrideAfterFail.trans h.allowOverrideAfterFail
  systemSourceId := k.systemSourceId.trans h.systemSourceId
  latest := k.latest.trans h.latest
  info := k.info.trans h.info
  accepted := k.accepted.trans h.accepted

theorem conf (id : TimeSource) : t.conf id = s.conf id := by simp only [State.conf, h.source]

theorem allowed (id : TimeSource) :
    t.isNewTimeSrcSetTimeAllowed id = s.isNewTimeSrcSetTimeAllowed id := by
  simp only [isNewTimeSrcSetTimeAllowed, h.conf, h.systemSourceId, h.allowOverrideAfterFail]

theorem setFrom {id : TimeSource} (k : SetFrom id t u) : SetFrom id s u where
  configured := by simpa only [← h.conf id] using k.configured
  source := by rw [k.source, h.source]
  confAllowOverride := k.confAllowOverride.trans h.confAllowOverride
  allowOverrideAfterFail := k.allowOverrideAfterFail.trans h.confAllowOverride
  systemSourceId := k.systemSourceId
  accepted := by rw [k.accepted, h.accepted]
  info := fun other hrtc hid => by rw [k.info other hrtc hid, h.info]

end Unset

namespace Waited

variable {s t u : State}

theorem refl (s : State) : Waited s s := ⟨Unset.refl s, rfl, rfl⟩

theorem trans (h : Waited s t) (k : Waited t u) : Waited s u where
  toUnset := h.toUnset.trans k.toUnset
  vhal := k.vhal.trans h.vhal
  deltaTime := k.deltaTime.trans h.deltaTime

end Waited

variable {s t u : State}

section

variable (h : SetFrom id s t)
include h

theorem SetFrom.sameChoice (k : SameChoice t u) : SetFrom id s u where
  configured := h.configured
  source := k.source.trans h.source
  confAllowOverride := k.confAllowOverride.trans h.confAllowOverride
  allowOverrideAfterFail := k.allowOverrideAfterFail.trans h.allowOverrideAfterFail
  systemSourceId := k.systemSourceId.trans h.systemSourceId
  accepted := by rw [k.attempts, h.accepted]
  info := fun other hrtc hid => (k.info other hrtc).trans (h.info other hrtc hid)

theorem SetFrom.unset (k : Unset t u) : SetFrom id s u where
  configured := h.configured
  source := k.source.trans h.source
  confAllowOverride := k.confAllowOverride.trans h.confAllowOverride
  allowOverrideAfterFail := k.allowOverrideAfterFail.trans h.allowOverrideAfterFail
  systemSourceId := k.systemSourceId.trans h.systemSourceId
  accepted := k.accepted.trans h.accepted
  info := fun other hrtc hid => by rw [k.info, h.info other hrtc hid]

theorem SetFrom.syncValidity (validity : Bool) :
    SetFrom id s (t.syncValidityInRam id validity) := by
  have hinfo : ∀ other, other ≠ .rtc → other ≠ id →
      (t.setInfo id { t.info id with sourceValidity := validity }).info other = s.info other := by
    intro other hrtc hid
    simp only [setInfo, hid]
    exact h.info other hrtc hid
  unfold syncValidityInRam
  simp only
  split
  all_goals
    exact ⟨h.configured, h.source, h.confAllowOverride, h.allowOverrideAfterFail, h.systemSourceId,
      h.accepted, hinfo⟩

theorem SetFrom.setInfo (inf : SourceInf) : SetFrom id s (t.setInfo id inf) := by
  refine ⟨h.configured, h.source, h.confAllowOverride, h.allowOverrideAfterFail, h.systemSourceId,
    h.accepted, ?_⟩
  intro other hrtc hid
  simp only [State.setInfo, hid]
  exact h.info other hrtc hid

end

namespace State

variable (s : State) (r : Replies)

/-- The clock takes the time of the source, where it is the source's to set. -/
theorem setSystemTime_spec (timeVal : TimeSpec) (id : TimeSource) :
    (s.setSystemTime r timeVal id).1 = .ok ∧ s.setRealTime r timeVal id = .ok ∧
        SetFrom id s (s.setSystemTime r timeVal id).2 ∨
      (s.setSystemTime r timeVal id).1 ≠ .ok ∧
        (s.setRealTime r timeVal id ≠ .ok ∨ s.conf id = none) ∧
        Waited s (s.setSystemTime r timeVal id).2 := by
  unfold setSystemTime
  rcases hconf : s.conf id with _ | c
  · exact Or.inr ⟨nofun, Or.inr rfl, Waited.refl s⟩
  by_cases hset : s.setRealTime r timeVal id = .ok
  · refine Or.inl ?_
    simp only [hset, if_true]
    refine ⟨trivial, trivial, ?_⟩
    have hsome : (s.conf id).isSome := by simp [hconf]
    split
    all_goals exact ⟨hsome, rfl, rfl, rfl, rfl, rfl, fun _ _ _ => rfl⟩
  · refine Or.inr ?_
    simp only [hset]
    refine ⟨hset, Or.inl hset, ?_⟩
    exact ⟨⟨rfl, rfl, rfl, rfl, rfl, rfl, acceptedIn_refused hset _⟩, rfl, rfl⟩

theorem updateTime_spec (id : TimeSource) (timeVal : TimeSpec) (validity external : Bool) :
    (s.updateTimeAndValidity r id timeVal validity external).1 = .ok ∧
        s.setRealTime r timeVal id = .ok ∧
        SetFrom id s (s.updateTimeAndValidity r id timeVal validity external).2 ∨
      (s.updateTimeAndValidity r id timeVal validity external).1 ≠ .ok ∧
        (s.setRealTime r timeVal id ≠ .ok ∨ s.conf id = none) ∧
        Waited s (s.updateTimeAndValidity r id timeVal validity external).2 := by
  unfold updateTimeAndValidity
  rcases s.setSystemTime_spec r timeVal id with ⟨hok, hcloc, hset⟩ | ⟨hfail, hcloc, hunse⟩
  swap
  · refine Or.inr ?_
    simp only [hfail, ne_eq, not_false_eq_true, if_true]
    exact ⟨trivial, hcloc, hunse⟩
  refine Or.inl ?_
  simp only [hok, ne_eq, not_true_eq_false, if_false]
  refine ⟨trivial, hcloc, ?_⟩
  have hval := hset.syncValidity validity
  split
  next =>
    split
    · exact (hval.setInfo _).sameChoice (SameChoice.rtcTrustTimeUpdateHandler _ r)
    · exact hval.setInfo _
  next =>
    split
    · exact hval.sameChoice (SameChoice.rtcTrustTimeUpdateHandler _ r)
    · exact hval

theorem updateSystemTime_spec (timeVal : TimeSpec) {id : TimeSource} (hconf : (s.conf id).isSome) :
    (s.updateSystemTime r timeVal id).1 = .ok ∧ s.setRealTime r timeVal id = .ok ∧
        SetFrom id s (s.updateSystemTime r timeVal id).2 ∨
      (s.updateSystemTime r timeVal id).1 ≠ .ok ∧ s.setRealTime r timeVal id ≠ .ok ∧
        Waited s (s.updateSystemTime r timeVal id).2 := by
  unfold updateSystemTime
  have hsome : (s.conf id).isNone = false := by simpa using hconf
  simp only [hsome, Bool.false_eq_true]
  rcases s.updateTime_spec r id timeVal (s.info id).sourceValidity false with h | h
  · exact Or.inl h
  refine Or.inr ⟨h.1, ?_, h.2.2⟩
  rcases h.2.1 with hcloc | hnone
  · exact hcloc
  · simp [hnone] at hconf

/-- The source has a time, may set it, and the clock takes it. -/
def wouldSet (id : TimeSource) : Bool :=
  (s.checkSourceTime r id).1.1 = .ok && (s.checkSourceTime r id).1.2.sec ≠ 0 &&
    s.isNewTimeSrcSetTimeAllowed id && s.setRealTime r (s.checkSourceTime r id).1.2 id = .ok

theorem checkSourceTime_waited (id : TimeSource) : Waited s (s.checkSourceTime r id).2 := by
  have hrtc : Waited s (s.getRtcTime r).2 := by
    unfold getRtcTime
    split_ifs
    all_goals exact ⟨⟨rfl, rfl, rfl, rfl, rfl, rfl, rfl⟩, rfl, rfl⟩
  have hexAp : Waited s s.getExSetTimeStatus.2 := by
    unfold getExSetTimeStatus
    split
    all_goals exact ⟨⟨rfl, rfl, rfl, rfl, rfl, rfl, rfl⟩, rfl, rfl⟩
  cases id with
  | rtc => exact hrtc
  | exApp => exact hexAp
  | gnss | network | network2 | system | unknown => exact Waited.refl s

/-- What the application supplied is no time of the round: it counts as failed. -/
theorem exApp_sec_eq_zero : (s.checkSourceTime r .exApp).1.2.sec = 0 := rfl

theorem allowed_configured {id : TimeSource} (h : s.isNewTimeSrcSetTimeAllowed id = true) :
    (s.conf id).isSome := by
  unfold isNewTimeSrcSetTimeAllowed at h
  cases hconf : s.conf id with
  | none => simp [hconf] at h
  | some c => rfl

end State

structure SameTimes (s t : State) : Prop where
  source : t.source = s.source
  allowOverrideAfterFail : t.allowOverrideAfterFail = s.allowOverrideAfterFail
  systemSourceId : t.systemSourceId = s.systemSourceId
  vhal : t.vhal = s.vhal
  deltaTime : t.deltaTime = s.deltaTime

namespace SameTimes

variable {s t : State} (h : SameTimes s t) (r : Replies) (id : TimeSource)
include h

theorem conf : t.conf id = s.conf id := by simp only [State.conf, h.source]

theorem allowed : t.isNewTimeSrcSetTimeAllowed id = s.isNewTimeSrcSetTimeAllowed id := by
  simp only [isNewTimeSrcSetTimeAllowed, h.conf, h.systemSourceId, h.allowOverrideAfterFail]

theorem setRealTime (timeVal : TimeSpec) :
    t.setRealTime r timeVal id = s.setRealTime r timeVal id := by
  unfold State.setRealTime State.isThresholdSetTimeAllow
  rw [h.conf]

theorem getTimeFromLocalCache : t.getTimeFromLocalCache r id = s.getTimeFromLocalCache r id := by
  unfold State.getTimeFromLocalCache
  rw [h.deltaTime]

theorem getRtcTime : (t.getRtcTime r).1 = (s.getRtcTime r).1 := by
  have hvhal : t.rtcVhalInt = s.rtcVhalInt := by simp only [State.rtcVhalInt, h.conf, h.vhal]
  unfold State.getRtcTime
  rw [hvhal, h.vhal, h.getTimeFromLocalCache]
  split_ifs
  all_goals rfl

theorem checkSourceTime (hid : id ≠ .exApp) :
    (t.checkSourceTime r id).1 = (s.checkSourceTime r id).1 := by
  cases id with
  | exApp => exact absurd rfl hid
  | rtc => exact h.getRtcTime r
  | gnss | network | network2 => exact h.getTimeFromLocalCache r _
  | system | unknown => rfl

theorem wouldSet : t.wouldSet r id = s.wouldSet r id := by
  by_cases hid : id = .exApp
  · subst hid
    simp [State.wouldSet, State.exApp_sec_eq_zero]
  · simp only [State.wouldSet, h.checkSourceTime r id hid, h.allowed, h.setRealTime]

end SameTimes

theorem Waited.sameTimes (h : Waited s t) : SameTimes s t :=
  ⟨h.source, h.allowOverrideAfterFail, h.systemSourceId, h.vhal, h.deltaTime⟩

namespace State

variable (s : State) (r : Replies)

/-- Once the time is set, the other sources of the round are only looked at. -/
theorem checkAndSet_after (id : TimeSource) :
    (s.checkAndSet r id true).1 = true ∧ Waited s (s.checkAndSet r id true).2 := by
  have hwait := s.checkSourceTime_waited r id
  unfold checkAndSet
  simp only [Bool.not_true, Bool.false_and, Bool.false_eq_true, if_false]
  split_ifs
  all_goals exact ⟨rfl, hwait⟩

theorem checkAndSet_spec (id : TimeSource) :
    s.wouldSet r id = true ∧ (s.checkAndSet r id false).1 = true ∧
        SetFrom id s (s.checkAndSet r id false).2 ∨
      s.wouldSet r id = false ∧ (s.checkAndSet r id false).1 = false ∧
        Waited s (s.checkAndSet r id false).2 := by
  have hwait := s.checkSourceTime_waited r id
  unfold checkAndSet
  simp only [Bool.not_false, Bool.true_and]
  by_cases htime : (s.checkSourceTime r id).1.1 ≠ .ok ∨ (s.checkSourceTime r id).1.2.sec = 0
  · rw [if_pos htime]
    refine Or.inr ⟨?_, rfl, hwait⟩
    rcases htime with hres | hsec
    · simp [wouldSet, hres]
    · simp [wouldSet, hsec]
  rw [if_neg htime]
  have hres : (s.checkSourceTime r id).1.1 = .ok := by
    by_contra hne
    exact htime (Or.inl hne)
  have hsec : (s.checkSourceTime r id).1.2.sec ≠ 0 := fun hzero => htime (Or.inr hzero)
  have hid : id ≠ .exApp := by
    rintro rfl
    exact hsec (s.exApp_sec_eq_zero r)
  rw [if_neg hid, hwait.allowed id]
  by_cases hallw : s.isNewTimeSrcSetTimeAllowed id = true
  swap
  · have hnot : s.isNewTimeSrcSetTimeAllowed id = false := by simpa using hallw
    simp only [hnot, Bool.false_eq_true, if_false]
    exact Or.inr ⟨by simp [wouldSet, hnot], trivial, hwait⟩
  simp only [hallw]
  have hconf : ((s.checkSourceTime r id).2.conf id).isSome := by
    rw [hwait.conf id]
    exact s.allowed_configured hallw
  have hspec := updateSystemTime_spec (s.checkSourceTime r id).2 r
    (s.checkSourceTime r id).1.2 hconf
  rw [hwait.sameTimes.setRealTime] at hspec
  rcases hspec with ⟨hok, hcloc, hset⟩ | ⟨hfail, hcloc, hunse⟩
  · refine Or.inl ⟨?_, ?_, hwait.setFrom hset⟩
    · simp [wouldSet, hres, hsec, hallw, hcloc]
    · simpa using hok
  · refine Or.inr ⟨?_, ?_, hwait.trans hunse⟩
    · simp [wouldSet, hcloc]
    · simpa using hfail

theorem setTimeLoop_after (replies : Nat → Replies) (l : List Source) :
    (setTimeLoop replies s true l).1 = true ∧ Waited s (setTimeLoop replies s true l).2 := by
  induction l generalizing s replies with
  | nil => exact ⟨rfl, Waited.refl s⟩
  | cons c rest ih =>
    obtain ⟨hstat, hwait⟩ := s.checkAndSet_after (replies 0) c.sourceName
    simp only [setTimeLoop, hstat]
    obtain ⟨hrest, hlate⟩ := ih (s.checkAndSet (replies 0) c.sourceName true).2
      (fun n => replies (n + 1))
    exact ⟨hrest, hwait.trans hlate⟩

/-- The round sets the time from the first source of its list that would set it, and from no
other. -/
theorem setTimeLoop_spec (replies : Nat → Replies) (l : List Source) :
    (∃ i c, l[i]? = some c ∧ s.wouldSet (replies i) c.sourceName = true ∧
        (∀ j d, j < i → l[j]? = some d → s.wouldSet (replies j) d.sourceName = false) ∧
        (setTimeLoop replies s false l).1 = true ∧
        SetFrom c.sourceName s (setTimeLoop replies s false l).2) ∨
      (∀ i c, l[i]? = some c → s.wouldSet (replies i) c.sourceName = false) ∧
        (setTimeLoop replies s false l).1 = false ∧ Waited s
        (setTimeLoop replies s false l).2 := by
  induction l generalizing s replies with
  | nil => exact Or.inr ⟨by simp, rfl, Waited.refl s⟩
  | cons c rest ih =>
    rcases s.checkAndSet_spec (replies 0) c.sourceName with ⟨hwoul, hstat, hset⟩ | ⟨hwoul, hstat, hwait⟩
    · refine Or.inl ⟨0, c, rfl, hwoul, by simp, ?_⟩
      obtain ⟨hdone, hlate⟩ := setTimeLoop_after (s.checkAndSet (replies 0) c.sourceName false).2
        (fun n => replies (n + 1)) rest
      simp only [setTimeLoop, hstat]
      exact ⟨hdone, hset.unset hlate.toUnset⟩
    simp only [setTimeLoop, hstat]
    rcases ih (s.checkAndSet (replies 0) c.sourceName false).2 (fun n => replies (n + 1)) with
      ⟨i, d, hget, hd, hbef, hdone, hset⟩ | ⟨hnone, hdone, hlate⟩
    · refine Or.inl ⟨i + 1, d, by simpa using hget, by rwa [← hwait.sameTimes.wouldSet], ?_, hdone,
        hwait.setFrom hset⟩
      intro j e hj he
      cases j with
      | zero =>
        simp only [getElem?_cons_zero, Option.some.injEq] at he
        subst he
        exact hwoul
      | succ j =>
        rw [← hwait.sameTimes.wouldSet]
        exact hbef j e (by omega) (by simpa using he)
    · refine Or.inr ⟨?_, hdone, hwait.trans hlate⟩
      intro i d hget
      cases i with
      | zero =>
        simp only [getElem?_cons_zero, Option.some.injEq] at hget
        subst hget
        exact hwoul
      | succ i =>
        rw [← hwait.sameTimes.wouldSet]
        exact hnone i d (by simpa using hget)

end State

/-- A counter that limits the sets goes down, one that does not stays. -/
def Source.countedDown (c : Source) : Source :=
  { c with setTimeCounter := if 0 < c.setTimeCounter then c.setTimeCounter - 1 else c.setTimeCounter }

theorem find_countDown (id other : TimeSource) (l : List Source) :
    ((countDown id l).find? fun c => c.sourceName = other) =
      (l.find? fun c => c.sourceName = other).map fun c => if other = id then c.countedDown else c := by
  induction l with
  | nil => rfl
  | cons c rest ih =>
    unfold countDown
    by_cases hid : c.sourceName = id
    · rw [if_pos hid]
      by_cases hoth : c.sourceName = other
      · have heq : other = id := hoth.symm.trans hid
        simp [hoth, heq, Source.countedDown]
      · have hne : ¬ other = id := fun heq => hoth (hid.trans heq.symm)
        simp [hoth, hne]
    · rw [if_neg hid]
      by_cases hoth : c.sourceName = other
      · have hne : ¬ other = id := fun heq => hid (hoth.trans heq)
        simp [hoth, hne]
      · simp only [find?_cons, hoth]
        exact ih

/-- The sources stand in the order of their priorities. -/
def InOrder (l : List Source) : Prop := l.Pairwise fun a b => a.priority ≤ b.priority
deriving Decidable

theorem priority_countDown (id : TimeSource) (l : List Source) :
    (countDown id l).map Source.priority = l.map Source.priority := by
  induction l with
  | nil => rfl
  | cons c rest ih =>
    unfold countDown
    split
    · rfl
    · simp only [map_cons, ih]

theorem InOrder.countDown {l : List Source} (h : InOrder l) (id : TimeSource) :
    InOrder (countDown id l) := by
  have hmap : ((TimeService.countDown id l).map Source.priority).Pairwise (· ≤ ·) := by
    rw [priority_countDown]
    exact pairwise_map.2 h
  exact pairwise_map.1 hmap

namespace State

variable (s : State)

theorem setTrustTime_spec (r : Replies) (sourceRef : Option TimeSource) (timeVal : TimeSpec)
    (validity : Bool) (permission : Result) :
    (s.isNewTimeSrcSetTimeAllowed .exApp = true ∧
        SetFrom .exApp s (s.setTrustTime r sourceRef timeVal validity permission).2) ∨
      Waited s (s.setTrustTime r sourceRef timeVal validity permission).2 := by
  unfold setTrustTime
  rcases sourceRef with _ | id
  · exact Or.inr (Waited.refl s)
  by_cases hid : id = .exApp
  · subst hid
    simp only [ne_eq, not_true_eq_false, if_false]
    split
    · exact Or.inr (Waited.refl s)
    split
    · exact Or.inr (Waited.refl s)
    rcases hmay : s.isNewTimeSrcSetTimeAllowed .exApp with _ | _
    · exact Or.inr (Waited.refl s)
    rcases s.updateTime_spec r .exApp timeVal validity true with ⟨_, _, hset⟩ | ⟨_, _, hwait⟩
    · exact Or.inl ⟨rfl, hset⟩
    · exact Or.inr hwait
  · simp only [ne_eq, hid, not_false_eq_true]
    exact Or.inr (Waited.refl s)

theorem updateCache_unset (newTime : TimeSpec) (id : TimeSource)
    (bootTime : Option TimeSpec) :
    Unset s (s.updateLocalTimeCache newTime id bootTime) := by
  unfold updateLocalTimeCache
  split
  · simp only
    split_ifs
    all_goals exact ⟨rfl, rfl, rfl, rfl, rfl, rfl, rfl⟩
  · exact Unset.refl s

theorem getRtcTimeResp_spec (r : Replies) (rtcTime : TimeSpec) (response : Result) :
    (s.isNewTimeSrcSetTimeAllowed .rtc = true ∧
        SetFrom .rtc s (s.getRtcTimeResp r rtcTime response)) ∨
      Unset s (s.getRtcTimeResp r rtcTime response) := by
  unfold getRtcTimeResp
  simp only
  split
  · exact Or.inr ⟨rfl, rfl, rfl, rfl, rfl, rfl, rfl⟩
  have hread : Unset s { s with rtcDeltaMsec := rtcTime.deltaBootTime r.bootTime } :=
    ⟨rfl, rfl, rfl, rfl, rfl, rfl, rfl⟩
  have hcach := hread.trans (updateCache_unset _ rtcTime .rtc r.bootTime)
  generalize hu : ({ s with rtcDeltaMsec := rtcTime.deltaBootTime r.bootTime } : State).updateLocalTimeCache
    rtcTime .rtc r.bootTime = u at hcach ⊢
  split
  · have hfst : Unset s { u with initFlag := false } :=
      hcach.trans ⟨rfl, rfl, rfl, rfl, rfl, rfl, rfl⟩
    split
    next hallw =>
      have hconf : (({ u with initFlag := false } : State).conf .rtc).isSome :=
        allowed_configured _ hallw
      rcases updateSystemTime_spec _ r rtcTime hconf with ⟨_, _, hset⟩ | ⟨_, _, hwait⟩
      · exact Or.inl ⟨(hfst.allowed .rtc).symm.trans hallw, hfst.setFrom hset⟩
      · exact Or.inr (hfst.trans hwait.toUnset)
    next => exact Or.inr hfst
  · exact Or.inr hcach

/-- A source of the round, with the replies it meets. -/
def wouldSetAt (replies : Nat → Replies) (i : Fin s.source.length) : Bool :=
  s.wouldSet (replies i) s.source[i].sourceName

/-- A round in which nothing was set is counted. -/
def countFailed (u : State) : State :=
  if 0 < u.allowOverrideAfterFail then
    { u with allowOverrideAfterFail := u.allowOverrideAfterFail - 1 }
  else u

theorem setTimeBaseOnConfig_spec (replies : Nat → Replies) :
    (∃ i : Fin s.source.length, s.wouldSetAt replies i = true ∧
        (∀ j, j < i → s.wouldSetAt replies j = false) ∧
        SetFrom s.source[i].sourceName s (s.setTimeBaseOnConfig replies)) ∨
      (∀ i, s.wouldSetAt replies i = false) ∧
        ∃ u, Waited s u ∧ s.setTimeBaseOnConfig replies = if s.source =
            [] then u else u.countFailed := by
  unfold setTimeBaseOnConfig
  by_cases hemp : s.source = []
  · simp only [hemp]
    exact Or.inr ⟨fun i => absurd i.isLt (by simp [hemp]), s, Waited.refl s, rfl⟩
  simp only [hemp]
  rcases s.setTimeLoop_spec replies s.source with
    ⟨i, c, hget, hwoul, hbef, hdone, hset⟩ | ⟨hnone, hdone, hwait⟩
  · obtain ⟨hlt, rfl⟩ := List.getElem?_eq_some_iff.1 hget
    refine Or.inl ⟨⟨i, hlt⟩, hwoul, ?_, ?_⟩
    · intro j hj
      exact hbef j s.source[j] hj (List.getElem?_eq_getElem j.isLt)
    · simp only [hdone]
      exact hset
  · refine Or.inr ⟨?_, (setTimeLoop replies s false s.source).2, hwait, ?_⟩
    · intro j
      exact hnone j s.source[j] (List.getElem?_eq_getElem j.isLt)
    · simp only [hdone]
      rfl

end State

/-- Nothing was asked of the clock, and nothing the choice depends on has changed. -/
structure Idle (s t : State) : Prop where
  source : t.source = s.source
  confAllowOverride : t.confAllowOverride = s.confAllowOverride
  allowOverrideAfterFail : t.allowOverrideAfterFail = s.allowOverrideAfterFail
  systemSourceId : t.systemSourceId = s.systemSourceId
  attempts : t.attempts = s.attempts

namespace Idle

variable {s t u : State}

theorem refl (s : State) : Idle s s := ⟨rfl, rfl, rfl, rfl, rfl⟩

theorem trans (h : Idle s t) (k : Idle t u) : Idle s u where
  source := k.source.trans h.source
  confAllowOverride := k.confAllowOverride.trans h.confAllowOverride
  allowOverrideAfterFail := k.allowOverrideAfterFail.trans h.allowOverrideAfterFail
  systemSourceId := k.systemSourceId.trans h.systemSourceId
  attempts := k.attempts.trans h.attempts

theorem ofSameChoice (h : SameChoice s t) : Idle s t :=
  ⟨h.source, h.confAllowOverride, h.allowOverrideAfterFail, h.systemSourceId, h.attempts⟩

variable (s : State)

theorem updateLocalTimeCache (newTime : TimeSpec) (id : TimeSource)
    (bootTime : Option TimeSpec) : Idle s (s.updateLocalTimeCache newTime id bootTime) := by
  unfold State.updateLocalTimeCache
  split
  · simp only
    split_ifs
    all_goals exact ⟨rfl, rfl, rfl, rfl, rfl⟩
  · exact refl s

theorem sourceValidityUpdate (validity : Bool) (id : TimeSource) :
    Idle s (s.sourceValidityUpdate validity id) := by
  unfold State.sourceValidityUpdate
  split
  all_goals exact ⟨rfl, rfl, rfl, rfl, rfl⟩

theorem gnssUtcTimeUpdate (utc : Nat) (bootTime : Option TimeSpec) :
    Idle s (s.gnssUtcTimeUpdate utc bootTime) := by
  unfold State.gnssUtcTimeUpdate
  split
  · exact (updateLocalTimeCache s _ .gnss bootTime).trans (sourceValidityUpdate _ true .gnss)
  · exact refl s

theorem networkTimeResponseUpdate (second : Bool) (error : Result)
    (converted bootTime : Option TimeSpec) :
    Idle s (s.networkTimeResponseUpdate second error converted bootTime) := by
  unfold State.networkTimeResponseUpdate
  simp only
  split
  · exact refl s
  cases converted with
  | none => exact refl s
  | some timeVal =>
    exact (updateLocalTimeCache s timeVal _ bootTime).trans (sourceValidityUpdate _ true _)

theorem networkTimeChange (second : Bool) (converted bootTime : Option TimeSpec) :
    Idle s (s.networkTimeChange second converted bootTime) := by
  cases converted with
  | none => exact refl s
  | some timeVal => exact updateLocalTimeCache s timeVal _ bootTime

theorem rtcPerforms (n : Nat) (status : Result) : Idle s (s.rtcPerforms n status) := by
  unfold State.rtcPerforms
  split
  all_goals exact ⟨rfl, rfl, rfl, rfl, rfl⟩

theorem rtcSetResponse (r : StorageReplies) : Idle s (s.rtcSetResponse r) := by
  unfold State.rtcSetResponse
  split
  · exact refl s
  next response rest _ =>
    have htkn : Idle s { s with responses := rest } := ⟨rfl, rfl, rfl, rfl, rfl⟩
    exact htkn.trans (ofSameChoice (SameChoice.setRtcTrustTimeValidityHandler _ r response.status))

theorem syncRtcTrustInfoWithMSS (r : Replies) : Idle s (s.syncRtcTrustInfoWithMSS r) := by
  have hconn := ofSameChoice (SameChoice.isSecStorageConnected s r.storage)
  unfold State.syncRtcTrustInfoWithMSS
  simp only
  split
  · exact refl s
  split
  · exact hconn
  split
  · exact hconn
  split
  · exact hconn
  split
  · exact (hconn.trans (ofSameChoice (SameChoice.syncRtcInRam _ _))).trans
      (ofSameChoice (SameChoice.setRtcInfo _ _))
  · exact hconn.trans (ofSameChoice (SameChoice.rtcTrustTimeUpdateHandler _ r))

theorem isSourceValid (r : StorageReplies) (id : TimeSource) : Idle s (s.isSourceValid r id).2 := by
  have hconn := ofSameChoice (SameChoice.isSecStorageConnected s r)
  unfold State.isSourceValid
  simp only
  split
  · exact refl s
  split
  · exact hconn
  split
  · exact hconn
  · exact hconn.trans (ofSameChoice (SameChoice.setRtcInfo _ _))

end Idle

end TelAF.TimeService
