import TelAF.TimePriority
import Mathlib.Data.List.InsertIdx

/-!
# The validity of the RTC

The service keeps the validity of the RTC in memory and in secure storage; the RTC keeps the value
that was last written. What they hold is looked at apart from the choice of the sources: a view of
the state with the validity of each value, and the steps of the service on that view.
-/

namespace TelAF.TimeService

/-- What the validity of the RTC depends on. A value stands for the validity of the system time it
was requested from. -/
structure RtcView where
  systemValid : Bool
  systemIsRtc : Bool
  ram : Bool
  synced : Bool
  stored : Option Bool
  rtc : Option Bool
  requests : List Bool
  /-- Of each response, the value and whether it was written. -/
  responses : List (Bool × Bool)
  async : Bool
  configured : Bool
  found : Option Bool
  written : Bool

def TimeSource.isRtc : TimeSource → Bool
  | .rtc => true
  | _ => false

variable {id : TimeSource}

theorem TimeSource.isRtc_iff : id.isRtc = true ↔ id = .rtc := by
  cases id
  all_goals simp [isRtc]

def State.view (s : State) : RtcView where
  systemValid := s.latest.sourceValidity
  systemIsRtc := s.systemSourceId.isRtc
  ram := (s.info .rtc).sourceValidity
  synced := (s.info .rtc).isSyncedWithStorage
  stored := s.device.stored
  rtc := s.device.rtc.map Request.validity
  requests := s.requests.map Request.validity
  responses := s.responses.map fun p => (p.request.validity, decide (p.status = .ok))
  async := s.vhal.setRtcTimeReqAsync
  configured := (s.conf .rtc).isSome
  found := s.rtcFound
  written := s.rtcWritten

namespace RtcView

/-- The RTC takes over the validity of the system time, which is stored where it was not. -/
def Adopts (v v' : RtcView) : Prop :=
  v' = { v with ram := v.systemValid } ∨
    v.synced = false ∧
      v' = { v with ram := v.systemValid, stored := some v.systemValid, synced := true }

/-- The RTC is to be set: it is asked to, or it was set and takes over the validity. -/
def Sets (v v' : RtcView) : Prop :=
  v' = v ∨ v.configured = true ∧
    (v.async = true ∧ v' = { v with requests := v.requests ++ [v.systemValid] } ∨
      v.async = false ∧ { v with rtc := some v.systemValid, written := true }.Adopts v')

/-- The RTC is to be set, or it was found near enough to take over the validity. -/
def SetsOrAdopts (v v' : RtcView) : Prop :=
  v.Sets v' ∨ v.configured = true ∧ { v with found := some v.systemValid }.Adopts v'

/-- The validity of the RTC is no longer what is stored. -/
def unsynced (v : RtcView) : RtcView :=
  if v.systemValid ≠ v.ram then { v with synced := false } else v

/-- What the handler does once there is something new: an invalid time is stored first. -/
def Trusts (v v' : RtcView) : Prop :=
  (v.systemValid = true ∨ v.unsynced.synced = true) ∧ v.unsynced.SetsOrAdopts v' ∨
    v.systemValid = false ∧ v.unsynced.synced = false ∧
      (v' = v.unsynced ∨ { v.unsynced with stored := some false, synced := true }.SetsOrAdopts v')

/-- The system time was set from the RTC, whose validity it has. -/
def fromRtc (v : RtcView) : RtcView := { v with systemIsRtc := true, systemValid := v.ram }

/-- The system time was set from another source. -/
def fromOther (v : RtcView) (validity : Bool) : RtcView :=
  { v with systemIsRtc := false, systemValid := validity }

inductive SystemSet (v : RtcView) : RtcView → Prop where
  | rtc : SystemSet v v.fromRtc
  | other (validity : Bool) : SystemSet v (v.fromOther validity)
  | trusts (validity : Bool) {v' : RtcView} (configured : v.configured = true)
      (trusts : (v.fromOther validity).Trusts v') : SystemSet v v'

def readsStored (v : RtcView) (validity : Bool) : RtcView :=
  { v with ram := validity, synced := true }

def performs (v : RtcView) (n : Nat) (x ok : Bool) : RtcView :=
  { v with
    requests := v.requests.eraseIdx n
    responses := v.responses ++ [(x, ok)]
    rtc := if ok then some x else v.rtc
    written := ok }

/-- What an event other than a response and a reboot does, where it may read the stored validity. -/
inductive Moves (reads : Bool) (v : RtcView) : RtcView → Prop where
  | stays : Moves reads v v
  | systemSet {v' : RtcView} (set : v.SystemSet v') : Moves reads v v'
  | performs (n : Nat) (x ok : Bool) (request : v.requests[n]? = some x) :
      Moves reads v (v.performs n x ok)
  | readsStored (may : reads = true) (validity : Bool) (stored : v.stored = some validity) :
      Moves reads v (v.readsStored validity)
  | syncs (may : reads = true) (validity : Bool) (stored : v.stored = some validity) :
      Moves reads v { v.readsStored validity with
        systemValid := if v.systemIsRtc then validity else v.systemValid }
  | trusts {v' : RtcView} (configured : v.configured = true) (trusts : v.Trusts v') : Moves reads v v'

/-- A response is taken; where the write succeeded the RTC takes over the validity of the system
time. -/
inductive Answers (v : RtcView) : RtcView → Prop where
  | none (responses : v.responses = []) : Answers v v
  | failed (x : Bool) (rest : List (Bool × Bool)) (responses : v.responses = (x, false) :: rest) :
      Answers v { v with responses := rest }
  | written (x : Bool) (rest : List (Bool × Bool)) (responses : v.responses = (x, true) :: rest)
      {v' : RtcView} (adopts : v.configured = true → { v with responses := rest }.Adopts v') :
      Answers v v'

end RtcView

namespace State

variable (s : State)

theorem isSecStorageConnected_view (r : StorageReplies) :
    (s.isSecStorageConnected r).2.view = s.view := by
  unfold isSecStorageConnected
  split
  all_goals rfl

theorem writeValidtyToSecStorage_view (r : StorageReplies) (newvalidity : Bool) :
    (s.writeValidtyToSecStorage r newvalidity).1 = .ok ∧
        (s.writeValidtyToSecStorage r newvalidity).2.view = { s.view with stored := some newvalidity } ∨
      (s.writeValidtyToSecStorage r newvalidity).1 ≠ .ok ∧
        (s.writeValidtyToSecStorage r newvalidity).2.view = s.view := by
  unfold writeValidtyToSecStorage
  split
  · exact Or.inr ⟨nofun, rfl⟩
  split
  · exact Or.inr ⟨nofun, rfl⟩
  split
  next h => exact Or.inr ⟨h, rfl⟩
  split
  next h => exact Or.inr ⟨h, rfl⟩
  split
  next h => exact Or.inr ⟨h, rfl⟩
  exact Or.inl ⟨rfl, rfl⟩

theorem syncValidityToMSS_view (r : StorageReplies) :
    (s.syncValidityToMSS r).1 = .ok ∧
        (s.syncValidityToMSS r).2.view =
          { s.view with stored := some s.view.systemValid, synced := true } ∨
      (s.syncValidityToMSS r).1 ≠ .ok ∧ (s.syncValidityToMSS r).2.view = s.view := by
  have hconn := s.isSecStorageConnected_view r
  have hval : (s.isSecStorageConnected r).2.latest.sourceValidity = s.view.systemValid :=
    congrArg RtcView.systemValid hconn
  unfold syncValidityToMSS
  simp only
  split
  · exact Or.inr ⟨by simp, hconn⟩
  rcases (s.isSecStorageConnected r).2.writeValidtyToSecStorage_view r
    (s.isSecStorageConnected r).2.latest.sourceValidity with ⟨hok, hview⟩ | ⟨hfail, hview⟩
  · refine Or.inl ?_
    simp only [hok, ne_eq, not_true_eq_false, if_false]
    refine ⟨trivial, ?_⟩
    have hsynd : ∀ t : State,
        (t.setInfo .rtc { t.info .rtc with isSyncedWithStorage := true }).view =
          { t.view with synced := true } := by
      intro t
      simp [view, setInfo, conf]
    rw [hsynd, hview, hconn, hval]
  · refine Or.inr ?_
    simp only [hfail, ne_eq, not_false_eq_true]
    exact ⟨by simp, hview.trans hconn⟩

/-- Taking over its own validity leaves the system time as it is. -/
theorem syncRtcInRam_view :
    (s.syncValidityInRam .rtc s.latest.sourceValidity).view = { s.view with ram := s.view.systemValid } := by
  unfold syncValidityInRam
  simp only
  split
  all_goals rfl

theorem validityHandler_view (r : StorageReplies) (hconf : s.view.configured = true) :
    s.view.Adopts (s.setRtcTrustTimeValidityHandler r .ok).view := by
  have hsome : (s.conf .rtc).isNone = false := by simpa [view] using hconf
  unfold setRtcTrustTimeValidityHandler
  simp only [ne_eq, not_true_eq_false, if_false, hsome, Bool.false_eq_true]
  have hram := s.syncRtcInRam_view
  split
  · exact Or.inl hram
  next hsynd =>
    have hnot : s.view.synced = false := by
      have hsame := congrArg RtcView.synced hram
      rw [← hsame]
      simpa [view] using hsynd
    rcases (s.syncValidityInRam .rtc s.latest.sourceValidity).syncValidityToMSS_view r with
      ⟨_, hview⟩ | ⟨_, hview⟩
    · refine Or.inr ⟨hnot, ?_⟩
      rw [hview, hram]
    · exact Or.inl (hview.trans hram)

theorem validityHandler_failed (r : StorageReplies) {response : Result}
    (h : response ≠ .ok) : s.setRtcTrustTimeValidityHandler r response = s := by
  simp [setRtcTrustTimeValidityHandler, h]

theorem rtcVhalInt_configured (h : s.rtcVhalInt = true) : s.view.configured = true := by
  simp only [rtcVhalInt, Bool.and_eq_true] at h
  exact h.1.1

theorem setTimeToRtc_view (r : Replies) (timeVal : TimeSpec) :
    s.view.Sets (s.setTimeToRtc r timeVal).2.view := by
  unfold setTimeToRtc
  split
  · exact Or.inl rfl
  next hvhal =>
  have hconf := s.rtcVhalInt_configured (by simpa using hvhal)
  split
  next hasyn =>
    split
    · exact Or.inl rfl
    split
    · refine Or.inr ⟨hconf, Or.inl ⟨hasyn, ?_⟩⟩
      simp [view, conf]
    · exact Or.inl rfl
  next hasyn =>
    have hno : s.view.async = false := by simpa [view] using hasyn
    split
    · by_cases hok : r.setRtcTime = .ok
      · simp only [hok]
        refine Or.inr ⟨hconf, Or.inr ⟨hno, ?_⟩⟩
        exact validityHandler_view _ r.storage hconf
      · simp only [hok, if_false]
        rw [validityHandler_failed s r.storage hok]
        exact Or.inl rfl
    · exact Or.inl rfl

theorem setTimeOrValidity_view (r : Replies) (systemTime bootTime : TimeSpec)
    (hconf : s.view.configured = true) :
    s.view.SetsOrAdopts (s.setTimeOrValidity r systemTime bootTime).view := by
  unfold setTimeOrValidity
  split
  · exact Or.inl (s.setTimeToRtc_view r systemTime)
  · exact Or.inr ⟨hconf, validityHandler_view _ r.storage hconf⟩

theorem markUnsynced_view : s.markUnsynced.view = s.view.unsynced := by
  unfold markUnsynced RtcView.unsynced
  by_cases h : s.latest.sourceValidity ≠ (s.info .rtc).sourceValidity
  · have h' : s.view.systemValid ≠ s.view.ram := h
    rw [if_pos h, if_pos h']
    simp [view, setInfo, conf]
  · have h' : ¬ s.view.systemValid ≠ s.view.ram := h
    rw [if_neg h, if_neg h']

theorem trustTimeUpdate_view (r : Replies) :
    (s.rtcTrustTimeUpdateHandler r).view = s.view ∨
      s.view.configured = true ∧ s.view.Trusts (s.rtcTrustTimeUpdateHandler r).view := by
  unfold rtcTrustTimeUpdateHandler
  split
  · exact Or.inl rfl
  next hsome =>
  have hconf : s.view.configured = true := by
    cases hrtc : s.conf .rtc with
    | none => simp [hrtc] at hsome
    | some c => simp [view, hrtc]
  split
  next systemTime bootTime _ _ =>
    split
    · exact Or.inl rfl
    refine Or.inr ⟨hconf, ?_⟩
    have hmark := s.markUnsynced_view
    have hmrk : s.markUnsynced.view.configured = true := by
      rw [hmark]
      unfold RtcView.unsynced
      split
      all_goals exact hconf
    have hval : s.markUnsynced.latest.sourceValidity = s.view.systemValid := by
      change s.markUnsynced.view.systemValid = _
      rw [hmark]
      unfold RtcView.unsynced
      split
      all_goals rfl
    have hsynd : (s.markUnsynced.info .rtc).isSyncedWithStorage = s.view.unsynced.synced :=
      congrArg RtcView.synced hmark
    simp only [hval, hsynd]
    split
    next htrue =>
      refine Or.inl ⟨Or.inl htrue, ?_⟩
      rw [← hmark]
      exact setTimeOrValidity_view _ r systemTime bootTime hmrk
    next hfalse =>
    have hinv : s.view.systemValid = false := by simpa using hfalse
    split
    next hstill =>
      refine Or.inl ⟨Or.inr hstill, ?_⟩
      rw [← hmark]
      exact setTimeOrValidity_view _ r systemTime bootTime hmrk
    next hnot =>
      refine Or.inr ⟨hinv, by simpa using hnot, ?_⟩
      have hview : s.markUnsynced.view.systemValid = false := hval.trans hinv
      rcases s.markUnsynced.syncValidityToMSS_view r.storage with ⟨hok, hstd⟩ | ⟨hfail, hsame⟩
      · simp only [hok]
        refine Or.inr ?_
        rw [hview, hmark] at hstd
        rw [← hstd]
        refine setTimeOrValidity_view _ r systemTime bootTime ?_
        rw [hstd]
        rw [hmark] at hmrk
        exact hmrk
      · simp only [hfail]
        exact Or.inl (hsame.trans hmark)
  exact Or.inl rfl

theorem conf_countDown_rtc (id : TimeSource) (l : List Source) :
    ((countDown id l).find? fun c => c.sourceName = .rtc).isSome =
      (l.find? fun c => c.sourceName = .rtc).isSome := by
  rw [find_countDown]
  cases l.find? fun c => c.sourceName = .rtc
  all_goals rfl

theorem setSystemTime_view (r : Replies) (timeVal : TimeSpec) (id : TimeSource) :
    (s.setSystemTime r timeVal id).1 = .ok ∧
        (s.setSystemTime r timeVal id).2.view = { s.view with systemIsRtc := id.isRtc } ∧
        (s.setSystemTime r timeVal id).2.systemSourceId = id ∨
      (s.setSystemTime r timeVal id).1 ≠ .ok ∧
        (s.setSystemTime r timeVal id).2.view = s.view := by
  unfold setSystemTime
  rcases hconf : s.conf id with _ | c
  · exact Or.inr ⟨nofun, rfl⟩
  have hfnd := conf_countDown_rtc id s.source
  by_cases hset : s.setRealTime r timeVal id = .ok
  · simp only [hset, if_true]
    refine Or.inl ⟨trivial, ?_, rfl⟩
    split
    all_goals
      simp only [view, updateSystemTimeRefInfo, conf]
      rw [hfnd]
  · simp only [hset]
    exact Or.inr ⟨hset, rfl⟩

theorem syncOtherInRam_view (hid : id ≠ .rtc) (hsys : s.systemSourceId = id) (validity : Bool) :
    (s.syncValidityInRam id validity).view = { s.view with systemValid := validity } := by
  have hne : ¬ TimeSource.rtc = id := fun heq => hid heq.symm
  unfold syncValidityInRam
  simp only
  split
  · simp only [view, setInfo, hne, if_false, conf]
  next hnot => exact absurd hsys hnot

theorem setInfo_other_view (hid : id ≠ .rtc) (inf : SourceInf) :
    (s.setInfo id inf).view = s.view := by
  have hne : ¬ TimeSource.rtc = id := fun heq => hid heq.symm
  simp only [view, setInfo, hne, if_false, conf]

/-- Setting the system time, with the validity kept for the RTC where it is the source. -/
theorem updateTime_view (r : Replies) (id : TimeSource) (timeVal : TimeSpec)
    (validity external : Bool)
    (hrtc : id = .rtc → validity = (s.info .rtc).sourceValidity ∧ external = false) :
    (s.updateTimeAndValidity r id timeVal validity external).1 = .ok ∧
        s.view.SystemSet (s.updateTimeAndValidity r id timeVal validity external).2.view ∨
      (s.updateTimeAndValidity r id timeVal validity external).1 ≠ .ok ∧
        (s.updateTimeAndValidity r id timeVal validity external).2.view = s.view := by
  unfold updateTimeAndValidity
  rcases s.setSystemTime_view r timeVal id with ⟨hok, hview, hsys⟩ | ⟨hfail, hview⟩
  swap
  · refine Or.inr ?_
    simp only [hfail, ne_eq, not_false_eq_true, if_true]
    exact ⟨trivial, hview⟩
  refine Or.inl ?_
  simp only [hok, ne_eq, not_true_eq_false, if_false]
  refine ⟨trivial, ?_⟩
  generalize (s.setSystemTime r timeVal id).2 = t at hview hsys ⊢
  by_cases hid : id = .rtc
  · obtain ⟨rfl, rfl⟩ := hrtc hid
    subst hid
    have hram : (s.info .rtc).sourceValidity = (t.info .rtc).sourceValidity :=
      (congrArg RtcView.ram hview).symm
    simp only [Bool.false_eq_true, if_false, not_true_eq_false, false_and]
    have hset : (t.syncValidityInRam .rtc (s.info .rtc).sourceValidity).view = s.view.fromRtc := by
      have hself : (t.syncValidityInRam .rtc (t.info .rtc).sourceValidity).view =
          { t.view with systemValid := t.view.ram } := by
        unfold syncValidityInRam
        simp only
        split
        · rfl
        next hnot => exact absurd hsys hnot
      rw [hram, hself, hview]
      rfl
    rw [hset]
    exact .rtc
  have hset : (t.syncValidityInRam id validity).view = s.view.fromOther validity := by
    have hoth : id.isRtc = false := by
      rw [Bool.eq_false_iff, ne_eq, TimeSource.isRtc_iff]
      exact hid
    rw [t.syncOtherInRam_view hid hsys, hview, hoth]
    rfl
  have hinfo : (if external = true then
      (t.syncValidityInRam id validity).setInfo id
        { (t.syncValidityInRam id validity).info id with isSyncedWithSetCmd := true }
      else t.syncValidityInRam id validity).view = s.view.fromOther validity := by
    split
    · rw [setInfo_other_view _ hid, hset]
    · exact hset
  generalize (if external = true then
      (t.syncValidityInRam id validity).setInfo id
        { (t.syncValidityInRam id validity).info id with isSyncedWithSetCmd := true }
      else t.syncValidityInRam id validity) = u at hinfo ⊢
  split
  · rcases u.trustTimeUpdate_view r with hsame | ⟨hconf, htrs⟩
    · rw [hsame, hinfo]
      exact .other validity
    · rw [hinfo] at hconf htrs
      exact .trusts validity hconf htrs
  · rw [hinfo]
    exact .other validity

theorem updateSystemTime_view (r : Replies) (timeVal : TimeSpec) (id : TimeSource) :
    (s.updateSystemTime r timeVal id).1 = .ok ∧
        s.view.SystemSet (s.updateSystemTime r timeVal id).2.view ∨
      (s.updateSystemTime r timeVal id).1 ≠ .ok ∧
        (s.updateSystemTime r timeVal id).2.view = s.view := by
  unfold updateSystemTime
  split
  · exact Or.inr ⟨nofun, rfl⟩
  refine s.updateTime_view r id timeVal _ false ?_
  rintro rfl
  exact ⟨rfl, rfl⟩

variable {reads : Bool}

theorem setTrustTime_view (r : Replies) (sourceRef : Option TimeSource) (timeVal : TimeSpec)
    (validity : Bool) (permission : Result) :
    s.view.Moves reads (s.setTrustTime r sourceRef timeVal validity permission).2.view := by
  unfold setTrustTime
  rcases sourceRef with _ | id
  · exact .stays
  simp only
  split
  · exact .stays
  next hid =>
  split
  · exact .stays
  split
  · exact .stays
  split
  · exact .stays
  have hoth : id = .rtc → validity = (s.info .rtc).sourceValidity ∧ true = false := by
    rintro rfl
    exact absurd nofun hid
  rcases s.updateTime_view r id timeVal validity true hoth with ⟨_, hset⟩ | ⟨_, hsame⟩
  · exact .systemSet hset
  · rw [hsame]
    exact .stays

theorem checkSourceTime_view (r : Replies) (id : TimeSource) :
    (s.checkSourceTime r id).2.view = s.view := by
  have hrtc : (s.getRtcTime r).2.view = s.view := by
    unfold getRtcTime
    split_ifs
    all_goals rfl
  have hexAp : s.getExSetTimeStatus.2.view = s.view := by
    unfold getExSetTimeStatus
    split
    all_goals rfl
  cases id with
  | rtc => exact hrtc
  | exApp => exact hexAp
  | gnss | network | network2 | system | unknown => rfl

/-- Once the time is set, the rest of a round leaves the view alone. -/
theorem checkAndSet_after_view (r : Replies) (id : TimeSource) :
    (s.checkAndSet r id true).2.view = s.view := by
  have hchec := s.checkSourceTime_view r id
  unfold checkAndSet
  simp only [Bool.not_true, Bool.false_and, Bool.false_eq_true, if_false]
  split_ifs
  all_goals exact hchec

theorem checkAndSet_view (r : Replies) (id : TimeSource) :
    (s.checkAndSet r id false).1 = true ∧ s.view.SystemSet (s.checkAndSet r id false).2.view ∨
      (s.checkAndSet r id false).1 = false ∧ (s.checkAndSet r id false).2.view = s.view := by
  have hchec := s.checkSourceTime_view r id
  unfold checkAndSet
  simp only [Bool.not_false]
  split
  · exact Or.inr ⟨rfl, hchec⟩
  next htime =>
  split
  next hid =>
    subst hid
    exact absurd (Or.inr rfl) htime
  next hid =>
    split
    · rcases (s.checkSourceTime r id).2.updateSystemTime_view r (s.checkSourceTime r id).1.2 id with
        ⟨hok, hset⟩ | ⟨hfail, hsame⟩
      · rw [hchec] at hset
        exact Or.inl ⟨by simpa using hok, hset⟩
      · exact Or.inr ⟨by simpa using hfail, hsame.trans hchec⟩
    · exact Or.inr ⟨rfl, hchec⟩

section

variable (replies : Nat → Replies)
include replies

theorem setTimeLoop_after_view (l : List Source) :
    (setTimeLoop replies s true l).2.view = s.view := by
  induction l generalizing s replies with
  | nil => rfl
  | cons c rest ih =>
    have hstat := (s.checkAndSet_after (replies 0) c.sourceName).1
    simp only [setTimeLoop, hstat]
    exact (ih _ _).trans (s.checkAndSet_after_view (replies 0) c.sourceName)

theorem setTimeLoop_view (l : List Source) :
    s.view.Moves reads (setTimeLoop replies s false l).2.view := by
  induction l generalizing s replies with
  | nil => exact .stays
  | cons c rest ih =>
    rcases s.checkAndSet_view (replies 0) c.sourceName with ⟨hstat, hset⟩ | ⟨hstat, hsame⟩
    · simp only [setTimeLoop, hstat]
      rw [setTimeLoop_after_view]
      exact .systemSet hset
    · simp only [setTimeLoop, hstat]
      rw [← hsame]
      exact ih _ _

theorem setTimeBaseOnConfig_view : s.view.Moves reads (s.setTimeBaseOnConfig replies).view := by
  have hloop : s.view.Moves reads (setTimeLoop replies s false s.source).2.view :=
    s.setTimeLoop_view replies s.source
  unfold setTimeBaseOnConfig
  split
  · exact .stays
  simp only
  split
  · exact hloop
  split
  all_goals exact hloop

end

theorem updateCache_view (newTime : TimeSpec) (id : TimeSource) (bootTime : Option TimeSpec) :
    (s.updateLocalTimeCache newTime id bootTime).view = s.view := by
  unfold updateLocalTimeCache
  split
  · simp only
    split_ifs
    all_goals rfl
  · rfl

theorem sourceValidityUpdate_view (validity : Bool) (hid : id ≠ .rtc) :
    (s.sourceValidityUpdate validity id).view = s.view := by
  unfold sourceValidityUpdate
  split
  · rfl
  · exact s.setInfo_other_view hid _

theorem gnssUtcTimeUpdate_view (utc : Nat) (bootTime : Option TimeSpec) :
    (s.gnssUtcTimeUpdate utc bootTime).view = s.view := by
  unfold gnssUtcTimeUpdate
  split
  · have hid : TimeSource.gnss ≠ .rtc := nofun
    rw [sourceValidityUpdate_view _ _ hid, updateCache_view]
  · rfl

theorem networkUpdate_view (second : Bool) (error : Result)
    (converted bootTime : Option TimeSpec) :
    (s.networkTimeResponseUpdate second error converted bootTime).view = s.view := by
  have hid : (if second then TimeSource.network2 else .network) ≠ .rtc := by
    split
    all_goals nofun
  unfold networkTimeResponseUpdate
  simp only
  split
  · rfl
  cases converted with
  | none => rfl
  | some timeVal => rw [sourceValidityUpdate_view _ _ hid, updateCache_view]

theorem networkTimeChange_view (second : Bool) (converted bootTime : Option TimeSpec) :
    (s.networkTimeChange second converted bootTime).view = s.view := by
  cases converted with
  | none => rfl
  | some timeVal => exact s.updateCache_view timeVal _ bootTime

theorem getRtcTimeResp_view (r : Replies) (rtcTime : TimeSpec) (response : Result) :
    s.view.Moves reads (s.getRtcTimeResp r rtcTime response).view := by
  unfold getRtcTimeResp
  simp only
  split
  · exact .stays
  have hcach :
      (({ s with rtcDeltaMsec := rtcTime.deltaBootTime r.bootTime } : State).updateLocalTimeCache
      rtcTime .rtc r.bootTime).view = s.view := updateCache_view _ rtcTime .rtc r.bootTime
  generalize ({ s with rtcDeltaMsec := rtcTime.deltaBootTime r.bootTime } : State).updateLocalTimeCache
    rtcTime .rtc r.bootTime = u at hcach ⊢
  have hfst : ({ u with initFlag := false } : State).view = s.view := hcach
  split
  · split
    · rcases ({ u with initFlag := false } : State).updateSystemTime_view r rtcTime .rtc with
        ⟨_, hset⟩ | ⟨_, hsame⟩
      · rw [hfst] at hset
        exact .systemSet hset
      · rw [hsame, hfst]
        exact .stays
    · rw [hfst]
      exact .stays
  · rw [hcach]
    exact .stays

theorem rtcPerforms_view (n : Nat) (status : Result) :
    s.view.Moves reads (s.rtcPerforms n status).view := by
  unfold rtcPerforms
  rcases hget : s.requests[n]? with _ | request
  · exact .stays
  have hreq : s.view.requests[n]? = some request.validity := by simp [view, hget]
  have hview : ({ s with
      requests := s.requests.eraseIdx n
      responses := s.responses ++ [⟨request, status⟩]
      device := if status = .ok then { s.device with rtc := some request } else s.device
      rtcWritten := decide (status = .ok) } : State).view =
      s.view.performs n request.validity (decide (status = .ok)) := by
    have heras : (s.requests.eraseIdx n).map Request.validity =
        (s.requests.map Request.validity).eraseIdx n := (List.eraseIdx_map _ _ _).symm
    by_cases hok : status = .ok
    all_goals simp [view, RtcView.performs, hok, heras, conf]
  simp only
  rw [hview]
  exact .performs n request.validity (decide (status = .ok)) hreq

theorem rtcSetResponse_view (r : StorageReplies) : s.view.Answers (s.rtcSetResponse r).view := by
  unfold rtcSetResponse
  rcases hlist : s.responses with _ | ⟨p, rest⟩
  · exact .none (by simp [view, hlist])
  have hview : ({ s with responses := rest } : State).view =
      { s.view with responses := rest.map fun p => (p.request.validity, decide (p.status = .ok)) } := rfl
  by_cases hok : p.status = .ok
  · refine .written p.request.validity
      (rest.map fun p => (p.request.validity, decide (p.status = .ok)))
      (by simp [view, hlist, hok]) ?_
    intro hconf
    simp only [hok]
    exact validityHandler_view _ r hconf
  · simp only
    rw [validityHandler_failed _ r hok]
    exact .failed p.request.validity _ (by simp [view, hlist, hok])

theorem readValidity_stored {r : StorageReplies} {validity : Bool}
    (h : s.readValidityFromSecStorage r = some validity) : s.view.stored = some validity := by
  unfold readValidityFromSecStorage at h
  split at h
  · rcases hstd : s.device.stored with _ | b
    · simp [hstd] at h
    simp only [hstd] at h
    split at h
    · exact hstd.trans h
    · simp at h
  · simp at h

theorem syncRtcTrustInfoWithMSS_view (r : Replies) :
    s.view.Moves true (s.syncRtcTrustInfoWithMSS r).view := by
  have hconn := s.isSecStorageConnected_view r.storage
  unfold syncRtcTrustInfoWithMSS
  simp only
  generalize (s.isSecStorageConnected r.storage).1 = connected
  generalize (s.isSecStorageConnected r.storage).2 = u at hconn ⊢
  split
  · exact .stays
  rw [← hconn]
  split
  · exact .stays
  split
  · exact .stays
  rcases hread : u.readValidityFromSecStorage r.storage with _ | validity
  · exact .stays
  have hstd := u.readValidity_stored hread
  simp only
  split
  · have hview : ((u.syncValidityInRam .rtc validity).setInfo .rtc
        { (u.syncValidityInRam .rtc validity).info .rtc with isSyncedWithStorage := true }).view =
        { u.view.readsStored validity with
          systemValid := if u.view.systemIsRtc then validity else u.view.systemValid } := by
      by_cases hsys : u.systemSourceId = .rtc
      · have hrtc : u.view.systemIsRtc = true := TimeSource.isRtc_iff.2 hsys
        unfold syncValidityInRam
        simp only
        split
        · rfl
        next hnot => exact absurd hsys hnot
      have hrtc : u.view.systemIsRtc = false := by
        rw [Bool.eq_false_iff]
        exact fun h => hsys (TimeSource.isRtc_iff.1 h)
      rw [hrtc]
      unfold syncValidityInRam
      simp only
      split
      next hrtc' => exact absurd hrtc' hsys
      rfl
    rw [hview]
    exact .syncs rfl validity hstd
  · rcases u.trustTimeUpdate_view r with hsame | ⟨hconf, htrs⟩
    · rw [hsame]
      exact .stays
    · exact .trusts hconf htrs

theorem isSourceValid_view (r : StorageReplies) (id : TimeSource) :
    s.view.Moves true (s.isSourceValid r id).2.view := by
  have hconn := s.isSecStorageConnected_view r
  unfold isSourceValid
  simp only
  generalize (s.isSecStorageConnected r).1 = connected
  generalize (s.isSecStorageConnected r).2 = u at hconn ⊢
  split
  · exact .stays
  rw [← hconn]
  split
  · exact .stays
  cases hread : u.readValidityFromSecStorage r with
  | none => exact .stays
  | some validity => exact .readsStored rfl validity (u.readValidity_stored hread)

end State

def Event.answers : Event → Bool
  | .rtcSetResponse _ => true
  | _ => false

/-- The events that read the stored validity. -/
def Event.reads : Event → Bool
  | .syncRtcTrustInfo _ | .isSourceValid .. => true
  | _ => false

def RtcView.begin (v : RtcView) : RtcView := { v with found := none, written := false }

theorem State.step_answers (s : State) (r : StorageReplies) :
    s.view.begin.Answers (s.step (.rtcSetResponse r)).view :=
  s.begin.rtcSetResponse_view r

theorem State.step_moves (s : State) {e : Event} (hans : e.answers = false)
    (hrbt : e.reboots = false) : s.view.begin.Moves e.reads (s.step e).view := by
  have hsame : ∀ {reads : Bool} {t : State}, t.view = s.view.begin →
      s.view.begin.Moves reads t.view := by
    intro reads t ht
    rw [ht]
    exact .stays
  cases e with
  | poll replies => exact s.begin.setTimeBaseOnConfig_view replies
  | setTrustTime r sourceRef timeVal validity permission =>
    exact s.begin.setTrustTime_view r sourceRef timeVal validity permission
  | gnssUtcTime utc bootTime => exact hsame (s.begin.gnssUtcTimeUpdate_view utc bootTime)
  | networkTimeResponse second error converted bootTime =>
    exact hsame (s.begin.networkUpdate_view second error converted bootTime)
  | networkTimeChange second converted bootTime =>
    exact hsame (s.begin.networkTimeChange_view second converted bootTime)
  | getRtcTimeResp r rtcTime response => exact s.begin.getRtcTimeResp_view r rtcTime response
  | rtcPerforms n status => exact s.begin.rtcPerforms_view n status
  | rtcSetResponse r => simp [Event.answers] at hans
  | syncRtcTrustInfo r => exact s.begin.syncRtcTrustInfoWithMSS_view r
  | isSourceValid r id => exact s.begin.isSourceValid_view r id
  | mssDisconnect => exact .stays
  | reboot => simp [Event.reboots] at hrbt

end TelAF.TimeService
