import TelAF.RtcTrust

/-!
# What a stored validity says

A value of the RTC is to be trusted if it was requested from a valid system time, or was since found
near one. As long as the responses to its writes come in their turn, the validity in secure storage,
the one in memory and that of a system time taken from the RTC are only true of such a value.
-/

namespace TelAF.TimeService

open TransitionRuns List Option

namespace RtcView

/-- The RTC was found near a valid time since it was last written, as known before the step. -/
def vouchedNow (vouched : Bool) (v : RtcView) : Bool :=
  if v.found = some true then true else if v.written then false else vouched

/-- The RTC holds a value from an invalid system time. -/
def Untrusted (vouched : Bool) (v : RtcView) : Prop :=
  v.vouchedNow vouched = false ∧ v.rtc = some false

/-- A write from an invalid system time has succeeded, and its response is still to be taken. -/
def InvalidAnswered (v : RtcView) : Prop := (false, true) ∈ v.responses

/-- No write from an invalid system time is unanswered. -/
def NoInvalid (v : RtcView) : Prop := false ∉ v.requests ∧ ¬ v.InvalidAnswered

structure Sound (vouched writtenBefore : Bool) (v : RtcView) : Prop where
  stored : v.stored = some true → ¬ v.Untrusted vouched
  synced : v.ram = false → v.synced = true → v.stored ≠ some true
  requested : false ∈ v.requests → v.stored ≠ some true
  answered : v.InvalidAnswered → v.stored ≠ some true
  /-- The RTC holds the value of the last response that is still to be taken. -/
  last : ∀ p, (v.responses.filter fun p => p.2).getLast? = some p → v.rtc = some p.1
  ram : v.ram = true → v.Untrusted vouched → v.InvalidAnswered
  system : v.systemIsRtc = true → v.systemValid = true →
    v.Untrusted vouched → v.InvalidAnswered
  boot : writtenBefore = false → v.written = false → ∀ p ∈ v.responses, p.2 = false
  async : v.async = false → v.requests = [] ∧ v.responses = []
  configured : v.requests ≠ [] ∨ v.responses ≠ [] → v.configured = true

namespace Sound

variable {vouched writtenBefore : Bool} {v v' : RtcView}
variable (h : v.Sound vouched writtenBefore)
include h

theorem adopts_valid (hval : v.systemValid = true)
    (htrst : ¬ v.Untrusted vouched) (hclr : v.NoInvalid) (hadop : v.Adopts v') :
    v'.Sound vouched writtenBefore := by
  obtain ⟨hreqs, hresps⟩ := hclr
  rcases hadop with rfl | ⟨_, rfl⟩
  · exact
      { h with
        synced := fun hram => by simp [hval] at hram
        ram := fun _ hbad => absurd hbad htrst }
  exact
    { h with
      stored := fun _ => htrst
      synced := fun hram => by simp [hval] at hram
      requested := fun hmem => absurd hmem hreqs
      answered := fun hmem => absurd hmem hresps
      ram := fun _ hbad => absurd hbad htrst }

/-- The RTC takes over the validity of an invalid system time, which is not stored as valid. -/
theorem adopts_invalid (hinv : v.systemValid = false)
    (hstd : v.stored ≠ some true) (hadop : v.Adopts v') : v'.Sound vouched writtenBefore := by
  rcases hadop with rfl | ⟨_, rfl⟩
  · exact
      { h with
        synced := fun _ _ => hstd
        ram := fun hram => by simp [hinv] at hram }
  have hfal : some v.systemValid ≠ some true := by simp [hinv]
  exact
    { h with
      stored := fun hs => absurd hs hfal
      synced := fun _ _ => hfal
      requested := fun _ => hfal
      answered := fun _ => hfal
      ram := fun hram => by simp [hinv] at hram }

theorem unsynced : v.unsynced.Sound vouched writtenBefore := by
  unfold RtcView.unsynced
  split
  · exact
      { h with
        synced := fun _ hsynd => nomatch hsynd }
  · exact h

/-- A request to set the RTC; an invalid time is not stored as valid then. -/
theorem requests (hconf : v.configured = true)
    (hasyn : v.async = true) (hstd : v.systemValid = false → v.stored ≠ some true) :
    { v with requests := v.requests ++ [v.systemValid] }.Sound vouched writtenBefore where
  __ := h
  requested := by
    intro hmem
    rcases mem_append.1 hmem with hmem | hmem
    · exact h.requested hmem
    · exact hstd (mem_singleton.1 hmem).symm
  async := fun hno => by
    rw [show v.async = false from hno] at hasyn
    simp at hasyn
  configured := fun _ => hconf

theorem found (hfnd : v.found = none) (b : Bool) :
    { v with found := some b }.Sound vouched writtenBefore := by
  have hbad : { v with found := some b }.Untrusted vouched → v.Untrusted vouched := by
    rintro ⟨hvouc, hrtc⟩
    refine ⟨?_, hrtc⟩
    cases b with
    | true => simp [vouchedNow] at hvouc
    | false => simpa [vouchedNow, hfnd] using hvouc
  exact
    { h with
      stored := fun hs hu => h.stored hs (hbad hu)
      ram := fun hr hu => h.ram hr (hbad hu)
      system := fun hi hv hu => h.system hi hv (hbad hu) }

theorem writes (hasyn : v.async = false) (hstd : v.systemValid = false → v.stored ≠ some true)
    (hadop : { v with rtc := some v.systemValid, written := true }.Adopts v') :
    v'.Sound vouched writtenBefore := by
  obtain ⟨hreqs, hresps⟩ := h.async hasyn
  cases hval : v.systemValid with
  | true =>
    have htrst : ¬ { v with rtc := some v.systemValid, written := true }.Untrusted vouched := by
      simp [Untrusted, hval]
    have hsnd : { v with rtc := some v.systemValid, written := true }.Sound vouched writtenBefore :=
      { h with
        stored := fun _ => htrst
        last := by simp [hresps]
        ram := fun _ hbad => absurd hbad htrst
        system := fun _ _ hbad => absurd hbad htrst
        boot := fun _ hwrtn => nomatch hwrtn }
    refine hsnd.adopts_valid hval htrst ?_ hadop
    simp [NoInvalid, InvalidAnswered, hreqs, hresps]
  | false =>
    have hno := hstd hval
    have hfal : some v.systemValid ≠ some true := by simp [hval]
    rcases hadop with rfl | ⟨_, rfl⟩
    · exact
        { h with
          stored := fun hs => absurd hs hno
          synced := fun _ _ => hno
          last := by simp [hresps]
          ram := fun hram => by simp [hval] at hram
          system := fun _ hsys => by simp [hval] at hsys
          boot := fun _ hwrtn => nomatch hwrtn }
    exact
      { h with
        stored := fun hs => absurd hs hfal
        synced := fun _ _ => hfal
        requested := fun _ => hfal
        answered := fun _ => hfal
        last := by simp [hresps]
        ram := fun hram => by simp [hval] at hram
        system := fun _ hsys => by simp [hval] at hsys
        boot := fun _ hwrtn => nomatch hwrtn }

section

variable (hfnd : v.found = none)
include hfnd

theorem setsOrAdopts (hstd : v.systemValid = false → v.stored ≠ some true)
    (hclr : v'.found = some true → v.NoInvalid) (hsets : v.SetsOrAdopts v') :
    v'.Sound vouched writtenBefore := by
  rcases hsets with (rfl | ⟨hconf, ⟨hasyn, rfl⟩ | ⟨hasyn, hadop⟩⟩) | ⟨_, hadop⟩
  · exact h
  · exact h.requests hconf hasyn hstd
  · exact h.writes hasyn hstd hadop
  have hsnd := h.found hfnd v.systemValid
  have hfnd' : v'.found = some v.systemValid := by
    rcases hadop with rfl | ⟨_, rfl⟩
    all_goals rfl
  cases hval : v.systemValid with
  | true =>
    refine hsnd.adopts_valid hval ?_ (hclr (hfnd'.trans (congrArg some hval))) hadop
    simp [Untrusted, vouchedNow, hval]
  | false => exact hsnd.adopts_invalid hval (hstd hval) hadop

theorem trusts (hclr : v'.found = some true → v.NoInvalid) (htrs : v.Trusts v') :
    v'.Sound vouched writtenBefore := by
  have hun := h.unsynced
  have hsame : v.unsynced.found = none ∧ v.unsynced.systemValid = v.systemValid ∧
      (v.NoInvalid → v.unsynced.NoInvalid) := by
    unfold RtcView.unsynced
    split
    all_goals exact ⟨hfnd, rfl, fun hno => hno⟩
  obtain ⟨hfnd', hval', hno'⟩ := hsame
  rcases htrs with ⟨hcase, hsets⟩ | ⟨hinv, _, rfl | hsets⟩
  · refine hun.setsOrAdopts hfnd' ?_ (fun hf => hno' (hclr hf)) hsets
    intro hinv
    rw [hval'] at hinv
    -- what is still synced is the validity of the RTC, and this is the system's
    have hsynd : v.unsynced.synced = true := by
      rcases hcase with htrue | hsynd
      · rw [hinv] at htrue
        simp at htrue
      · exact hsynd
    have hram : v.ram = false := by
      by_contra hne
      have hdiff : v.systemValid ≠ v.ram := by
        rw [hinv]
        exact fun heq => hne heq.symm
      simp [RtcView.unsynced, hdiff] at hsynd
    have hagr : v.unsynced = v := by simp [RtcView.unsynced, hinv, hram]
    rw [hagr] at hsynd ⊢
    exact h.synced hram hsynd
  · exact hun
  · have hfal : (some false : Option Bool) ≠ some true := by simp
    have hsnd : { v.unsynced with stored := some false, synced := true }.Sound vouched writtenBefore :=
      { hun with
        stored := fun hs => absurd hs hfal
        synced := fun _ _ => hfal
        requested := fun _ => hfal
        answered := fun _ => hfal }
    exact hsnd.setsOrAdopts hfnd' (fun _ => hfal) (fun hf => hno' (hclr hf)) hsets

theorem systemSet (hclr : v'.found = some true → v.NoInvalid) (hset : v.SystemSet v') :
    v'.Sound vouched writtenBefore := by
  have hoth : ∀ validity, (v.fromOther validity).Sound vouched writtenBefore := fun validity =>
    { h with system := fun hrtc => nomatch hrtc }
  cases hset with
  | rtc => exact { h with system := fun _ hram => h.ram hram }
  | other validity => exact hoth validity
  | trusts validity hconf htrs => exact (hoth validity).trusts hfnd hclr htrs

theorem performs
    (hwrtn : v.written = false) {n : Nat} {x ok : Bool} (hreq : v.requests[n]? = some x) :
    (v.performs n x ok).Sound vouched writtenBefore := by
  have hmem : x ∈ v.requests := mem_of_getElem? hreq
  have hsome : v.requests ≠ [] := ne_nil_of_mem hmem
  have hbad : (v.performs n x ok).Untrusted vouched →
      ok = true ∧ x = false ∨ ok = false ∧ v.Untrusted vouched := by
    rintro ⟨hvouc, hrtc⟩
    cases ok with
    | true => exact Or.inl ⟨rfl, by simpa [RtcView.performs] using hrtc⟩
    | false =>
      refine Or.inr ⟨rfl, ?_, by simpa [RtcView.performs] using hrtc⟩
      simpa [vouchedNow, RtcView.performs, hfnd, hwrtn] using hvouc
  have hansd : (v.performs n x ok).Untrusted vouched →
      (v.Untrusted vouched → v.InvalidAnswered) →
      (v.performs n x ok).InvalidAnswered := by
    intro hu hbef
    rcases hbad hu with ⟨rfl, rfl⟩ | ⟨_, hu⟩
    · exact mem_append_right _ (mem_singleton.2 rfl)
    · exact mem_append_left _ (hbef hu)
  exact
    { h with
      stored := by
        intro hs hu
        rcases hbad hu with ⟨_, rfl⟩ | ⟨_, hu⟩
        · exact h.requested hmem hs
        · exact h.stored hs hu
      requested := fun hfal => h.requested (mem_of_mem_eraseIdx hfal)
      answered := by
        intro hinv
        rcases mem_append.1 hinv with hinv | hinv
        · exact h.answered hinv
        · obtain ⟨rfl, _⟩ := Prod.mk.inj (mem_singleton.1 hinv)
          exact h.requested hmem
      last := by
        intro p hp
        cases ok with
        | true =>
          simp only [RtcView.performs, filter_append, filter_cons_of_pos,
            filter_nil, getLast?_concat, some.injEq] at hp
          rw [← hp]
          rfl
        | false =>
          refine h.last p ?_
          simpa [RtcView.performs] using hp
      ram := fun hram hu => hansd hu (h.ram hram)
      system := fun hi hv hu => hansd hu (h.system hi hv)
      boot := by
        intro hno hok p hp
        rcases mem_append.1 hp with hp | hp
        · exact h.boot hno hwrtn p hp
        · rw [mem_singleton.1 hp]
          exact hok
      async := fun hno => absurd (h.async hno).1 hsome
      configured := fun _ => h.configured (Or.inl hsome) }

end

theorem readsStored {validity : Bool}
    (hstd : v.stored = some validity) : (v.readsStored validity).Sound vouched writtenBefore :=
  { h with
    synced := by
      intro hfal _ htrue
      rw [show validity = false from hfal] at hstd
      rw [show v.stored = some true from htrue] at hstd
      simp at hstd
    ram := by
      intro htrue hu
      rw [show validity = true from htrue] at hstd
      exact absurd hu (h.stored hstd) }

theorem syncs {validity : Bool} (hstd : v.stored = some validity) :
    { v.readsStored validity with
      systemValid :=
        if v.systemIsRtc then validity else v.systemValid }.Sound vouched writtenBefore :=
  { h.readsStored hstd with
    system := by
      intro hrtc hval hu
      rw [show v.systemIsRtc = true from hrtc] at hval
      exact (h.readsStored hstd).ram hval hu }

/-- What an event other than a response does keeps the invariant. -/
theorem moves {reads : Bool} (hfnd : v.found = none)
    (hwrtn : v.written = false) (hclr : v'.found = some true → v.NoInvalid)
    (hmove : v.Moves reads v') : v'.Sound vouched writtenBefore := by
  cases hmove with
  | stays => exact h
  | systemSet hset => exact h.systemSet hfnd hclr hset
  | performs n x ok hreq => exact h.performs hfnd hwrtn hreq
  | readsStored _ validity hstd => exact h.readsStored hstd
  | syncs _ validity hstd => exact h.syncs hstd
  | trusts _ htrs => exact h.trusts hfnd hclr htrs

theorem answers (hturn : ∀ x rest, v.responses = (x, true) :: rest →
      v.systemValid = x ∧ (v.systemValid = true → v.NoInvalid))
    (hans : v.Answers v') : v'.Sound vouched writtenBefore := by
  cases hans with
  | none => exact h
  | failed x rest hresps =>
    have hinv : v.InvalidAnswered ↔ (false, true) ∈ rest := by
      simp [InvalidAnswered, hresps]
    exact
      { h with
        answered := fun hmem => h.answered (hinv.2 hmem)
        last := by
          intro p hp
          refine h.last p ?_
          simpa [hresps] using hp
        ram := fun hram hu => hinv.1 (h.ram hram hu)
        system := fun hi hv hu => hinv.1 (h.system hi hv hu)
        boot := by
          intro hno hw p hp
          refine h.boot hno hw p ?_
          rw [hresps]
          exact mem_cons_of_mem _ hp
        async := fun hno => by simpa [hresps] using (h.async hno).2
        configured := fun hsome => h.configured (Or.inr (by simp [hresps])) }
  | written x rest hresps hadop =>
    obtain ⟨rfl, hclr⟩ := hturn x rest hresps
    have hconf : v.configured = true := h.configured (Or.inr (by simp [hresps]))
    have hrest : ∀ p ∈ rest, p ∈ v.responses := fun p hp => by
      rw [hresps]
      exact mem_cons_of_mem _ hp
    have hlast : ∀ p, (rest.filter fun p => p.2).getLast? = some p → v.rtc = some p.1 := by
      intro p hp
      refine h.last p ?_
      simp [hresps, getLast?_cons, hp]
    have hboot : writtenBefore = false → v.written = false → ∀ p ∈ rest, p.2 = false :=
      fun hno hw p hp => h.boot hno hw p (hrest p hp)
    have hnone : v.async = false → v.requests = [] ∧ rest = [] := fun hno => by
      simpa [hresps] using (h.async hno).2
    cases hval : v.systemValid with
    | true =>
      obtain ⟨hreqs, hansd⟩ := hclr hval
      have htrst : ¬ v.Untrusted vouched := by
        rintro ⟨_, hrtc⟩
        obtain ⟨p, hp⟩ : ∃ p, (v.responses.filter fun p => p.2).getLast? = some p := by
          simp [hresps, getLast?_cons]
        have hmem := mem_filter.1 (mem_of_getLast? hp)
        have hfal : p = (false, true) := by
          refine Prod.ext ?_ hmem.2
          have hsame := (h.last p hp).symm.trans hrtc
          exact some.inj hsame
        rw [hfal] at hmem
        exact hansd hmem.1
      have hsnd : { v with responses := rest }.Sound vouched writtenBefore :=
        { h with
          answered := fun hmem => h.answered (hrest _ hmem)
          last := hlast
          ram := fun _ hu => absurd hu htrst
          system := fun _ _ hu => absurd hu htrst
          boot := hboot
          async := hnone
          configured := fun _ => hconf }
      refine hsnd.adopts_valid hval htrst ⟨hreqs, ?_⟩ (hadop hconf)
      exact fun hmem => hansd (hrest _ hmem)
    | false =>
      have hno : v.stored ≠ some true := h.answered (by simp [InvalidAnswered, hresps, hval])
      have hfal : some v.systemValid ≠ some true := by simp [hval]
      rcases hadop hconf with rfl | ⟨_, rfl⟩
      · exact
          { h with
            stored := fun hs => absurd hs hno
            synced := fun _ _ => hno
            answered := fun hmem => h.answered (hrest _ hmem)
            last := hlast
            ram := fun hram => by simp [hval] at hram
            system := fun _ hsys => by simp [hval] at hsys
            boot := hboot
            async := hnone
            configured := fun _ => hconf }
      · exact
          { h with
            stored := fun hs => absurd hs hfal
            synced := fun _ _ => hfal
            requested := fun _ => hfal
            answered := fun _ => hfal
            last := hlast
            ram := fun hram => by simp [hval] at hram
            system := fun _ hsys => by simp [hval] at hsys
            boot := hboot
            async := hnone
            configured := fun _ => hconf }

/-- What is known of the RTC after a step is known before the next one. -/
theorem begin : v.begin.Sound (v.vouchedNow vouched) (writtenBefore || v.written) := by
  have hbad : v.begin.Untrusted (v.vouchedNow vouched) ↔ v.Untrusted vouched := Iff.rfl
  exact
    { h with
      stored := fun hs hu => h.stored hs (hbad.1 hu)
      ram := fun hram hu => h.ram hram (hbad.1 hu)
      system := fun hi hv hu => h.system hi hv (hbad.1 hu)
      boot := by
        intro hno _
        rw [Bool.or_eq_false_iff] at hno
        exact h.boot hno.1 hno.2 }

end Sound

end RtcView

/-- Whether the RTC was found near a valid system time since its value was last written, and whether
it was written since boot. -/
structure Trust where
  state : State
  vouched : Bool
  writtenSinceBoot : Bool

namespace State

def rtcValidity (s : State) : Bool := (s.info .rtc).sourceValidity

/-- No write from an invalid system time is without its response. -/
def NoInvalid (s : State) : Prop :=
  (∀ r ∈ s.requests, r.validity = true) ∧
    ∀ p ∈ s.responses, p.status = .ok → p.request.validity = true

instance (s : State) : Decidable s.NoInvalid := inferInstanceAs (Decidable (_ ∧ _))

end State

variable {e : Event}

namespace Trust

variable (w : Trust)

def boot (s : State) : Trust := ⟨s, false, false⟩

def after (e : Event) : Trust :=
  let t := w.state.step e
  if e.reboots then { state := t, vouched := w.vouched, writtenSinceBoot := false }
  else
    { state := t
      vouched := if t.rtcFound = some true then true else if t.rtcWritten then false else w.vouched
      writtenSinceBoot := w.writtenSinceBoot || t.rtcWritten }

def watch (w : Trust) (e : Event) : Option Trust := some (w.after e)

/-- The value in the RTC was requested from an invalid system time, and was not found near a valid
one since. -/
def RtcInvalid : Prop := w.vouched = false ∧ ∃ r, w.state.device.rtc = some r ∧
      r.validity = false

/-- Why the validity of the RTC in memory may change. -/
inductive Cause (e : Event) : Prop where
  /-- The response to a write that succeeded is taken. -/
  | answered (r : StorageReplies) (p : Response) (rest : List Response) (taken : e = .rtcSetResponse r)
      (responses : w.state.responses = p :: rest) (status : p.status = .ok)
      (validity : (w.after e).state.rtcValidity = p.request.validity) : Cause e
  /-- The RTC was written in this step. -/
  | written (written : (w.after e).state.rtcWritten = true) (request : Request)
      (rtc : (w.after e).state.device.rtc = some request)
      (validity : (w.after e).state.rtcValidity = request.validity) : Cause e
  /-- The stored validity is read. -/
  | read (reads : e.reads = true)
      (stored : w.state.device.stored = some (w.after e).state.rtcValidity) : Cause e
  /-- The RTC was found near the system time in this step. -/
  | found (found : (w.after e).state.rtcFound = some (w.after e).state.rtcValidity) : Cause e

structure Trusted (e : Event) : Prop where
  /-- A validity stored as true is that of a trusted value. -/
  stored : (w.after e).state.device.stored = some true → ¬ (w.after e).RtcInvalid
  /-- So is the validity of a system time taken from an RTC that was written before the reboot. -/
  taken : (w.after e).writtenSinceBoot = false → (w.after e).state.systemSourceId = .rtc →
    (w.after e).state.latest.sourceValidity = true → ¬ (w.after e).RtcInvalid
  /-- The validity in memory changes for a cause. -/
  memory : e.reboots = false → (w.after e).state.rtcValidity ≠ w.state.rtcValidity → w.Cause e

/-- The responses come in their turn: one that reports a success is taken while the system time has
the validity it was requested with, and a valid system time makes the RTC valid, by a response or
because it is near, only when no write from an invalid one is without its response. -/
def InTurn (e : Event) : Prop :=
  (e.answers = true → ∀ p ∈ w.state.responses.head?, p.status = .ok →
    w.state.latest.sourceValidity = p.request.validity ∧
      (w.state.latest.sourceValidity = true → w.state.NoInvalid)) ∧
    ((w.state.step e).rtcFound = some true → w.state.NoInvalid)
deriving Decidable

variable {w}

theorem noInvalid_view {s : State} (h : s.NoInvalid) : s.view.begin.NoInvalid := by
  obtain ⟨hreqs, hresps⟩ := h
  constructor
  · intro hmem
    obtain ⟨r, hr, hfal⟩ := mem_map.1 hmem
    rw [hreqs r hr] at hfal
    simp at hfal
  intro hmem
  obtain ⟨p, hp, heq⟩ := mem_map.1 hmem
  obtain ⟨hfal, hok⟩ := Prod.mk.inj heq
  rw [hresps p hp (by simpa using hok)] at hfal
  simp at hfal

def Sound (w : Trust) : Prop := w.state.view.begin.Sound w.vouched w.writtenSinceBoot

theorem vouched_after (h : e.reboots = false) :
    (w.after e).vouched = (w.state.step e).view.vouchedNow w.vouched := by
  simp only [after, h, Bool.false_eq_true]
  rfl

theorem writtenSinceBoot_after (h : e.reboots = false) :
    (w.after e).writtenSinceBoot = (w.writtenSinceBoot || (w.state.step e).view.written) := by
  simp only [after, h, Bool.false_eq_true]
  rfl

theorem state_after (e : Event) : (w.after e).state = w.state.step e := by
  unfold after
  split
  all_goals rfl

theorem Sound.viewStep (h : w.Sound) (hrbt : e.reboots = false) (hturn : w.InTurn e) :
    (w.state.step e).view.Sound w.vouched w.writtenSinceBoot := by
  cases hans : e.answers with
  | true =>
    cases e with
    | rtcSetResponse r =>
      refine RtcView.Sound.answers h ?_ (w.state.step_answers r)
      intro x rest hresps
      rcases hlist : w.state.responses with _ | ⟨p, more⟩
      · simp [RtcView.begin, State.view, hlist] at hresps
      have hhead : (p.request.validity, decide (p.status = .ok)) = (x, true) := by
        have heq := congrArg head? hresps
        simpa [RtcView.begin, State.view, hlist] using heq
      obtain ⟨rfl, hok⟩ := Prod.mk.inj hhead
      obtain ⟨hval, hclr⟩ := hturn.1 rfl p (by simp [hlist]) (by simpa using hok)
      exact ⟨hval, fun htrue => noInvalid_view (hclr htrue)⟩
    | _ => simp [Event.answers] at hans
  | false =>
    refine RtcView.Sound.moves h rfl rfl ?_ (w.state.step_moves hans hrbt)
    exact fun hfnd => noInvalid_view (hturn.2 hfnd)

theorem Sound.reboots (h : w.Sound) (conf : Configuration) (vhal : Vhal)
    (ready : TimeSource → Bool) :
    (w.after (.reboot conf vhal ready)).Sound where
  stored := h.stored
  synced := fun _ hsynd => nomatch hsynd
  requested := fun hmem => nomatch hmem
  answered := fun hmem => nomatch hmem
  last := fun _ hp => nomatch hp
  ram := fun hram => nomatch hram
  system := fun hrtc => nomatch hrtc
  boot := fun _ _ _ hp => nomatch hp
  async := fun _ => ⟨rfl, rfl⟩
  configured := fun hsome => by
    rcases hsome with hne | hne
    all_goals exact absurd rfl hne

theorem Sound.step (h : w.Sound) (hturn : w.InTurn e) : (w.after e).Sound := by
  cases hrbt : e.reboots with
  | true =>
    cases e with
    | reboot conf vhal ready => exact h.reboots conf vhal ready
    | _ => simp [Event.reboots] at hrbt
  | false =>
    have hnext := (h.viewStep hrbt hturn).begin
    rw [← vouched_after hrbt, ← writtenSinceBoot_after hrbt] at hnext
    unfold Sound
    rw [state_after]
    exact hnext

theorem rtcInvalid_view : w.RtcInvalid ↔ w.state.view.begin.Untrusted w.vouched := by
  have hrtc : (∃ r, w.state.device.rtc = some r ∧ r.validity = false) ↔
      w.state.view.begin.rtc = some false := by
    change _ ↔ w.state.device.rtc.map Request.validity = some false
    rw [map_eq_some_iff]
  unfold RtcInvalid
  rw [hrtc]
  exact Iff.rfl

end Trust

namespace RtcView

variable {v v' : RtcView}

/-- Where the validity in memory changes, the RTC was written, or found near. -/
theorem SetsOrAdopts.cause (h : v.SetsOrAdopts v') :
    v'.ram = v.ram ∨ v'.written = true ∧ v'.rtc = some v'.ram ∨ v'.found = some v'.ram := by
  rcases h with (rfl | ⟨_, ⟨_, rfl⟩ | ⟨_, rfl | ⟨_, rfl⟩⟩⟩) | ⟨_, rfl | ⟨_, rfl⟩⟩
  iterate 2 exact Or.inl rfl
  iterate 2 exact Or.inr (Or.inl ⟨rfl, rfl⟩)
  all_goals exact Or.inr (Or.inr rfl)

theorem unsynced_ram : v.unsynced.ram = v.ram := by
  unfold unsynced
  split
  all_goals rfl

theorem Trusts.cause (h : v.Trusts v') :
    v'.ram = v.ram ∨ v'.written = true ∧ v'.rtc = some v'.ram ∨ v'.found = some v'.ram := by
  rw [← v.unsynced_ram]
  rcases h with ⟨_, hsets⟩ | ⟨_, _, rfl | hsets⟩
  · exact hsets.cause
  · exact Or.inl rfl
  · exact hsets.cause

theorem Moves.cause {reads : Bool} (h : v.Moves reads v') :
    v'.ram = v.ram ∨ v'.written = true ∧ v'.rtc = some v'.ram ∨ v'.found = some v'.ram ∨
      reads = true ∧ v.stored = some v'.ram := by
  have hcaus : ∀ u : RtcView, u.ram = v.ram → u.Trusts v' →
      v'.ram = v.ram ∨ v'.written = true ∧ v'.rtc = some v'.ram ∨ v'.found = some v'.ram ∨
        reads = true ∧ v.stored = some v'.ram := by
    intro u hram htrs
    rcases htrs.cause with hsame | hwrtn | hfnd
    · exact Or.inl (hsame.trans hram)
    · exact Or.inr (Or.inl hwrtn)
    · exact Or.inr (Or.inr (Or.inl hfnd))
  cases h with
  | stays | performs n x ok _ => exact Or.inl rfl
  | systemSet hset =>
    cases hset with
    | rtc | other validity => exact Or.inl rfl
    | trusts validity _ htrs => exact hcaus (v.fromOther validity) rfl htrs
  | readsStored hrea validity hstd | syncs hrea validity hstd =>
    exact Or.inr (Or.inr (Or.inr ⟨hrea, hstd⟩))
  | trusts _ htrs => exact hcaus _ rfl htrs

theorem Adopts.ram (h : v.Adopts v') : v'.ram = v.systemValid := by
  rcases h with rfl | ⟨_, rfl⟩
  all_goals rfl

end RtcView

namespace Trust

variable {w : Trust}

theorem Sound.cause (h : w.Sound) (hrbt : e.reboots = false) (hturn : w.InTurn e)
    (hchgd : (w.after e).state.rtcValidity ≠ w.state.rtcValidity) : w.Cause e := by
  rw [state_after] at hchgd
  cases hans : e.answers with
  | true =>
    cases e with
    | rtcSetResponse r =>
      have hview := w.state.step_answers r
      rcases hlist : w.state.responses with _ | ⟨p, rest⟩
      · refine absurd ?_ hchgd
        simp [State.step, State.handle, State.rtcSetResponse, State.begin, hlist, State.rtcValidity]
      have hhead : w.state.view.begin.responses.head? =
          some (p.request.validity, decide (p.status = .ok)) := by
        simp [RtcView.begin, State.view, hlist]
      generalize hnext : (w.state.step (.rtcSetResponse r)).view = v' at hview
      have hram : v'.ram ≠ w.state.view.begin.ram := by
        rw [← hnext]
        exact hchgd
      cases hview with
      | none | failed => exact absurd rfl hram
      | written x more hresps hadop =>
        rw [hresps] at hhead
        obtain ⟨rfl, hok⟩ := Prod.mk.inj (some.inj hhead)
        have hstat : p.status = .ok := by simpa using hok.symm
        refine .answered r p rest rfl hlist hstat ?_
        have hconf : w.state.view.begin.configured = true :=
          h.configured (Or.inr (by simp [hresps]))
        have hval := (hturn.1 rfl p (by simp [hlist]) hstat).1
        change (w.state.step (.rtcSetResponse r)).view.ram = _
        rw [hnext, (hadop hconf).ram]
        exact hval
    | _ => simp [Event.answers] at hans
  | false =>
    rcases (w.state.step_moves hans hrbt).cause with hsame | ⟨hwrtn, hrtc⟩ | hfnd | hread
    · exact absurd hsame hchgd
    · obtain ⟨request, hreq, hval⟩ := map_eq_some_iff.1 hrtc
      exact .written (by rw [state_after]; exact hwrtn) request (by rw [state_after]; exact hreq)
        (by rw [state_after]; exact hval.symm)
    · exact .found (by rw [state_after]; exact hfnd)
    · exact .read hread.1 (by rw [state_after]; exact hread.2)

theorem Sound.trusted (h : w.Sound) (hturn : w.InTurn e) : w.Trusted e := by
  have hnext := h.step hturn
  refine ⟨?_, ?_, fun hrbt hchgd => h.cause hrbt hturn hchgd⟩
  · intro hstd hinv
    exact hnext.stored hstd (rtcInvalid_view.1 hinv)
  intro hcarr hrtc hval hinv
  have hansd := hnext.system (TimeSource.isRtc_iff.2 hrtc) hval (rtcInvalid_view.1 hinv)
  have hnone := hnext.boot hcarr rfl _ hansd
  simp at hnone

theorem boot_sound (conf : Configuration) (vhal : Vhal) (ready : TimeSource → Bool) :
    (boot (init conf vhal ready ⟨none, none⟩)).Sound where
  stored := fun hs => nomatch hs
  synced := fun _ hsynd => nomatch hsynd
  requested := fun hmem => nomatch hmem
  answered := fun hmem => nomatch hmem
  last := fun _ hp => nomatch hp
  ram := fun hram => nomatch hram
  system := fun hrtc => nomatch hrtc
  boot := fun _ _ _ hp => nomatch hp
  async := fun _ => ⟨rfl, rfl⟩
  configured := fun hsome => by
    rcases hsome with hne | hne
    all_goals exact absurd rfl hne

/-- In every run whose responses come in their turn, a stored validity is that of the RTC. -/
theorem trusted_run (conf : Configuration) (vhal : Vhal) (ready : TimeSource → Bool)
    (events : List Event)
    (hturn : Meets watch InTurn (boot (init conf vhal ready ⟨none, none⟩)) events) :
    Meets watch Trusted (boot (init conf vhal ready ⟨none, none⟩)) events := by
  refine Meets.of_invariant Sound ?_ ?_ (boot_sound conf vhal ready) hturn
  · intro w e h hturn
    exact Sound.trusted h hturn
  intro w e u h hturn hstep
  cases hstep
  exact Sound.step h hturn

/-! Applications set the time, and the RTC follows at once or when it responds. -/

/-- The clocks show the time, storage and RTC do what they are asked to. -/
def workingReplies (now : Nat) : Replies where
  bootTime := some ⟨10, 0⟩
  systemTime := some ⟨0, 0⟩
  clockSettime := .ok
  getRtcTimeHAL := (.ok, ⟨7000, 0⟩)
  systemTimeAfter := some ⟨now, 0⟩
  bootTimeAfter := some ⟨10, 0⟩
  setRtcTime := .ok
  storage := ⟨true, true, true, .ok, .ok, .ok, .ok⟩

def applicationAndRtc : Configuration where
  source := [⟨1, true, .exApp, 200, -1⟩, ⟨2, true, .rtc, 2000, 1⟩]
  loaded := true
  confAllowOverride := -1
  allowOverrideAfterFail := -1

def syncVhal : Vhal := ⟨true, false, false, true, true⟩

def asyncVhal : Vhal := ⟨true, true, true, false, false⟩

def applicationSets (now : Nat) (validity : Bool) : Event :=
  .setTrustTime (workingReplies now) (some .exApp) ⟨now, 0⟩ validity .ok

def responds : List Event := [.rtcPerforms 0 .ok, .rtcSetResponse (workingReplies 0).storage]

/-- An invalid and a valid time are written, and the valid one comes back after a reboot. -/
def setAndRebooted : List Event :=
  applicationSets 7000 false :: responds ++ applicationSets 9000 true :: responds ++
    [.reboot applicationAndRtc asyncVhal fun _ => true, .syncRtcTrustInfo (workingReplies 9000),
      .getRtcTimeResp (workingReplies 9000) ⟨9000, 0⟩ .ok, applicationSets 9001 true]

theorem trusted_run_rebooted :
    Meets watch Trusted (boot (init applicationAndRtc asyncVhal (fun _ => true) ⟨none, none⟩))
      setAndRebooted :=
  trusted_run applicationAndRtc asyncVhal (fun _ => true) setAndRebooted (by decide +kernel)

/-- An invalid time is written, the next round reads it back, and a valid time comes that is
near. -/
def validAfterInvalid : List Event :=
  [applicationSets 7000 false, .poll fun _ => workingReplies 7000, applicationSets 7001 true]

/-- What was last written into the RTC came from a valid time whenever its validity is stored as
true, and the validity in memory changes only for a write or a reading. -/
structure WrittenValid (w : Trust) (e : Event) : Prop where
  stored : (w.after e).state.device.stored = some true →
    ∀ r ∈ (w.after e).state.device.rtc, r.validity = true
  taken : (w.after e).writtenSinceBoot = false → (w.after e).state.systemSourceId = .rtc →
    (w.after e).state.latest.sourceValidity = true →
    ∀ r ∈ (w.after e).state.device.rtc, r.validity = true
  memory : e.reboots = false → (w.after e).state.rtcValidity ≠ w.state.rtcValidity →
    w.Cause e ∧ (w.after e).state.rtcFound = none

/-- A value from an invalid time becomes a valid one where a valid time is found near it. -/
theorem not_writtenValid :
    ¬ ∀ (conf : Configuration) (vhal : Vhal) (ready : TimeSource → Bool) (events : List Event),
      Meets watch WrittenValid (boot (init conf vhal ready ⟨none, none⟩)) events := by
  intro h
  have hrun := h applicationAndRtc syncVhal (fun _ => true) validAfterInvalid
  have hlast := (((hrun.2 _ rfl).2 _ rfl).1).stored (by decide +kernel) ⟨⟨7000, 0⟩, false⟩
    (by decide +kernel)
  exact absurd hlast (by decide)

end Trust

end TelAF.TimeService
