import Mathlib.Data.List.Chain
import TelAF.TransitionRuns

/-!
# The download session of the update service

Requests are queued and handled one by one. A handled request calls the download plug-in, whose
result the environment chooses; the progress timer asks the plug-in for its status. State and
timer belong together, but a request handler changes them without the timer handler, and the
timer handler without it.
-/

namespace TelAF.Download

open TransitionRuns Option

/-- The values of `taf_update_State_t` that the session uses or reports. -/
inductive State where
  | idle
  | downloading
  | downloadPaused
  | downloadSuccess
  | downloadFail
  | cancelled
deriving DecidableEq

inductive Event where
  | start
  | pause
  | resume
  | cancel
deriving DecidableEq

/-- `taf_pi_da_Status_t`, and any other number that the plug-in may give. -/
inductive Status where
  | init
  | downloading
  | paused
  | finish
  | error
  | unknown

/-- What `getProgress` returns and what it writes. -/
structure Progress where
  ok : Bool
  status : Status
  percent : Int

structure DaInf where
  startDownload : Bool
  pauseDownload : Bool
  resumeDownload : Bool
  cancelDownload : Bool
  getProgress : Bool

/-- The session ends with the state, which is reported. -/
def State.final : State → Bool
  | .downloadSuccess | .downloadFail | .cancelled => true
  | _ => false

/-- What has happened, for reasoning: an accepted start, a reported status, and an accepted
resume with the state that it has left. -/
inductive Entry where
  | started
  | report (state : State) (percent : Int)
  | resumed (state : State)
deriving DecidableEq

def Entry.final : Entry → Bool
  | .report state _ => state.final
  | _ => false

/-- `taf_UpdateDownloadSession_t` with the queued requests. A call of a function that the
plug-in does not have sets `crashed`. -/
structure Session where
  state : State
  timer : Bool
  percent : Int
  requests : List Event
  crashed : Bool
  history : List Entry

namespace Session

variable (s : Session)

def record (e : Entry) : Session := { s with history := s.history ++ [e] }

def reportDownloadStatus (state : State) : Session :=
  record { s with state := if state.final then .idle else state } (.report state s.percent)

def stopTimer : Session := { s with timer := false }

def startTimer : Session := { s with timer := true }

def downloadTimerHandler (p : Progress) : Session :=
  let s := { s with percent := p.percent }
  if ¬ p.ok then s.stopTimer.reportDownloadStatus .downloadFail
  else
    match p.status with
    | .init => s
    | .downloading => s.reportDownloadStatus .downloading
    | .paused => s.stopTimer.reportDownloadStatus .downloadPaused
    | .finish => s.stopTimer.reportDownloadStatus .downloadSuccess
    | .error => s.stopTimer.reportDownloadStatus .downloadFail
    | .unknown => s.stopTimer.reportDownloadStatus .downloadFail

/-- `ok` is the result of the plug-in. -/
def downloadHandler (da : DaInf) (event : Event) (ok : Bool) : Session :=
  match s.state, event with
  | .idle, .start =>
    let s := record { s with state := .downloading, percent := 0 } .started
    if ¬ ok then s.reportDownloadStatus .downloadFail
    else if ¬ da.getProgress then s.reportDownloadStatus .downloadSuccess
    else s.startTimer
  | .downloading, .pause =>
    if ¬ da.pauseDownload then { s with crashed := true }
    else if ¬ ok then s
    else s.stopTimer.reportDownloadStatus .downloadPaused
  | .downloading, .cancel => if ¬ ok then s else s.stopTimer.reportDownloadStatus .cancelled
  | .downloadPaused, .resume =>
    if ¬ ok then s
    else
      let s := s.startTimer.reportDownloadStatus .downloadPaused
      s.record (.resumed s.state)
  | .downloadPaused, .cancel => if ¬ ok then s else s.reportDownloadStatus .cancelled
  | _, _ => s

end Session

/-- The function that a request checks the plug-in for; pausing checks that for the start. -/
def DaInf.supports (da : DaInf) : Event → Bool
  | .start | .pause => da.startDownload
  | .resume => da.resumeDownload
  | .cancel => da.cancelDownload

def State.accepts : State → Event → Bool
  | .idle, .start => true
  | .downloading, .pause | .downloading, .cancel => true
  | .downloadPaused, .resume | .downloadPaused, .cancel => true
  | _, _ => false

inductive Action where
  | request (event : Event)
  | handle (ok : Bool)
  | tick (p : Progress)

section
variable (da : DaInf) (s : Session)

def run : Action → Option Session
  | .request event =>
    some (if da.supports event then { s with requests := s.requests ++ [event] } else s)
  | .handle ok =>
    match s.requests with
    | [] => none
    | event :: rest => some (Session.downloadHandler { s with requests := rest } da event ok)
  | .tick p => if s.timer then some (s.downloadTimerHandler p) else none

def step (a : Action) : Option Session := if s.crashed then none else run da s a

end

structure Start (s : Session) : Prop where
  state : s.state = .idle
  timer : s.timer = false
  history : s.history = []

/-- After the end of a session nothing but a start comes next. -/
def Silent (history : List Entry) : Prop :=
  history.IsChain fun e next => e.final = true → next = .started
deriving Decidable

/-- The timer runs while something is downloaded, an ended session is idle and silent, and an
accepted resume has left a state that takes pause and cancel. -/
structure Consistent (da : DaInf) (s : Session) : Prop where
  timer : da.getProgress = true → (s.timer = true ↔ s.state = .downloading)
  ended : ∀ e ∈ s.history.getLast?, e.final = true → s.state = .idle
  silent : Silent s.history
  resumed : ∀ state, .resumed state ∈ s.history →
    state.accepts .pause = true ∧ state.accepts .cancel = true

/-- Whatever a step does leaves the session consistent. -/
def Keeps (da : DaInf) (s : Session) (a : Action) : Prop :=
  ∀ t, step da s a = some t → Consistent da t

def NoResume (s : Session) : Action → Prop
  | .handle ok =>
    ¬ (s.crashed = false ∧ ok = true ∧ s.requests.head? = some Event.resume ∧
      s.state = .downloadPaused)
  | _ => True

instance : DecidableRel NoResume := fun _ a =>
  match a with
  | .handle _ => inferInstanceAs (Decidable (¬ _))
  | .request _ => isTrue trivial
  | .tick _ => isTrue trivial

section History

variable {history : List Entry} {e : Entry}

theorem silent_nil : Silent [] := List.isChain_nil

theorem Silent.append (h : Silent history)
    (hlast : ∀ e' ∈ history.getLast?, e'.final = true → e = .started) :
    Silent (history ++ [e]) := by
  apply List.isChain_append.2
  refine ⟨h, List.isChain_singleton e, ?_⟩
  intro e' he' next hnext
  cases hnext
  exact hlast e' he'

theorem last_append : ∀ e' ∈ (history ++ [e]).getLast?, e' = e := by
  intro e' he'
  simpa [eq_comm] using he'

end History

section Steps

variable {da : DaInf} {s t : Session}

structure Going (s : Session) : Prop where
  last : ∀ e ∈ s.history.getLast?, e.final = false
  silent : Silent s.history
  resumed : ∀ state, .resumed state ∈ s.history →
    state.accepts .pause = true ∧ state.accepts .cancel = true

/-- Without `getProgress` no download is ever under way. -/
structure Inv (da : DaInf) (s : Session) : Prop extends Consistent da s where
  unmonitored : da.getProgress = false → s.timer = false ∧ s.state = .idle

theorem Inv.going (h : Inv da s) (hst : s.state ≠ .idle) : Going s := by
  refine ⟨?_, h.silent, h.resumed⟩
  intro e he
  cases hfin : e.final with
  | false => rfl
  | true => exact absurd (h.ended e he hfin) hst

theorem Inv.monitored (h : Inv da s) (hst : s.state ≠ .idle) : da.getProgress = true := by
  cases hprog : da.getProgress with
  | true => rfl
  | false => exact absurd (h.unmonitored hprog).2 hst

/-- A report of a session that has not ended keeps it consistent if its timer runs just for a
download. -/
theorem Going.report (h : Going s) {state : State} (htim : s.timer = true ↔ state = .downloading)
    (hst : da.getProgress = false → s.timer = false ∧ state.final = true) :
    Inv da (s.reportDownloadStatus state) := by
  unfold Session.reportDownloadStatus Session.record
  constructor
  · constructor
    · intro _
      cases state <;> simpa [State.final] using htim
    · intro e he hfin
      rw [last_append e he] at hfin
      have hende : state.final = true := hfin
      simp only [hende, if_true]
    · apply h.silent.append
      intro e he hfin
      rw [h.last e he] at hfin
      cases hfin
    · intro left hleft
      apply h.resumed left
      simpa using hleft
  · intro hprog
    obtain ⟨hstop, hfin⟩ := hst hprog
    exact ⟨hstop, by simp only [hfin, if_true]⟩

section

variable (h : Inv da s)
include h

theorem Inv.tick (htim : s.timer = true) (p : Progress) : Inv da (s.downloadTimerHandler p) := by
  have hprog : da.getProgress = true := by
    cases hprog : da.getProgress with
    | true => rfl
    | false =>
      rw [(h.unmonitored hprog).1] at htim
      cases htim
  have hst : s.state = .downloading := (h.timer hprog).1 htim
  have hgoin : Going s := h.going (by simp [hst])
  have hkept : Going { s with percent := p.percent } := ⟨hgoin.1, hgoin.2, hgoin.3⟩
  have hstop : Going (Session.stopTimer { s with percent := p.percent }) :=
    ⟨hgoin.1, hgoin.2, hgoin.3⟩
  have hneve : ∀ {P : Prop}, da.getProgress = false → P := by simp [hprog]
  unfold Session.downloadTimerHandler
  split_ifs
  · cases p.status with
    | init => exact ⟨⟨h.timer, h.ended, h.silent, h.resumed⟩, h.unmonitored⟩
    | downloading => exact hkept.report (by simp [htim]) hneve
    | paused | finish | error | unknown => exact hstop.report (by simp [Session.stopTimer]) hneve
  · exact hstop.report (by simp [Session.stopTimer]) hneve

theorem Inv.started :
    Going (Session.record { s with state := .downloading, percent := 0 } .started) := by
  unfold Session.record
  refine ⟨?_, h.silent.append fun _ _ _ => rfl, ?_⟩
  · intro e he
    rw [last_append e he]
    rfl
  · intro left hleft
    apply h.resumed left
    simpa using hleft

theorem Inv.handle (event : Event) (ok : Bool)
    (hno : ¬ (ok = true ∧ event = .resume ∧ s.state = .downloadPaused)) :
    Inv da (s.downloadHandler da event ok) := by
  have hstop : s.state ≠ .idle → Going s.stopTimer := fun hst =>
    ⟨(h.going hst).last, h.silent, h.resumed⟩
  unfold Session.downloadHandler
  split
  · next hidle =>
    have hgoin := h.started
    have htim : da.getProgress = true → s.timer = false := by
      intro hprog
      simpa [hidle] using h.timer hprog
    have hqui : s.timer = false := by
      cases hprog : da.getProgress with
      | true => exact htim hprog
      | false => exact (h.unmonitored hprog).1
    split_ifs with hok hprog
    · refine ⟨⟨fun _ => by simp [Session.startTimer, Session.record], ?_, hgoin.silent,
        hgoin.resumed⟩, ?_⟩
      · intro e he hfin
        rw [hgoin.last e he] at hfin
        cases hfin
      · intro hnone
        simp [hnone] at hprog
    all_goals exact hgoin.report (by simp [Session.record, hqui]) fun _ => ⟨hqui, rfl⟩
  · next hdownloading =>
    have hprog := h.monitored (by simp [hdownloading])
    split_ifs
    · exact (hstop (by simp [hdownloading])).report (by simp [Session.stopTimer])
        (by simp [hprog])
    · exact h
    · exact ⟨⟨h.timer, h.ended, h.silent, h.resumed⟩, h.unmonitored⟩
  · next hdownloading =>
    split_ifs
    · exact (hstop (by simp [hdownloading])).report (by simp [Session.stopTimer])
        fun _ => ⟨rfl, rfl⟩
    · exact h
  · next hpaus =>
    split_ifs with hok
    · exact absurd ⟨hok, rfl, hpaus⟩ hno
    · exact h
  · next hpaus =>
    split_ifs
    · have hprog := h.monitored (by simp [hpaus])
      have hqui : s.timer = false := by simpa [hpaus] using h.timer hprog
      exact (h.going (by simp [hpaus])).report (by simp [hqui]) fun _ => ⟨hqui, rfl⟩
    · exact h
  · exact h

theorem Inv.requests (requests : List Event) : Inv da { s with requests := requests } :=
  ⟨⟨h.timer, h.ended, h.silent, h.resumed⟩, h.unmonitored⟩

theorem inv_step (a : Action) (hno : NoResume s a) (hstep : step da s a = some t) : Inv da t := by
  obtain ⟨hruns, hrun⟩ := ite_none_left_eq_some.1 hstep
  cases a with
  | request event =>
    cases hrun
    split_ifs
    · exact h.requests _
    · exact h
  | handle ok =>
    rcases hreqs : s.requests with _ | ⟨event, rest⟩
    · simp [run, hreqs] at hrun
    simp only [run, hreqs, some.injEq] at hrun
    subst hrun
    apply (h.requests rest).handle
    rintro ⟨hok, hev, hst⟩
    exact hno ⟨by simpa using hruns, hok, by rw [hreqs, hev]; rfl, hst⟩
  | tick p =>
    obtain ⟨htim, ⟨⟩⟩ := ite_none_right_eq_some.1 hrun
    exact h.tick htim p

end

/-- An accepted resume reports the download as paused, and so leaves it. -/
theorem not_keeps_resume {ok : Bool} (hrsm : s.crashed = false ∧ ok = true ∧
      s.requests.head? = some Event.resume ∧ s.state = .downloadPaused) :
    ¬ Keeps da s (.handle ok) := by
  obtain ⟨hruns, rfl, hhead, hst⟩ := hrsm
  obtain ⟨rest, hreqs⟩ : ∃ rest, s.requests = .resume :: rest := by
    cases hreqs : s.requests with
    | nil => simp [hreqs] at hhead
    | cons event rest =>
      simp only [hreqs, List.head?_cons, some.injEq] at hhead
      exact ⟨rest, by rw [hhead]⟩
  intro hkps
  have hstep : ∃ t, step da s (.handle true) = some t ∧
      .resumed .downloadPaused ∈ t.history := by
    refine ⟨Session.downloadHandler { s with requests := rest } da .resume true, ?_, ?_⟩
    · simp [step, run, hruns, hreqs]
    · simp [Session.downloadHandler, hst, Session.record, Session.reportDownloadStatus,
        State.final]
  obtain ⟨t, ht, hmem⟩ := hstep
  have hacc := ((hkps t ht).resumed _ hmem).1
  cases hacc

end Steps

section Runs

variable {da : DaInf} {s t : Session}

theorem inv_of_start (h : Start s) : Inv da s := by
  constructor
  · constructor <;> simp [h.state, h.timer, h.history, silent_nil]
  · exact fun _ => ⟨h.timer, h.state⟩

theorem keeps_iff (h : Inv da s) (a : Action) : Keeps da s a ↔ NoResume s a := by
  constructor
  · intro hkps
    cases a with
    | handle ok => exact fun hrsm => not_keeps_resume hrsm hkps
    | request event | tick p => trivial
  · intro hno t ht
    exact (inv_step h a hno ht).toConsistent

/-- The session is consistent all along a run just when no resume request is accepted in it. -/
theorem session_run_iff (hstart : Start s) (as : List Action) :
    Meets (step da) (Keeps da) s as ↔ Meets (step da) NoResume s as := by
  apply @meets_congr _ _ _ _ _ (Inv da)
  · exact fun s a h => keeps_iff h a
  · exact fun s a t h hkeeps ht => inv_step h a ((keeps_iff h a).1 hkeeps) ht
  · exact inv_of_start hstart

end Runs

def emulator : DaInf := ⟨true, true, true, true, true⟩

def idleSession : Session := ⟨.idle, false, 0, [], false, []⟩

theorem start_idleSession : Start idleSession := ⟨rfl, rfl, rfl⟩

def pausedDownload : List Action :=
  [.request .start, .handle true, .tick ⟨true, .downloading, 40⟩, .request .pause,
    .handle true, .request .cancel, .handle true]

theorem session_run_iff_pausedDownload :
    Meets (step emulator) (Keeps emulator) idleSession pausedDownload :=
  (session_run_iff start_idleSession pausedDownload).2 (by decide +kernel)

/-- The download is resumed, and cancelled before the timer has expired. -/
def resumedDownload : List Action :=
  [.request .start, .handle true, .request .pause, .handle true, .request .resume,
    .handle true, .request .cancel, .handle true, .tick ⟨true, .downloading, 40⟩]

/-- The resume leaves the session in a state that takes no pause, with the timer running, and
the cancelled download reports its progress. -/
theorem session_run_fails :
    ∃ s t, exec (step emulator) idleSession (resumedDownload.take 6) = some s ∧
      (s.timer = true ∧ s.state = .downloadPaused ∧ s.state.accepts .pause = false) ∧
      exec (step emulator) idleSession resumedDownload = some t ∧
      (t.state = .downloading ∧ ¬ Silent t.history) := by
  have hresumed : (exec (step emulator) idleSession (resumedDownload.take 6)).any (fun s =>
      s.timer = true ∧ s.state = .downloadPaused ∧ s.state.accepts .pause = false) = true := by
    decide +kernel
  have hcancelled : (exec (step emulator) idleSession resumedDownload).any (fun t =>
      t.state = .downloading ∧ ¬ Silent t.history) = true := by decide +kernel
  obtain ⟨s, hs, h⟩ := (Option.any_eq_true _ _).1 hresumed
  obtain ⟨t, ht, h'⟩ := (Option.any_eq_true _ _).1 hcancelled
  exact ⟨s, t, hs, of_decide_eq_true h, ht, of_decide_eq_true h'⟩

end TelAF.Download
