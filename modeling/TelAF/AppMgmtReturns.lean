import Mathlib.Order.Lex
import TelAF.AppMgmtRuns

/-!
# App updates come to an end

In every state but the idle one the session waits for something: for the daemon to finish, for
the timer to expire, or for a request to be handled. Each time it comes the session comes closer
to the idle state, and nothing else takes it farther away.
-/

namespace TelAF.AppMgmt

open TransitionRuns

def Awaited (s : Session) : Action → Prop
  | .succeeded _ _ _ | .failed _ _ => s.state = .installing ∨ s.state = .rollback
  | .expire _ => s.state = .probation
  | .handle _ => s.state = .probationFail
  | _ => False

/-- How many requests are handled before one for a rollback. -/
def position (requests : List Request) : ℕ :=
  requests.findIdx fun req => decide (req.event = .rollback)

/-- How far the session is from the idle state. -/
def rank (s : Session) : ℕ ×ₗ ℕ :=
  match s.state with
  | .installing => toLex (4, 0)
  | .probation => toLex (3, s.prbtTime - s.timer.expiryCount)
  | .probationFail => toLex (2, position s.requests)
  | .rollback => toLex (1, 0)
  | _ => toLex (0, 0)

theorem position_cons (req : Request) (rest : List Request) (hev : req.event ≠ .rollback) :
    position (req :: rest) = position rest + 1 := by
  simp [position, List.findIdx_cons, hev]

theorem position_append (requests later : List Request)
    (hwts : ∃ req ∈ requests, req.event = .rollback) :
    position (requests ++ later) = position requests := by
  obtain ⟨req, hreq, hev⟩ := hwts
  have hfnd : requests.findIdx (fun req => decide (req.event = .rollback)) < requests.length :=
    List.findIdx_lt_length_of_exists ⟨req, hreq, by simp [hev]⟩
  simp only [position, List.findIdx_append, hfnd, if_true]

/-- Each step leads to the idle state, comes closer to it if it was awaited, and otherwise
leaves the session where it is. -/
def Approaches (s : Session) (a : Action) (t : Session) : Prop :=
  t.state = .idle ∨ (Awaited s a ∧ rank t < rank s) ∨ (¬ Awaited s a ∧ rank t = rank s)

section Steps

variable {s : Session}

theorem Inv.request_rank (h : Inv s) (event : Event) (appName : String) :
    rank (AppMgmt.request s event appName) = rank s := by
  have hphs := h.phase
  unfold Phase at hphs
  unfold rank AppMgmt.request
  cases hst : s.state with
  | probationFail =>
    simp only [hst] at hphs ⊢
    rw [position_append s.requests _ hphs.2.2]
  | _ => rfl

theorem rollback_state (s : Session) (env : Env) :
    (rollback s env).state = .idle ∨ (rollback s env).state = .rollback := by
  unfold rollback
  dsimp only
  rcases s.backups s.appName with _ | bundle
  · exact .inl rfl
  dsimp only
  by_cases hopen : env.opened = true
  · rw [if_neg (not_not.2 hopen), startUpdate]
    by_cases hstrt : env.started = true ∧ s.daemon = none
    · rw [if_pos hstrt]
      exact .inr rfl
    · rw [if_neg hstrt]
      exact .inl rfl
  · rw [if_pos hopen]
    exact .inl rfl

theorem rank_probation (hst : s.state = .probation) :
    rank s = toLex (3, s.prbtTime - s.timer.expiryCount) := by
  simp only [rank, hst]

theorem rank_probationFail (hst : s.state = .probationFail) :
    rank s = toLex (2, position s.requests) := by
  simp only [rank, hst]

theorem rank_rollback (hst : s.state = .rollback) : rank s = toLex (1, 0) := by
  simp only [rank, hst]

theorem rank_installing (hst : s.state = .installing) : rank s = toLex (4, 0) := by
  simp only [rank, hst]

theorem appUpdateHandler_refuses (hidle : s.state ≠ .idle) (hfail : s.state ≠ .probationFail)
    (env : Env) (req : Request) : appUpdateHandler s env req = s := by
  unfold appUpdateHandler
  cases hst : s.state with
  | idle => exact absurd hst hidle
  | probationFail => exact absurd hst hfail
  | _ => rfl

variable {req : Request}

theorem appUpdateHandler_waits (hfail : s.state = .probationFail) (env : Env)
    (hev : req.event ≠ .rollback) : appUpdateHandler s env req = s := by
  simp only [appUpdateHandler, hfail]
  cases he : req.event with
  | rollback => exact absurd he hev
  | install | probation => rfl

theorem appUpdateHandler_rollback (hfail : s.state = .probationFail) (env : Env)
    (hev : req.event = .rollback) : appUpdateHandler s env req = rollback s env := by
  simp only [appUpdateHandler, hfail, hev]

theorem handle_approaches (hidle : s.state ≠ .idle) (env : Env)
    {rest : List Request} (hreqs : s.requests = req :: rest) :
    Approaches s (.handle env) (appUpdateHandler { s with requests := rest } env req) := by
  by_cases hfail : s.state = .probationFail
  · by_cases hev : req.event = .rollback
    · rw [appUpdateHandler_rollback (by exact hfail) env hev]
      obtain hback | hback := rollback_state { s with requests := rest } env
      · exact .inl hback
      refine .inr (.inl ⟨hfail, ?_⟩)
      rw [rank_rollback hback, rank_probationFail hfail]
      exact Prod.Lex.toLex_lt_toLex.2 (.inl (by omega))
    · rw [appUpdateHandler_waits (by exact hfail) env hev]
      refine .inr (.inl ⟨hfail, ?_⟩)
      rw [rank_probationFail (by exact hfail), rank_probationFail hfail, hreqs,
        position_cons req rest hev]
      exact Prod.Lex.toLex_lt_toLex.2 (.inr ⟨rfl, Nat.lt_succ_self _⟩)
  · rw [appUpdateHandler_refuses (by exact hidle) (by exact hfail)]
    refine .inr (.inr ⟨hfail, ?_⟩)
    unfold rank
    cases hst : s.state with
    | probationFail => exact absurd hst hfail
    | _ => rfl

theorem Inv.expire_approaches (h : Inv s) (hruns : s.timer.running = true) (stopped : Bool) :
    Approaches s (.expire stopped) (probationTimerHandler (AppMgmt.expire s) stopped) := by
  obtain ⟨hst, hcnt⟩ := h.probation hruns
  have htime : ¬ (AppMgmt.expire s).prbtTime = 0 := Nat.ne_of_gt (Nat.zero_lt_of_lt hcnt)
  unfold probationTimerHandler
  rw [if_neg htime]
  by_cases hlast : (AppMgmt.expire s).timer.expiryCount ≥ (AppMgmt.expire s).prbtTime
  · rw [if_pos hlast]
    exact .inl rfl
  rw [if_neg hlast]
  refine .inr (.inl ⟨hst, ?_⟩)
  rw [rank_probation hst]
  cases stopped with
  | true => exact Prod.Lex.toLex_lt_toLex.2 (.inl (by omega))
  | false =>
    have hsame : (AppMgmt.updateProgress (AppMgmt.expire s) .probation
        (probationPercent (AppMgmt.expire s) (AppMgmt.expire s).timer.expiryCount) .none).state =
        .probation := hst
    have hclos : s.prbtTime - (s.timer.expiryCount + 1) < s.prbtTime - s.timer.expiryCount := by
      omega
    rw [if_neg (by decide), rank_probation hsame]
    exact Prod.Lex.toLex_lt_toLex.2 (.inr ⟨rfl, hclos⟩)

theorem installed_state (s : Session) :
    (installed s).state = .idle ∨ (installed s).state = .probation := by
  unfold installed
  split_ifs
  · exact .inl rfl
  · exact .inr rfl
  · exact .inl rfl

theorem Inv.succeeded_approaches (h : Inv s) {u : DaemonUpdate} (hdaem : s.daemon = some u)
    (percent : Nat) (startManual kept : Bool) :
    Approaches s (.succeeded percent startManual kept)
      (installHandlerSuccess (putApp s u startManual kept) percent) := by
  obtain ⟨-, -, ⟨hst, -⟩ | ⟨hst, -⟩⟩ := h.updating hdaem
  · have hnow : (putApp s u startManual kept).state = .installing := hst
    rw [installHandlerSuccess, if_pos hnow]
    obtain hnext | hnext := installed_state
      (updateAppNode (putApp s u startManual kept) (putApp s u startManual kept).appName false)
    · exact .inl hnext
    refine .inr (.inl ⟨.inl hst, ?_⟩)
    rw [rank_probation (by exact hnext), rank_installing hst]
    exact Prod.Lex.toLex_lt_toLex.2 (.inl (by omega))
  · have hnow : (putApp s u startManual kept).state = .rollback := hst
    rw [installHandlerSuccess, hnow]
    exact .inl rfl

theorem Inv.failed_approaches (h : Inv s) {u : DaemonUpdate} (hdaem : s.daemon = some u)
    (percent code : Nat) :
    Approaches s (.failed percent code)
      (installHandlerFailed { s with daemon := none } percent code) := by
  obtain ⟨-, -, ⟨hst, -⟩ | ⟨hst, -⟩⟩ := h.updating hdaem
  · have hnow : ({ s with daemon := none } : Session).state = .installing := hst
    rw [installHandlerFailed, if_pos hnow]
    exact .inl rfl
  · have hnow : ({ s with daemon := none } : Session).state = .rollback := hst
    rw [installHandlerFailed, hnow]
    exact .inl rfl

end Steps

/-- Where the session is not idle, each step leads to the idle state or comes closer to it, or
was not waited for. -/
theorem approaches_step {s t : Session} {a : Action} (h : Inv s) (hidle : s.state ≠ .idle)
    (hstep : step s a = some t) : Approaches s a t := by
  cases a with
  | startInstall appName =>
    cases hstep
    exact .inr (.inr ⟨id, h.request_rank .install appName⟩)
  | start appName =>
    cases hstep
    refine .inr (.inr ⟨id, ?_⟩)
    unfold start
    split_ifs
    · exact h.request_rank .probation appName
    · rfl
  | uninstall appName removed =>
    cases hstep
    refine .inr (.inr ⟨id, ?_⟩)
    unfold uninstall
    by_cases hbusy : appName = s.appName ∧ s.state ≠ .idle
    · rw [if_pos hbusy]
    · rw [if_neg hbusy]
      rfl
  | handle env =>
    simp only [step] at hstep
    rcases hreqs : s.requests with _ | ⟨req, rest⟩
    · simp [hreqs] at hstep
    simp only [hreqs] at hstep
    cases hstep
    exact handle_approaches hidle env hreqs
  | expire stopped =>
    obtain ⟨hruns, ⟨⟩⟩ := Option.ite_none_right_eq_some.1 hstep
    exact h.expire_approaches hruns stopped
  | unpacking percent =>
    simp only [step] at hstep
    rcases hdaem : s.daemon with _ | u
    · simp [hdaem] at hstep
    simp only [hdaem] at hstep
    cases hstep
    refine .inr (.inr ⟨id, ?_⟩)
    obtain ⟨-, -, ⟨hst, -⟩ | ⟨hst, -⟩⟩ := h.updating hdaem <;> rw [hst] <;> rfl
  | succeeded percent startManual kept =>
    simp only [step] at hstep
    rcases hdaem : s.daemon with _ | u
    · simp [hdaem] at hstep
    simp only [hdaem] at hstep
    obtain ⟨-, ⟨⟩⟩ := Option.ite_none_right_eq_some.1 hstep
    exact h.succeeded_approaches hdaem percent startManual kept
  | failed percent code =>
    simp only [step] at hstep
    rcases hdaem : s.daemon with _ | u
    · simp [hdaem] at hstep
    simp only [hdaem] at hstep
    cases hstep
    exact h.failed_approaches hdaem percent code
  | restart prbtTime finished =>
    cases hstep
    exact .inl rfl

theorem inv_run {apps : String → Option AppNode} {prbtTime : Nat} {actions : List Action}
    {t : Session} (hrun : exec step (initial apps prbtTime) actions = some t) : Inv t :=
  exec_invariant_of_step (fun _ _ _ h hstep => inv_step h hstep) (inv_initial apps prbtTime) hrun

theorem returns {r : InfiniteRun step} (hsta : Inv (r.state 0))
    (hfair : r.Fair (fun s => s.state = .idle) Awaited) (i : ℕ) :
    ∃ j, i ≤ j ∧ (r.state j).state = .idle := by
  have hinv := r.invariant hsta fun _ _ _ h hstep => inv_step h hstep
  apply InfiniteRun.reaches_goal rank hinv hfair
  · intro s a t h hidle hawt hstep
    obtain hgoal | ⟨-, hless⟩ | ⟨hnot, -⟩ := approaches_step h hidle hstep
    · exact .inl hgoal
    · exact .inr hless
    · exact absurd hawt hnot
  · intro s a t h hidle hnot hstep
    obtain hgoal | ⟨hawt, -⟩ | ⟨-, hsame⟩ := approaches_step h hidle hstep
    · exact .inl hgoal
    · exact absurd hawt hnot
    · exact .inr hsame

/-- With any probation time and any apps the history of every run is lawful, and a run in which
what is waited for comes returns to the idle state again and again. -/
theorem updates_lawful (apps : String → Option AppNode) (prbtTime : Nat) :
    (∀ actions t, exec step (initial apps prbtTime) actions = some t → Lawful t.history) ∧
      ∀ r : InfiniteRun step, r.state 0 = initial apps prbtTime →
        r.Fair (fun s => s.state = .idle) Awaited →
          ∀ i, ∃ j, i ≤ j ∧ (r.state j).state = .idle := by
  constructor
  · intro actions t hrun
    exact (inv_run hrun).lawful
  · intro r hstart hfair
    exact returns (hstart ▸ inv_initial apps prbtTime) hfair

def works : Env := ⟨true, .done, true, true⟩

def oneActive : String → Option AppNode := fun appName =>
  if appName = "tracker" then some ⟨some true, false⟩ else none

/-- An install whose app stops in its probation and is rolled back, and restarts after it. -/
def rolledBack : ℕ → Action
  | 0 => .startInstall "tracker"
  | 1 => .handle works
  | 2 => .succeeded 100 false true
  | 3 => .expire false
  | 4 => .expire true
  | 5 => .handle works
  | 6 => .succeeded 100 false true
  | _ => .restart 3 none

def rolledBackState : ℕ → Session
  | 0 => initial oneActive 3
  | i + 1 => (step (rolledBackState i) (rolledBack i)).getD (rolledBackState i)

def rolledBackRun : InfiniteRun step where
  state := rolledBackState
  action := rolledBack
  next := fun
    | 0 => rfl
    | 1 => rfl
    | 2 => rfl
    | 3 => rfl
    | 4 => rfl
    | 5 => rfl
    | 6 => rfl
    | _ + 7 => rfl

theorem updates_lawful_rolledBack :
    (∀ t, exec step (initial oneActive 3) ((List.range 7).map rolledBack) = some t →
        Lawful t.history) ∧
      (∃ t, exec step (initial oneActive 3) ((List.range 7).map rolledBack) = some t ∧
        t.history.head? = some (.report .rollbackSuccess "tracker" 100 .none)) ∧
      ∃ j, 7 ≤ j ∧ (rolledBackRun.state j).state = .idle :=
  ⟨(updates_lawful oneActive 3).1 _, ⟨_, rfl, rfl⟩,
    (updates_lawful oneActive 3).2 rolledBackRun rfl (fun i => ⟨i + 8, by omega, .inl rfl⟩) 7⟩

def lastRolledBack (appName : String) : List Entry → Option Nat
  | [] => none
  | .put app (.backup savedFor) :: rest =>
    if app = appName then some savedFor else lastRolledBack appName rest
  | _ :: rest => lastRolledBack appName rest

/-- A rollback that just succeeded put the bundle saved for the install it takes back. -/
def OwnBundle : List Entry → Prop
  | .report .rollbackSuccess app _ _ :: before =>
    ∃ number, lastInstalled app before = some number ∧ lastRolledBack app before = some number
  | _ => True

/-- The app is replaced twice: it is activated when the first install begins, and not when the
second does. The second version stops in its probation. -/
def replacedTwice : List Action :=
  [.startInstall "tracker", .handle works, .succeeded 100 true true,
   .startInstall "tracker", .handle works, .succeeded 100 false true,
   .expire true, .handle works, .succeeded 100 false true]

theorem history_replacedTwice :
    (exec step (initial oneActive 2) replacedTwice).map Session.history =
      some [.report .rollbackSuccess "tracker" 100 .none, .marked "tracker" true,
        .put "tracker" (.backup 0), .report .probationFail "tracker" 50 .appNotRunning,
        .report .installSuccess "tracker" 100 .none, .marked "tracker" false,
        .put "tracker" (.package 1), .began "tracker" 1 false,
        .report .installSuccess "tracker" 100 .none, .marked "tracker" false,
        .put "tracker" (.package 0), .saved "tracker" 0, .began "tracker" 0 true] := by
  decide +kernel

/-- What is not activated is not backed up, so the second install is rolled back to the bundle
of the first. -/
theorem rolledBack_to_earlier :
    ¬ ∀ apps prbtTime actions t, exec step (initial apps prbtTime) actions = some t →
      OwnBundle t.history := by
  intro hown
  obtain ⟨t, hrun, hhistory⟩ := Option.map_eq_some_iff.1 history_replacedTwice
  have hsame := hown oneActive 2 replacedTwice t hrun
  rw [hhistory] at hsame
  obtain ⟨number, hinstalled, hback⟩ := hsame
  simp [lastInstalled] at hinstalled
  simp [lastRolledBack] at hback
  omega

end TelAF.AppMgmt
