import Mathlib.Data.Prod.Lex
import Mathlib.Tactic.SplitIfs
import TelAF.FairRuns
import TelAF.AppMgmt

/-!
# The histories of app updates

A history is lawful if each entry is allowed by the ones before it: what is put for a rollback is
the bundle saved last for the app, what is put for an install of an active app was preceded by a
bundle saved for this install, an app is marked as activated right after its probation or its
rollback succeeded, and nothing is divided by zero. Every run keeps a lawful history, and a fair
run returns to the idle state again and again.
-/

namespace TelAF.AppMgmt

open TransitionRuns Function List Option

/-- The install that the last bundle of the app was saved for, if it was not removed since. -/
def lastSaved (appName : String) : List Entry → Option Nat
  | [] => none
  | .saved app number :: rest => if app = appName then some number else lastSaved appName rest
  | .bundleRemoved app :: rest => if app = appName then none else lastSaved appName rest
  | _ :: rest => lastSaved appName rest

/-- The last install of the app, and whether the app was activated when it began. -/
def lastBegan (appName : String) : List Entry → Option (Nat × Bool)
  | [] => none
  | .began app number activated :: rest =>
    if app = appName then some (number, activated) else lastBegan appName rest
  | _ :: rest => lastBegan appName rest

/-- The last install of the app whose package was put. -/
def lastInstalled (appName : String) : List Entry → Option Nat
  | [] => none
  | .put app (.package number) :: rest =>
    if app = appName then some number else lastInstalled appName rest
  | _ :: rest => lastInstalled appName rest

section Entries

variable (appName app : String) (h : List Entry)

@[simp] theorem lastSaved_saved (n : Nat) :
    lastSaved appName (.saved app n :: h) =
      if app = appName then some n else lastSaved appName h := rfl

@[simp] theorem lastSaved_bundleRemoved :
    lastSaved appName (.bundleRemoved app :: h) =
      if app = appName then none else lastSaved appName h := rfl

@[simp] theorem lastBegan_began (n : Nat) (b : Bool) :
    lastBegan appName (.began app n b :: h) =
      if app = appName then some (n, b) else lastBegan appName h := rfl

@[simp] theorem lastBegan_bundleRemoved :
    lastBegan appName (.bundleRemoved app :: h) = lastBegan appName h := rfl

end Entries

/-- What allows an entry after the ones before it. -/
def Allowed : Entry → List Entry → Prop
  | .put app (.package number), before =>
    ∃ activated, lastBegan app before = some (number, activated) ∧
      (activated = true → lastSaved app before = some number)
  | .put app (.backup savedFor), before => lastSaved app before = some savedFor
  | .marked app true, before =>
    (∃ savedFor, before.head? = some (.put app (.backup savedFor))) ∨
      ∃ percent error, before.head? = some (.report .probationSuccess app percent error)
  | .report .rollbackSuccess app _ _, before =>
    ∃ savedFor rest, before = .marked app true :: .put app (.backup savedFor) :: rest
  | .dividedByZero, _ => False
  | _, _ => True

def Lawful : List Entry → Prop
  | [] => True
  | entry :: before => Allowed entry before ∧ Lawful before

/-- A bundle is ready for the install that began last, if it needs one. -/
def Ready (h : List Entry) (appName : String) (number : Nat) : Prop :=
  ∃ activated, lastBegan appName h = some (number, activated) ∧
    (activated = true → lastSaved appName h = some number)

/-- What the daemon and the timer do in the state of the session. -/
def Phase (s : Session) : Prop :=
  match s.state with
  | .idle => s.daemon = none ∧ s.timer.running = false
  | .installing => s.timer.running = false ∧
    ∃ number, s.daemon = some ⟨s.appName, .package number, true⟩ ∧
      Ready s.history s.appName number
  | .probation => s.daemon = none ∧ s.timer.running = true ∧
    s.timer.expiryCount < s.prbtTime ∧ s.timer.repeatCount = s.prbtTime
  | .probationFail => s.daemon = none ∧ s.timer.running = false ∧
    ∃ req ∈ s.requests, req.event = .rollback
  | .rollback => s.timer.running = false ∧
    ∃ savedFor complete, s.daemon = some ⟨s.appName, .backup savedFor, complete⟩ ∧
      (complete = true → lastSaved s.appName s.history = some savedFor)
  | _ => False

def BundlesSaved (backups : String → Option Bundle) (h : List Entry) : Prop :=
  ∀ appName bundle, backups appName = some bundle → bundle.complete = true →
    lastSaved appName h = some bundle.savedFor

/-- A probation is requested only where there is a time for it. -/
def Requested (s : Session) : Prop :=
  ∀ req ∈ s.requests, req.event = .probation → s.prbtTime ≠ 0

structure Base (s : Session) : Prop where
  lawful : Lawful s.history
  bundles : BundlesSaved s.backups s.history
  requested : Requested s

structure Inv (s : Session) : Prop extends Base s where
  phase : Phase s

theorem inv_initial (apps : String → Option AppNode) (prbtTime : Nat) :
    Inv (initial apps prbtTime) where
  lawful := trivial
  bundles := by simp [BundlesSaved, initial]
  requested := by simp [Requested, initial]
  phase := ⟨rfl, rfl⟩

section Parts

variable {s : Session}

theorem Base.idle (h : Base s) (hdaem : s.daemon = none) (htim : s.timer.running = false) :
    Inv { s with state := .idle } where
  toBase := ⟨h.lawful, h.bundles, h.requested⟩
  phase := ⟨hdaem, htim⟩

variable {state : UpdateState}

/-- A report is allowed anywhere, but for the success of a rollback. -/
theorem allowed_report (hst : state ≠ .rollbackSuccess) (app : String)
    (percent : Nat) (error : UpdateError) (before : List Entry) :
    Allowed (.report state app percent error) before := by
  cases state <;> first | exact absurd rfl hst | trivial

theorem Inv.report (h : Inv s) (hst : state ≠ .rollbackSuccess)
    (app : String) (percent : Nat) (error : UpdateError) :
    Inv (log s (.report state app percent error)) where
  lawful := ⟨allowed_report hst app percent error s.history, h.lawful⟩
  bundles := h.bundles
  requested := h.requested
  phase := h.phase

theorem Inv.updateProgress (h : Inv (enterState s state))
    (hst : state ≠ .rollbackSuccess) (percent : Nat) (error : UpdateError) :
    Inv (updateProgress s state percent error) :=
  h.report hst _ percent error

theorem Base.marked (h : Base s) (appName : String) : Base (updateAppNode s appName false) where
  lawful := ⟨trivial, h.lawful⟩
  bundles := h.bundles
  requested := h.requested

variable {backups : String → Option Bundle} {hist : List Entry}

section

variable (h : BundlesSaved backups hist)
include h

/-- A bundle that is not complete may take the place of one that is. -/
theorem BundlesSaved.broken (appName : String) (number : Nat) :
    BundlesSaved (update backups appName (some ⟨number, false⟩)) hist := by
  intro app bundle hbun hcomp
  by_cases happ : app = appName
  · subst happ
    rw [update_self] at hbun
    cases hbun
    cases hcomp
  · rw [update_of_ne happ] at hbun
    exact h app bundle hbun hcomp

theorem BundlesSaved.saved (appName : String) (number : Nat) :
    BundlesSaved (update backups appName (some ⟨number, true⟩))
      (.saved appName number :: hist) := by
  intro app bundle hbun hcomp
  by_cases happ : app = appName
  · subst happ
    rw [update_self] at hbun
    cases hbun
    simp
  · rw [update_of_ne happ] at hbun
    rw [lastSaved_saved, if_neg (Ne.symm happ)]
    exact h app bundle hbun hcomp

theorem BundlesSaved.removed (appName : String) :
    BundlesSaved (update backups appName none) (.bundleRemoved appName :: hist) := by
  intro app bundle hbun hcomp
  by_cases happ : app = appName
  · subst happ
    rw [update_self] at hbun
    cases hbun
  · rw [update_of_ne happ] at hbun
    rw [lastSaved_bundleRemoved, if_neg (Ne.symm happ)]
    exact h app bundle hbun hcomp

end

theorem Base.backupApp (h : Base s) (number : Nat) (backup : Backup) :
    Base (backupApp s number backup).1 := by
  cases backup with
  | notCopied => exact h
  | notPacked | notOpened => exact ⟨h.lawful, h.bundles.broken s.appName number, h.requested⟩
  | notCleaned | done =>
    exact ⟨⟨trivial, h.lawful⟩, h.bundles.saved s.appName number, h.requested⟩

theorem backupApp_same (s : Session) (number : Nat) (backup : Backup) :
    (backupApp s number backup).1.state = s.state ∧
      (backupApp s number backup).1.appName = s.appName ∧
      (backupApp s number backup).1.daemon = s.daemon ∧
      (backupApp s number backup).1.timer = s.timer := by
  cases backup <;> exact ⟨rfl, rfl, rfl, rfl⟩

theorem ready_backupApp {number : Nat} {backup : Backup} {activated : Bool}
    (hbega : lastBegan s.appName s.history = some (number, activated))
    (hdone : (backupApp s number backup).2 = true) :
    Ready (backupApp s number backup).1.history s.appName number := by
  cases backup with
  | done =>
    refine ⟨activated, ?_, fun _ => ?_⟩
    · exact hbega
    · simp [backupApp, log]
  | _ => simp [backupApp] at hdone

/-! ### Installs -/

theorem Base.installFail (h : Base s) (hdaem : s.daemon = none)
    (htim : s.timer.running = false) (percent : Nat) (error : UpdateError) :
    Inv (updateProgress s .installFail percent error) := by
  have hidle : Inv (enterState s .installFail) := h.idle hdaem htim
  exact hidle.updateProgress (by decide) percent error

theorem Base.rollbackFail (h : Base s) (hdaem : s.daemon = none)
    (htim : s.timer.running = false) (percent : Nat) (error : UpdateError) :
    Inv (updateProgress s .rollbackFail percent error) := by
  have hidle : Inv (enterState s .rollbackFail) := h.idle hdaem htim
  exact hidle.updateProgress (by decide) percent error

theorem Base.installPackage (h : Base s) (hst : s.state = .installing)
    (hdaem : s.daemon = none) (htim : s.timer.running = false) {number : Nat}
    (hrdy : Ready s.history s.appName number) (env : Env) :
    Inv (installPackage s env number) := by
  unfold AppMgmt.installPackage
  by_cases hopen : env.opened = true
  · rw [if_neg (not_not.2 hopen), startUpdate]
    by_cases hstrt : env.started = true ∧ s.daemon = none
    · rw [if_pos hstrt]
      refine ⟨⟨h.lawful, h.bundles, h.requested⟩, ?_⟩
      simp only [hst]
      exact ⟨htim, number, rfl, hrdy⟩
    · rw [if_neg hstrt]
      exact h.installFail hdaem htim 0 .badPackage
  · rw [if_pos hopen]
    exact h.installFail hdaem htim 0 .packageNotFound

theorem Base.install (h : Base s) (hdaem : s.daemon = none) (htim : s.timer.running = false)
    (env : Env) : Inv (install s env) := by
  unfold AppMgmt.install
  dsimp only
  generalize hbega : log { s with installs := s.installs + 1, state := UpdateState.installing }
    (.began s.appName s.installs (isActivated s s.appName)) = began
  have hbase : Base began := by
    subst hbega
    exact ⟨⟨trivial, h.lawful⟩, h.bundles, h.requested⟩
  have hdaem' : began.daemon = none := by rw [← hbega]; exact hdaem
  have htim' : began.timer.running = false := by rw [← hbega]; exact htim
  have hst : began.state = .installing := by rw [← hbega]; rfl
  have hlast : lastBegan began.appName began.history =
      some (s.installs, isActivated s s.appName) := by
    subst hbega
    simp [log]
  obtain ⟨hsame, happ, hsam, hsmTm⟩ := backupApp_same began s.installs env.backup
  split_ifs with hinvalid hactv hdone
  · exact hbase.installFail hdaem' htim' 0 .badPackage
  · apply (hbase.backupApp s.installs env.backup).installPackage
    · rw [hsame, hst]
    · rw [hsam, hdaem']
    · rw [hsmTm, htim']
    · rw [happ]
      exact ready_backupApp hlast hdone
  · apply (hbase.backupApp s.installs env.backup).installFail
    · rw [hsam, hdaem']
    · rw [hsmTm, htim']
  · apply hbase.installPackage hst hdaem' htim'
    exact ⟨_, hlast, fun htrue => absurd htrue hactv⟩

/-! ### Rollbacks -/

theorem Base.rollback (h : Base s) (hdaem : s.daemon = none) (htim : s.timer.running = false)
    (env : Env) : Inv (rollback s env) := by
  unfold AppMgmt.rollback
  dsimp only
  have hbase : Base { s with state := .rollback } := ⟨h.lawful, h.bundles, h.requested⟩
  rcases hbun : s.backups s.appName with _ | bundle
  · exact hbase.rollbackFail hdaem htim 0 .packageNotFound
  dsimp only
  by_cases hopen : env.opened = true
  · rw [if_neg (not_not.2 hopen), startUpdate]
    by_cases hstrt : env.started = true ∧ s.daemon = none
    · rw [if_pos hstrt]
      refine ⟨⟨h.lawful, h.bundles, h.requested⟩, ?_⟩
      exact ⟨htim, bundle.savedFor, bundle.complete, rfl,
        fun hcomp => h.bundles s.appName bundle hbun hcomp⟩
    · rw [if_neg hstrt]
      exact hbase.rollbackFail hdaem htim 0 .badPackage
  · rw [if_pos hopen]
    exact hbase.rollbackFail hdaem htim 0 .packageNotFound

/-! ### Requests -/

variable {rest : List Request}

theorem Inv.refuse (h : Inv s) (hst : s.state ≠ .probationFail) {req : Request}
    (hreqs : s.requests = req :: rest) : Inv { s with requests := rest } where
  lawful := h.lawful
  bundles := h.bundles
  requested := by
    intro other hoth
    exact h.requested other (by rw [hreqs]; exact mem_cons_of_mem req hoth)
  phase := by
    have hphs := h.phase
    unfold Phase at hphs ⊢
    cases hs : s.state <;> simp_all

theorem Base.startProbation (h : Base s) (hdaem : s.daemon = none) (htime : s.prbtTime ≠ 0) :
    Inv (startTimer { s with state := .probation }) where
  lawful := h.lawful
  bundles := h.bundles
  requested := h.requested
  phase := ⟨hdaem, rfl, Nat.pos_of_ne_zero htime, rfl⟩

theorem Inv.handle (h : Inv s) (env : Env) {req : Request} (hreqs : s.requests = req :: rest) :
    Inv (appUpdateHandler { s with requests := rest } env req) := by
  have hrest : Requested { s with requests := rest } := by
    intro other hoth
    exact h.requested other (by rw [hreqs]; exact mem_cons_of_mem req hoth)
  have hphs := h.phase
  unfold appUpdateHandler
  cases hst : s.state with
  | idle =>
    simp only [Phase, hst] at hphs
    obtain ⟨hdaem, htim⟩ := hphs
    have hbase : Base { s with requests := rest, appName := req.appName } :=
      ⟨h.lawful, h.bundles, hrest⟩
    cases hev : req.event with
    | install => exact hbase.install hdaem htim env
    | probation =>
      have htime : s.prbtTime ≠ 0 := h.requested req (by simp [hreqs]) hev
      exact hbase.startProbation hdaem htime
    | rollback => exact ⟨⟨h.lawful, h.bundles, hrest⟩, hdaem, htim⟩
  | probationFail =>
    simp only [Phase, hst] at hphs
    obtain ⟨hdaem, htim, other, hoth, hroll⟩ := hphs
    have hwts : req.event ≠ .rollback → ∃ waiting ∈ rest, waiting.event = .rollback := by
      intro hev
      rw [hreqs] at hoth
      obtain heq | hmem := mem_cons.1 hoth
      · exact absurd (heq ▸ hroll) hev
      · exact ⟨other, hmem, hroll⟩
    cases hev : req.event with
    | install | probation =>
      exact ⟨⟨h.lawful, h.bundles, hrest⟩, hdaem, htim, hwts (by rw [hev]; decide)⟩
    | rollback =>
      have hbase : Base { s with state := .probationFail, requests := rest } :=
        ⟨h.lawful, h.bundles, hrest⟩
      exact hbase.rollback hdaem htim env
  | _ =>
    have hrefu := h.refuse (by rw [hst]; decide) hreqs
    rw [hst] at hrefu
    exact hrefu

theorem Inv.request (h : Inv s) {event : Event} (appName : String)
    (hev : event = .probation → s.prbtTime ≠ 0) : Inv (request s event appName) where
  lawful := h.lawful
  bundles := h.bundles
  requested := by
    intro req hreq
    obtain hold | hnew := mem_append.1 hreq
    · exact h.requested req hold
    · rw [mem_singleton.1 hnew]
      exact hev
  phase := by
    have hphs := h.phase
    unfold Phase at hphs ⊢
    cases hs : s.state with
    | probationFail =>
      simp only [hs] at hphs
      obtain ⟨hdaem, htim, req, hreq, hroll⟩ := hphs
      simp only [AppMgmt.request, hs]
      exact ⟨hdaem, htim, req, mem_append_left _ hreq, hroll⟩
    | _ => simp_all [AppMgmt.request]

theorem Inv.start (h : Inv s) (appName : String) : Inv (start s appName) := by
  unfold AppMgmt.start
  split_ifs with hprob
  · exact h.request appName fun _ => hprob.2
  · exact h

theorem Inv.uninstall (h : Inv s) (appName : String) (removed : Bool) :
    Inv (uninstall s appName removed) := by
  unfold AppMgmt.uninstall
  by_cases hbusy : appName = s.appName ∧ s.state ≠ .idle
  · rw [if_pos hbusy]
    exact h
  rw [if_neg hbusy]
  refine ⟨⟨⟨trivial, h.lawful⟩, h.bundles.removed appName, h.requested⟩, ?_⟩
  have hphs := h.phase
  have hoth : s.state ≠ .idle → appName ≠ s.appName :=
    fun hidle happ => hbusy ⟨happ, hidle⟩
  unfold Phase at hphs ⊢
  cases hs : s.state with
  | installing =>
    simp_all [log, Ready]
  | rollback =>
    simp_all [log]
  | _ => simp_all [log]

/-! ### Probation -/

theorem Inv.probation (h : Inv s) (hruns : s.timer.running = true) :
    s.state = .probation ∧ s.timer.expiryCount < s.prbtTime := by
  have hphs := h.phase
  unfold Phase at hphs
  cases hs : s.state <;> simp_all

theorem Inv.expire (h : Inv s) (hruns : s.timer.running = true) (stopped : Bool) :
    Inv (probationTimerHandler (expire s) stopped) := by
  obtain ⟨hprob, hcnt⟩ := h.probation hruns
  have hphs := h.phase
  simp only [Phase, hprob] at hphs
  obtain ⟨hdaem, -, -, hrepe⟩ := hphs
  have hbase : Base (AppMgmt.expire s) := ⟨h.lawful, h.bundles, h.requested⟩
  have hstop : Base (stopTimer (AppMgmt.expire s)) := ⟨h.lawful, h.bundles, h.requested⟩
  have htime : ¬ (AppMgmt.expire s).prbtTime = 0 := Nat.ne_of_gt (Nat.zero_lt_of_lt hcnt)
  unfold probationTimerHandler
  rw [if_neg htime]
  by_cases hlast : (AppMgmt.expire s).timer.expiryCount ≥ (AppMgmt.expire s).prbtTime
  · rw [if_pos hlast]
    have hidle : Inv (enterState (stopTimer (AppMgmt.expire s)) .probationSuccess) :=
      hstop.idle hdaem rfl
    have hrpt := hidle.updateProgress (by decide) 100 .none
    refine ⟨⟨⟨.inr ⟨100, .none, rfl⟩, hrpt.lawful⟩, hrpt.bundles, hrpt.requested⟩, ?_⟩
    exact hrpt.phase
  rw [if_neg hlast]
  cases stopped with
  | true =>
    have hfail : Inv (enterState (stopTimer (AppMgmt.expire s)) .probationFail) := by
      refine ⟨⟨h.lawful, h.bundles, ?_⟩, hdaem, rfl, ⟨.rollback, ""⟩, ?_, rfl⟩
      · intro req hreq
        obtain hold | hnew := mem_append.1 hreq
        · exact h.requested req hold
        · rw [mem_singleton.1 hnew]
          exact fun hev => absurd hev (by decide)
      · exact mem_append_right _ (mem_singleton_self _)
    exact hfail.updateProgress (by decide) _ .appNotRunning
  | false =>
    have hgoes : Inv (enterState (AppMgmt.expire s) .probation) := by
      refine ⟨hbase, ?_⟩
      have hless : s.timer.expiryCount + 1 < s.prbtTime := Nat.not_le.1 hlast
      simp [enterState, Phase, AppMgmt.expire, hprob, hdaem, hless, hrepe]
    exact hgoes.updateProgress (by decide) _ .none

/-! ### The daemon -/

theorem Base.putApp (h : Base s) (u : DaemonUpdate) (startManual kept : Bool)
    (hput : Allowed (.put u.appName u.source) s.history) : Base (putApp s u startManual kept) where
  lawful := ⟨hput, h.lawful⟩
  bundles := h.bundles
  requested := h.requested

/-- With the app put in place its probation starts, or the update is over. -/
theorem Base.installSuccess (h : Base s) (hdaem : s.daemon = none)
    (htim : s.timer.running = false) (percent : Nat) :
    Inv (updateProgress s .installSuccess percent .none) := by
  have hmrk := h.marked s.appName
  have hinst : Inv (enterState s .installSuccess) := by
    unfold enterState installed
    split_ifs with hmanual htime
    · exact hmrk.idle hdaem htim
    · exact hmrk.startProbation hdaem htime
    · exact hmrk.idle hdaem htim
  exact hinst.updateProgress (by decide) percent .none

theorem Base.rollbackSuccess (h : Base s) (hdaem : s.daemon = none)
    (htim : s.timer.running = false) {savedFor : Nat} {rest : List Entry}
    (hput : s.history = .put s.appName (.backup savedFor) :: rest) (percent : Nat) :
    Inv (updateProgress s .rollbackSuccess percent .none) where
  lawful := by
    refine ⟨⟨savedFor, rest, ?_⟩, ⟨.inl ⟨savedFor, ?_⟩, h.lawful⟩⟩
    · simp [enterState, updateAppNode, log, hput]
    · simp [hput]
  bundles := h.bundles
  requested := h.requested
  phase := ⟨hdaem, htim⟩

variable {u : DaemonUpdate}
variable (h : Inv s)
include h

section

variable (hdaem : s.daemon = some u)
include hdaem

/-- An update of the daemon belongs to an install or to a rollback. -/
theorem Inv.updating :
    s.timer.running = false ∧ u.appName = s.appName ∧
      ((s.state = .installing ∧ ∃ number, u.source = .package number) ∨
        (s.state = .rollback ∧ ∃ savedFor, u.source = .backup savedFor)) := by
  have hphs := h.phase
  unfold Phase at hphs
  cases hst : s.state with
  | installing =>
    simp only [hst] at hphs
    obtain ⟨htim, number, hupd, -⟩ := hphs
    obtain rfl : u = ⟨s.appName, .package number, true⟩ := some.inj (hdaem ▸ hupd)
    exact ⟨htim, rfl, .inl ⟨rfl, number, rfl⟩⟩
  | rollback =>
    simp only [hst] at hphs
    obtain ⟨htim, savedFor, complete, hupd, -⟩ := hphs
    obtain rfl : u = ⟨s.appName, .backup savedFor, complete⟩ := some.inj (hdaem ▸ hupd)
    exact ⟨htim, rfl, .inr ⟨rfl, savedFor, rfl⟩⟩
  | _ => simp_all

theorem Inv.allowed_put
    (hcomp : u.complete = true) : Allowed (.put u.appName u.source) s.history := by
  have hphs := h.phase
  unfold Phase at hphs
  cases hst : s.state with
  | installing =>
    simp only [hst] at hphs
    obtain ⟨-, number, hupd, hrdy⟩ := hphs
    obtain rfl : u = ⟨s.appName, .package number, true⟩ := some.inj (hdaem ▸ hupd)
    exact hrdy
  | rollback =>
    simp only [hst] at hphs
    obtain ⟨-, savedFor, complete, hupd, hsave⟩ := hphs
    obtain rfl : u = ⟨s.appName, .backup savedFor, complete⟩ := some.inj (hdaem ▸ hupd)
    exact hsave hcomp
  | _ => simp_all

theorem Inv.succeeded (hcomp : u.complete = true) (percent : Nat) (startManual kept : Bool) :
    Inv (installHandlerSuccess (putApp s u startManual kept) percent) := by
  have hbase := h.toBase.putApp u startManual kept (h.allowed_put hdaem hcomp)
  obtain ⟨htim, happ, ⟨hst, -⟩ | ⟨hst, savedFor, hsrc⟩⟩ := h.updating hdaem
  · have hnow : (putApp s u startManual kept).state = .installing := hst
    rw [installHandlerSuccess, if_pos hnow]
    exact hbase.installSuccess rfl htim percent
  have hnow : (putApp s u startManual kept).state = .rollback := hst
  have hnot : ¬ (putApp s u startManual kept).state = .installing := by
    rw [hnow]
    decide
  rw [installHandlerSuccess, if_neg hnot, if_pos hnow]
  have hput : (putApp s u startManual kept).history =
      .put (putApp s u startManual kept).appName (.backup savedFor) :: s.history := by
    rw [← hsrc]
    change Entry.put u.appName u.source :: s.history = .put s.appName u.source :: s.history
    rw [happ]
  exact hbase.rollbackSuccess rfl htim hput percent

theorem Inv.failed (percent code : Nat) :
    Inv (installHandlerFailed { s with daemon := none } percent code) := by
  have hbase : Base { s with daemon := none } := ⟨h.lawful, h.bundles, h.requested⟩
  obtain ⟨htim, -, ⟨hst, -⟩ | ⟨hst, -⟩⟩ := h.updating hdaem
  · have hnow : ({ s with daemon := none } : Session).state = .installing := hst
    rw [installHandlerFailed, if_pos hnow]
    exact hbase.installFail rfl htim percent (.update code)
  have hnow : ({ s with daemon := none } : Session).state = .rollback := hst
  have hnot : ¬ ({ s with daemon := none } : Session).state = .installing := by
    rw [hnow]
    decide
  rw [installHandlerFailed, if_neg hnot, if_pos hnow]
  exact hbase.rollbackFail rfl htim percent (.update code)

theorem Inv.unpacking (percent : Nat) : Inv (AppMgmt.updateProgress s s.state percent .none) := by
  obtain ⟨-, -, ⟨hst, -⟩ | ⟨hst, -⟩⟩ := h.updating hdaem
  · have hsame : Inv (enterState s .installing) := h
    rw [hst]
    exact hsame.updateProgress (by decide) percent .none
  · have hsame : Inv (enterState s .rollback) := h
    rw [hst]
    exact hsame.updateProgress (by decide) percent .none

end

/-- An update that the daemon finished at a restart is put as any other. -/
theorem Inv.finishWithProcess (finished : Option (Bool × Bool)) :
    Base (finishWithProcess s finished) := by
  unfold AppMgmt.finishWithProcess
  rcases hdaem : s.daemon with _ | u
  · exact h.toBase
  rcases finished with _ | node
  · exact h.toBase
  dsimp only
  by_cases hcomp : u.complete = true
  · rw [if_pos hcomp]
    exact h.toBase.putApp u node.1 node.2 (h.allowed_put hdaem hcomp)
  · rw [if_neg hcomp]
    exact h.toBase

theorem Inv.restart (prbtTime : Nat) (finished : Option (Bool × Bool)) :
    Inv (restart s prbtTime finished) where
  lawful := (h.finishWithProcess finished).lawful
  bundles := (h.finishWithProcess finished).bundles
  requested := fun _ hreq => absurd hreq not_mem_nil
  phase := ⟨rfl, rfl⟩

end Parts

theorem inv_step {s t : Session} {a : Action} (h : Inv s) (hstep : step s a = some t) : Inv t := by
  cases a with
  | startInstall appName =>
    cases hstep
    exact h.request appName (fun hev => absurd hev (by decide))
  | start appName =>
    cases hstep
    exact h.start appName
  | uninstall appName removed =>
    cases hstep
    exact h.uninstall appName removed
  | handle env =>
    simp only [step] at hstep
    rcases hreqs : s.requests with _ | ⟨req, rest⟩
    · simp [hreqs] at hstep
    simp only [hreqs] at hstep
    cases hstep
    exact h.handle env hreqs
  | expire stopped =>
    obtain ⟨hruns, ⟨⟩⟩ := ite_none_right_eq_some.1 hstep
    exact h.expire hruns stopped
  | unpacking percent =>
    simp only [step] at hstep
    rcases hdaem : s.daemon with _ | u
    · simp [hdaem] at hstep
    simp only [hdaem] at hstep
    cases hstep
    exact h.unpacking hdaem percent
  | succeeded percent startManual kept =>
    simp only [step] at hstep
    rcases hdaem : s.daemon with _ | u
    · simp [hdaem] at hstep
    simp only [hdaem] at hstep
    obtain ⟨hcomp, ⟨⟩⟩ := ite_none_right_eq_some.1 hstep
    exact h.succeeded hdaem hcomp percent startManual kept
  | failed percent code =>
    simp only [step] at hstep
    rcases hdaem : s.daemon with _ | u
    · simp [hdaem] at hstep
    simp only [hdaem] at hstep
    cases hstep
    exact h.failed hdaem percent code
  | restart prbtTime finished =>
    cases hstep
    exact h.restart prbtTime finished

end TelAF.AppMgmt
