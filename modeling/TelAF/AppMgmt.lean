import Mathlib.Data.UInt

/-!
# App updates

One session installs apps one after the other. An app that is active is backed up before its
update; after it a timer watches the app for the time of its probation, and an app that is found
stopped is rolled back to its bundle. Requests are queued to the thread of the updates, where
the progress of the update daemon and the expiries of the timer are handled too. An update of the
daemon belongs to the process that started it and ends with it.

Beside the session stands its history, the newest entry first, with a number for each install.
-/

namespace TelAF.AppMgmt

inductive UpdateState where
  | idle
  | installing
  | installSuccess
  | installFail
  | probation
  | probationSuccess
  | probationFail
  | rollback
  | rollbackSuccess
  | rollbackFail
deriving DecidableEq

inductive UpdateError where
  | none
  | badPackage
  | internalError
  | packageNotFound
  | appNotRunning
  | update (code : Nat)
deriving DecidableEq

structure AppNode where
  activated : Option Bool
  startManual : Bool

/-- A bundle that was packed before an install; without its header it is not complete. -/
structure Bundle where
  savedFor : Nat
  complete : Bool

/-- What the daemon installs: the package of an install, or the bundle saved for one. -/
inductive Source where
  | package (number : Nat)
  | backup (savedFor : Nat)
deriving DecidableEq

structure DaemonUpdate where
  appName : String
  source : Source
  complete : Bool

structure Timer where
  running : Bool
  expiryCount : Nat
  repeatCount : Nat

inductive Event where
  | install
  | probation
  | rollback
deriving DecidableEq

structure Request where
  event : Event
  appName : String

inductive Entry where
  | began (appName : String) (number : Nat) (activated : Bool)
  | saved (appName : String) (number : Nat)
  | bundleRemoved (appName : String)
  | put (appName : String) (source : Source)
  | marked (appName : String) (activated : Bool)
  | report (state : UpdateState) (appName : String) (percent : Nat) (error : UpdateError)
  | dividedByZero
deriving DecidableEq

structure Session where
  state : UpdateState
  appName : String
  prbtTime : Nat
  timer : Timer
  requests : List Request
  apps : String → Option AppNode
  backups : String → Option Bundle
  daemon : Option DaemonUpdate
  installs : Nat
  history : List Entry

inductive Backup where
  | notCopied
  | notPacked
  | notOpened
  | notCleaned
  | done
deriving DecidableEq

/-- What files and the daemon do while a request is handled. -/
structure Env where
  valid : Bool
  backup : Backup
  opened : Bool
  started : Bool

variable (s : Session)

def isSysApp (appName : String) : Bool :=
  match s.apps appName with
  | none => false
  | some node => node.activated.isNone

/-- An app whose node says nothing counts as activated. -/
def isActivated (appName : String) : Bool :=
  match s.apps appName with
  | none => false
  | some node => node.activated.getD true

def isStartManual (appName : String) : Bool :=
  match s.apps appName with
  | none => false
  | some node => node.startManual

def log (entry : Entry) : Session := { s with history := entry :: s.history }

def updateAppNode (appName : String) (activated : Bool) : Session :=
  log { s with
    apps := Function.update s.apps appName (some ⟨some activated, isStartManual s appName⟩) }
    (.marked appName activated)

def request (event : Event) (appName : String) : Session :=
  { s with requests := s.requests ++ [⟨event, appName⟩] }

def startTimer : Session := { s with timer := ⟨true, 0, s.prbtTime⟩ }
def stopTimer : Session := { s with timer := { s.timer with running := false } }

/-- After an install the probation starts, for an app that starts by itself. -/
def installed : Session :=
  if isStartManual s s.appName then { s with state := .idle }
  else if s.prbtTime ≠ 0 then startTimer { s with state := .probation }
  else { s with state := .idle }

/-- The request for the rollback names no app. -/
def enterState (state : UpdateState) : Session :=
  match state with
  | .installFail | .probationSuccess | .rollbackFail => { s with state := .idle }
  | .installSuccess => installed (updateAppNode s s.appName false)
  | .probationFail => request { s with state := .probationFail } .rollback ""
  | .rollbackSuccess => { updateAppNode s s.appName true with state := .idle }
  | .idle | .installing | .probation | .rollback => s

def updateProgress (state : UpdateState) (percent : Nat) (error : UpdateError) : Session :=
  let t := enterState s state
  log t (.report state t.appName percent error)

def probationPercent (time : Nat) : Nat := time * 100 % 2 ^ 32 / s.prbtTime

def probationTimerHandler (stopped : Bool) : Session :=
  if s.prbtTime = 0 then log s .dividedByZero
  else if s.timer.expiryCount ≥ s.prbtTime then
    let t := updateProgress (stopTimer s) .probationSuccess 100 .none
    updateAppNode t t.appName true
  else if stopped then
    updateProgress (stopTimer s) .probationFail (probationPercent s s.timer.expiryCount)
      .appNotRunning
  else updateProgress s .probation (probationPercent s s.timer.expiryCount) .none

/-- A timer that repeats a number of times stops after it. -/
def expire : Session :=
  { s with timer :=
    { s.timer with
      expiryCount := s.timer.expiryCount + 1
      running :=
        decide (s.timer.repeatCount = 0 ∨ s.timer.expiryCount + 1 < s.timer.repeatCount) } }

/-- The bundle is packed and given its header; after that only the cleaning up can fail. -/
def backupApp (number : Nat) (backup : Backup) : Session × Bool :=
  match backup with
  | .notCopied => (s, false)
  | .notPacked | .notOpened =>
    ({ s with backups := Function.update s.backups s.appName (some ⟨number, false⟩) }, false)
  | .notCleaned | .done =>
    (log { s with backups := Function.update s.backups s.appName (some ⟨number, true⟩) }
      (.saved s.appName number), decide (backup = .done))

def startUpdate (env : Env) (source : Source) (complete : Bool) : Option Session :=
  if env.started = true ∧ s.daemon = none then
    some { s with daemon := some ⟨s.appName, source, complete⟩ }
  else none

def installPackage (env : Env) (number : Nat) : Session :=
  if ¬ env.opened then updateProgress s .installFail 0 .packageNotFound
  else
    match startUpdate s env (.package number) true with
    | some t => t
    | none => updateProgress s .installFail 0 .badPackage

def install (env : Env) : Session :=
  let number := s.installs
  let began := log { s with installs := s.installs + 1, state := .installing }
    (.began s.appName number (isActivated s s.appName))
  if isSysApp s s.appName ∨ ¬ env.valid then updateProgress began .installFail 0 .badPackage
  else if isActivated s s.appName then
    let backed := backupApp began number env.backup
    if backed.2 then installPackage backed.1 env number
    else updateProgress backed.1 .installFail 0 .internalError
  else installPackage began env number

def rollback (env : Env) : Session :=
  let s := { s with state := .rollback }
  match s.backups s.appName with
  | none => updateProgress s .rollbackFail 0 .packageNotFound
  | some bundle =>
    if ¬ env.opened then updateProgress s .rollbackFail 0 .packageNotFound
    else
      match startUpdate s env (.backup bundle.savedFor) bundle.complete with
      | some t => t
      | none => updateProgress s .rollbackFail 0 .badPackage

def appUpdateHandler (env : Env) (req : Request) : Session :=
  match s.state with
  | .idle =>
    let s := { s with appName := req.appName }
    match req.event with
    | .install => install s env
    | .probation => startTimer { s with state := .probation }
    | .rollback => s
  | .probationFail =>
    match req.event with
    | .rollback => rollback s env
    | .install | .probation => s
  | _ => s

/-- The app is put in the place of the one before; its node is kept or written anew. -/
def putApp (u : DaemonUpdate) (startManual kept : Bool) : Session :=
  log { s with
    daemon := none
    apps := Function.update s.apps u.appName
      (some ⟨if kept then (s.apps u.appName).bind AppNode.activated else none, startManual⟩) }
    (.put u.appName u.source)

def installHandlerSuccess (percent : Nat) : Session :=
  if s.state = .installing then updateProgress s .installSuccess percent .none
  else if s.state = .rollback then updateProgress s .rollbackSuccess percent .none
  else s

def installHandlerFailed (percent code : Nat) : Session :=
  if s.state = .installing then updateProgress s .installFail percent (.update code)
  else if s.state = .rollback then updateProgress s .rollbackFail percent (.update code)
  else s

/-- Calls of the service, requests and expiries that the thread handles, the progress of the
daemon, and restarts, where the daemon may have finished its update. -/
inductive Action where
  | startInstall (appName : String)
  | start (appName : String)
  | uninstall (appName : String) (removed : Bool)
  | handle (env : Env)
  | expire (stopped : Bool)
  | unpacking (percent : Nat)
  | succeeded (percent : Nat) (startManual kept : Bool)
  | failed (percent code : Nat)
  | restart (prbtTime : Nat) (finished : Option (Bool × Bool))

/-- An app that is not activated is started with a probation. -/
def start (appName : String) : Session :=
  if isActivated s appName = false ∧ s.prbtTime ≠ 0 then request s .probation appName else s

def uninstall (appName : String) (removed : Bool) : Session :=
  if appName = s.appName ∧ s.state ≠ .idle then s
  else log { s with
    backups := Function.update s.backups appName none
    apps := if removed then Function.update s.apps appName none else s.apps }
    (.bundleRemoved appName)

def finishWithProcess (finished : Option (Bool × Bool)) : Session :=
  match s.daemon, finished with
  | some u, some (startManual, kept) => if u.complete then putApp s u startManual kept else s
  | _, _ => s

def restart (prbtTime : Nat) (finished : Option (Bool × Bool)) : Session :=
  { finishWithProcess s finished with
    state := .idle
    appName := ""
    prbtTime := prbtTime
    timer := ⟨false, 0, 0⟩
    requests := []
    daemon := none }

def step : Action → Option Session
  | .startInstall appName => some (request s .install appName)
  | .start appName => some (start s appName)
  | .uninstall appName removed => some (uninstall s appName removed)
  | .handle env =>
    match s.requests with
    | [] => none
    | req :: rest => some (appUpdateHandler { s with requests := rest } env req)
  | .expire stopped =>
    if s.timer.running then some (probationTimerHandler (expire s) stopped) else none
  | .unpacking percent =>
    match s.daemon with
    | none => none
    | some _ => some (updateProgress s s.state percent .none)
  | .succeeded percent startManual kept =>
    match s.daemon with
    | none => none
    | some u =>
      if u.complete then some (installHandlerSuccess (putApp s u startManual kept) percent) else none
  | .failed percent code =>
    match s.daemon with
    | none => none
    | some _ => some (installHandlerFailed { s with daemon := none } percent code)
  | .restart prbtTime finished => some (restart s prbtTime finished)

/-- A service without a bundle, with any apps. -/
def initial (apps : String → Option AppNode) (prbtTime : Nat) : Session where
  state := .idle
  appName := ""
  prbtTime := prbtTime
  timer := ⟨false, 0, 0⟩
  requests := []
  apps := apps
  backups := fun _ => none
  daemon := none
  installs := 0
  history := []

end TelAF.AppMgmt
