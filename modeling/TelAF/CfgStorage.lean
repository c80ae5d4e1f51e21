import Mathlib.Data.List.Basic

/-!
# The configuration storage

An update campaign brings a configuration from the update path to the file of the active
configuration and into the configuration tree. The service keeps the state of the campaign in
another tree, a backup of the active file, and both storages locked between calls. What files,
the plug-in, the trees, the secure storage and the locks of the storages do in one call is an
environment; the sizes of names and paths are left out.
-/

namespace TelAF.CfgStorage

inductive UpdateState where
  | updateCompleted
  | updateFailed
  | activateCompleted
  | activateFailed
  | cancelCompleted
  | cancelFailed
  | rollbackCompleted
  | rollbackFailed
  | commitCompleted
  | commitFailed
deriving DecidableEq

inductive Result where
  | ok
  | fault
  | notPermitted
  | notFound
  | outOfRange
  | formatError
deriving DecidableEq

structure Version where
  major : Nat
  minor : Nat
  patch : Nat

namespace Version

def text (v : Version) : String :=
  toString v.major ++ "." ++ toString v.minor ++ "." ++ toString v.patch

/-- One of the numbers is higher, whatever the others are. -/
def exceeds (v current : Version) : Bool :=
  decide (current.major < v.major ∨ current.minor < v.minor ∨ current.patch < v.patch)

end Version

/-- The content of a configuration file, with what the service reads of it. -/
structure Config where
  text : Nat
  readable : Bool
  deep : Bool
  majorVersion : Option Nat
  minorVersion : Option Nat
  patchVersion : Option Nat
deriving DecidableEq

namespace Config

/-- A number that is not there counts as zero. -/
def declared (c : Config) : Version :=
  ⟨c.majorVersion.getD 0, c.minorVersion.getD 0, c.patchVersion.getD 0⟩

def intMax : Nat := 2147483647

/-- The version in the tree, if all its nodes are there with a value of their own. -/
def version (c : Config) : Option Version :=
  match c.majorVersion, c.minorVersion, c.patchVersion with
  | some major, some minor, some patch =>
    if major ≠ intMax ∧ minor ≠ intMax ∧
      patch ≠ intMax then some ⟨major, minor, patch⟩ else none
  | _, _, _ => none

end Config

/-- A copy of a file succeeds, or fails with the target as it was or with what was left of it.
The error is what `errno` holds, which a short write does not set. -/
inductive Copy where
  | done
  | failed (errno : Nat) (left : Option Config)
deriving DecidableEq

namespace Copy

def output : Copy → Nat
  | done => 0
  | failed errno _ => errno

def target (source : Config) (old : Option Config) : Copy → Option Config
  | done => some source
  | failed _ none => old
  | failed _ (some rest) => some rest

end Copy

/-- What the service calls upon, as it behaves in one call. -/
structure Env where
  stateRead : Bool
  stateWritten : Bool
  unlockCfg : Bool
  unlockRfs : Bool
  lockCfg : Bool
  lockRfs : Bool
  listing : Option (List String)
  file : String → Option Config
  authentic : Config → Bool
  merge : Option Config → Config → Option Config × Bool
  copied : Copy
  backedUp : Copy
  hashed : Bool
  secured : Bool
  treeCleared : Bool
  imported : Bool
  versionRead : Bool
  updateDeleted : Bool
  backupDeleted : Bool
  configDeleted : Bool

/-- The format of the update files, whether the plug-in is loaded, and the digest. -/
structure Setup where
  isQcmFormat : Bool
  plugin : Bool
  sha256 : Config → Nat

def maxOemConfigFiles : Nat := 5
def maxQcmConfigFiles : Nat := 1

/-- The service: the state of the campaign, the locks, the names of the update files, the files
of the storage, the configuration tree and the digest in the secure storage. -/
structure Mss where
  campaign : Option UpdateState
  cfgLocked : Bool
  rfsLocked : Bool
  configFileData : List (Option String)
  configFile : Option Config
  backupFile : Option Config
  updateFile : Option Config
  tree : Option Config
  activatedHash : Option Nat

variable (setup : Setup) (env : Env) (s : Mss)

/-- A storage that is locked is locked again without effect. -/
def lockStorage : Mss × Result :=
  if ¬ (s.cfgLocked ∨ env.lockCfg) then (s, .fault)
  else if ¬ (s.rfsLocked ∨ env.lockRfs) then ({ s with cfgLocked := true }, .fault)
  else ({ s with cfgLocked := true, rfsLocked := true }, .ok)

def unlockStorage : Mss × Result :=
  if ¬ env.unlockCfg then (s, .fault)
  else if ¬ env.unlockRfs then ({ s with cfgLocked := false }, .fault)
  else ({ s with cfgLocked := false, rfsLocked := false }, .ok)

def setUpdateCampaignState (state : UpdateState) : Mss × Result :=
  if env.stateWritten then ({ s with campaign := some state }, .ok) else (s, .fault)

def clearTree : Mss × Result :=
  if env.treeCleared then ({ s with tree := none }, .ok) else (s, .fault)

def importTree : Mss × Result :=
  match s.configFile with
  | none => (s, .fault)
  | some c => if env.imported then ({ s with tree := some c }, .ok) else (s, .fault)

def getVersion : Option Version := if env.versionRead then s.tree.bind Config.version else none

def andThen (r : Mss × Result) (next : Mss → Mss × Result) : Mss × Result :=
  if r.2 = .ok then next r.1 else r

/-- An error is returned after the storages are locked. -/
def orLocked (r : Mss × Result) (next : Mss → Mss × Result) : Mss × Result :=
  if r.2 = .ok then next r.1 else ((lockStorage env r.1).1, r.2)

/-- An error ends the campaign before the storages are locked. -/
def orFailed (r : Mss × Result) (next : Mss → Mss × Result) : Mss × Result :=
  if r.2 = .ok then next r.1
  else ((lockStorage env (setUpdateCampaignState env r.1 .updateFailed).1).1, r.2)

/-- The states an operation is permitted in, and what it does with the storages unlocked. -/
def startIn (states : List UpdateState) (next : Mss → Mss × Result) : Mss × Result :=
  if ¬ env.stateRead then (s, .fault)
  else
    match s.campaign with
    | none => (s, .notFound)
    | some state =>
      if state ∉ states then (s, .notPermitted) else andThen (unlockStorage env s) next

def finish (state : UpdateState) : Mss × Result :=
  andThen (lockStorage env s) fun s => setUpdateCampaignState env s state

/-- The names found take the first places; the places behind keep what they held. -/
def getFiles (maxFiles : Nat) : Mss × Result :=
  match env.listing with
  | none => (s, .fault)
  | some names =>
    let found := { s with
      configFileData := (names.take maxFiles).map some ++
        s.configFileData.drop (min names.length maxFiles) }
    if names = [] then (s, .notFound)
    else if maxFiles < names.length then (found, .outOfRange)
    else (found, .ok)

def authenticateFiles : List (Option String) → Bool
  | [] => true
  | none :: rest => authenticateFiles rest
  | some name :: rest =>
    match env.file name with
    | none => false
    | some c => setup.plugin && env.authentic c && authenticateFiles rest

def authenticateFile (maxFiles : Nat) : Mss × Result :=
  (s, if authenticateFiles setup env (s.configFileData.take maxFiles) then .ok else .fault)

/-- The update file after the files are merged or copied to it, and whether all were. -/
def convertFiles : List (Option String) → Option Config → Option Config × Bool
  | [], update => (update, true)
  | none :: rest, update => convertFiles rest update
  | some name :: rest, update =>
    match env.file name with
    | none => (update, false)
    | some c =>
      if setup.isQcmFormat then
        if env.copied.output ≠ 0 then (env.copied.target c update, false)
        else convertFiles rest (env.copied.target c update)
      else if ¬ setup.plugin then (update, false)
      else if (env.merge update c).2 then convertFiles rest (env.merge update c).1
      else ((env.merge update c).1, false)

def convertToSingleMssJson (maxFiles : Nat) : Mss × Result :=
  let converted := convertFiles setup env (s.configFileData.take maxFiles) s.updateFile
  ({ s with updateFile := converted.1 }, if converted.2 then .ok else .fault)

def checkSchema (version : String) : Option Config → Result
  | none => .fault
  | some c =>
    if ¬ c.readable then .fault
    else if c.deep then .formatError
    else if c.declared.text ≠ version then .fault
    else if c.declared.exceeds ((getVersion env s).getD ⟨0, 0, 0⟩) then .ok
    else .formatError

def validateJsonSchema (version : String) : Mss × Result :=
  let result := checkSchema env s version s.updateFile
  ({ s with
    updateFile := if result ≠ .ok ∧ env.updateDeleted then none else s.updateFile }, result)

def createBackup : Mss × Result :=
  match s.configFile with
  | none => (s, .ok)
  | some c =>
    ({ s with backupFile := env.backedUp.target c s.backupFile },
      if env.backedUp.output ≠ 0 then .fault else .ok)

def noFiles : List (Option String) := List.replicate maxOemConfigFiles none

/-- The storages are locked before the campaign is ended. -/
def backUpAndFinish : Mss × Result :=
  let backed := createBackup env s
  if backed.2 ≠ .ok then
    ((setUpdateCampaignState env (lockStorage env backed.1).1 .updateFailed).1, backed.2)
  else finish env { backed.1 with configFileData := noFiles } .updateCompleted

def updateUnlocked (version : String) : Mss × Result :=
  let maxFiles := if setup.isQcmFormat then maxQcmConfigFiles else maxOemConfigFiles
  orLocked env (getFiles env s maxFiles) fun s =>
  orLocked env (authenticateFile setup env s maxFiles) fun s =>
  orFailed env (convertToSingleMssJson setup env s maxFiles) fun s =>
  orFailed env (validateJsonSchema env s version) fun s =>
  backUpAndFinish env s

/-- An update is accepted where no campaign is under way. -/
def acceptsUpdate : Bool :=
  decide (s.campaign = none ∨ s.campaign = some .cancelCompleted ∨
    s.campaign = some .commitCompleted)

def update (version : String) : Mss × Result :=
  if ¬ env.stateRead then (s, .fault)
  else if ¬ acceptsUpdate s then (s, .notPermitted)
  else andThen (unlockStorage env s) fun s => updateUnlocked setup env s version

/-- The update file is copied to the active file. -/
def syncFile : Mss × Result :=
  match s.updateFile with
  | none => (s, .fault)
  | some c =>
    ({ s with configFile := env.copied.target c s.configFile },
      if env.copied.output ≠ 0 then .fault else .ok)

def setActivatedConfigHash : Mss × Result :=
  match s.configFile with
  | none => (s, .fault)
  | some c =>
    if env.hashed ∧ env.secured then ({ s with activatedHash := some (setup.sha256 c) }, .ok)
    else (s, .fault)

def checkActivatedConfigHash : Result :=
  match s.configFile with
  | none => .fault
  | some c =>
    if env.hashed ∧ env.secured ∧ s.activatedHash = some (setup.sha256 c) then .ok else .fault

def activate : Mss × Result :=
  startIn env s [.updateCompleted] fun s =>
  orLocked env (syncFile env s) fun s =>
  orLocked env (setActivatedConfigHash setup env s) fun s =>
  orLocked env (clearTree env s) fun s =>
  orLocked env (importTree env s) fun s =>
  finish env s .activateCompleted

def verifyActivation : Mss × Result :=
  startIn env s [.activateCompleted] fun s =>
  orLocked env (s, checkActivatedConfigHash setup env s) fun s =>
  orLocked env (clearTree env s) fun s =>
  orLocked env (importTree env s) fun s =>
  lockStorage env s

def cancel : Mss × Result :=
  startIn env s [.updateCompleted, .updateFailed] fun s =>
  finish env { s with
    updateFile := if env.updateDeleted then none else s.updateFile
    backupFile := if env.backupDeleted then none else s.backupFile
    configFileData := noFiles } .cancelCompleted

def restoreFile (backup : Config) : Mss × Result :=
  ({ s with configFile := env.copied.target backup s.configFile },
    if env.copied.output ≠ 0 then .fault else .ok)

def rollbackUnlocked : Mss × Result :=
  match s.backupFile with
  | some backup =>
    orLocked env (restoreFile env s backup) fun s =>
    orLocked env (clearTree env s) fun s =>
    orLocked env (importTree env s) fun s =>
    orLocked env (s, if (getVersion env s).isSome then .ok else .fault) fun s =>
    finish env s .rollbackCompleted
  | none =>
    orLocked env (clearTree env { s with
      configFile := if env.configDeleted then none else s.configFile }) fun s =>
    finish env s .rollbackCompleted

def rollback : Mss × Result :=
  startIn env s [.activateCompleted, .activateFailed] fun s => rollbackUnlocked env s

def commit : Mss × Result :=
  startIn env s [.activateCompleted, .rollbackCompleted] fun s =>
  finish env { s with
    backupFile := if env.backupDeleted then none else s.backupFile
    updateFile := if env.updateDeleted then none else s.updateFile } .commitCompleted

end TelAF.CfgStorage
