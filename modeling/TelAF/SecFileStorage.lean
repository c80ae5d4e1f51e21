import TelAF.RefSums
import TelAF.TransitionRuns

/-!
# The secure file storage

A storage is a directory with a backup directory, both encrypted. Clients get references to
storages, unlock and lock them, and import, read and delete files. A record for each storage counts
the clients that have it unlocked; the keys of the directories are in the kernel's keyring while
they are unlocked.
-/

namespace TelAF.SecFileStorage

open Function Option

/-- A C string. -/
abbrev Name := List Char

scoped instance : LawfulBEq Name := inferInstance

/-- `snprintf` into a buffer of the size. -/
def cut (size : Nat) (text : Name) : Name := text.take (size - 1)

def checkValidPath (str : Name) : Name :=
  let str := if str.head? = some '/' then str else '/' :: str
  if str.getLast? = some '/' then str else str ++ ['/']

def checkValidPosixFileName (fileName : Name) : Bool :=
  !fileName.isEmpty && fileName.all fun ch => ch.isAlphanum || ch = '-' || ch = '_' || ch = '.'

/-- `tafMngdSecFileStorage_StorageCfg_t`, before its names are cut. -/
structure StorageCfg where
  storageName : Name
  readAccessibleApps : List Name
  writeAccessibleApps : List Name
deriving DecidableEq

/-- The sizes of the buffers, the configuration, and the digest of a name. -/
structure Platform where
  maxStorageNameSize : Nat
  maxPathBytes : Nat
  maxAppNameLen : Nat
  basePath : Name
  backupPath : Name
  storageAccessCfg : List StorageCfg
  sha1 : Name → Name

/-- `SECFILE_CREATOR_NAME`: the service itself. -/
def secFileCreatorName : Name := "MSS_SECFILE".toList

def tmpFileNameExtension : Name := ".tmp".toList

namespace Platform

variable (P : Platform)

def secFileStorage : Name := cut P.maxStorageNameSize (checkValidPath P.basePath)

def secFileRfsStorage : Name := cut P.maxStorageNameSize (checkValidPath P.backupPath)

def storagePath (name : Name) : Name := cut P.maxStorageNameSize (P.secFileStorage ++ name)

def rfsStoragePath (name : Name) : Name := cut P.maxStorageNameSize (P.secFileRfsStorage ++ name)

/-- The configured name is in a buffer of its size. -/
def cfgName (cfg : StorageCfg) : Name := cut P.maxStorageNameSize cfg.storageName

def isReadable (name appName : Name) : Bool :=
  P.storageAccessCfg.any fun cfg => P.cfgName cfg = name ∧
    appName ∈ cfg.readAccessibleApps.map (cut P.maxAppNameLen)

def isWritable (name appName : Name) : Bool :=
  P.storageAccessCfg.any fun cfg => P.cfgName cfg = name ∧
    appName ∈ cfg.writeAccessibleApps.map (cut P.maxAppNameLen)

def isAppAccessible (name appName : Name) : Bool :=
  P.isReadable name appName || P.isWritable name appName

def isServiceStorage (name : Name) : Bool := P.storageAccessCfg.any fun cfg => P.cfgName cfg = name

end Platform

structure Dir where
  storageName : Name
  masterAppName : Name
  path : Name
  rfsPath : Name
  userCount : BitVec 32
  fscStorageRef : Nat
  rfsFscStorageRef : Nat

structure ClientCxt where
  dirRef : Option Nat
  clientSessionRef : Nat
  storageName : Name
  lockState : Bool
  isCreator : Bool
  isReadable : Bool
  isWritable : Bool

structure FscStorage where
  dirpath : Name
  keyIsAddedToKernel : Bool

/-- The service with the encryption service it uses: the storages of that, the directories whose key
is in the keyring, the creators as secure data under the digest of the storage name, and the names
of the apps behind the open sessions. `crashed` tells that a null pointer was used. -/
structure State where
  dirs : RefMap Dir
  clients : RefMap ClientCxt
  fscStorages : RefMap FscStorage
  keyring : Name → Bool
  creators : Name → Option Name
  appNames : Nat → Option Name
  crashed : Bool

def start : State :=
  ⟨.empty, .empty, .empty, fun _ => false, fun _ => none, fun _ => none, false⟩

inductive Purpose where
  | read
  | write
  | remove
deriving DecidableEq

structure Access where
  path : Name
  purpose : Purpose

structure Outcome where
  state : State
  accesses : List Access := []

namespace State

/-! ## The encryption service -/

/-- The key of the directory is added to the kernel or removed. -/
def setKey (s : State) (ref : Nat) (path : Name) (added : Bool) : State :=
  { s with
    fscStorages := s.fscStorages.modify ref fun x => { x with keyIsAddedToKernel := added }
    keyring := Function.update s.keyring path added }

def fscLockStorage (s : State) (ref : Nat) (removed : Bool) : State × Bool :=
  match s.fscStorages.lookup ref with
  | none => (s, false)
  | some x =>
    if x.keyIsAddedToKernel then
      if removed then (s.setKey ref x.dirpath false, true) else (s, false)
    else (s, true)

/-- `added`: the key is right and the kernel takes it. -/
def fscUnlockStorage (s : State) (ref : Nat) (added : Bool) : State × Bool :=
  match s.fscStorages.lookup ref with
  | none => (s, false)
  | some x => if added then (s.setKey ref x.dirpath true, true) else (s, false)

structure Deletion where
  removed : Bool
  emptied : Bool
  keyDeleted : Bool
deriving DecidableEq

def fscDeleteStorage (s : State) (ref : Nat) (env : Deletion) : State × Bool :=
  match s.fscLockStorage ref env.removed with
  | (t, false) => (t, false)
  | (t, true) =>
    if env.emptied && env.keyDeleted then
      ({ t with fscStorages := t.fscStorages.erase ref }, true)
    else (t, false)

/-- How far the creation of a storage gets: the key is in the kernel, the directory is encrypted
with it. -/
structure Creation where
  added : Bool
  encrypted : Bool

def fscGetStorageRef (s : State) (dirPath : Name) (env : Creation) : State × Option Nat :=
  if env.added then
    let t := { s with keyring := Function.update s.keyring dirPath true }
    if env.encrypted then
      ({ t with fscStorages := s.fscStorages.create ⟨dirPath, true⟩ }, some s.fscStorages.next)
    else (t, none)
  else (s, none)

/-! ## Creators -/

inductive Writing where
  | notCreated
  | notWritten
  | written

variable (P : Platform)

def setStorageCreator (s : State) (name creator : Name) (env : Writing) : State × Bool :=
  match s.creators (P.sha1 name), env with
  | some _, _ => (s, false)
  | none, .notCreated => (s, false)
  | none, .notWritten =>
    ({ s with creators := Function.update s.creators (P.sha1 name) (some []) }, false)
  | none, .written =>
    ({ s with creators := Function.update s.creators (P.sha1 name) (some creator) }, true)

def getStorageCreator (s : State) (name : Name) (read : Bool) : Option Name :=
  if read then
    (s.creators (P.sha1 name)).filter fun creator => creator.length ≤ P.maxAppNameLen
  else none

def clearStorageCreator (s : State) (name : Name) (cleared : Bool) : State × Bool :=
  if cleared ∧ s.creators (P.sha1 name) ≠ none then
    ({ s with creators := Function.update s.creators (P.sha1 name) none }, true)
  else (s, false)

/-! ## Records -/

structure DirEnv where
  creatorRead : Bool
  fsc : Creation
  fscLocked : Bool
  rfs : Creation
  rfsLocked : Bool

def findDirRef (s : State) (name : Name) : Option Nat := s.dirs.search fun d => d.storageName = name

/-- Both directories are opened and locked at once; a failure leaves what was done for them. -/
def createDirRef (s : State) (name : Name) (env : DirEnv) : State × Option Nat :=
  match s.getStorageCreator P name env.creatorRead with
  | none => (s, none)
  | some masterAppName =>
    match s.fscGetStorageRef (P.storagePath name) env.fsc with
    | (s₁, none) => (s₁, none)
    | (s₁, some fscStorageRef) =>
      match s₁.fscLockStorage fscStorageRef env.fscLocked with
      | (s₂, false) => (s₂, none)
      | (s₂, true) =>
        match s₂.fscGetStorageRef (P.rfsStoragePath name) env.rfs with
        | (s₃, none) => (s₃, none)
        | (s₃, some rfsFscStorageRef) =>
          match s₃.fscLockStorage rfsFscStorageRef env.rfsLocked with
          | (s₄, false) => (s₄, none)
          | (s₄, true) =>
            ({ s₄ with dirs := s₄.dirs.create ⟨cut P.maxStorageNameSize name, masterAppName,
                P.storagePath name, P.rfsStoragePath name, 0, fscStorageRef, rfsFscStorageRef⟩ },
              some s₄.dirs.next)

def findOrCreateDirRef (s : State) (name : Name) (env : DirEnv) : State × Option Nat :=
  match s.findDirRef name with
  | some dirRef => (s, some dirRef)
  | none => s.createDirRef P name env

structure CreateEnv where
  dirExists : Bool
  dirEmpty : Bool
  creator : Writing
  dir : DirEnv

/-- The service creates the configured storages for itself, which have no session. -/
def createStorage (s : State) (session : Option Nat) (name : Name) (env : CreateEnv) : State :=
  if checkValidPosixFileName name = false then s
  else if env.dirExists ∧ ¬ env.dirEmpty then s
  else
    let appName := match session with
      | none => some secFileCreatorName
      | some c => s.appNames c
    match appName with
    | none => s
    | some appName =>
      match s.setStorageCreator P name (cut (P.maxAppNameLen + 1) appName) env.creator with
      | (t, false) => t
      | (t, true) =>
        match t.findDirRef name with
        | some _ => t
        | none => (t.createDirRef P name env.dir).1

/-! ## References -/

/-- `FindClientCxtRef`, with the new context that is made where none is found. -/
def findOrCreateClientCxt (s : State) (session : Nat) (name : Name) : State × Nat :=
  match s.clients.search fun c => c.storageName = name ∧ c.clientSessionRef = session with
  | some ref => (s, ref)
  | none =>
    let c : ClientCxt :=
      ⟨none, session, cut P.maxStorageNameSize name, true, false, false, false⟩
    ({ s with clients := s.clients.create c }, s.clients.next)

def isMaster (d : Dir) (appName : Name) : Bool :=
  d.masterAppName ≠ [] ∧ d.masterAppName = appName

/-- The app may have a reference to the storage. -/
def accepts (d : Dir) (name appName : Name) : Bool :=
  isMaster d appName || P.isAppAccessible name appName

/-- The permissions of the app are added to those of the context. -/
def grant (d : Dir) (name appName : Name) (c : ClientCxt) : ClientCxt :=
  if isMaster d appName then { c with isCreator := true, isReadable := true, isWritable := true }
  else { c with
    isReadable := c.isReadable || P.isReadable name appName
    isWritable := c.isWritable || P.isWritable name appName }

def releaseClientCxt (s : State) (ref : Nat) : State := { s with clients := s.clients.erase ref }

structure GetEnv where
  dirExists : Bool
  dir : DirEnv

def getStorageRef (s : State) (session : Nat) (name : Name) (env : GetEnv) : State :=
  if checkValidPosixFileName name = false then s
  else if env.dirExists = false then s
  else match (s.appNames session).map (cut (P.maxAppNameLen + 1)) with
  | none => s
  | some appName =>
    let found := s.findOrCreateClientCxt P session name
    let ref := found.2
    match found.1.findOrCreateDirRef P name env.dir with
    | (t, none) => t.releaseClientCxt ref
    | (t, some dirRef) =>
      match t.dirs.lookup dirRef with
      | none => t.releaseClientCxt ref
      | some d =>
        if accepts P d name appName then
          let bind := fun c : ClientCxt => grant P d name appName { c with dirRef := some dirRef }
          { t with clients := t.clients.modify ref bind }
        else t.releaseClientCxt ref

/-! ## Unlocking and locking -/

/-- The context under the reference and the record that it leads to. -/
def contextOf (s : State) (storageRef : Nat) : Option (ClientCxt × Nat × Dir) :=
  (s.clients.lookup storageRef).bind fun c => c.dirRef.bind fun dirRef =>
    (s.dirs.lookup dirRef).map fun d => (c, dirRef, d)

def setUserCount (s : State) (dirRef : Nat) (userCount : BitVec 32) : State :=
  { s with dirs := s.dirs.modify dirRef fun d => { d with userCount := userCount } }

def setLockState (s : State) (storageRef : Nat) (lockState : Bool) : State :=
  { s with clients := s.clients.modify storageRef fun c => { c with lockState := lockState } }

/-- What the calls for the directory and for its backup do. -/
structure KeyEnv where
  fsc : Bool
  rfs : Bool

def lockDirs (s : State) (d : Dir) (env : KeyEnv) : State :=
  ((s.fscLockStorage d.fscStorageRef env.fsc).1.fscLockStorage d.rfsFscStorageRef env.rfs).1

/-- In this order when a client unlocks or locks the storage itself. -/
def unlockRfsFirst (s : State) (d : Dir) (env : KeyEnv) : State :=
  ((s.fscUnlockStorage d.rfsFscStorageRef env.rfs).1.fscUnlockStorage d.fscStorageRef env.fsc).1

def lockRfsFirst (s : State) (d : Dir) (env : KeyEnv) : State :=
  ((s.fscLockStorage d.rfsFscStorageRef env.rfs).1.fscLockStorage d.fscStorageRef env.fsc).1

/-- The first user unlocks the directories, whether that succeeds or not. -/
def unlockStorage (s : State) (storageRef : Nat) (env : KeyEnv) : State :=
  match s.contextOf storageRef with
  | none => s
  | some (_, dirRef, d) =>
    let t := if d.userCount = 0 then s.unlockRfsFirst d env else s
    (t.setUserCount dirRef (d.userCount + 1)).setLockState storageRef false

def lockStorage (s : State) (storageRef : Nat) (env : KeyEnv) : State :=
  match s.contextOf storageRef with
  | none => s
  | some (c, dirRef, d) =>
    if c.lockState then s
    else if d.userCount = 0 then s
    else
      let t := (s.setUserCount dirRef (d.userCount - 1)).setLockState storageRef true
      if d.userCount - 1 = 0 then t.lockRfsFirst d env else t

/-! ## Files -/

/-- The record of a storage that the context may use for the purpose. -/
def fileTarget (s : State) (storageRef : Nat) (purpose : Purpose) : Option Dir :=
  (s.contextOf storageRef).bind fun (c, _, d) =>
    if (if purpose = .read then c.isReadable else c.isWritable) then some d else none

/-- A file operation unlocks the directories before and locks them after. -/
def withUnlocked (s : State) (d : Dir) (added removed : KeyEnv) : State :=
  (((s.fscUnlockStorage d.fscStorageRef added.fsc).1.fscUnlockStorage
    d.rfsFscStorageRef added.rfs).1).lockDirs d removed

def targetFilePath (d : Dir) (filePath : Name) : Name :=
  cut P.maxPathBytes (d.path ++ '/' :: filePath)

def tmpTargetFilePath (d : Dir) (filePath : Name) : Name :=
  cut P.maxPathBytes (d.path ++ '/' :: filePath ++ tmpFileNameExtension)

structure FileEnv where
  added : KeyEnv
  removed : KeyEnv

structure ImportEnv extends FileEnv where
  availableSize : Nat
  fileSize : Nat
  copied : Bool

def importTarget (s : State) (storageRef : Nat) (source target : Name) (env : ImportEnv) :
    Option Dir :=
  (s.fileTarget storageRef .write).filter fun _ =>
    source ≠ [] ∧ target ≠ [] ∧ env.fileSize ≤ env.availableSize

/-- The source is copied to a file that is renamed and, whatever happened, removed. -/
def importFile (s : State) (storageRef : Nat) (source target : Name) (env : ImportEnv) : Outcome :=
  match s.importTarget storageRef source target env with
  | none => { state := s }
  | some d =>
    let file := targetFilePath P d target
    let tmp := tmpTargetFilePath P d target
    { state := s.withUnlocked d env.added env.removed
      accesses := [⟨source, .read⟩, ⟨tmp, .write⟩] ++
        (if env.copied then [⟨tmp, .remove⟩, ⟨file, .write⟩] else []) ++
          [⟨tmp, .remove⟩] }

def readFile (s : State) (storageRef : Nat) (filePath : Name) (env : FileEnv) : Outcome :=
  match (s.fileTarget storageRef .read).filter fun _ => filePath ≠ [] with
  | none => { state := s }
  | some d =>
    { state := s.withUnlocked d env.added env.removed
      accesses := [⟨targetFilePath P d filePath, .read⟩] }

def deleteFile (s : State) (storageRef : Nat) (filePath : Name) (env : FileEnv) : Outcome :=
  match (s.fileTarget storageRef .remove).filter fun _ => filePath ≠ [] with
  | none => { state := s }
  | some d =>
    { state := s.withUnlocked d env.added env.removed
      accesses := [⟨targetFilePath P d filePath, .remove⟩] }

/-! ## Deletion and sessions -/

structure DeleteEnv where
  dirEmpty : Bool
  rfs : Deletion
  fsc : Deletion
  creatorCleared : Bool

/-- The record that `DeleteStorage` deletes when its encrypted storages are gone. -/
def deleteTarget (s : State) (storageRef : Nat) (env : DeleteEnv) : Option (Nat × Dir) :=
  (s.contextOf storageRef).bind fun (_, dirRef, d) =>
    if env.dirEmpty ∧ P.isServiceStorage d.storageName = false then some (dirRef, d) else none

def deleteStorage (s : State) (storageRef : Nat) (env : DeleteEnv) : State :=
  match s.deleteTarget P storageRef env with
  | none => s
  | some (dirRef, d) =>
    match s.fscDeleteStorage d.rfsFscStorageRef env.rfs with
    | (s₁, false) => s₁
    | (s₁, true) =>
      match s₁.fscDeleteStorage d.fscStorageRef env.fsc with
      | (s₂, false) => s₂
      | (s₂, true) =>
        match s₂.clearStorageCreator P d.storageName env.creatorCleared with
        | (s₃, false) => s₃
        | (s₃, true) => { s₃ with dirs := s₃.dirs.erase dirRef }.releaseClientCxt storageRef

def closeClientCxt (env : Nat → KeyEnv) (s : State) (storageRef : Nat) : State :=
  match s.clients.lookup storageRef with
  | none => s
  | some c =>
    let t :=
      if c.lockState then s
      else match s.contextOf storageRef with
        | none => { s with crashed := true }
        | some (_, dirRef, d) =>
          let t := s.setUserCount dirRef (d.userCount - 1)
          if d.userCount - 1 = 0 then t.lockDirs d (env storageRef) else t
    t.releaseClientCxt storageRef

def contextsOf (s : State) (session : Nat) : List Nat :=
  (s.clients.entries.filter fun e => e.2.clientSessionRef = session).map Prod.fst

def sessionClosed (s : State) (session : Nat) (env : Nat → KeyEnv) : State :=
  let t := (s.contextsOf session).foldl (closeClientCxt env) s
  { t with appNames := Function.update t.appNames session none }

end State

/-! ## Steps -/

open State in
/-- The calls of the sessions, with what the services below do. -/
inductive Action where
  | opened (session : Nat) (appName : Name)
  | createServiceStorage (cfg : StorageCfg) (env : CreateEnv)
  | createStorage (session : Nat) (name : Name) (env : CreateEnv)
  | getStorageRef (session : Nat) (name : Name) (env : GetEnv)
  | unlockStorage (session storageRef : Nat) (env : KeyEnv)
  | lockStorage (session storageRef : Nat) (env : KeyEnv)
  | importFile (session storageRef : Nat) (source target : Name) (env : ImportEnv)
  | readFile (session storageRef : Nat) (filePath : Name) (env : FileEnv)
  | deleteFile (session storageRef : Nat) (filePath : Name) (env : FileEnv)
  | deleteStorage (session storageRef : Nat) (env : DeleteEnv)
  | closed (session : Nat) (env : Nat → KeyEnv)

variable (P : Platform)

def perform (s : State) : Action → Outcome
  | .opened session appName =>
    { state := { s with appNames := Function.update s.appNames session (some appName) } }
  | .createServiceStorage cfg env => { state := s.createStorage P none (P.cfgName cfg) env }
  | .createStorage session name env => { state := s.createStorage P (some session) name env }
  | .getStorageRef session name env => { state := s.getStorageRef P session name env }
  | .unlockStorage _ storageRef env => { state := s.unlockStorage storageRef env }
  | .lockStorage _ storageRef env => { state := s.lockStorage storageRef env }
  | .importFile _ storageRef source target env => s.importFile P storageRef source target env
  | .readFile _ storageRef filePath env => s.readFile P storageRef filePath env
  | .deleteFile _ storageRef filePath env => s.deleteFile P storageRef filePath env
  | .deleteStorage _ storageRef env => { state := s.deleteStorage P storageRef env }
  | .closed session env => { state := s.sessionClosed session env }

/-- Only a configured storage is created by the service, and a session is opened once. -/
def enabled (s : State) : Action → Bool
  | .opened session _ => s.appNames session = none
  | .createServiceStorage cfg _ => cfg ∈ P.storageAccessCfg
  | _ => true

def step (s : State) (a : Action) : Option State :=
  if s.crashed = false ∧ enabled P s a then some (perform P s a).state else none

/-! ## Names -/

section Names

theorem cut_of_lt {size : Nat} {text : Name} (h : text.length < size) : cut size text = text := by
  exact List.take_of_length_le (by omega)

theorem slash_not_mem {name : Name} (h : checkValidPosixFileName name = true) : '/' ∉ name := by
  intro hmem
  have hall := List.all_eq_true.1 (Bool.and_eq_true_iff.1 h).2 '/' hmem
  revert hall
  decide

end Names

/-! ## What the calls leave -/

structure Cipher (s t : State) : Prop where
  dirs : t.dirs = s.dirs
  clients : t.clients = s.clients
  creators : t.creators = s.creators
  appNames : t.appNames = s.appNames
  crashed : t.crashed = s.crashed

theorem Cipher.refl (s : State) : Cipher s s := ⟨rfl, rfl, rfl, rfl, rfl⟩

theorem Cipher.trans {s t u : State} (h : Cipher s t) (h' : Cipher t u) : Cipher s u :=
  ⟨h'.dirs.trans h.dirs, h'.clients.trans h.clients, h'.creators.trans h.creators,
    h'.appNames.trans h.appNames, h'.crashed.trans h.crashed⟩

section Calls

open State

variable {P} {s : State} {ref storageRef dirRef : Nat} {c : ClientCxt} {d : Dir}

theorem fscLockStorage_cipher (s : State) (ref : Nat) (removed : Bool) :
    Cipher s (s.fscLockStorage ref removed).1 := by
  unfold State.fscLockStorage
  split
  · exact .refl s
  split
  · split
    · exact ⟨rfl, rfl, rfl, rfl, rfl⟩
    · exact .refl s
  · exact .refl s

theorem fscUnlockStorage_cipher (s : State) (ref : Nat) (added : Bool) :
    Cipher s (s.fscUnlockStorage ref added).1 := by
  unfold State.fscUnlockStorage
  split
  · exact .refl s
  split
  · exact ⟨rfl, rfl, rfl, rfl, rfl⟩
  · exact .refl s

theorem fscDeleteStorage_cipher (s : State) (ref : Nat) (env : Deletion) :
    Cipher s (s.fscDeleteStorage ref env).1 := by
  have hlock := fscLockStorage_cipher s ref env.removed
  unfold State.fscDeleteStorage
  generalize s.fscLockStorage ref env.removed = result at hlock
  obtain ⟨t, ok⟩ := result
  rcases ok with _ | _
  · exact hlock
  dsimp only at hlock ⊢
  split
  · exact hlock.trans ⟨rfl, rfl, rfl, rfl, rfl⟩
  · exact hlock

theorem fscGetStorageRef_cipher (s : State) (dirPath : Name) (env : Creation) :
    Cipher s (s.fscGetStorageRef dirPath env).1 := by
  unfold State.fscGetStorageRef
  split
  · dsimp only
    split
    all_goals exact ⟨rfl, rfl, rfl, rfl, rfl⟩
  · exact .refl s

theorem contextOf_eq_some (h : s.contextOf storageRef = some (c, dirRef, d)) :
    s.clients.lookup storageRef = some c ∧ c.dirRef = some dirRef ∧
      s.dirs.lookup dirRef = some d := by
  obtain ⟨c', hc, hrest⟩ := bind_eq_some_iff.1 h
  obtain ⟨r, hr, hmap⟩ := bind_eq_some_iff.1 hrest
  obtain ⟨e, he, heq⟩ := map_eq_some_iff.1 hmap
  cases heq
  exact ⟨hc, hr, he⟩

theorem fileTarget_eq_some {purpose : Purpose} (h : s.fileTarget storageRef purpose = some d) :
    ∃ c dirRef, s.contextOf storageRef = some (c, dirRef, d) ∧
      (if purpose = .read then c.isReadable else c.isWritable) = true := by
  obtain ⟨⟨c, dirRef, e⟩, hctx, hrest⟩ := bind_eq_some_iff.1 h
  dsimp only at hrest
  by_cases hallw : (if purpose = .read then c.isReadable else c.isWritable) = true
  · rw [if_pos hallw] at hrest
    cases hrest
    exact ⟨c, dirRef, hctx, hallw⟩
  · rw [if_neg hallw] at hrest
    cases hrest

theorem deleteTarget_eq_some {env : DeleteEnv}
    (h : s.deleteTarget P storageRef env = some (dirRef, d)) :
    ∃ c, s.contextOf storageRef = some (c, dirRef, d) ∧
      P.isServiceStorage d.storageName = false := by
  obtain ⟨⟨c, r, e⟩, hctx, hrest⟩ := bind_eq_some_iff.1 h
  dsimp only at hrest
  by_cases hallw : env.dirEmpty = true ∧ P.isServiceStorage e.storageName = false
  · rw [if_pos hallw] at hrest
    cases hrest
    exact ⟨c, hctx, hallw.2⟩
  · rw [if_neg hallw] at hrest
    cases hrest

theorem clearStorageCreator_cases (s : State) (name : Name) (cleared : Bool) :
    s.clearStorageCreator P name cleared = (s, false) ∨
      s.clearStorageCreator P name cleared =
        ({ s with creators := update s.creators (P.sha1 name) none }, true) := by
  unfold State.clearStorageCreator
  split
  · exact .inr rfl
  · exact .inl rfl

theorem findDirRef_eq_none {name : Name} :
    s.findDirRef name = none ↔ ∀ r e, s.dirs.lookup r = some e → e.storageName ≠ name := by
  unfold State.findDirRef
  rw [RefMap.search_eq_none]
  simp only [decide_eq_false_iff_not]

theorem setStorageCreator_cases (s : State) (name creator : Name) (env : Writing) :
    s.setStorageCreator P name creator env = (s, false) ∨
      s.creators (P.sha1 name) = none ∧ ∃ value ok, s.setStorageCreator P name creator env =
        ({ s with creators := update s.creators (P.sha1 name) (some value) }, ok) ∧
          (ok = true → value = creator) := by
  unfold State.setStorageCreator
  split
  · exact .inl rfl
  · exact .inl rfl
  · rename_i hnone
    exact .inr ⟨hnone, [], false, rfl, nofun⟩
  · rename_i hnone
    exact .inr ⟨hnone, creator, true, rfl, fun _ => rfl⟩

theorem grant_same (d : Dir) (name appName : Name) (c : ClientCxt) :
    (grant P d name appName c).dirRef = c.dirRef ∧
      (grant P d name appName c).clientSessionRef = c.clientSessionRef ∧
      (grant P d name appName c).storageName = c.storageName ∧
      (grant P d name appName c).lockState = c.lockState := by
  unfold grant
  split
  all_goals exact ⟨rfl, rfl, rfl, rfl⟩

end Calls

/-! ## Two apps -/

section TwoApps

open State

/-- A platform with a storage of the service that two apps may use. -/
def twoApps : Platform where
  maxStorageNameSize := 64
  maxPathBytes := 128
  maxAppNameLen := 32
  basePath := "/data/secfile".toList
  backupPath := "/data/secfile_rfs".toList
  storageAccessCfg := [⟨"maps".toList, ["viewer".toList], ["loader".toList]⟩]
  sha1 := id

def opensDir : DirEnv := ⟨true, ⟨true, true⟩, true, ⟨true, true⟩, true⟩

def bothKeys : KeyEnv := ⟨true, true⟩

/-- Both apps have the storage of the service. -/
def sharedMaps : List Action := [
  .opened 1 "viewer".toList,
  .opened 2 "loader".toList,
  .createServiceStorage ⟨"maps".toList, ["viewer".toList], ["loader".toList]⟩
    ⟨false, true, .written, opensDir⟩,
  .getStorageRef 1 "maps".toList ⟨true, opensDir⟩,
  .getStorageRef 2 "maps".toList ⟨true, opensDir⟩]

end TwoApps

end TelAF.SecFileStorage
