import TelAF.PathNames
import TelAF.SecFileStorage

/-!
# Counting the users of a storage

A record counts the contexts that have its storage unlocked, and its directories are unlocked just
when that number is positive, as long as a context unlocks once, nobody else uses the files of a
storage that is held, and the calls of the encryption service that matter succeed.
-/

namespace TelAF.SecFileStorage

open TransitionRuns State RefMap ClientCxt Function List Bool

/-- Whether the context holds the storage of the record unlocked, as a number. -/
def ClientCxt.holds (dirRef : Nat) (c : ClientCxt) : Nat :=
  if c.dirRef = some dirRef ∧ c.lockState = false then 1 else 0

/-- The contexts that hold the storage of the record unlocked. -/
def State.holders (s : State) (dirRef : Nat) : Nat := s.clients.total fun _ c => c.holds dirRef

structure Counting (s : State) : Prop where
  running : s.crashed = false
  counted : ∀ dirRef d, s.dirs.lookup dirRef = some d → d.userCount.toNat = s.holders dirRef
  unlocked : ∀ dirRef d, s.dirs.lookup dirRef = some d →
    (s.keyring d.path = true ↔ s.holders dirRef ≠ 0) ∧
      (s.keyring d.rfsPath = true ↔ s.holders dirRef ≠ 0)
  others : ∀ path, s.keyring path = true →
    ∃ dirRef d, s.dirs.lookup dirRef = some d ∧ (path = d.path ∨ path = d.rfsPath)
  live : ∀ ref c, s.clients.lookup ref = some c → c.lockState = false →
    ∃ dirRef d, c.dirRef = some dirRef ∧ s.dirs.lookup dirRef = some d

/-! ## When the steps keep to it -/

/-- The name and the paths of the storage fit into their buffers. -/
def Platform.Fits (P : Platform) (name : Name) : Prop :=
  (P.secFileStorage ++ name).length < P.maxStorageNameSize ∧
    (P.secFileRfsStorage ++ name).length < P.maxStorageNameSize
deriving Decidable

/-- The directories and their backups are in different directories. -/
def Platform.Separate (P : Platform) : Prop :=
  P.secFileStorage.getLast? = some '/' ∧ P.secFileRfsStorage.getLast? = some '/' ∧
    P.secFileStorage ≠ P.secFileRfsStorage
deriving Decidable

namespace State

/-- A storage that is opened and not locked again is left open. -/
def LocksNew (env : DirEnv) : Prop :=
  env.fsc.added = true → env.fsc.encrypted = true ∧ env.fscLocked = true ∧
    (env.rfs.added = true → env.rfs.encrypted = true ∧ env.rfsLocked = true)
deriving Decidable

def CarefulDir (P : Platform) (s : State) (name : Name) (env : DirEnv) : Prop :=
  checkValidPosixFileName name = true → s.findDirRef name = none →
    P.Fits name ∧ P.Separate ∧ LocksNew env

def unlocks (s : State) (d : Dir) (env : KeyEnv) : Bool :=
  env.fsc && env.rfs && (s.fscStorages.lookup d.fscStorageRef).isSome &&
    (s.fscStorages.lookup d.rfsFscStorageRef).isSome

/-- The directories are as they were: what a file operation unlocks it locks, and it locks nothing
that is held. -/
def Restores (d : Dir) (added removed : KeyEnv) : Prop :=
  if d.userCount = 0 then
    (added.fsc = true → removed.fsc = true) ∧ (added.rfs = true → removed.rfs = true)
  else removed.fsc = false ∧ removed.rfs = false
deriving Decidable

def deletes (P : Platform) (s : State) (d : Dir) (env : DeleteEnv) : Bool :=
  env.rfs = ⟨true, true, true⟩ ∧ env.fsc = ⟨true, true, true⟩ ∧
    env.creatorCleared = true ∧
    s.creators (P.sha1 d.storageName) ≠ none

end State

/-- A context unlocks once and the directories are unlocked when it is the first; the last one to
lock locks them; files are used, and storages deleted, that nobody else holds. -/
def Careful (P : Platform) (s : State) : Action → Prop
  | .createServiceStorage cfg env => CarefulDir P s (P.cfgName cfg) env.dir
  | .createStorage _ name env => CarefulDir P s name env.dir
  | .getStorageRef _ name env => env.dirExists = true → CarefulDir P s name env.dir
  | .unlockStorage _ storageRef env =>
    ∀ x ∈ s.contextOf storageRef, x.1.lockState = true ∧ x.2.2.userCount + 1 ≠ 0 ∧
      (x.2.2.userCount = 0 → s.unlocks x.2.2 env = true)
  | .lockStorage _ storageRef env =>
    ∀ x ∈ s.contextOf storageRef, x.1.lockState = false → x.2.2.userCount = 1 →
      env.fsc = true ∧ env.rfs = true
  | .importFile _ storageRef source target env =>
    ∀ d ∈ s.importTarget storageRef source target env, Restores d env.added env.removed
  | .readFile _ storageRef filePath env =>
    filePath ≠ [] → ∀ d ∈ s.fileTarget storageRef .read, Restores d env.added env.removed
  | .deleteFile _ storageRef filePath env =>
    filePath ≠ [] → ∀ d ∈ s.fileTarget storageRef .remove, Restores d env.added env.removed
  | .deleteStorage _ storageRef env =>
    ∀ x ∈ s.contextOf storageRef, (s.deleteTarget P storageRef env).isSome = true →
      x.2.2.userCount = 0 ∨ env.rfs.removed = false ∨
        x.2.2.userCount = 1 ∧ x.1.lockState = false ∧ deletes P s x.2.2 env = true
  | .closed session env => ∀ e ∈ s.clients.entries, e.2.clientSessionRef = session →
      e.2.lockState = false → (env e.1).fsc = true ∧ (env e.1).rfs = true
  | .opened _ _ => True

instance (P : Platform) (s : State) : DecidablePred (Careful P s) := by
  rintro ⟨⟩ <;> unfold Careful CarefulDir <;> infer_instance

/-! ## Keys and directories -/

/-- The reference of the encryption service is that of one of the record's directories. -/
def Dir.HasPlace (d : Dir) (ref : Nat) (path : Name) : Prop :=
  ref = d.fscStorageRef ∧ path = d.path ∨ ref = d.rfsFscStorageRef ∧ path = d.rfsPath

def State.IsPlace (s : State) (ref : Nat) (path : Name) : Prop :=
  ∃ dirRef d, s.dirs.lookup dirRef = some d ∧ d.HasPlace ref path

/-- The storage of the encryption service is that of the directory, and says whether its key is in
the keyring. -/
structure Place (fscStorages : RefMap FscStorage) (keyring : Name → Bool)
    (ref : Nat) (path : Name) :
    Prop where
  old : ref < fscStorages.next
  agrees : ∀ x, fscStorages.lookup ref = some x →
    x.dirpath = path ∧ x.keyIsAddedToKernel = keyring path
  known : keyring path = true → (fscStorages.lookup ref).isSome = true

structure Keys (s : State) : Prop where
  place : ∀ ref path, s.IsPlace ref path → Place s.fscStorages s.keyring ref path
  others : ∀ path, s.keyring path = true → ∃ ref, s.IsPlace ref path
  distinct : ∀ ref ref' path, s.IsPlace ref path → s.IsPlace ref' path → ref = ref'

variable {P : Platform} {s t : State} {ref : Nat} {path : Name}

theorem Cipher.isPlace (h : Cipher s t) : t.IsPlace ref path ↔ s.IsPlace ref path := by
  unfold State.IsPlace
  rw [h.dirs]

variable {u : State}

section Keys

theorem Keys.setKey (h : Keys s) (hplc : s.IsPlace ref path) {x : FscStorage}
    (hx : s.fscStorages.lookup ref = some x) (added : Bool) : Keys (s.setKey ref path added) := by
  have hciph : Cipher s (s.setKey ref path added) := ⟨rfl, rfl, rfl, rfl, rfl⟩
  refine ⟨?_, ?_, ?_⟩
  · intro other path' hoth
    have hp := h.place other path' hoth
    unfold State.setKey
    by_cases hpath : path' = path
    · subst hpath
      have hsame := h.distinct other ref path' hoth hplc
      subst hsame
      refine ⟨hp.old, ?_, ?_⟩
      · intro y hy
        dsimp only at hy ⊢
        rw [lookup_modify_self, hx] at hy
        cases hy
        rw [update_self]
        exact ⟨(hp.agrees x hx).1, rfl⟩
      · intro _
        rw [lookup_modify_self, hx]
        rfl
    · have hne : other ≠ ref := by
        rintro rfl
        exact hpath ((hp.agrees x hx).1.symm.trans ((h.place other path hplc).agrees x hx).1)
      refine ⟨hp.old, ?_, ?_⟩
      · dsimp only
        rw [lookup_modify_of_ne hne, update_of_ne hpath]
        exact hp.agrees
      · dsimp only
        rw [lookup_modify_of_ne hne, update_of_ne hpath]
        exact hp.known
  · intro path' hkey
    by_cases hpath : path' = path
    · subst hpath
      exact ⟨ref, hplc⟩
    unfold State.setKey at hkey
    dsimp only at hkey
    rw [update_of_ne hpath] at hkey
    exact h.others path' hkey
  · intro a b p ha hb
    exact h.distinct a b p ha hb

structure Called (s t : State) (keyring : Name → Bool) : Prop where
  keys : Keys t
  cipher : Cipher s t
  keyring : t.keyring = keyring

theorem fscLockStorage_called (h : Keys s) (hplc : s.IsPlace ref path) (removed : Bool) :
    Called s (s.fscLockStorage ref removed).1
      fun p => s.keyring p && !(decide (p = path) && removed) := by
  have hp := h.place ref path hplc
  have hsame : s.keyring path = false ∨ removed = false → Called s s
      fun p => s.keyring p && !(decide (p = path) && removed) := by
    intro hfal
    refine ⟨h, .refl s, funext fun p => ?_⟩
    by_cases hpath : p = path
    · subst hpath
      rcases hfal with hkey | hrmvd
      · simp [hkey]
      · simp [hrmvd]
    · simp [hpath]
  unfold fscLockStorage
  cases hx : s.fscStorages.lookup ref with
  | none =>
    refine hsame (.inl ?_)
    rw [← not_eq_true]
    intro hkey
    have hknw := hp.known hkey
    rw [hx] at hknw
    cases hknw
  | some x =>
    obtain ⟨hdir, hflag⟩ := hp.agrees x hx
    dsimp only
    split
    swap
    · rename_i hadd
      exact hsame (.inl (by rw [← hflag]; simpa using hadd))
    rename_i hadd
    split
    · rename_i hrmvd
      rw [hdir]
      refine ⟨h.setKey hplc hx false, ⟨rfl, rfl, rfl, rfl, rfl⟩, funext fun p => ?_⟩
      unfold setKey
      dsimp only
      by_cases hpath : p = path
      · subst hpath
        simp [hrmvd]
      · rw [update_of_ne hpath]
        simp [hpath]
    · rename_i hrmvd
      exact hsame (.inr (by simpa using hrmvd))

theorem fscUnlockStorage_called (h : Keys s) (hplc : s.IsPlace ref path) (added : Bool) :
    Called s (s.fscUnlockStorage ref added).1
      fun p => s.keyring p ||
        (decide (p = path) && added && (s.fscStorages.lookup ref).isSome) := by
  have hsame : (s.fscStorages.lookup ref).isSome = false ∨ added = false → Called s s fun p =>
      s.keyring p || (decide (p = path) && added && (s.fscStorages.lookup ref).isSome) := by
    intro hfal
    refine ⟨h, .refl s, funext fun p => ?_⟩
    rcases hfal with hnone | hadd
    · simp [hnone]
    · simp [hadd]
  unfold fscUnlockStorage
  rcases hx : s.fscStorages.lookup ref with _ | x
  · rw [hx] at hsame
    exact hsame (.inl rfl)
  rw [hx] at hsame
  dsimp only
  split
  · rename_i hadd
    rw [((h.place ref path hplc).agrees x hx).1]
    refine ⟨h.setKey hplc hx true, ⟨rfl, rfl, rfl, rfl, rfl⟩, funext fun p => ?_⟩
    unfold setKey
    dsimp only
    by_cases hpath : p = path
    · subst hpath
      simp [hadd]
    · rw [update_of_ne hpath]
      simp [hpath]
  · rename_i hadd
    exact hsame (.inr (by simpa using hadd))

theorem Called.trans {k k' : Name → Bool} (h : Called s t k) (h' : Called t u k') :
    Called s u k' := ⟨h'.keys, h.cipher.trans h'.cipher, h'.keyring⟩

theorem fscUnlockStorage_isSome (added : Bool) (other : Nat) :
    ((s.fscUnlockStorage ref added).1.fscStorages.lookup other).isSome =
      (s.fscStorages.lookup other).isSome := by
  unfold fscUnlockStorage
  split
  · rfl
  split
  · unfold setKey
    rw [lookup_modify]
    split <;> simp
  · rfl

theorem State.isPlace_fsc {dirRef : Nat} {d : Dir} (h : s.dirs.lookup dirRef = some d) :
    s.IsPlace d.fscStorageRef d.path := ⟨dirRef, d, h, .inl ⟨rfl, rfl⟩⟩

theorem State.isPlace_rfs {dirRef : Nat} {d : Dir} (h : s.dirs.lookup dirRef = some d) :
    s.IsPlace d.rfsFscStorageRef d.rfsPath := ⟨dirRef, d, h, .inr ⟨rfl, rfl⟩⟩

variable {dirRef : Nat} {d : Dir}

/-- The keyring when the calls for the directories have removed keys. -/
def removedKeys (keyring : Name → Bool) (d : Dir) (env : KeyEnv) : Name → Bool := fun p =>
  keyring p && !(decide (p = d.path) && env.fsc || decide (p = d.rfsPath) && env.rfs)

/-- The keyring when the calls for the directories have added keys. -/
def addedKeys (keyring : Name → Bool) (d : Dir) (env : KeyEnv) : Name → Bool := fun p =>
  keyring p || (decide (p = d.path) && env.fsc || decide (p = d.rfsPath) && env.rfs)

/-- What the calls to add keys do: nothing where the storage is not known. -/
def State.knownEnv (s : State) (d : Dir) (env : KeyEnv) : KeyEnv :=
  ⟨env.fsc && (s.fscStorages.lookup d.fscStorageRef).isSome,
    env.rfs && (s.fscStorages.lookup d.rfsFscStorageRef).isSome⟩

theorem lockDirs_called (h : Keys s) (hd : s.dirs.lookup dirRef = some d) (env : KeyEnv) :
    Called s (s.lockDirs d env) (removedKeys s.keyring d env) := by
  have hfsc := fscLockStorage_called h (isPlace_fsc hd) env.fsc
  have hrfs := fscLockStorage_called hfsc.keys (hfsc.cipher.isPlace.2 (isPlace_rfs hd)) env.rfs
  refine ⟨hrfs.keys, hfsc.cipher.trans hrfs.cipher, hrfs.keyring.trans (funext fun p => ?_)⟩
  rw [hfsc.keyring]
  unfold removedKeys
  rw [Bool.not_or, Bool.and_assoc]

theorem lockRfsFirst_called (h : Keys s) (hd : s.dirs.lookup dirRef = some d) (env : KeyEnv) :
    Called s (s.lockRfsFirst d env) (removedKeys s.keyring d env) := by
  have hrfs := fscLockStorage_called h (isPlace_rfs hd) env.rfs
  have hfsc := fscLockStorage_called hrfs.keys (hrfs.cipher.isPlace.2 (isPlace_fsc hd)) env.fsc
  refine ⟨hfsc.keys, hrfs.cipher.trans hfsc.cipher, hfsc.keyring.trans (funext fun p => ?_)⟩
  rw [hrfs.keyring]
  unfold removedKeys
  rw [Bool.or_comm, Bool.not_or, Bool.and_assoc]

theorem unlockDirs_called (h : Keys s) (hd : s.dirs.lookup dirRef = some d) (env : KeyEnv) :
    Called s ((s.fscUnlockStorage d.fscStorageRef env.fsc).1.fscUnlockStorage
      d.rfsFscStorageRef env.rfs).1 (addedKeys s.keyring d (s.knownEnv d env)) := by
  have hfsc := fscUnlockStorage_called h (isPlace_fsc hd) env.fsc
  have hrfs := fscUnlockStorage_called hfsc.keys (hfsc.cipher.isPlace.2 (isPlace_rfs hd)) env.rfs
  refine ⟨hrfs.keys, hfsc.cipher.trans hrfs.cipher, hrfs.keyring.trans (funext fun p => ?_)⟩
  rw [hfsc.keyring, fscUnlockStorage_isSome]
  unfold addedKeys knownEnv
  simp only [Bool.or_assoc, Bool.and_assoc]

theorem unlockRfsFirst_called (h : Keys s) (hd : s.dirs.lookup dirRef = some d) (env : KeyEnv) :
    Called s (s.unlockRfsFirst d env) (addedKeys s.keyring d (s.knownEnv d env)) := by
  have hrfs := fscUnlockStorage_called h (isPlace_rfs hd) env.rfs
  have hfsc := fscUnlockStorage_called hrfs.keys (hrfs.cipher.isPlace.2 (isPlace_fsc hd)) env.fsc
  refine ⟨hfsc.keys, hrfs.cipher.trans hfsc.cipher, hfsc.keyring.trans (funext fun p => ?_)⟩
  rw [hrfs.keyring, fscUnlockStorage_isSome]
  unfold addedKeys knownEnv
  simp only [Bool.or_assoc, Bool.and_assoc]
  rw [Bool.or_comm (decide (p = d.path) && _)]

end Keys

/-! ## Names and paths -/

variable {name : Name}

theorem Platform.Fits.storagePath (h : P.Fits name) :
    P.storagePath name = P.secFileStorage ++ name := cut_of_lt h.1

theorem Platform.Fits.rfsStoragePath (h : P.Fits name) :
    P.rfsStoragePath name = P.secFileRfsStorage ++ name := cut_of_lt h.2

theorem Platform.Fits.cut_name (h : P.Fits name) : cut P.maxStorageNameSize name = name := by
  apply cut_of_lt
  have hlen := h.1
  rw [length_append] at hlen
  omega

structure Dir.Named (P : Platform) (d : Dir) : Prop where
  separate : P.Separate
  valid : checkValidPosixFileName d.storageName = true
  fits : P.Fits d.storageName
  path : d.path = P.storagePath d.storageName
  rfsPath : d.rfsPath = P.rfsStoragePath d.storageName

section Paths

variable {d d' : Dir}
variable (h : d.Named P)
include h

theorem Dir.Named.path_eq : d.path = P.secFileStorage ++ d.storageName :=
  h.path.trans h.fits.storagePath

theorem Dir.Named.rfsPath_eq : d.rfsPath = P.secFileRfsStorage ++ d.storageName :=
  h.rfsPath.trans h.fits.rfsStoragePath

theorem Dir.Named.path_inj (h' : d'.Named P) (heq : d.path = d'.path) :
    d.storageName = d'.storageName := by
  rw [h.path_eq, h'.path_eq] at heq
  exact append_cancel_left heq

theorem Dir.Named.rfsPath_inj (h' : d'.Named P) (heq : d.rfsPath = d'.rfsPath) :
    d.storageName = d'.storageName := by
  rw [h.rfsPath_eq, h'.rfsPath_eq] at heq
  exact append_cancel_left heq

theorem Dir.Named.path_ne (h' : d'.Named P) : d.path ≠ d'.rfsPath := by
  rw [h.path_eq, h'.rfsPath_eq]
  intro heq
  obtain ⟨hbase, hrfs, hne⟩ := h.separate
  exact hne
    (PathNames.append_name_inj hbase hrfs (slash_not_mem h.valid) (slash_not_mem h'.valid) heq).1

/-- Directories of storages with different names are different. -/
theorem Dir.Named.place_ne (h' : d'.Named P) (hne : d.storageName ≠ d'.storageName)
    {ref : Nat} {path : Name} (hplc : d'.HasPlace ref path) :
    path ≠ d.path ∧ path ≠ d.rfsPath := by
  rcases hplc with ⟨-, rfl⟩ | ⟨-, rfl⟩
  · exact ⟨fun heq => hne (h.path_inj h' heq.symm), h'.path_ne h⟩
  · exact ⟨(h.path_ne h').symm, fun heq => hne (h.rfsPath_inj h' heq.symm)⟩

end Paths

/-! ## The invariant -/

structure Sound (P : Platform) (s : State) : Prop where
  running : s.crashed = false
  keys : Keys s
  counted : ∀ dirRef d, s.dirs.lookup dirRef = some d → d.userCount.toNat = s.holders dirRef
  opened : ∀ dirRef d, s.dirs.lookup dirRef = some d →
    s.keyring d.path = decide (d.userCount ≠ 0) ∧
      s.keyring d.rfsPath = decide (d.userCount ≠ 0)
  named : ∀ dirRef d, s.dirs.lookup dirRef = some d → d.Named P
  unique : ∀ dirRef d dirRef' d', s.dirs.lookup dirRef = some d →
    s.dirs.lookup dirRef' = some d' →
    d.storageName = d'.storageName → dirRef = dirRef'
  older : ∀ ref c dirRef, s.clients.lookup ref = some c → c.dirRef = some dirRef →
    dirRef < s.dirs.next
  bound : ∀ ref c dirRef d, s.clients.lookup ref = some c → c.dirRef = some dirRef →
    s.dirs.lookup dirRef = some d → d.storageName = c.storageName ∧
      ∃ appName, s.appNames c.clientSessionRef = some appName ∧
        accepts P d c.storageName (cut (P.maxAppNameLen + 1) appName) = true
  live : ∀ ref c, s.clients.lookup ref = some c → c.lockState = false →
    ∃ dirRef d, c.dirRef = some dirRef ∧ s.dirs.lookup dirRef = some d

variable {dirRef : Nat} {d : Dir} {n : BitVec 32}

structure Context (P : Platform) (dirs : RefMap Dir)
    (appNames : Nat → Option Name) (c : ClientCxt) :
    Prop where
  older : ∀ dirRef, c.dirRef = some dirRef → dirRef < dirs.next
  bound : ∀ dirRef d, c.dirRef = some dirRef → dirs.lookup dirRef = some d →
    d.storageName = c.storageName ∧ ∃ appName, appNames c.clientSessionRef = some appName ∧
      accepts P d c.storageName (cut (P.maxAppNameLen + 1) appName) = true
  live : c.lockState = false → ∃ dirRef d, c.dirRef = some dirRef ∧ dirs.lookup dirRef = some d

theorem Sound.context (h : Sound P s) {q : Nat} {c : ClientCxt} (hc : s.clients.lookup q = some c) :
    Context P s.dirs s.appNames c :=
  ⟨fun r => h.older q c r hc, fun r d => h.bound q c r d hc, h.live q c hc⟩

theorem Context.congr {dirs : RefMap Dir} {appNames appNames' : Nat → Option Name} {c : ClientCxt}
    (h : Context P dirs appNames c)
    (hsame : ∀ appName, appNames c.clientSessionRef = some appName →
      appNames' c.clientSessionRef = some appName) : Context P dirs appNames' c := by
  refine ⟨h.older, fun r d hr hd => ?_, h.live⟩
  obtain ⟨hname, appName, happ, hacc⟩ := h.bound r d hr hd
  exact ⟨hname, appName, hsame appName happ, hacc⟩

/-- The records and the keys are as they were, and so are the numbers of holders. -/
theorem Sound.withContexts (h : Sound P s) {clients : RefMap ClientCxt}
    {creators : Name → Option Name} {appNames : Nat → Option Name}
    (hhldrs : ∀ r d, s.dirs.lookup r = some d →
      clients.total (fun _ c => c.holds r) = s.holders r)
    (hcont : ∀ q c, clients.lookup q = some c → Context P s.dirs appNames c) :
    Sound P { s with clients := clients, appNames := appNames, creators := creators } :=
  ⟨h.running, ⟨h.keys.place, h.keys.others, h.keys.distinct⟩,
    fun r d hd => (h.counted r d hd).trans (hhldrs r d hd).symm, h.opened, h.named, h.unique,
    fun q c r hc => (hcont q c hc).older r, fun q c r d hc => (hcont q c hc).bound r d,
    fun q c hc => (hcont q c hc).live⟩

theorem toNat_eq_zero_iff : n.toNat = 0 ↔ n = 0 := by
  constructor
  · intro h
    bv_omega
  · rintro rfl
    rfl

theorem Sound.counting (h : Sound P s) : Counting s := by
  refine ⟨h.running, h.counted, ?_, ?_, h.live⟩
  · intro dirRef d hd
    have hiff : decide (d.userCount ≠ 0) = true ↔ s.holders dirRef ≠ 0 := by
      rw [decide_eq_true_iff, ← h.counted dirRef d hd, Ne, Ne, toNat_eq_zero_iff]
    rw [(h.opened dirRef d hd).1, (h.opened dirRef d hd).2]
    exact ⟨hiff, hiff⟩
  intro path hkey
  obtain ⟨ref, dirRef, d, hd, hplc⟩ := h.keys.others path hkey
  refine ⟨dirRef, d, hd, ?_⟩
  rcases hplc with ⟨-, hpath⟩ | ⟨-, hpath⟩
  · exact .inl hpath
  · exact .inr hpath

/-- Calls of the encryption service that leave the keyring as it was. -/
theorem Sound.called (h : Sound P s) (hcld : Called s t s.keyring) : Sound P t := by
  obtain ⟨hkeys, ⟨hdirs, hcls, hcrts, happN, hcrsh⟩, hkr⟩ := hcld
  refine ⟨hcrsh.trans h.running, hkeys, ?_, ?_, ?_, ?_, ?_, ?_, ?_⟩
  · unfold holders
    rw [hdirs, hcls]
    exact h.counted
  · rw [hdirs, hkr]
    exact h.opened
  · rw [hdirs]
    exact h.named
  · rw [hdirs]
    exact h.unique
  · rw [hdirs, hcls]
    exact h.older
  · rw [hdirs, hcls, happN]
    exact h.bound
  · rw [hdirs, hcls]
    exact h.live

/-- What happens to the keys of a record is not seen in those of another. -/
theorem Sound.keyring_other (h : Sound P s) {r : Nat} {e : Dir} {keyring : Name → Bool}
    (hd : s.dirs.lookup dirRef = some d) (he : s.dirs.lookup r = some e) (hne : r ≠ dirRef)
    (hoths : ∀ p, p ≠ d.path → p ≠ d.rfsPath → keyring p = s.keyring p) :
    keyring e.path = decide (e.userCount ≠ 0) ∧
      keyring e.rfsPath = decide (e.userCount ≠ 0) := by
  have hnms : d.storageName ≠ e.storageName :=
    fun heq => hne (h.unique dirRef d r e hd he heq).symm
  have hplcs : ∀ {ref path}, e.HasPlace ref path → path ≠ d.path ∧ path ≠ d.rfsPath :=
    fun hplc => (h.named dirRef d hd).place_ne (h.named r e he) hnms hplc
  obtain ⟨hpath, hpath'⟩ := hplcs (.inl ⟨rfl, rfl⟩)
  obtain ⟨hrfs, hrfs'⟩ := hplcs (.inr ⟨rfl, rfl⟩)
  rw [hoths _ hpath hpath', hoths _ hrfs hrfs']
  exact h.opened r e he

/-- The references and paths of a record do not change with its count. -/
theorem isPlace_setUserCount :
    (s.setUserCount dirRef n).IsPlace ref path ↔ s.IsPlace ref path := by
  unfold State.IsPlace setUserCount
  simp only [lookup_modify]
  constructor
  · rintro ⟨r, e, he, hplc⟩
    split at he
    · obtain ⟨old, hold, rfl⟩ := Option.map_eq_some_iff.1 he
      exact ⟨r, old, hold, hplc⟩
    · exact ⟨r, e, he, hplc⟩
  rintro ⟨r, e, he, hplc⟩
  by_cases heq : r = dirRef
  · refine ⟨r, { e with userCount := n }, ?_, hplc⟩
    rw [if_pos heq, he]
    rfl
  · refine ⟨r, e, ?_, hplc⟩
    rw [if_neg heq, he]

/-- A context after a step is an old one; only one of the record may have become a holder. -/
structure FromOld (s t : State) (dirRef : Nat) : Prop where
  appNames : t.appNames = s.appNames
  crashed : t.crashed = s.crashed
  clients : ∀ q c, t.clients.lookup q = some c → ∃ old, s.clients.lookup q = some old ∧
    old.dirRef = c.dirRef ∧ old.clientSessionRef = c.clientSessionRef ∧
    old.storageName = c.storageName ∧
    (c.lockState = false → old.lockState = false ∨ c.dirRef = some dirRef)

/-- One record has a new count, its directories and holders agree with it, and the others are as
they were. -/
theorem Sound.recount (h : Sound P s) (hd : s.dirs.lookup dirRef = some d)
    (hdirs : t.dirs = (s.setUserCount dirRef n).dirs) (hold : FromOld s t dirRef) (hkeys : Keys t)
    (hopen : t.keyring d.path = decide (n ≠ 0) ∧ t.keyring d.rfsPath = decide (n ≠ 0))
    (hoths : ∀ p, p ≠ d.path → p ≠ d.rfsPath → t.keyring p = s.keyring p)
    (hcntd : n.toNat = t.holders dirRef)
    (hhldrs : ∀ other, other ≠ dirRef → t.holders other = s.holders other) : Sound P t := by
  have hlook : ∀ r e, t.dirs.lookup r = some e →
      r = dirRef ∧ e = { d with userCount := n } ∨ r ≠ dirRef ∧
        s.dirs.lookup r = some e := by
    intro r e he
    rw [hdirs] at he
    unfold setUserCount at he
    dsimp only at he
    rw [lookup_modify] at he
    split at he
    · rename_i heq
      subst heq
      rw [hd] at he
      cases he
      exact .inl ⟨rfl, rfl⟩
    · exact .inr ⟨‹_›, he⟩
  have hold_of : ∀ r e, t.dirs.lookup r = some e → ∃ e', s.dirs.lookup r = some e' ∧
      e'.storageName = e.storageName ∧ e'.masterAppName = e.masterAppName ∧ e'.path = e.path ∧
        e'.rfsPath = e.rfsPath := by
    intro r e he
    rcases hlook r e he with ⟨rfl, rfl⟩ | ⟨-, hsame⟩
    · exact ⟨d, hd, rfl, rfl, rfl, rfl⟩
    · exact ⟨e, hsame, rfl, rfl, rfl, rfl⟩
  refine ⟨hold.crashed.trans h.running, hkeys, ?_, ?_, ?_, ?_, ?_, ?_, ?_⟩
  · intro r e he
    rcases hlook r e he with ⟨rfl, rfl⟩ | ⟨hne, hsame⟩
    · exact hcntd
    · rw [hhldrs r hne]
      exact h.counted r e hsame
  · intro r e he
    rcases hlook r e he with ⟨rfl, rfl⟩ | ⟨hne, hsame⟩
    · exact hopen
    · exact h.keyring_other hd hsame hne hoths
  · intro r e he
    rcases hlook r e he with ⟨rfl, rfl⟩ | ⟨-, hsame⟩
    · obtain ⟨hsepa, hval, hfits, hpath, hrfs⟩ := h.named r d hd
      exact ⟨hsepa, hval, hfits, hpath, hrfs⟩
    · exact h.named r e hsame
  · intro r e r' e' he he' hname
    obtain ⟨a, ha, hna, -⟩ := hold_of r e he
    obtain ⟨b, hb, hnb, -⟩ := hold_of r' e' he'
    exact h.unique r a r' b ha hb (hna.trans (hname.trans hnb.symm))
  · intro q c r hc hr
    obtain ⟨old, hq, hdir, -⟩ := hold.clients q c hc
    have hlt := h.older q old r hq (hdir.trans hr)
    rw [hdirs]
    exact hlt
  · intro q c r e hc hr he
    obtain ⟨old, hq, hdir, hsess, hname, -⟩ := hold.clients q c hc
    obtain ⟨e', he', hstg, hmst, -⟩ := hold_of r e he
    obtain ⟨hsame, appName, happ, hacc⟩ := h.bound q old r e' hq (hdir.trans hr) he'
    refine ⟨hstg.symm.trans (hsame.trans hname), appName, ?_, ?_⟩
    · rw [hold.appNames, ← hsess]
      exact happ
    unfold accepts isMaster at hacc ⊢
    rw [← hmst, ← hname]
    exact hacc
  intro q c hc hunl
  obtain ⟨old, hq, hdir, -, -, hlive⟩ := hold.clients q c hc
  have hmodi : ∀ r e, s.dirs.lookup r = some e → ∃ e', t.dirs.lookup r = some e' := by
    intro r e he
    rw [hdirs]
    unfold setUserCount
    rw [lookup_modify, he]
    split
    · exact ⟨_, rfl⟩
    · exact ⟨e, rfl⟩
  rcases hlive hunl with hheld | hnew
  · obtain ⟨r, e, hr, he⟩ := h.live q old hq hheld
    obtain ⟨e', he'⟩ := hmodi r e he
    exact ⟨r, e', hdir.symm.trans hr, he'⟩
  · obtain ⟨e', he'⟩ := hmodi dirRef d hd
    exact ⟨dirRef, e', hnew, he'⟩

/-! ## Unlocking and locking -/

variable {session : Nat}

section Holders

variable {c : ClientCxt} {storageRef : Nat}

theorem ClientCxt.holds_self (hdir : c.dirRef = some dirRef) (hheld : c.lockState = false) :
    c.holds dirRef = 1 := if_pos ⟨hdir, hheld⟩

theorem ClientCxt.holds_of_ne {r : Nat} (hdir : c.dirRef = some dirRef) (hne : r ≠ dirRef) :
    c.holds r = 0 := by
  apply if_neg
  rintro ⟨hr, -⟩
  rw [hdir] at hr
  exact hne (Option.some.inj hr).symm

theorem ClientCxt.holds_of_locked {r : Nat} (hlkd : c.lockState = true) : c.holds r = 0 := by
  apply if_neg
  rintro ⟨-, hheld⟩
  rw [hlkd] at hheld
  cases hheld

section

variable (hc : s.clients.lookup storageRef = some c)
include hc

theorem holders_setLockState (lockState : Bool) (r : Nat) :
    (s.setLockState storageRef lockState).holders r + c.holds r =
      s.holders r + { c with lockState := lockState }.holds r :=
  total_modify (w := fun _ c => holds r c) hc _

theorem holders_releaseClientCxt (r : Nat) :
    (s.releaseClientCxt storageRef).holders r + c.holds r = s.holders r :=
  total_erase (w := fun _ c => holds r c) hc

theorem fromOld_setLockState (hdir : c.dirRef = some dirRef) (lockState : Bool) :
    FromOld s (s.setLockState storageRef lockState) dirRef := by
  refine ⟨rfl, rfl, fun q x hx => ?_⟩
  unfold setLockState at hx
  dsimp only at hx
  rw [lookup_modify] at hx
  split at hx
  · rename_i heq
    subst heq
    rw [hc] at hx
    cases hx
    exact ⟨c, hc, rfl, rfl, rfl, fun _ => .inr hdir⟩
  · exact ⟨x, hx, rfl, rfl, rfl, .inl⟩

end

theorem fromOld_releaseClientCxt (s : State) (storageRef dirRef : Nat) :
    FromOld s (s.releaseClientCxt storageRef) dirRef := by
  refine ⟨rfl, rfl, fun q x hx => ?_⟩
  exact ⟨x, (lookup_of_erase hx).2, rfl, rfl, rfl, .inl⟩

theorem FromOld.of_same (h : FromOld s u dirRef) (hcls : t.clients = u.clients)
    (happN : t.appNames = u.appNames) (hcrsh : t.crashed = u.crashed) :
    FromOld s t dirRef := by
  refine ⟨happN.trans h.appNames, hcrsh.trans h.crashed, ?_⟩
  rw [hcls]
  exact h.clients

theorem Keys.setUserCount (h : Keys s) (dirRef : Nat) (n : BitVec 32) :
    Keys (s.setUserCount dirRef n) := by
  refine ⟨fun ref path hplc => h.place ref path (isPlace_setUserCount.1 hplc), ?_, ?_⟩
  · intro path hkey
    obtain ⟨ref, hplc⟩ := h.others path hkey
    exact ⟨ref, isPlace_setUserCount.2 hplc⟩
  · intro a b path ha hb
    exact h.distinct a b path (isPlace_setUserCount.1 ha) (isPlace_setUserCount.1 hb)

/-- The keyring after adding or removing both keys of a record. -/
theorem addedKeys_both (keyring : Name → Bool) (d : Dir) :
    addedKeys keyring d ⟨true, true⟩ d.path = true ∧
      addedKeys keyring d ⟨true, true⟩ d.rfsPath = true ∧
      ∀ p, p ≠ d.path → p ≠ d.rfsPath →
        addedKeys keyring d ⟨true, true⟩ p = keyring p := by
  unfold addedKeys
  refine ⟨by simp, by simp, fun p hpath hrfs => by simp [hpath, hrfs]⟩

theorem removedKeys_both (keyring : Name → Bool) (d : Dir) :
    removedKeys keyring d ⟨true, true⟩ d.path = false ∧
      removedKeys keyring d ⟨true, true⟩ d.rfsPath = false ∧
      ∀ p, p ≠ d.path → p ≠ d.rfsPath →
        removedKeys keyring d ⟨true, true⟩ p = keyring p := by
  unfold removedKeys
  refine ⟨by simp, by simp, fun p hpath hrfs => by simp [hpath, hrfs]⟩

variable {env : KeyEnv}

section

variable (h : Sound P s)
include h

/-- The first holder unlocks the directories, and they are unlocked for the next one. -/
theorem Sound.unlocked (hd : s.dirs.lookup dirRef = some d)
    (hunlo : d.userCount = 0 → s.unlocks d env = true) :
    ∃ keyring, Called s (if d.userCount = 0 then s.unlockRfsFirst d env else s) keyring ∧
      keyring d.path = true ∧ keyring d.rfsPath = true ∧
      ∀ p, p ≠ d.path → p ≠ d.rfsPath → keyring p = s.keyring p := by
  split
  · rename_i hzero
    have hknw : s.knownEnv d env = ⟨true, true⟩ := by
      have hboth := hunlo hzero
      unfold unlocks at hboth
      simp only [and_eq_true] at hboth
      unfold knownEnv
      simp [hboth]
    have hcld := unlockRfsFirst_called h.keys hd env
    rw [hknw] at hcld
    exact ⟨_, hcld, addedKeys_both s.keyring d⟩
  · rename_i hheld
    obtain ⟨hpath, hrfs⟩ := h.opened dirRef d hd
    exact ⟨s.keyring, ⟨h.keys, .refl s, rfl⟩, by rw [hpath]; simpa using hheld,
      by rw [hrfs]; simpa using hheld, fun _ _ _ => rfl⟩

theorem Sound.unlockStorage
    (hcare : ∀ x ∈ s.contextOf storageRef, x.1.lockState = true ∧ x.2.2.userCount + 1 ≠ 0 ∧
      (x.2.2.userCount = 0 → s.unlocks x.2.2 env = true)) :
    Sound P (s.unlockStorage storageRef env) := by
  unfold State.unlockStorage
  rcases hctx : s.contextOf storageRef with _ | x
  · exact h
  obtain ⟨c, dirRef, d⟩ := x
  obtain ⟨hlkd, hroom, hunlo⟩ := hcare _ hctx
  obtain ⟨hc, hdir, hd⟩ := contextOf_eq_some hctx
  obtain ⟨keyring, hcld, hpath, hrfs, hoths⟩ := h.unlocked hd hunlo
  dsimp only at hlkd hroom ⊢
  generalize (if d.userCount = 0 then s.unlockRfsFirst d env else s) = u at hcld ⊢
  obtain ⟨hkeys, hciph, hkr⟩ := hcld
  have hkeys' := hkeys.setUserCount dirRef (d.userCount + 1)
  have hold := (fromOld_setLockState hc hdir false).of_same
    (t := (u.setUserCount dirRef (d.userCount + 1)).setLockState storageRef false)
    (by unfold State.setLockState State.setUserCount; dsimp only; rw [hciph.clients])
    hciph.appNames hciph.crashed
  have hhldrs : ∀ r, ((u.setUserCount dirRef (d.userCount + 1)).setLockState storageRef
      false).holders r = (s.setLockState storageRef false).holders r := by
    intro r
    unfold State.holders State.setLockState State.setUserCount
    rw [hciph.clients]
  have hnot : ∀ r, c.holds r = 0 := fun r => holds_of_locked hlkd
  refine h.recount (n := d.userCount + 1) hd ?_ hold ⟨hkeys'.place, hkeys'.others, hkeys'.distinct⟩
    ?_ ?_ ?_ ?_
  · unfold State.setLockState State.setUserCount
    rw [hciph.dirs]
  · change u.keyring d.path = _ ∧ u.keyring d.rfsPath = _
    rw [hkr, hpath, hrfs]
    simpa using hroom
  · intro p hp hp'
    change u.keyring p = _
    rw [hkr]
    exact hoths p hp hp'
  · have hset := holders_setLockState hc false dirRef
    have hone : ({ c with lockState := false } : ClientCxt).holds dirRef = 1 :=
      holds_self hdir rfl
    have hcntd := h.counted dirRef d hd
    rw [hhldrs]
    rw [hnot] at hset
    bv_omega
  · intro r hne
    have hset := holders_setLockState hc false r
    have hzero : ({ c with lockState := false } : ClientCxt).holds r = 0 :=
      holds_of_ne hdir hne
    rw [hhldrs]
    rw [hnot, hzero] at hset
    exact hset

theorem Sound.left (hd : s.dirs.lookup dirRef = some d)
    (hdir : c.dirRef = some dirRef) (hheld : c.lockState = false)
    (hdirs : t.dirs = (s.setUserCount dirRef (d.userCount - 1)).dirs)
    (hold : FromOld s t dirRef) (hkeys : Keys t)
    (hkr : t.keyring =
      if d.userCount - 1 = 0 then removedKeys s.keyring d ⟨true, true⟩ else s.keyring)
    (hhldrs : ∀ r, t.holders r + c.holds r = s.holders r) : Sound P t := by
  have hone : c.holds dirRef = 1 := holds_self hdir hheld
  have hcntd := h.counted dirRef d hd
  have hfewer := hhldrs dirRef
  obtain ⟨hpath, hrfs⟩ := h.opened dirRef d hd
  have hposi : d.userCount ≠ 0 := by
    rw [Ne, ← toNat_eq_zero_iff]
    omega
  refine h.recount (n := d.userCount - 1) hd hdirs hold hkeys ?_ ?_ ?_ ?_
  · rw [hkr]
    split
    · rename_i hlast
      rw [(removedKeys_both s.keyring d).1, (removedKeys_both s.keyring d).2.1,
        decide_eq_false (not_not.2 hlast)]
      exact ⟨rfl, rfl⟩
    · rename_i hmore
      rw [hpath, hrfs, decide_eq_true hposi, decide_eq_true hmore]
      exact ⟨rfl, rfl⟩
  · intro p hp hp'
    rw [hkr]
    split
    · exact (removedKeys_both s.keyring d).2.2 p hp hp'
    · rfl
  · have hlarge : 1 ≤ d.userCount := by bv_omega
    bv_omega
  · intro r hne
    have hzero : c.holds r = 0 := holds_of_ne hdir hne
    have hsame := hhldrs r
    rw [hzero] at hsame
    exact hsame

theorem Sound.lockStorage
    (hcare : ∀ x ∈ s.contextOf storageRef, x.1.lockState = false → x.2.2.userCount = 1 →
      env.fsc = true ∧ env.rfs = true) : Sound P (s.lockStorage storageRef env) := by
  unfold State.lockStorage
  rcases hctx : s.contextOf storageRef with _ | x
  · exact h
  obtain ⟨c, dirRef, d⟩ := x
  obtain ⟨hc, hdir, hd⟩ := contextOf_eq_some hctx
  have hkysF := hcare _ hctx
  dsimp only at hkysF ⊢
  split
  · exact h
  rename_i hlock
  have hheld : c.lockState = false := by simpa using hlock
  split
  · exact h
  have hcnt := h.keys.setUserCount dirRef (d.userCount - 1)
  have hset : Keys ((s.setUserCount dirRef (d.userCount - 1)).setLockState storageRef true) :=
    ⟨hcnt.place, hcnt.others, hcnt.distinct⟩
  have hold := (fromOld_setLockState hc hdir true).of_same
    (t := (s.setUserCount dirRef (d.userCount - 1)).setLockState storageRef true) rfl rfl rfl
  have hhldrs : ∀ r, ((s.setUserCount dirRef (d.userCount - 1)).setLockState storageRef
      true).holders r + c.holds r = s.holders r := by
    intro r
    have hsum := holders_setLockState hc true r
    have hzero : ({ c with lockState := true } : ClientCxt).holds r = 0 :=
      holds_of_locked rfl
    rw [hzero] at hsum
    exact hsum
  have hnew : ((s.setUserCount dirRef (d.userCount - 1)).setLockState storageRef true).dirs.lookup
      dirRef = some { d with userCount := d.userCount - 1 } := by
    unfold State.setLockState State.setUserCount
    rw [lookup_modify_self, hd]
    rfl
  split
  · rename_i hlast
    obtain ⟨hfsc, hrfs⟩ := hkysF hheld (by bv_omega)
    have henv : env = ⟨true, true⟩ := by
      cases env
      cases hfsc
      cases hrfs
      rfl
    obtain ⟨hkeys, hciph, hkr⟩ := lockRfsFirst_called hset hnew env
    refine h.left hd hdir hheld hciph.dirs
      (hold.of_same hciph.clients hciph.appNames hciph.crashed) hkeys ?_ ?_
    · rw [if_pos hlast, ← henv]
      exact hkr
    intro r
    rw [← hhldrs r]
    congr 1
    exact congrArg (total · _) hciph.clients
  · rename_i hmore
    refine h.left hd hdir hheld rfl hold hset ?_ hhldrs
    rw [if_neg hmore]
    rfl

end

/-! ## Files -/

variable {added removed : KeyEnv}

section

variable (h : Sound P s)
include h

/-- The keys that are added for the operation are removed, and no others. -/
theorem removedKeys_addedKeys (hd : s.dirs.lookup dirRef = some d)
    (hrsts : Restores d added removed) :
    removedKeys (addedKeys s.keyring d (s.knownEnv d added)) d removed = s.keyring := by
  obtain ⟨hpath, hrfs⟩ := h.opened dirRef d hd
  unfold Restores at hrsts
  unfold removedKeys addedKeys knownEnv
  funext p
  split at hrsts
  · rename_i hzero
    rw [decide_eq_false (not_not.2 hzero)] at hpath hrfs
    obtain ⟨hfscR, hrfsR⟩ := hrsts
    cases hkey : s.keyring p with
    | true =>
      have hne : p ≠ d.path := by
        rintro rfl
        rw [hkey] at hpath
        cases hpath
      have hne' : p ≠ d.rfsPath := by
        rintro rfl
        rw [hkey] at hrfs
        cases hrfs
      simp [hne, hne']
    | false =>
      have hfsc : added.fsc = false ∨ removed.fsc = true := by
        rw [← not_eq_true, ← imp_iff_not_or]
        exact hfscR
      have hbkp : added.rfs = false ∨ removed.rfs = true := by
        rw [← not_eq_true, ← imp_iff_not_or]
        exact hrfsR
      generalize decide (p = d.path) = atPath
      generalize decide (p = d.rfsPath) = atRfsPath
      rcases hfsc with hfsc | hfsc <;> rcases hbkp with hbkp | hbkp <;>
        cases atPath <;> cases atRfsPath <;> simp [hfsc, hbkp]
  · rename_i hheld
    rw [decide_eq_true hheld] at hpath hrfs
    rw [hrsts.1, hrsts.2]
    by_cases hp : p = d.path
    · subst hp
      simp [hpath]
    by_cases hp' : p = d.rfsPath
    · subst hp'
      simp [hrfs]
    · simp [hp, hp']

theorem Sound.withUnlocked (hd : s.dirs.lookup dirRef = some d)
    (hrsts : Restores d added removed) : Sound P (s.withUnlocked d added removed) := by
  have hadd := unlockDirs_called h.keys hd added
  have hrmvd := lockDirs_called hadd.keys (by rw [hadd.cipher.dirs]; exact hd) removed
  rw [hadd.keyring, removedKeys_addedKeys h hd hrsts] at hrmvd
  exact h.called (hadd.trans hrmvd)

theorem Sound.usedFile {purpose : Purpose} (htgt : s.fileTarget storageRef purpose = some d)
    (hrsts : Restores d added removed) : Sound P (s.withUnlocked d added removed) := by
  obtain ⟨c, dirRef, hctx, -⟩ := fileTarget_eq_some htgt
  exact h.withUnlocked (contextOf_eq_some hctx).2.2 hrsts

theorem Sound.importFile {source target : Name} {env : ImportEnv}
    (hcare : ∀ d ∈ s.importTarget storageRef source target env,
      Restores d env.added env.removed) :
    Sound P (s.importFile P storageRef source target env).state := by
  unfold State.importFile
  cases htgt : s.importTarget storageRef source target env with
  | none => exact h
  | some d => exact h.usedFile (Option.filter_eq_some_iff.1 htgt).1 (hcare d htgt)

theorem Sound.readFile {filePath : Name} {env : FileEnv}
    (hcare : filePath ≠ [] → ∀ d ∈ s.fileTarget storageRef .read,
      Restores d env.added env.removed) : Sound P (s.readFile P storageRef filePath env).state := by
  unfold State.readFile
  split
  · exact h
  rename_i d htgt
  obtain ⟨hfile, hpath⟩ := Option.filter_eq_some_iff.1 htgt
  exact h.usedFile hfile (hcare (of_decide_eq_true hpath) d hfile)

theorem Sound.deleteFile {filePath : Name} {env : FileEnv}
    (hcare : filePath ≠ [] → ∀ d ∈ s.fileTarget storageRef .remove,
      Restores d env.added env.removed) :
    Sound P (s.deleteFile P storageRef filePath env).state := by
  unfold State.deleteFile
  split
  · exact h
  rename_i d htgt
  obtain ⟨hfile, hpath⟩ := Option.filter_eq_some_iff.1 htgt
  exact h.usedFile hfile (hcare (of_decide_eq_true hpath) d hfile)

end

/-! ## Sessions -/

theorem Sound.releaseClientCxt (h : Sound P s) (hc : s.clients.lookup storageRef = some c)
    (hlkd : c.lockState = true) : Sound P (s.releaseClientCxt storageRef) := by
  refine h.withContexts (fun r _ _ => ?_) fun q x hx => h.context (lookup_of_erase hx).2
  have hsum := holders_releaseClientCxt hc r
  rw [holds_of_locked hlkd] at hsum
  exact hsum

theorem closeClientCxt_clients (env : Nat → KeyEnv) (hkeys : Keys s) :
    (closeClientCxt env s storageRef).clients = s.clients.erase storageRef ∨
      closeClientCxt env s storageRef = s ∧ s.clients.lookup storageRef = none := by
  unfold closeClientCxt
  rcases hc : s.clients.lookup storageRef with _ | c
  · exact .inr ⟨rfl, rfl⟩
  left
  unfold releaseClientCxt
  dsimp only
  congr 1
  split
  · rfl
  split
  · rfl
  rename_i x dirRef d hctx
  obtain ⟨-, -, hd⟩ := contextOf_eq_some hctx
  split
  · have hnew : (s.setUserCount dirRef (d.userCount - 1)).dirs.lookup dirRef =
        some { d with userCount := d.userCount - 1 } := by
      unfold setUserCount
      rw [lookup_modify_self, hd]
      rfl
    exact (lockDirs_called (hkeys.setUserCount dirRef (d.userCount - 1)) hnew _).cipher.clients
  · rfl

theorem Sound.closeClientCxt (h : Sound P s) {env : Nat → KeyEnv}
    (hcare : ∀ c, s.clients.lookup storageRef = some c → c.lockState = false →
      (env storageRef).fsc = true ∧ (env storageRef).rfs = true) :
    Sound P (closeClientCxt env s storageRef) := by
  unfold State.closeClientCxt
  rcases hc : s.clients.lookup storageRef with _ | c
  · exact h
  dsimp only
  split
  · exact h.releaseClientCxt hc ‹_›
  rename_i hlock
  have hheld : c.lockState = false := by simpa using hlock
  obtain ⟨dirRef, d, hdir, hd⟩ := h.live storageRef c hc hheld
  have hctx : s.contextOf storageRef = some (c, dirRef, d) := by
    unfold State.contextOf
    simp [hc, hdir, hd]
  rw [hctx]
  dsimp only
  have hset := h.keys.setUserCount dirRef (d.userCount - 1)
  have hnew : (s.setUserCount dirRef (d.userCount - 1)).dirs.lookup dirRef =
      some { d with userCount := d.userCount - 1 } := by
    unfold State.setUserCount
    rw [lookup_modify_self, hd]
    rfl
  obtain ⟨hfsc, hrfs⟩ := hcare c hc hheld
  have henv : env storageRef = ⟨true, true⟩ := by
    cases henv : env storageRef
    rw [henv] at hfsc hrfs
    cases hfsc
    cases hrfs
    rfl
  have hhldrs := holders_releaseClientCxt hc
  have hold := fromOld_releaseClientCxt s storageRef dirRef
  split
  · rename_i hlast
    obtain ⟨hkeys, hciph, hkr⟩ := lockDirs_called hset hnew (env storageRef)
    refine h.left hd hdir hheld hciph.dirs (hold.of_same ?_ hciph.appNames hciph.crashed)
      ⟨hkeys.place, hkeys.others, hkeys.distinct⟩ ?_ ?_
    · exact congrArg (erase · storageRef) hciph.clients
    · rw [if_pos hlast, ← henv]
      exact hkr
    intro r
    rw [← hhldrs r]
    congr 1
    exact congrArg (fun m => (erase m storageRef).total _) hciph.clients
  · rename_i hmore
    refine h.left hd hdir hheld rfl (hold.of_same rfl rfl rfl)
      ⟨hset.place, hset.others, hset.distinct⟩ ?_ hhldrs
    rw [if_neg hmore]
    rfl

theorem Sound.closeClientCxts (h : Sound P s) (env : Nat → KeyEnv) (refs : List Nat)
    (hcare : ∀ ref ∈ refs, ∀ c, s.clients.lookup ref = some c → c.lockState = false →
      (env ref).fsc = true ∧ (env ref).rfs = true) :
    Sound P (refs.foldl (State.closeClientCxt env) s) ∧
      ∀ q c, (refs.foldl (State.closeClientCxt env) s).clients.lookup q = some c →
        q ∉ refs ∧ s.clients.lookup q = some c := by
  induction refs generalizing s with
  | nil => exact ⟨h, fun q c hq => ⟨not_mem_nil, hq⟩⟩
  | cons ref rest ih =>
    have hfst : ∀ q c, (State.closeClientCxt env s ref).clients.lookup q = some c →
        q ≠ ref ∧ s.clients.lookup q = some c := by
      intro q c hq
      rcases closeClientCxt_clients env h.keys with hersd | ⟨hsame, hnone⟩
      · rw [hersd] at hq
        exact lookup_of_erase hq
      rw [hsame] at hq
      refine ⟨?_, hq⟩
      rintro rfl
      rw [hnone] at hq
      cases hq
    obtain ⟨hsnd, hrest⟩ := ih (h.closeClientCxt (hcare ref mem_cons_self))
      fun q hq c hc => hcare q (mem_cons_of_mem _ hq) c (hfst q c hc).2
    refine ⟨hsnd, fun q c hq => ?_⟩
    obtain ⟨hnot, hstil⟩ := hrest q c hq
    obtain ⟨hne, hlook⟩ := hfst q c hstil
    exact ⟨fun hmem => (mem_cons.1 hmem).elim hne hnot, hlook⟩

theorem Sound.sessionClosed (h : Sound P s) {env : Nat → KeyEnv}
    (hcare : ∀ e ∈ s.clients.entries, e.2.clientSessionRef = session →
      e.2.lockState = false → (env e.1).fsc = true ∧ (env e.1).rfs = true) :
    Sound P (s.sessionClosed session env) := by
  have hmem : ∀ ref c, s.clients.lookup ref = some c →
      (ref ∈ s.contextsOf session ↔ c.clientSessionRef = session) := by
    intro ref c hc
    unfold State.contextsOf
    simp only [mem_map, mem_filter, decide_eq_true_iff]
    constructor
    · rintro ⟨e, ⟨he, hsess⟩, rfl⟩
      rw [lookup_eq_some_iff.2 he] at hc
      cases hc
      exact hsess
    · intro hsess
      exact ⟨(ref, c), ⟨lookup_eq_some_iff.1 hc, hsess⟩, rfl⟩
  obtain ⟨hsnd, hgone⟩ := h.closeClientCxts env (s.contextsOf session) fun ref href c hc hheld =>
    hcare (ref, c) (lookup_eq_some_iff.1 hc) ((hmem ref c hc).1 href) hheld
  refine hsnd.withContexts (fun _ _ _ => rfl) fun q c hc => (hsnd.context hc).congr fun
    appName happ => ?_
  obtain ⟨hnot, hlook⟩ := hgone q c hc
  rw [update_of_ne fun heq => hnot ((hmem q c hlook).2 heq)]
  exact happ

/-! ## Deletion -/

section

variable (h : Keys s) (hplc : s.IsPlace ref path)
include h hplc

/-- A storage is locked when it is deleted, whether it could be or not. -/
theorem fscLockStorage_locked (removed : Bool) (hok : (s.fscLockStorage ref removed).2 = true) :
    (s.fscLockStorage ref removed).1.keyring path = false := by
  have hp := h.place ref path hplc
  unfold fscLockStorage at hok ⊢
  rcases hx : s.fscStorages.lookup ref with _ | x
  · rw [hx] at hok
    cases hok
  rw [hx] at hok
  dsimp only at hok ⊢
  obtain ⟨hdir, hflag⟩ := hp.agrees x hx
  split at hok
  · rename_i hadd
    rw [if_pos hadd]
    split at hok
    · rename_i hrmvd
      rw [if_pos hrmvd, hdir]
      exact update_self ..
    · cases hok
  · rename_i hadd
    rw [if_neg hadd, ← hflag]
    simpa using hadd

theorem Keys.forget (hkey : s.keyring path = false) :
    Keys { s with fscStorages := s.fscStorages.erase ref } := by
  refine ⟨?_, h.others, h.distinct⟩
  intro other path' hoth
  have hp := h.place other path' hoth
  refine ⟨hp.old, ?_, ?_⟩
  · intro x hx
    exact hp.agrees x (lookup_of_erase hx).2
  intro hkey'
  dsimp only at hkey' ⊢
  have hne : other ≠ ref := by
    rintro rfl
    have hknw := hp.known hkey'
    obtain ⟨x, hx⟩ := Option.isSome_iff_exists.1 hknw
    have hsame := (hp.agrees x hx).1.symm.trans ((h.place other path hplc).agrees x hx).1
    rw [hsame, hkey] at hkey'
    cases hkey'
  rw [lookup_erase, if_neg hne]
  exact hp.known hkey'

theorem fscDeleteStorage_called (env : Deletion) :
    Called s (s.fscDeleteStorage ref env).1
      fun p => s.keyring p && !(decide (p = path) && env.removed) := by
  have hcld := fscLockStorage_called h hplc env.removed
  have hlkd := fscLockStorage_locked h hplc env.removed
  unfold fscDeleteStorage
  generalize s.fscLockStorage ref env.removed = result at hcld hlkd
  obtain ⟨t, ok⟩ := result
  rcases ok with _ | _
  · exact hcld
  dsimp only at hcld hlkd ⊢
  split
  · refine ⟨hcld.keys.forget (hcld.cipher.isPlace.2 hplc) (hlkd rfl), ?_, hcld.keyring⟩
    exact hcld.cipher.trans ⟨rfl, rfl, rfl, rfl, rfl⟩
  · exact hcld

theorem fscDeleteStorage_eq_true
    (hkey : s.keyring path = true) : (s.fscDeleteStorage ref ⟨true, true, true⟩).2 = true := by
  have hp := h.place ref path hplc
  obtain ⟨x, hx⟩ := Option.isSome_iff_exists.1 (hp.known hkey)
  unfold fscDeleteStorage fscLockStorage
  rw [hx]
  dsimp only
  rw [if_pos ((hp.agrees x hx).2.trans hkey)]
  rfl

theorem fscDeleteStorage_held
    (hkey : s.keyring path = true) {env : Deletion} (hrmvd : env.removed = false) :
    s.fscDeleteStorage ref env = (s, false) := by
  have hp := h.place ref path hplc
  obtain ⟨x, hx⟩ := Option.isSome_iff_exists.1 (hp.known hkey)
  unfold fscDeleteStorage fscLockStorage
  rw [hx, hrmvd]
  dsimp only
  rw [if_pos ((hp.agrees x hx).2.trans hkey)]
  rfl

end

section

variable (h : Sound P s)
include h

theorem Sound.setCreators (creators : Name → Option Name) :
    Sound P { s with creators := creators } :=
  h.withContexts (fun _ _ _ => rfl) fun _ _ hc => h.context hc

/-- The record of a storage goes that nobody else holds and whose directories are locked, with
the context. -/
theorem Sound.erased (hd : s.dirs.lookup dirRef = some d)
    (hc : s.clients.lookup storageRef = some c) (hdir : c.dirRef = some dirRef)
    (hlast : s.holders dirRef = c.holds dirRef)
    (hdirs : t.dirs = s.dirs.erase dirRef) (hcls : t.clients = s.clients.erase storageRef)
    (happN : t.appNames = s.appNames) (hcrsh : t.crashed = s.crashed)
    (hkeys : Keys u) (hu : u.dirs = s.dirs) (hsame : t.fscStorages = u.fscStorages)
    (hring : t.keyring = u.keyring) (hpath : u.keyring d.path = false)
    (hrfs : u.keyring d.rfsPath = false)
    (hoths : ∀ p, p ≠ d.path → p ≠ d.rfsPath → u.keyring p = s.keyring p) : Sound P t := by
  have hlook : ∀ r e, t.dirs.lookup r = some e → r ≠ dirRef ∧ s.dirs.lookup r = some e := by
    intro r e he
    rw [hdirs] at he
    exact lookup_of_erase he
  have hcl : ∀ q x, t.clients.lookup q = some x → q ≠ storageRef ∧
      s.clients.lookup q = some x := by
    intro q x hx
    rw [hcls] at hx
    exact lookup_of_erase hx
  have hplac : ∀ {ref path}, t.IsPlace ref path → u.IsPlace ref path := by
    rintro ref path ⟨r, e, he, hplc⟩
    refine ⟨r, e, ?_, hplc⟩
    rw [hu]
    exact (hlook r e he).2
  have hhldrs : ∀ r, t.holders r + c.holds r = s.holders r := by
    intro r
    unfold holders
    rw [hcls]
    exact total_erase (w := fun _ c => holds r c) hc
  have hnone : t.holders dirRef = 0 := by
    have hsum := hhldrs dirRef
    omega
  have hfree : ∀ q x, t.clients.lookup q = some x → x.holds dirRef = 0 :=
    total_eq_zero.1 hnone
  refine ⟨hcrsh.trans h.running, ⟨?_, ?_, ?_⟩, ?_, ?_, ?_, ?_, ?_, ?_, ?_⟩
  · intro ref path hplc
    rw [hsame, hring]
    exact hkeys.place ref path (hplac hplc)
  · intro path hkey
    rw [hring] at hkey
    obtain ⟨ref, r, e, he, hplc⟩ := hkeys.others path hkey
    refine ⟨ref, r, e, ?_, hplc⟩
    have hne : r ≠ dirRef := by
      rintro rfl
      rw [hu, hd] at he
      cases he
      rcases hplc with ⟨-, rfl⟩ | ⟨-, rfl⟩
      · rw [hpath] at hkey
        cases hkey
      · rw [hrfs] at hkey
        cases hkey
    rw [hdirs, lookup_erase, if_neg hne, ← hu]
    exact he
  · intro a b path ha hb
    exact hkeys.distinct a b path (hplac ha) (hplac hb)
  · intro r e he
    obtain ⟨hne, hold⟩ := hlook r e he
    have hcntd := h.counted r e hold
    have hsum := hhldrs r
    have hzero : c.holds r = 0 := holds_of_ne hdir hne
    omega
  · intro r e he
    obtain ⟨hne, hold⟩ := hlook r e he
    rw [hring]
    exact h.keyring_other hd hold hne hoths
  · intro r e he
    exact h.named r e (hlook r e he).2
  · intro r e r' e' he he'
    exact h.unique r e r' e' (hlook r e he).2 (hlook r' e' he').2
  · intro q x r hx hr
    rw [hdirs]
    exact h.older q x r (hcl q x hx).2 hr
  · intro q x r e hx hr he
    rw [happN]
    exact h.bound q x r e (hcl q x hx).2 hr (hlook r e he).2
  · intro q x hx hheld
    obtain ⟨r, e, hr, he⟩ := h.live q x (hcl q x hx).2 hheld
    refine ⟨r, e, hr, ?_⟩
    have hne : r ≠ dirRef := by
      rintro rfl
      have hzero := hfree q x hx
      rw [holds_self hr hheld] at hzero
      cases hzero
    rw [hdirs, lookup_erase, if_neg hne]
    exact he

/-- Nobody holds the storage: however far the deletion gets, the keys stay as they are. -/
theorem Sound.deleteUnheld {env : DeleteEnv} {c : ClientCxt}
    (hctx : s.contextOf storageRef = some (c, dirRef, d)) (hzero : d.userCount = 0)
    (htgt : s.deleteTarget P storageRef env = some (dirRef, d)) :
    Sound P (s.deleteStorage P storageRef env) := by
  obtain ⟨hc, hdir, hd⟩ := contextOf_eq_some hctx
  obtain ⟨hpath, hrfs⟩ := h.opened dirRef d hd
  rw [decide_eq_false (not_not.2 hzero)] at hpath hrfs
  have hkept : ∀ {path}, s.keyring path = false → ∀ removed,
      (fun p => s.keyring p && !(decide (p = path) && removed)) = s.keyring := by
    intro path hkey removed
    funext p
    by_cases hp : p = path
    · subst hp
      simp [hkey]
    · simp [hp]
  have hfst := fscDeleteStorage_called h.keys (isPlace_rfs hd) env.rfs
  rw [hkept hrfs] at hfst
  unfold deleteStorage
  rw [htgt]
  dsimp only
  generalize s.fscDeleteStorage d.rfsFscStorageRef env.rfs = result at hfst
  obtain ⟨s₁, ok⟩ := result
  dsimp only at hfst ⊢
  rcases ok with _ | _
  · exact h.called hfst
  have hsec := fscDeleteStorage_called hfst.keys
    (hfst.cipher.isPlace.2 (isPlace_fsc hd)) env.fsc
  rw [hfst.keyring, hkept hpath] at hsec
  dsimp only
  generalize s₁.fscDeleteStorage d.fscStorageRef env.fsc = result at hsec
  obtain ⟨s₂, ok⟩ := result
  have hboth := hfst.trans hsec
  dsimp only at hboth ⊢
  rcases ok with _ | _
  · exact h.called hboth
  dsimp only
  rcases clearStorageCreator_cases (P := P) s₂ d.storageName env.creatorCleared with
    hkept | hclrd
  · rw [hkept]
    exact h.called hboth
  rw [hclrd]
  obtain ⟨hkeys, hciph, hkr⟩ := hboth
  have hnob : s.holders dirRef = 0 := by
    rw [← h.counted dirRef d hd, hzero]
    rfl
  have hle : c.holds dirRef ≤ s.holders dirRef :=
    le_total (w := fun _ c => holds dirRef c) hc
  refine h.erased hd hc hdir (by omega) ?_ ?_ hciph.appNames hciph.crashed hkeys hciph.dirs
    rfl rfl ?_ ?_ ?_
  · exact congrArg (erase · dirRef) hciph.dirs
  · exact congrArg (erase · storageRef) hciph.clients
  · rw [hkr]
    exact hpath
  · rw [hkr]
    exact hrfs
  · rw [hkr]
    exact fun _ _ _ => rfl

theorem Sound.deleteHeld {env : DeleteEnv} {c : ClientCxt}
    (hctx : s.contextOf storageRef = some (c, dirRef, d)) (hone : d.userCount = 1)
    (hheld : c.lockState = false) (hdels : deletes P s d env = true)
    (htgt : s.deleteTarget P storageRef env = some (dirRef, d)) :
    Sound P (s.deleteStorage P storageRef env) := by
  obtain ⟨hc, hdir, hd⟩ := contextOf_eq_some hctx
  obtain ⟨hpath, hrfs⟩ := h.opened dirRef d hd
  have hposi : d.userCount ≠ 0 := by
    rw [hone]
    decide
  rw [decide_eq_true hposi] at hpath hrfs
  obtain ⟨henvR, henvF, hclrd, hcrtr⟩ := of_decide_eq_true hdels
  have hfst := fscDeleteStorage_called h.keys (isPlace_rfs hd) ⟨true, true, true⟩
  have hfirs := fscDeleteStorage_eq_true h.keys (isPlace_rfs hd) hrfs
  unfold deleteStorage
  rw [htgt, henvR, henvF]
  dsimp only
  generalize s.fscDeleteStorage d.rfsFscStorageRef ⟨true, true, true⟩ = result at hfst hfirs
  obtain ⟨s₁, ok⟩ := result
  dsimp only at hfst hfirs ⊢
  subst hfirs
  have hne := (h.named dirRef d hd).path_ne (h.named dirRef d hd)
  have hpath₁ : s₁.keyring d.path = true := by
    rw [hfst.keyring]
    simp [hne, hpath]
  have hplc := hfst.cipher.isPlace.2 (isPlace_fsc hd)
  have hsec := fscDeleteStorage_called hfst.keys hplc ⟨true, true, true⟩
  have hseco := fscDeleteStorage_eq_true hfst.keys hplc hpath₁
  dsimp only
  generalize s₁.fscDeleteStorage d.fscStorageRef ⟨true, true, true⟩ = result at hsec hseco
  obtain ⟨s₂, ok⟩ := result
  have hboth := hfst.trans hsec
  dsimp only at hboth hseco ⊢
  subst hseco
  obtain ⟨hkeys, hciph, hkr⟩ := hboth
  have hclr : s₂.clearStorageCreator P d.storageName env.creatorCleared =
      ({ s₂ with creators := update s₂.creators (P.sha1 d.storageName) none }, true) := by
    unfold clearStorageCreator
    rw [hciph.creators, if_pos ⟨hclrd, hcrtr⟩]
  dsimp only
  rw [hclr]
  have hlast : s.holders dirRef = c.holds dirRef := by
    rw [← h.counted dirRef d hd, holds_self hdir hheld, hone]
    rfl
  refine h.erased hd hc hdir hlast ?_ ?_ hciph.appNames hciph.crashed hkeys hciph.dirs
    rfl rfl ?_ ?_ ?_
  · exact congrArg (erase · dirRef) hciph.dirs
  · exact congrArg (erase · storageRef) hciph.clients
  · rw [hkr]
    simp
  · rw [hkr, hfst.keyring]
    simp
  intro p hp hp'
  rw [hkr, hfst.keyring]
  simp [hp, hp']

theorem Sound.deleteStorage {env : DeleteEnv}
    (hcare : ∀ x ∈ s.contextOf storageRef, (s.deleteTarget P storageRef env).isSome = true →
      x.2.2.userCount = 0 ∨ env.rfs.removed = false ∨
        x.2.2.userCount = 1 ∧ x.1.lockState = false ∧ deletes P s x.2.2 env = true) :
    Sound P (s.deleteStorage P storageRef env) := by
  rcases htgt : s.deleteTarget P storageRef env with _ | target
  · unfold State.deleteStorage
    rw [htgt]
    exact h
  obtain ⟨dirRef, d⟩ := target
  obtain ⟨c, hctx, -⟩ := deleteTarget_eq_some htgt
  rcases hcare _ hctx (by rw [htgt]; rfl) with hzero | hkept | ⟨hone, hheld, hdels⟩
  · exact h.deleteUnheld hctx hzero htgt
  · by_cases hzero : d.userCount = 0
    · exact h.deleteUnheld hctx hzero htgt
    obtain ⟨-, -, hd⟩ := contextOf_eq_some hctx
    have hrfs := (h.opened dirRef d hd).2
    rw [decide_eq_true hzero] at hrfs
    unfold State.deleteStorage
    rw [htgt]
    dsimp only
    rw [fscDeleteStorage_held h.keys (State.isPlace_rfs hd) hrfs hkept]
    exact h
  · exact h.deleteHeld hctx hone hheld hdels htgt

end

/-! ## New storages -/

/-- A directory that is opened and locked at once has a new reference and no key. -/
theorem fscGetStorageRef_locked (h : Keys s) (hkey : s.keyring path = false) {env : Creation}
    (hadd : env.added = true) (hencr : env.encrypted = true) :
    ∃ s₁ u, s.fscGetStorageRef path env = (s₁, some s.fscStorages.next) ∧
      s₁.fscLockStorage s.fscStorages.next true = (u, true) ∧ Called s u s.keyring ∧
      u.fscStorages.next = s.fscStorages.next + 1 ∧
      ∀ ref, u.fscStorages.lookup ref =
        if ref = s.fscStorages.next then some ⟨path, false⟩ else s.fscStorages.lookup ref := by
  have hget : s.fscGetStorageRef path env =
      ({ s with
          keyring := update s.keyring path true
          fscStorages := s.fscStorages.create ⟨path, true⟩ }, some s.fscStorages.next) := by
    unfold fscGetStorageRef
    rw [if_pos hadd]
    rw [if_pos hencr]
  have hring : update (update s.keyring path true) path false = s.keyring := by
    rw [update_idem, ← hkey]
    exact update_eq_self ..
  let u : State :=
    { s with
      fscStorages := (s.fscStorages.create ⟨path, true⟩).modify s.fscStorages.next
        fun x => { x with keyIsAddedToKernel := false } }
  have hlook : ∀ ref, u.fscStorages.lookup ref =
      if ref = s.fscStorages.next then some ⟨path, false⟩ else s.fscStorages.lookup ref := by
    intro ref
    rw [lookup_modify, lookup_create]
    split
    all_goals rfl
  refine ⟨_, u, hget, ?_, ⟨⟨?_, h.others, h.distinct⟩, ⟨rfl, rfl, rfl, rfl, rfl⟩, rfl⟩, rfl, hlook⟩
  · unfold fscLockStorage
    rw [lookup_create_self]
    dsimp only
    rw [if_pos rfl, if_pos rfl]
    unfold setKey
    rw [hring]
  intro ref p hplc
  have hp := h.place ref p hplc
  have hold := hp.old
  have hne : ref ≠ s.fscStorages.next := by omega
  refine ⟨?_, ?_, ?_⟩
  · change ref < s.fscStorages.next + 1
    omega
  · rw [hlook, if_neg hne]
    exact hp.agrees
  · rw [hlook, if_neg hne]
    exact hp.known

def newDir (P : Platform) (name masterAppName : Name) (fscStorageRef rfsFscStorageRef : Nat) : Dir :=
  ⟨cut P.maxStorageNameSize name, masterAppName, P.storagePath name, P.rfsStoragePath name, 0,
    fscStorageRef, rfsFscStorageRef⟩

theorem newDir_named (hval : checkValidPosixFileName name = true)
    (hfits : P.Fits name) (hsepa : P.Separate) (masterAppName : Name) (a b : Nat) :
    (newDir P name masterAppName a b).Named P := by
  have hname : (newDir P name masterAppName a b).storageName = name := hfits.cut_name
  refine ⟨hsepa, ?_, ?_, ?_, ?_⟩
  · rw [hname]
    exact hval
  · rw [hname]
    exact hfits
  all_goals
    rw [hname]
    rfl

/-- The directories of a storage without a record have no keys. -/
theorem Sound.keyring_new (h : Sound P s) {e : Dir} (he : e.Named P)
    (hnew : s.findDirRef e.storageName = none) :
    s.keyring e.path = false ∧ s.keyring e.rfsPath = false := by
  have hnone := findDirRef_eq_none.1 hnew
  have hfree : ∀ {path}, (∀ {r d ref}, s.dirs.lookup r = some d → d.HasPlace ref path → False) →
      s.keyring path = false := by
    intro path hno
    rw [← not_eq_true]
    intro hkey
    obtain ⟨ref, r, d, hd, hplc⟩ := h.keys.others path hkey
    exact hno hd hplc
  have hne : ∀ {r d}, s.dirs.lookup r = some d → ∀ {ref path}, d.HasPlace ref path →
      path ≠ e.path ∧ path ≠ e.rfsPath := by
    intro r d hd ref path hplc
    exact he.place_ne (h.named r d hd) (hnone r d hd).symm hplc
  exact ⟨hfree fun hd hplc => (hne hd hplc).1 rfl, hfree fun hd hplc => (hne hd hplc).2 rfl⟩

/-- A record with new references is added for locked directories. -/
theorem Sound.addDir (h : Sound P s) {e : Dir} (he : e.Named P)
    (hnew : s.findDirRef e.storageName = none) (hcnt : e.userCount = 0)
    (hfsc : s.fscStorages.lookup e.fscStorageRef = some ⟨e.path, false⟩)
    (hrfs : s.fscStorages.lookup e.rfsFscStorageRef = some ⟨e.rfsPath, false⟩) :
    Sound P { s with dirs := s.dirs.create e } := by
  obtain ⟨hpath, hrfsP⟩ := h.keyring_new he hnew
  have hnone := findDirRef_eq_none.1 hnew
  have hplcs : ∀ {ref path}, ({ s with dirs := s.dirs.create e } : State).IsPlace ref path →
      e.HasPlace ref path ∨ s.IsPlace ref path := by
    rintro ref path ⟨r, d, hd, hplc⟩
    rcases lookup_create_cases hd with ⟨-, rfl⟩ | hold
    · exact .inl hplc
    · exact .inr ⟨r, d, hold, hplc⟩
  have hoth : ∀ {ref path}, s.IsPlace ref path → path ≠ e.path ∧ path ≠ e.rfsPath := by
    rintro ref path ⟨r, d, hd, hplc⟩
    exact he.place_ne (h.named r d hd) (hnone r d hd).symm hplc
  refine ⟨h.running, ⟨?_, ?_, ?_⟩, ?_, ?_, ?_, ?_, ?_, ?_, ?_⟩
  · intro ref path hplc
    rcases hplcs hplc with (⟨rfl, rfl⟩ | ⟨rfl, rfl⟩) | hold
    · refine ⟨lookup_lt hfsc, fun x hx => ?_, fun hkey => ?_⟩
      · dsimp only at hx
        rw [hfsc] at hx
        cases hx
        exact ⟨rfl, hpath.symm⟩
      · dsimp only at hkey
        rw [hpath] at hkey
        cases hkey
    · refine ⟨lookup_lt hrfs, fun x hx => ?_, fun hkey => ?_⟩
      · dsimp only at hx
        rw [hrfs] at hx
        cases hx
        exact ⟨rfl, hrfsP.symm⟩
      · dsimp only at hkey
        rw [hrfsP] at hkey
        cases hkey
    · exact h.keys.place ref path hold
  · intro path hkey
    obtain ⟨ref, r, d, hd, hplc⟩ := h.keys.others path hkey
    exact ⟨ref, r, d, lookup_create_of_some hd e, hplc⟩
  · intro a b path ha hb
    have hdist := he.path_ne he
    rcases hplcs ha with hnewA | holdA
    · rcases hplcs hb with hnewB | holdB
      · rcases hnewA with ⟨rfl, rfl⟩ | ⟨rfl, rfl⟩
        · rcases hnewB with ⟨rfl, -⟩ | ⟨-, heq⟩
          · rfl
          · exact absurd heq hdist
        · rcases hnewB with ⟨-, heq⟩ | ⟨rfl, -⟩
          · exact absurd heq.symm hdist
          · rfl
      · rcases hnewA with ⟨-, rfl⟩ | ⟨-, rfl⟩
        · exact absurd rfl (hoth holdB).1
        · exact absurd rfl (hoth holdB).2
    · rcases hplcs hb with hnewB | holdB
      · rcases hnewB with ⟨-, rfl⟩ | ⟨-, rfl⟩
        · exact absurd rfl (hoth holdA).1
        · exact absurd rfl (hoth holdA).2
      · exact h.keys.distinct a b path holdA holdB
  · intro r d hd
    rcases lookup_create_cases hd with ⟨rfl, rfl⟩ | hold
    · have hnob : s.holders s.dirs.next = 0 := by
        apply total_eq_zero.2
        intro q c hc
        apply if_neg
        rintro ⟨hr, -⟩
        have hlt := h.older q c _ hc hr
        omega
      rw [hcnt]
      exact hnob.symm
    · exact h.counted r d hold
  · intro r d hd
    rcases lookup_create_cases hd with ⟨-, rfl⟩ | hold
    · rw [hcnt]
      exact ⟨hpath, hrfsP⟩
    · exact h.opened r d hold
  · intro r d hd
    rcases lookup_create_cases hd with ⟨-, rfl⟩ | hold
    · exact he
    · exact h.named r d hold
  · intro r d r' d' hd hd' hname
    exact distinct_create h.unique hnone hd hd' hname
  · intro q c r hc hr
    have hlt := h.older q c r hc hr
    change r < s.dirs.next + 1
    omega
  · intro q c r d hc hr hd
    rcases lookup_create_cases hd with ⟨rfl, -⟩ | hold
    · have hlt := h.older q c _ hc hr
      omega
    · exact h.bound q c r d hc hr hold
  · intro q c hc hheld
    obtain ⟨r, d, hr, hd⟩ := h.live q c hc hheld
    exact ⟨r, d, hr, lookup_create_of_some hd e⟩

/-- What `CreateDirRef` leaves: nothing but locked directories, or a record for them as well. -/
structure DirCreated (P : Platform) (s t : State) (name : Name) (dirRef : Option Nat) : Prop where
  sound : Sound P t
  clients : t.clients = s.clients
  appNames : t.appNames = s.appNames
  record : ∀ r, dirRef = some r → ∃ d, t.dirs.lookup r = some d ∧ d.storageName = name

theorem Sound.createDirRef (h : Sound P s) {env : DirEnv}
    (hval : checkValidPosixFileName name = true) (hnew : s.findDirRef name = none)
    (hcare : CarefulDir P s name env) :
    DirCreated P s (s.createDirRef P name env).1 name (s.createDirRef P name env).2 := by
  obtain ⟨hfits, hsepa, hlks⟩ := hcare hval hnew
  have hnoth : ∀ {u}, Called s u s.keyring → DirCreated P s u name none := by
    intro u hu
    exact ⟨h.called hu, hu.cipher.clients, hu.cipher.appNames, fun _ hr => nomatch hr⟩
  have hsame : Called s s s.keyring := ⟨h.keys, .refl s, rfl⟩
  have hnmd := newDir_named hval hfits hsepa
  have hfree : s.keyring (P.storagePath name) = false ∧
      s.keyring (P.rfsStoragePath name) = false :=
    h.keyring_new (hnmd [] 0 0)
      (show s.findDirRef (cut P.maxStorageNameSize name) = none by rw [hfits.cut_name]; exact hnew)
  obtain ⟨hpath, hrfsP⟩ := hfree
  unfold State.createDirRef
  rcases hcrtr : s.getStorageCreator P name env.creatorRead with _ | masterAppName
  · exact hnoth hsame
  cases hadd : env.fsc.added with
  | false =>
    have hget : s.fscGetStorageRef (P.storagePath name) env.fsc = (s, none) := by
      unfold State.fscGetStorageRef
      rw [hadd]
      rfl
    rw [hget]
    exact hnoth hsame
  | true =>
    obtain ⟨hencr, hlkd, hbkp⟩ := hlks hadd
    obtain ⟨s₁, s₂, hget, hlock, hcld, hnext, hlook⟩ :=
      fscGetStorageRef_locked h.keys hpath hadd hencr
    rw [hget]
    dsimp only
    rw [hlkd, hlock]
    dsimp only
    cases hadd' : env.rfs.added with
    | false =>
      have hget' : s₂.fscGetStorageRef (P.rfsStoragePath name) env.rfs = (s₂, none) := by
        unfold State.fscGetStorageRef
        rw [hadd']
        rfl
      rw [hget']
      exact hnoth hcld
    | true =>
      obtain ⟨hencr', hlkd'⟩ := hbkp hadd'
      have hrfsP' : s₂.keyring (P.rfsStoragePath name) = false := by
        rw [hcld.keyring]
        exact hrfsP
      obtain ⟨s₃, s₄, hget', hlock', hcld', -, hlook'⟩ :=
        fscGetStorageRef_locked hcld.keys hrfsP' hadd' hencr'
      rw [hget']
      dsimp only
      rw [hlkd', hlock']
      rw [hcld.keyring] at hcld'
      have hboth := hcld.trans hcld'
      have hnewD : s₄.findDirRef (cut P.maxStorageNameSize name) = none := by
        unfold State.findDirRef
        rw [hboth.cipher.dirs, hfits.cut_name]
        exact hnew
      refine ⟨(h.called hboth).addDir
        (hnmd masterAppName s.fscStorages.next s₂.fscStorages.next) hnewD rfl ?_ ?_,
        hboth.cipher.clients, hboth.cipher.appNames, ?_⟩
      · change s₄.fscStorages.lookup s.fscStorages.next = some ⟨P.storagePath name, false⟩
        rw [hlook', if_neg (by omega), hlook, if_pos rfl]
      · change s₄.fscStorages.lookup s₂.fscStorages.next = some ⟨P.rfsStoragePath name, false⟩
        rw [hlook', if_pos rfl]
      intro r hr
      cases hr
      exact ⟨_, lookup_create_self _, hfits.cut_name⟩

theorem Sound.createStorage (h : Sound P s) (session : Option Nat) {env : CreateEnv}
    (hcare : CarefulDir P s name env.dir) : Sound P (s.createStorage P session name env) := by
  unfold State.createStorage
  split
  · exact h
  rename_i hval
  split
  · exact h
  dsimp only
  split
  · exact h
  rename_i appName _
  rcases setStorageCreator_cases (P := P) s name (cut (P.maxAppNameLen + 1) appName) env.creator with
    hsame | ⟨-, value, ok, hset, -⟩
  · rw [hsame]
    exact h
  rw [hset]
  have hcrts := h.setCreators (update s.creators (P.sha1 name) (some value))
  rcases ok with _ | _
  · exact hcrts
  dsimp only
  split
  · exact hcrts
  · rename_i hfind
    exact (hcrts.createDirRef (by simpa using hval) hfind hcare).sound

/-! ## References -/

theorem Sound.addClientCxt (h : Sound P s) (c : ClientCxt) (hdir : c.dirRef = none)
    (hlkd : c.lockState = true) : Sound P { s with clients := s.clients.create c } := by
  refine h.withContexts (fun r _ _ => ?_) fun q x hx => ?_
  · rw [total_create, holds_of_locked hlkd]
    rfl
  rcases lookup_create_cases hx with ⟨-, rfl⟩ | hold
  · refine ⟨fun r hr => ?_, fun r d hr => ?_, fun hheld => ?_⟩
    · rw [hdir] at hr
      cases hr
    · rw [hdir] at hr
      cases hr
    · rw [hlkd] at hheld
      cases hheld
  · exact h.context hold

/-- A context of the session is found under the reference, with the name that it was made for; only
an old one may hold its storage. -/
structure ClientFound (P : Platform) (s t : State) (session : Nat) (name : Name) (ref : Nat) :
    Prop where
  sound : Sound P t
  dirs : t.dirs = s.dirs
  appNames : t.appNames = s.appNames
  context : ∃ c, t.clients.lookup ref = some c ∧ c.clientSessionRef = session ∧
    (c.storageName = name ∨ c.lockState = true ∧ c.storageName = cut P.maxStorageNameSize name)

variable (h : Sound P s)
include h

theorem Sound.findOrCreateClientCxt (session : Nat) (name : Name) :
    ClientFound P s (s.findOrCreateClientCxt P session name).1 session name
      (s.findOrCreateClientCxt P session name).2 := by
  unfold State.findOrCreateClientCxt
  split
  · rename_i ref hfind
    obtain ⟨c, hc, hp⟩ := search_eq_some hfind
    obtain ⟨hname, hsess⟩ := of_decide_eq_true hp
    exact ⟨h, rfl, rfl, c, hc, hsess, .inl hname⟩
  · exact ⟨h.addClientCxt _ rfl rfl, rfl, rfl, _, lookup_create_self _, rfl, .inr ⟨rfl, rfl⟩⟩

theorem Sound.findOrCreateDirRef {env : DirEnv}
    (hval : checkValidPosixFileName name = true) (hcare : CarefulDir P s name env) :
    DirCreated P s (s.findOrCreateDirRef P name env).1 name
      (s.findOrCreateDirRef P name env).2 := by
  unfold State.findOrCreateDirRef
  cases hfind : s.findDirRef name with
  | some r =>
    refine ⟨h, rfl, rfl, ?_⟩
    intro r' hr
    cases hr
    obtain ⟨d, hd, hname⟩ := search_eq_some hfind
    exact ⟨d, hd, of_decide_eq_true hname⟩
  | none => exact h.createDirRef hval hfind hcare

theorem Sound.bindClientCxt (hd : s.dirs.lookup dirRef = some d)
    (hc : s.clients.lookup storageRef = some c) {bind : ClientCxt → ClientCxt}
    (hbind : (bind c).dirRef = some dirRef ∧ (bind c).clientSessionRef = c.clientSessionRef ∧
      (bind c).storageName = c.storageName ∧ (bind c).lockState = c.lockState)
    (hheld : c.lockState = false → c.dirRef = some dirRef) (hname : d.storageName = c.storageName)
    (appName : Name) (happ : s.appNames c.clientSessionRef = some appName)
    (hacc : accepts P d c.storageName (cut (P.maxAppNameLen + 1) appName) = true) :
    Sound P { s with clients := s.clients.modify storageRef bind } := by
  obtain ⟨hbin, hbndS, hbndN, hbndL⟩ := hbind
  have hsame : ∀ r, (bind c).holds r = c.holds r := by
    intro r
    cases hlock : c.lockState with
    | true => rw [holds_of_locked hlock, holds_of_locked (hbndL.trans hlock)]
    | false =>
      unfold holds
      rw [hbin, hbndL, hheld hlock]
  refine h.withContexts (fun r _ _ => ?_) fun q x hx => ?_
  · apply total_modify_of_eq
    intro x hx
    rw [hc] at hx
    cases hx
    exact hsame r
  rw [lookup_modify] at hx
  split at hx
  swap
  · exact h.context hx
  rename_i heq
  subst heq
  rw [hc] at hx
  cases hx
  refine ⟨fun r hr => ?_, fun r e hr he => ?_, fun _ => ⟨dirRef, d, hbin, hd⟩⟩
  · rw [hbin] at hr
    cases hr
    exact lookup_lt hd
  rw [hbin] at hr
  cases hr
  rw [hd] at he
  cases he
  rw [hbndN, hbndS]
  exact ⟨hname, appName, happ, hacc⟩

/-- A storage that is held has its record, and the app behind the session may have it. -/
theorem Sound.getStorageRef {env : GetEnv}
    (hcare : env.dirExists = true → CarefulDir P s name env.dir) :
    Sound P (s.getStorageRef P session name env) := by
  unfold State.getStorageRef
  split
  · exact h
  rename_i hinv
  have hval : checkValidPosixFileName name = true := by simpa using hinv
  split
  · exact h
  rename_i hexis
  split
  · exact h
  rename_i appName happ
  obtain ⟨fullName, happN, rfl⟩ := Option.map_eq_some_iff.1 happ
  dsimp only
  have hfnd := h.findOrCreateClientCxt session name
  generalize s.findOrCreateClientCxt P session name = found at hfnd ⊢
  obtain ⟨s₁, ref⟩ := found
  obtain ⟨hsnd, hdirs, hnms, c, hc, hsess, hname⟩ := hfnd
  have hcare₁ : CarefulDir P s₁ name env.dir := by
    unfold CarefulDir State.findDirRef
    rw [hdirs]
    exact hcare (by simpa using hexis)
  have hcrtd := hsnd.findOrCreateDirRef hval hcare₁
  have hstil : s₁.findDirRef name ≠ none →
      s₁.findOrCreateDirRef P name env.dir = (s₁, s₁.findDirRef name) := by
    intro hsome
    obtain ⟨r, hr⟩ := Option.ne_none_iff_exists'.1 hsome
    unfold State.findOrCreateDirRef
    rw [hr]
  -- A context that holds its storage is bound to the record that is found again.
  have hboun : c.lockState = false →
      ∃ r d, s₁.findOrCreateDirRef P name env.dir = (s₁, some r) ∧
      c.dirRef = some r ∧ s₁.dirs.lookup r = some d ∧
        accepts P d name (cut (P.maxAppNameLen + 1) fullName) = true := by
    intro hheld
    obtain ⟨r, d, hr, hd⟩ := hsnd.live ref c hc hheld
    obtain ⟨hstg, appName, happ', hacc⟩ := hsnd.bound ref c r d hc hr hd
    have hcnam : c.storageName = name := by
      rcases hname with hsame | ⟨hlkd, -⟩
      · exact hsame
      · rw [hheld] at hlkd
        cases hlkd
    rw [hsess, hnms, happN] at happ'
    cases happ'
    rw [hcnam] at hstg hacc
    have hsome : s₁.findDirRef name ≠ none := fun hnone => findDirRef_eq_none.1 hnone r d hd hstg
    obtain ⟨r', hr'⟩ := Option.ne_none_iff_exists'.1 hsome
    obtain ⟨d', hd', hname'⟩ := search_eq_some hr'
    have hsame := hsnd.unique r d r' d' hd hd' (hstg.trans (of_decide_eq_true hname').symm)
    subst hsame
    exact ⟨r, d, by rw [hstil hsome, hr'], hr, hd, hacc⟩
  generalize s₁.findOrCreateDirRef P name env.dir = result at hcrtd hboun ⊢
  obtain ⟨t, dirRef⟩ := result
  obtain ⟨hsoun, hcls, hnam, hrec⟩ := hcrtd
  dsimp only at hsoun hcls hnam hrec hboun ⊢
  rw [← hcls] at hc
  have hrele : (∀ r d, c.dirRef = some r → dirRef = some r → t.dirs.lookup r = some d →
      accepts P d name (cut (P.maxAppNameLen + 1) fullName) = false) →
        Sound P (t.releaseClientCxt ref) := by
    intro hrej
    apply hsoun.releaseClientCxt hc
    rw [← not_eq_false]
    intro hheld
    obtain ⟨r, d, hres, hr, hd, hacc⟩ := hboun hheld
    cases hres
    rw [hrej r d hr rfl hd] at hacc
    cases hacc
  rcases dirRef with _ | dirRef
  · exact hrele fun r d _ hr => nomatch hr
  obtain ⟨d, hd, hdnam⟩ := hrec dirRef rfl
  dsimp only
  rw [hd]
  dsimp only
  split
  · rename_i haccd
    have hsame := grant_same (P := P) d name (cut (P.maxAppNameLen + 1) fullName)
      { c with dirRef := some dirRef }
    have hfits := (hsoun.named dirRef d hd).fits
    rw [hdnam] at hfits
    have hcnam : c.storageName = name := by
      rcases hname with hsame | ⟨-, hcut⟩
      · exact hsame
      · rw [hcut, hfits.cut_name]
    refine hsoun.bindClientCxt hd hc hsame ?_ (hdnam.trans hcnam.symm) fullName ?_ ?_
    · intro hheld
      obtain ⟨r, d', hres, hr, -⟩ := hboun hheld
      cases hres
      exact hr
    · rw [hsess, hnam, hnms]
      exact happN
    · rw [hcnam]
      exact haccd
  · rename_i hrej
    apply hrele
    intro r d' _ hr hd'
    cases hr
    rw [hd] at hd'
    cases hd'
    simpa using hrej

end Holders

/-! ## Runs -/

theorem Sound.opened_session (h : Sound P s) (hclsd : s.appNames session = none)
    (appName : Name) :
    Sound P { s with appNames := update s.appNames session (some appName) } := by
  refine h.withContexts (fun _ _ _ => rfl) fun q c hc => (h.context hc).congr fun bound happ => ?_
  rw [update_of_ne, happ]
  intro heq
  rw [heq, hclsd] at happ
  cases happ

theorem sound_start : Sound P start := by
  have hplc : ∀ {ref path}, ¬ start.IsPlace ref path := by
    rintro ref path ⟨r, d, hd, -⟩
    cases hd
  exact ⟨rfl, ⟨fun _ _ h => absurd h hplc, nofun, fun _ _ _ h => absurd h hplc⟩, nofun, nofun,
    nofun, nofun, nofun, nofun, nofun⟩

theorem step_sound {a : Action} (h : Sound P s) (hcare : Careful P s a)
    (hstep : step P s a = some t) : Sound P t := by
  unfold step at hstep
  split at hstep
  swap
  · cases hstep
  rename_i henab
  cases hstep
  cases a with
  | opened session appName => exact h.opened_session (of_decide_eq_true henab.2) appName
  | createServiceStorage cfg env => exact h.createStorage none hcare
  | createStorage session name env => exact h.createStorage (some session) hcare
  | getStorageRef session name env => exact h.getStorageRef hcare
  | unlockStorage session storageRef env => exact h.unlockStorage hcare
  | lockStorage session storageRef env => exact h.lockStorage hcare
  | importFile session storageRef source target env => exact h.importFile hcare
  | readFile session storageRef filePath env => exact h.readFile hcare
  | deleteFile session storageRef filePath env => exact h.deleteFile hcare
  | deleteStorage session storageRef env => exact h.deleteStorage hcare
  | closed session env => exact h.sessionClosed hcare

/-- As long as the steps are careful, every state that is reached counts its holders. -/
theorem counting_run (P : Platform) (actions : List Action)
    (hcare : Meets (step P) (Careful P) start actions) :
    Meets (step P) (fun s a => ∀ t ∈ step P s a, Counting t) start actions := by
  apply Meets.of_invariant (Sound P) _ (fun s a t h hok hstep => step_sound h hok hstep)
    sound_start hcare
  intro s a h hok t hstep
  exact (step_sound h hok hstep).counting

/-- Both unlock the storage, one locks it, a session ends; a file is imported and read; the loader
has a storage of its own, unlocks it and deletes it. -/
theorem counting_sharedMaps :
    let actions := sharedMaps ++ [.unlockStorage 1 0 bothKeys, .unlockStorage 2 1 bothKeys,
      .lockStorage 2 1 bothKeys, .closed 1 fun _ => bothKeys,
      .importFile 2 1 "/tmp/map".toList "map".toList ⟨⟨bothKeys, bothKeys⟩, 10, 5, true⟩,
      .createStorage 2 "own".toList ⟨false, true, .written, opensDir⟩,
      .getStorageRef 2 "own".toList ⟨true, opensDir⟩, .unlockStorage 2 2 bothKeys,
      .deleteStorage 2 2 ⟨true, ⟨true, true, true⟩, ⟨true, true, true⟩, true⟩,
        .closed 2 fun _ => bothKeys]
    Meets (step twoApps) (Careful twoApps) start actions ∧
      Meets (step twoApps) (fun s a => ∀ t ∈ step twoApps s a, Counting t) start actions := by
  intro actions
  have hcare : Meets (step twoApps) (Careful twoApps) start actions := by decide +kernel
  exact ⟨hcare, counting_run twoApps actions hcare⟩

/-- The counts of the records, which are a part of what is promised. -/
theorem Counting.counts (h : Counting s) :
    ∀ e ∈ s.dirs.entries, e.2.userCount.toNat = s.holders e.1 :=
  fun e he => h.counted e.1 e.2 (lookup_eq_some_iff.2 he)

/-- A client that unlocks a storage twice is counted twice. -/
theorem counting_fails : ¬ ∀ (P : Platform) (actions : List Action),
    Meets (step P) (fun s a => ∀ t ∈ step P s a, Counting t) start actions := by
  intro h
  have hcounts := (h twoApps (sharedMaps ++ [.unlockStorage 1 0 bothKeys,
    .unlockStorage 1 0 bothKeys])).mono fun s a hstep t ht => (hstep t ht).counts
  exact absurd hcounts (by decide +kernel)

end TelAF.SecFileStorage
