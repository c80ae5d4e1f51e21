import TelAF.PathNames
import TelAF.SecFileStorage

/-!
# Files in the directory of their storage

A client names a file by a string that is put after the directory of a storage. The files it reaches
are in that directory, and the configuration or the creation of the storage permits what it does, as
long as the names do not lead out of the directory, the references are its own, and no name is cut.
-/

namespace TelAF.SecFileStorage

open TransitionRuns State RefMap Function List
open PathNames (components walk stays follow)

/-! ## What is permitted -/

/-- The app is recorded as the creator, and not only named like the service that created a
configured storage, or the configuration lists it for the purpose. -/
def Permits (P : Platform) (s : State) (appName name : Name) (purpose : Purpose) : Prop :=
  s.creators (P.sha1 name) = some appName ∧
      (appName = secFileCreatorName → P.isServiceStorage name = false) ∨
    ∃ cfg ∈ P.storageAccessCfg, cfg.storageName = name ∧
      appName ∈ if purpose = .read then cfg.readAccessibleApps else cfg.writeAccessibleApps
deriving Decidable

/-- The app behind the session has the permission. -/
def SessionPermits (P : Platform) (s : State) (session : Nat) (name : Name) (purpose : Purpose) :
    Prop :=
  ∃ appName ∈ s.appNames session, Permits P s appName name purpose
deriving Decidable

namespace Platform

variable (P : Platform)

def area : List Name := follow [] P.secFileStorage

/-- The directory of the storage with the name. -/
def ownDir (name : Name) : List Name := name :: P.area

end Platform

section

variable (P : Platform) (workingDir : List Name) (s : State)

/-- A file of the storage area is in the directory of the storage that the reference leads to, and
the session may do this with it. -/
def Allowed (session storageRef : Nat) (x : Access) : Prop :=
  P.area <:+ follow workingDir x.path →
    ∃ y ∈ s.contextOf storageRef, P.ownDir y.2.2.storageName <:+ follow workingDir x.path ∧
      SessionPermits P s session y.2.2.storageName x.purpose
deriving Decidable

/-- All that a call does to files is allowed. -/
def Contained : Action → Prop
  | .importFile session storageRef source target env =>
    ∀ x ∈ (s.importFile P storageRef source target env).accesses,
      Allowed P workingDir s session storageRef x
  | .readFile session storageRef filePath env =>
    ∀ x ∈ (s.readFile P storageRef filePath env).accesses,
      Allowed P workingDir s session storageRef x
  | .deleteFile session storageRef filePath env =>
    ∀ x ∈ (s.deleteFile P storageRef filePath env).accesses,
      Allowed P workingDir s session storageRef x
  | _ => True

instance (a : Action) : Decidable (Contained P workingDir s a) := by
  cases a <;> unfold Contained <;> infer_instance

/-! ## When the steps keep to it -/

/-- What is left of the name in the buffer after the directory. -/
def Platform.fileName (d : Dir) (filePath : Name) : Name :=
  filePath.take (P.maxPathBytes - 1 - (d.path.length + 1))

/-- The name does not lead out of the directory. -/
def StaysIn (d : Dir) (filePath : Name) : Prop :=
  d.path.length + 1 < P.maxPathBytes ∧ stays 0 (components (P.fileName d filePath)) = true
deriving Decidable

/-- A storage with such a name has a directory of its own. -/
def OwnName (name : Name) : Prop :=
  P.secFileStorage.getLast? = some '/' ∧
    (P.secFileStorage ++ name).length < P.maxStorageNameSize ∧
      name ≠ ".".toList ∧ name ≠ "..".toList
deriving Decidable

def CarefulName (name : Name) : Prop :=
  checkValidPosixFileName name = true → s.findDirRef name = none → OwnName P name
deriving Decidable

/-- The names of the configuration fit into their buffers. -/
def Platform.CfgFits : Prop :=
  ∀ cfg ∈ P.storageAccessCfg, cfg.storageName.length < P.maxStorageNameSize ∧
    ∀ appName ∈ cfg.readAccessibleApps ++ cfg.writeAccessibleApps,
      appName.length < P.maxAppNameLen
deriving Decidable

/-- A file is imported from outside of the area, or from the storage itself. -/
def CarefulSource (c : ClientCxt) (d : Dir) (source : Name) : Prop :=
  P.area <:+ follow workingDir source →
    P.ownDir d.storageName <:+ follow workingDir source ∧ c.isReadable = true
deriving Decidable

/-- References are used by the session that got them, with names that stay in the directory; names
fit into their buffers, and no two storages have the same digest. -/
def CarefulFiles : Action → Prop
  | .opened _ appName => appName.length ≤ P.maxAppNameLen
  | .createServiceStorage cfg _ => CarefulName P s (P.cfgName cfg)
  | .createStorage _ name _ => CarefulName P s name
  | .getStorageRef session name env =>
    env.dirExists = true → CarefulName P s name ∧ P.CfgFits ∧
      (s.appNames session = some secFileCreatorName → P.isServiceStorage name = false)
  | .importFile session storageRef source target env => ∀ y ∈ s.contextOf storageRef,
      (s.importTarget storageRef source target env).isSome = true →
        y.1.clientSessionRef = session ∧ StaysIn P y.2.2 target ∧
          StaysIn P y.2.2 (target ++ tmpFileNameExtension) ∧
            CarefulSource P workingDir y.1 y.2.2 source
  | .readFile session storageRef filePath _ => ∀ y ∈ s.contextOf storageRef,
      y.1.isReadable = true → y.1.clientSessionRef = session ∧ StaysIn P y.2.2 filePath
  | .deleteFile session storageRef filePath _ => ∀ y ∈ s.contextOf storageRef,
      y.1.isWritable = true → y.1.clientSessionRef = session ∧ StaysIn P y.2.2 filePath
  | .deleteStorage _ storageRef _ => ∀ y ∈ s.contextOf storageRef, ∀ e ∈ s.dirs.entries,
      e.2.storageName ≠ y.2.2.storageName → P.sha1 e.2.storageName ≠ P.sha1 y.2.2.storageName
  | _ => True

instance (a : Action) : Decidable (CarefulFiles P workingDir s a) := by
  cases a <;> unfold CarefulFiles <;> infer_instance

end

variable {P : Platform} {workingDir : List Name} {s t : State}

/-! ## Paths -/

structure Dir.Kept (P : Platform) (d : Dir) : Prop where
  valid : checkValidPosixFileName d.storageName = true
  own : OwnName P d.storageName
  path : d.path = P.storagePath d.storageName

section Paths

variable {d : Dir}

theorem checkValidPath_head (str : Name) : (checkValidPath str).head? = some '/' := by
  have hfst : (if str.head? = some '/' then str else '/' :: str).head? = some '/' := by
    split
    · assumption
    · rfl
  unfold checkValidPath
  dsimp only
  generalize (if str.head? = some '/' then str else '/' :: str) = path at hfst ⊢
  split
  · exact hfst
  · rw [head?_append, hfst]
    rfl

theorem secFileStorage_head (h : P.secFileStorage.getLast? = some '/') :
    P.secFileStorage.head? = some '/' := by
  unfold Platform.secFileStorage cut at h ⊢
  rw [head?_take]
  split
  · rename_i hzero
    rw [hzero] at h
    cases h
  · exact checkValidPath_head P.basePath

theorem Dir.Kept.path_eq (h : d.Kept P) : d.path = P.secFileStorage ++ d.storageName :=
  h.path.trans (cut_of_lt h.own.2.1)

theorem targetFilePath_eq (h : d.path.length + 1 < P.maxPathBytes) (filePath : Name) :
    targetFilePath P d filePath = d.path ++ '/' :: P.fileName d filePath := by
  unfold targetFilePath cut Platform.fileName
  obtain ⟨k, hk⟩ :=
    Nat.exists_eq_add_of_le (show d.path.length + 1 ≤ P.maxPathBytes - 1 by omega)
  rw [take_append, take_of_length_le (by omega), hk]
  have hleft : d.path.length + 1 + k - d.path.length = k + 1 := by omega
  have hrest : d.path.length + 1 + k - (d.path.length + 1) = k := by omega
  rw [hleft, hrest, take_succ_cons]

theorem tmpTargetFilePath_eq (filePath : Name) :
    tmpTargetFilePath P d filePath = targetFilePath P d (filePath ++ tmpFileNameExtension) := by
  unfold tmpTargetFilePath
  rw [append_assoc]
  rfl

/-- A name that stays in the directory leads to a file of the storage. -/
theorem follow_targetFilePath (h : d.Kept P) {filePath : Name} (hsty : StaysIn P d filePath)
    (workingDir : List Name) :
    P.ownDir d.storageName <:+ follow workingDir (targetFilePath P d filePath) := by
  obtain ⟨hlast, -, hdot, hdots⟩ := h.own
  obtain ⟨base, hbase⟩ := getLast?_eq_some_iff.1 hlast
  have hname := PathNames.components_name (slash_not_mem h.valid)
  have hemp : d.storageName ≠ [] := by
    intro hnil
    have hval := h.valid
    rw [hnil] at hval
    cases hval
  have harea : P.area = walk [] (components base) := by
    unfold Platform.area follow
    rw [if_pos (secFileStorage_head hlast), hbase, PathNames.components_append_slash,
      PathNames.walk_append]
    rfl
  have hpath : targetFilePath P d filePath =
      base ++ '/' :: (d.storageName ++ '/' :: P.fileName d filePath) := by
    rw [targetFilePath_eq hsty.1, h.path_eq, hbase]
    simp
  have hhead : (targetFilePath P d filePath).head? = some '/' := by
    rw [targetFilePath_eq hsty.1, h.path_eq, head?_append, head?_append,
      secFileStorage_head hlast]
    rfl
  have hstep : walk P.area [d.storageName] = P.ownDir d.storageName := by
    unfold walk walk Platform.ownDir
    rw [if_neg (not_or.2 ⟨hemp, hdot⟩), if_neg hdots]
  unfold follow
  rw [if_pos hhead, hpath, PathNames.components_append_slash, PathNames.components_append_slash,
    PathNames.walk_append, PathNames.walk_append, ← harea, hname, hstep]
  exact PathNames.walk_of_stays [] hsty.2

end Paths

/-! ## The invariant -/

def ClientCxt.allows (c : ClientCxt) (purpose : Purpose) : Bool :=
  if purpose = .read then c.isReadable else c.isWritable

/-- What the flags of a context allow, its session may do with the storage. -/
def FlagsPermitted (P : Platform) (s : State) (c : ClientCxt) (name : Name) : Prop :=
  ∀ purpose, c.allows purpose = true → SessionPermits P s c.clientSessionRef name purpose

structure Granted (P : Platform) (s : State) : Prop where
  kept : ∀ r d, s.dirs.lookup r = some d → d.Kept P
  created : ∀ r d, s.dirs.lookup r = some d →
    s.creators (P.sha1 d.storageName) = some d.masterAppName
  unique : ∀ r d r' d', s.dirs.lookup r = some d → s.dirs.lookup r' = some d' →
    d.storageName = d'.storageName → r = r'
  older : ∀ q c r, s.clients.lookup q = some c → c.dirRef = some r → r < s.dirs.next
  bound : ∀ q c r d, s.clients.lookup q = some c → c.dirRef = some r →
    s.dirs.lookup r = some d → d.storageName = c.storageName ∧ FlagsPermitted P s c d.storageName
  unbound : ∀ q c purpose, s.clients.lookup q = some c → c.allows purpose = true →
    ∃ r, c.dirRef = some r ∧
      (s.dirs.lookup r = none → P.isServiceStorage c.storageName = false)
  fitting : ∀ session appName, s.appNames session = some appName →
    appName.length ≤ P.maxAppNameLen

def Dir.identity (d : Dir) : Name × Name × Name := (d.storageName, d.masterAppName, d.path)

/-- Only the encryption, the users and the locks have changed, or contexts are gone. -/
structure Like (s t : State) : Prop where
  dirs : ∀ r, (t.dirs.lookup r).map Dir.identity = (s.dirs.lookup r).map Dir.identity
  next : t.dirs.next = s.dirs.next
  clients : ∀ q c, t.clients.lookup q = some c → ∃ old, s.clients.lookup q = some old ∧
    c = { old with lockState := c.lockState }
  creators : t.creators = s.creators
  appNames : t.appNames = s.appNames

section Like

theorem Like.trans {u : State} (h : Like s t) (h' : Like t u) : Like s u := by
  refine ⟨fun r => (h'.dirs r).trans (h.dirs r), h'.next.trans h.next, ?_,
    h'.creators.trans h.creators, h'.appNames.trans h.appNames⟩
  intro q c hc
  obtain ⟨middle, hmid, heq⟩ := h'.clients q c hc
  obtain ⟨old, hold, hold'⟩ := h.clients q middle hmid
  refine ⟨old, hold, ?_⟩
  rw [hold'] at heq
  exact heq

theorem Cipher.like (h : Cipher s t) : Like s t := by
  refine ⟨fun r => by rw [h.dirs], by rw [h.dirs], ?_, h.creators, h.appNames⟩
  intro q c hc
  rw [h.clients] at hc
  exact ⟨c, hc, rfl⟩

theorem Like.refl (s : State) : Like s s := (Cipher.refl s).like

theorem setUserCount_like (s : State) (dirRef : Nat) (n : BitVec 32) :
    Like s (s.setUserCount dirRef n) := by
  refine ⟨?_, rfl, fun q c hc => ⟨c, hc, rfl⟩, rfl, rfl⟩
  intro r
  unfold setUserCount
  rw [lookup_modify]
  split
  · rw [Option.map_map]
    rfl
  · rfl

theorem setLockState_like (s : State) (storageRef : Nat) (lockState : Bool) :
    Like s (s.setLockState storageRef lockState) := by
  refine ⟨fun _ => rfl, rfl, ?_, rfl, rfl⟩
  intro q c hc
  unfold setLockState at hc
  dsimp only at hc
  rw [lookup_modify] at hc
  split at hc
  · obtain ⟨old, hold, rfl⟩ := Option.map_eq_some_iff.1 hc
    exact ⟨old, hold, rfl⟩
  · exact ⟨c, hc, rfl⟩

theorem releaseClientCxt_like (s : State) (storageRef : Nat) :
    Like s (s.releaseClientCxt storageRef) :=
  ⟨fun _ => rfl, rfl, fun _ c hc => ⟨c, (lookup_of_erase hc).2, rfl⟩, rfl, rfl⟩

variable (s) (d : Dir)

theorem lockDirs_like (env : KeyEnv) : Like s (s.lockDirs d env) :=
  ((fscLockStorage_cipher ..).trans (fscLockStorage_cipher ..)).like

theorem lockRfsFirst_like (env : KeyEnv) : Like s (s.lockRfsFirst d env) :=
  ((fscLockStorage_cipher ..).trans (fscLockStorage_cipher ..)).like

theorem unlockRfsFirst_like (env : KeyEnv) : Like s (s.unlockRfsFirst d env) :=
  ((fscUnlockStorage_cipher ..).trans (fscUnlockStorage_cipher ..)).like

theorem withUnlocked_like (added removed : KeyEnv) : Like s (s.withUnlocked d added removed) :=
  ((fscUnlockStorage_cipher ..).trans (fscUnlockStorage_cipher ..)).like.trans (lockDirs_like ..)

variable {d}

theorem unlockStorage_like (storageRef : Nat) (env : KeyEnv) :
    Like s (s.unlockStorage storageRef env) := by
  unfold unlockStorage
  split
  · exact .refl s
  rename_i d _
  have hkeys : Like s (if d.userCount = 0 then s.unlockRfsFirst d env else s) := by
    split
    · exact unlockRfsFirst_like s d env
    · exact .refl s
  exact (hkeys.trans (setUserCount_like ..)).trans (setLockState_like ..)

theorem lockStorage_like (storageRef : Nat) (env : KeyEnv) :
    Like s (s.lockStorage storageRef env) := by
  unfold lockStorage
  split
  · exact .refl s
  split
  · exact .refl s
  split
  · exact .refl s
  dsimp only
  split
  · exact ((setUserCount_like ..).trans (setLockState_like ..)).trans (lockRfsFirst_like ..)
  · exact (setUserCount_like ..).trans (setLockState_like ..)

theorem closeClientCxt_like (env : Nat → KeyEnv) (storageRef : Nat) :
    Like s (closeClientCxt env s storageRef) := by
  unfold closeClientCxt
  split
  · exact .refl s
  refine Like.trans ?_ (releaseClientCxt_like ..)
  split
  · exact .refl s
  split
  · exact ⟨fun _ => rfl, rfl, fun _ c hc => ⟨c, hc, rfl⟩, rfl, rfl⟩
  split
  · exact (setUserCount_like ..).trans (lockDirs_like ..)
  · exact setUserCount_like ..

end Like

/-- What a record was before the step, where only its users have changed. -/
theorem Like.dir {r : Nat} {d : Dir} (h : Like s t) (hd : t.dirs.lookup r = some d) :
    ∃ old, s.dirs.lookup r = some old ∧ old.storageName = d.storageName ∧
      old.masterAppName = d.masterAppName ∧ old.path = d.path := by
  have hsame := h.dirs r
  rw [hd] at hsame
  obtain ⟨old, hold, heq⟩ := Option.map_eq_some_iff.1 hsame.symm
  simp only [Dir.identity, Prod.mk.injEq] at heq
  exact ⟨old, hold, heq⟩

theorem Like.dir_none {r : Nat} (h : Like s t) (hnone : t.dirs.lookup r = none) :
    s.dirs.lookup r = none := by
  have hsame := h.dirs r
  rw [hnone] at hsame
  exact Option.map_eq_none_iff.1 hsame.symm

theorem Granted.like (h : Granted P s) (hlike : Like s t) : Granted P t := by
  refine ⟨?_, ?_, ?_, ?_, ?_, ?_, ?_⟩
  · intro r d hd
    obtain ⟨old, hold, hname, -, hpath⟩ := hlike.dir hd
    obtain ⟨hval, hown, holdP⟩ := h.kept r old hold
    rw [hname] at hval hown holdP
    exact ⟨hval, hown, hpath.symm.trans holdP⟩
  · intro r d hd
    obtain ⟨old, hold, hname, hmst, -⟩ := hlike.dir hd
    rw [hlike.creators, ← hname, ← hmst]
    exact h.created r old hold
  · intro r d r' d' hd hd' hsame
    obtain ⟨old, hold, hname, -⟩ := hlike.dir hd
    obtain ⟨old', hold', hname', -⟩ := hlike.dir hd'
    exact h.unique r old r' old' hold hold' (hname.trans (hsame.trans hname'.symm))
  · intro q c r hc hr
    obtain ⟨old, hold, heq⟩ := hlike.clients q c hc
    rw [heq] at hr
    rw [hlike.next]
    exact h.older q old r hold hr
  · intro q c r d hc hr hd
    obtain ⟨old, hold, heq⟩ := hlike.clients q c hc
    obtain ⟨oldDir, holdD, hname, -⟩ := hlike.dir hd
    rw [heq] at hr ⊢
    obtain ⟨hstg, hperm⟩ := h.bound q old r oldDir hold hr holdD
    refine ⟨hname.symm.trans hstg, fun purpose halw => ?_⟩
    have hsess := hperm purpose halw
    unfold SessionPermits Permits at hsess ⊢
    rw [hlike.creators, hlike.appNames, ← hname]
    exact hsess
  · intro q c purpose hc halw
    obtain ⟨old, hold, heq⟩ := hlike.clients q c hc
    rw [heq] at halw ⊢
    obtain ⟨r, hr, hnone⟩ := h.unbound q old purpose hold halw
    exact ⟨r, hr, fun hgone => hnone (hlike.dir_none hgone)⟩
  · rw [hlike.appNames]
    exact h.fitting

/-! ## Storages -/

variable {purpose : Purpose}

section Storages

variable {name : Name} {d e : Dir}

/-- What the sessions may do with a storage depends on its own creator only. -/
theorem sessionPermits_update {session : Nat} {key : Name}
    {value : Option Name} (hoth : P.sha1 name ≠ key)
    (h : SessionPermits P s session name purpose) :
    SessionPermits P { s with creators := update s.creators key value } session name
      purpose := by
  obtain ⟨appName, happ, hpmt⟩ := h
  refine ⟨appName, happ, ?_⟩
  unfold Permits at hpmt ⊢
  dsimp only
  rw [update_of_ne hoth]
  exact hpmt

theorem Granted.setCreator (h : Granted P s) (hnone : s.creators (P.sha1 name) = none)
    (value : Option Name) :
    Granted P { s with creators := update s.creators (P.sha1 name) value } := by
  have hoth : ∀ r d, s.dirs.lookup r = some d → P.sha1 d.storageName ≠ P.sha1 name := by
    intro r d hd heq
    have hcrtd := h.created r d hd
    rw [heq, hnone] at hcrtd
    cases hcrtd
  refine ⟨h.kept, ?_, h.unique, h.older, ?_, h.unbound, h.fitting⟩
  · intro r d hd
    dsimp only
    rw [update_of_ne (hoth r d hd)]
    exact h.created r d hd
  · intro q c r d hc hr hd
    obtain ⟨hname, hperm⟩ := h.bound q c r d hc hr hd
    exact ⟨hname, fun purpose halw => sessionPermits_update (hoth r d hd) (hperm purpose halw)⟩

theorem Granted.addDir (h : Granted P s) (hkept : e.Kept P)
    (hcrtr : s.creators (P.sha1 e.storageName) = some e.masterAppName)
    (hnew : s.findDirRef e.storageName = none) : Granted P { s with dirs := s.dirs.create e } := by
  have hnone := findDirRef_eq_none.1 hnew
  refine ⟨?_, ?_, ?_, ?_, ?_, ?_, h.fitting⟩
  · intro r d hd
    rcases lookup_create_cases hd with ⟨-, rfl⟩ | hold
    · exact hkept
    · exact h.kept r d hold
  · intro r d hd
    rcases lookup_create_cases hd with ⟨-, rfl⟩ | hold
    · exact hcrtr
    · exact h.created r d hold
  · intro r d r' d' hd hd' hsame
    exact distinct_create h.unique hnone hd hd' hsame
  · intro q c r hc hr
    have hlt := h.older q c r hc hr
    change r < s.dirs.next + 1
    omega
  · intro q c r d hc hr hd
    rcases lookup_create_cases hd with ⟨rfl, -⟩ | hold
    · have hlt := h.older q c _ hc hr
      omega
    · exact h.bound q c r d hc hr hold
  · intro q c purpose hc halw
    obtain ⟨r, hr, hgone⟩ := h.unbound q c purpose hc halw
    refine ⟨r, hr, fun hnone => hgone ?_⟩
    dsimp only at hnone
    rw [lookup_create] at hnone
    split at hnone
    · cases hnone
    · exact hnone

theorem createDirRef_cases (s : State) (name : Name) (env : DirEnv) :
    ∃ u, Cipher s u ∧ (s.createDirRef P name env = (u, none) ∨
      ∃ e : Dir, e.storageName = cut P.maxStorageNameSize name ∧ e.path = P.storagePath name ∧
        s.creators (P.sha1 name) = some e.masterAppName ∧
          s.createDirRef P name env = ({ u with dirs := u.dirs.create e }, some u.dirs.next)) := by
  unfold createDirRef
  rcases hcrtr : s.getStorageCreator P name env.creatorRead with _ | masterAppName
  · exact ⟨s, .refl s, .inl rfl⟩
  have hrecd : s.creators (P.sha1 name) = some masterAppName := by
    unfold getStorageCreator at hcrtr
    split at hcrtr
    · exact (Option.filter_eq_some_iff.1 hcrtr).1
    · cases hcrtr
  have h₁ := fscGetStorageRef_cipher s (P.storagePath name) env.fsc
  generalize s.fscGetStorageRef (P.storagePath name) env.fsc = opened at h₁ ⊢
  obtain ⟨s₁, fscStorageRef⟩ := opened
  rcases fscStorageRef with _ | fscStorageRef
  · exact ⟨s₁, h₁, .inl rfl⟩
  dsimp only at h₁ ⊢
  have h₂ := h₁.trans (fscLockStorage_cipher s₁ fscStorageRef env.fscLocked)
  generalize s₁.fscLockStorage fscStorageRef env.fscLocked = locked at h₂ ⊢
  obtain ⟨s₂, ok⟩ := locked
  rcases ok with _ | _
  · exact ⟨s₂, h₂, .inl rfl⟩
  dsimp only at h₂ ⊢
  have h₃ := h₂.trans (fscGetStorageRef_cipher s₂ (P.rfsStoragePath name) env.rfs)
  generalize s₂.fscGetStorageRef (P.rfsStoragePath name) env.rfs = opened at h₃ ⊢
  obtain ⟨s₃, rfsFscStorageRef⟩ := opened
  rcases rfsFscStorageRef with _ | rfsFscStorageRef
  · exact ⟨s₃, h₃, .inl rfl⟩
  dsimp only at h₃ ⊢
  have h₄ := h₃.trans (fscLockStorage_cipher s₃ rfsFscStorageRef env.rfsLocked)
  generalize s₃.fscLockStorage rfsFscStorageRef env.rfsLocked = locked at h₄ ⊢
  obtain ⟨s₄, ok⟩ := locked
  cases ok with
  | false => exact ⟨s₄, h₄, .inl rfl⟩
  | true => exact ⟨s₄, h₄, .inr ⟨_, rfl, rfl, hrecd, rfl⟩⟩

/-- What making or finding a record leaves: the contexts are as they were, and a record that is
returned is that of the storage. -/
structure DirFound (P : Platform) (s t : State) (name : Name) (dirRef : Option Nat) : Prop where
  granted : Granted P t
  clients : t.clients = s.clients
  appNames : t.appNames = s.appNames
  record : ∀ r, dirRef = some r → ∃ d, t.dirs.lookup r = some d ∧ d.storageName = name

theorem Granted.findOrCreateDirRef (h : Granted P s) (env : DirEnv)
    (hval : checkValidPosixFileName name = true) (hcare : CarefulName P s name) :
    DirFound P s (s.findOrCreateDirRef P name env).1 name (s.findOrCreateDirRef P name env).2 := by
  unfold State.findOrCreateDirRef
  cases hfind : s.findDirRef name with
  | some r =>
    refine ⟨h, rfl, rfl, ?_⟩
    intro r' hr
    cases hr
    obtain ⟨d, hd, hname⟩ := search_eq_some hfind
    exact ⟨d, hd, of_decide_eq_true hname⟩
  | none =>
    have hown := hcare hval hfind
    obtain ⟨u, hciph, hres⟩ := createDirRef_cases (P := P) s name env
    have hgrt := h.like hciph.like
    rcases hres with hnone | ⟨e, hname, hpath, hcrtr, hcrtd⟩
    · dsimp only
      rw [hnone]
      exact ⟨hgrt, hciph.clients, hciph.appNames, nofun⟩
    rw [hcrtd]
    have hcut : cut P.maxStorageNameSize name = name := by
      apply cut_of_lt
      have hlen := hown.2.1
      rw [length_append] at hlen
      omega
    rw [hcut] at hname
    refine ⟨hgrt.addDir ?_ ?_ ?_, hciph.clients, hciph.appNames, ?_⟩
    · rw [← hname] at hval hown hpath
      exact ⟨hval, hown, hpath⟩
    · rw [hname, hciph.creators]
      exact hcrtr
    · unfold State.findDirRef
      rw [hname, hciph.dirs]
      exact hfind
    · intro r hr
      cases hr
      exact ⟨e, lookup_create_self e, hname⟩

theorem Granted.createStorage (h : Granted P s) (session : Option Nat) {env : CreateEnv}
    (hcare : CarefulName P s name) : Granted P (s.createStorage P session name env) := by
  unfold State.createStorage
  split
  · exact h
  rename_i hval
  split
  · exact h
  dsimp only
  split
  · exact h
  rename_i appName _
  rcases setStorageCreator_cases (P := P) s name (cut (P.maxAppNameLen + 1) appName) env.creator with
    hsame | ⟨hnone, value, ok, hset, -⟩
  · rw [hsame]
    exact h
  rw [hset]
  have hcrts := h.setCreator hnone (some value)
  rcases ok with _ | _
  · exact hcrts
  dsimp only
  cases hfind : ({ s with creators := update s.creators (P.sha1 name) (some value) } :
      State).findDirRef name with
  | some r => exact hcrts
  | none =>
    have hfnd := hcrts.findOrCreateDirRef env.dir (by simpa using hval) hcare
    unfold State.findOrCreateDirRef at hfnd
    rw [hfind] at hfnd
    exact hfnd.granted

end Storages

/-! ## References -/

section References

variable {session ref : Nat} {name appName : Name} {c : ClientCxt} {d : Dir}

section

variable (h : P.CfgFits)
include h

/-- The configuration lists the app itself, not only a part of its name. -/
theorem Platform.CfgFits.listed {cfg : StorageCfg} (hcfg : cfg ∈ P.storageAccessCfg)
    {apps : List Name} (happs : ∀ a ∈ apps, a ∈ cfg.readAccessibleApps ++ cfg.writeAccessibleApps)
    (happ : appName ∈ apps.map (cut P.maxAppNameLen)) : appName ∈ apps := by
  obtain ⟨listed, hlstd, rfl⟩ := mem_map.1 happ
  rw [cut_of_lt ((h cfg hcfg).2 listed (happs listed hlstd))]
  exact hlstd

theorem Platform.CfgFits.cfgName {cfg : StorageCfg}
    (hcfg : cfg ∈ P.storageAccessCfg) : P.cfgName cfg = cfg.storageName := cut_of_lt (h cfg hcfg).1

theorem permits_of_isReadable (hread : P.isReadable name appName = true) :
    Permits P s appName name .read := by
  obtain ⟨cfg, hcfg, hlstd⟩ := any_eq_true.1 hread
  obtain ⟨hname, happ⟩ := of_decide_eq_true hlstd
  exact .inr ⟨cfg, hcfg, (h.cfgName hcfg).symm.trans hname,
    h.listed hcfg (fun a ha => mem_append.2 (.inl ha)) happ⟩

theorem permits_of_isWritable (hwri : P.isWritable name appName = true)
    (hpurp : purpose ≠ .read) : Permits P s appName name purpose := by
  obtain ⟨cfg, hcfg, hlstd⟩ := any_eq_true.1 hwri
  obtain ⟨hname, happ⟩ := of_decide_eq_true hlstd
  refine .inr ⟨cfg, hcfg, (h.cfgName hcfg).symm.trans hname, ?_⟩
  rw [if_neg hpurp]
  exact h.listed hcfg (fun a ha => mem_append.2 (.inr ha)) happ

end

theorem isServiceStorage_of_isAppAccessible (h : P.isAppAccessible name appName = true) :
    P.isServiceStorage name = true := by
  rcases Bool.or_eq_true_iff.1 h with hread | hwri
  · obtain ⟨cfg, hcfg, hlstd⟩ := any_eq_true.1 hread
    exact any_eq_true.2 ⟨cfg, hcfg, decide_eq_true (of_decide_eq_true hlstd).1⟩
  · obtain ⟨cfg, hcfg, hlstd⟩ := any_eq_true.1 hwri
    exact any_eq_true.2 ⟨cfg, hcfg, decide_eq_true (of_decide_eq_true hlstd).1⟩

theorem Granted.addClientCxt (h : Granted P s) (hdir : c.dirRef = none)
    (hflag : ∀ purpose, c.allows purpose = false) :
    Granted P { s with clients := s.clients.create c } := by
  refine ⟨h.kept, h.created, h.unique, ?_, ?_, ?_, h.fitting⟩
  · intro q x r hx hr
    rcases lookup_create_cases hx with ⟨-, rfl⟩ | hold
    · rw [hdir] at hr
      cases hr
    · exact h.older q x r hold hr
  · intro q x r d hx hr hd
    rcases lookup_create_cases hx with ⟨-, rfl⟩ | hold
    · rw [hdir] at hr
      cases hr
    · exact h.bound q x r d hold hr hd
  · intro q x purpose hx halw
    rcases lookup_create_cases hx with ⟨-, rfl⟩ | hold
    · rw [hflag] at halw
      cases halw
    · exact h.unbound q x purpose hold halw

structure CxtFound (P : Platform) (s t : State) (session : Nat) (name : Name)
    (ref : Nat) : Prop where
  granted : Granted P t
  dirs : t.dirs = s.dirs
  appNames : t.appNames = s.appNames
  context : ∃ c, t.clients.lookup ref = some c ∧ c.clientSessionRef = session ∧
    (c.storageName = name ∨ c.storageName = cut P.maxStorageNameSize name)

theorem Granted.findOrCreateClientCxt (h : Granted P s) (session : Nat) (name : Name) :
    CxtFound P s (s.findOrCreateClientCxt P session name).1 session name
      (s.findOrCreateClientCxt P session name).2 := by
  unfold State.findOrCreateClientCxt
  split
  · rename_i ref hfind
    obtain ⟨c, hc, hp⟩ := search_eq_some hfind
    obtain ⟨hname, hsess⟩ := of_decide_eq_true hp
    exact ⟨h, rfl, rfl, c, hc, hsess, .inl hname⟩
  · refine ⟨h.addClientCxt rfl ?_, rfl, rfl, _, lookup_create_self _, rfl, .inr rfl⟩
    intro purpose
    unfold ClientCxt.allows
    split <;> rfl

/-- The flags after an app was accepted: those of the context before, and what the app may do. -/
theorem grant_permitted (hfits : P.CfgFits)
    (hcrtr : s.creators (P.sha1 name) = some d.masterAppName)
    (hsvc : appName = secFileCreatorName → P.isServiceStorage name = false)
    (hold : isMaster d appName = false → ∀ purpose, c.allows purpose = true →
      Permits P s appName name purpose) (purpose : Purpose)
    (halw : (grant P d name appName c).allows purpose = true) :
    Permits P s appName name purpose := by
  cases hmst : isMaster d appName with
  | true =>
    have hsame := (of_decide_eq_true hmst).2
    rw [hsame] at hcrtr
    exact .inl ⟨hcrtr, hsvc⟩
  | false =>
    unfold grant at halw
    rw [hmst] at halw
    unfold ClientCxt.allows at halw
    by_cases hread : purpose = .read
    · subst hread
      rcases Bool.or_eq_true_iff.1 halw with hbef | hlstd
      · exact hold hmst .read hbef
      · exact permits_of_isReadable hfits hlstd
    rw [if_neg hread] at halw
    rcases Bool.or_eq_true_iff.1 halw with hbef | hlstd
    · refine hold hmst purpose ?_
      unfold ClientCxt.allows
      rw [if_neg hread]
      exact hbef
    · exact permits_of_isWritable hfits hlstd hread

theorem Granted.bindClientCxt (h : Granted P s) (hd : s.dirs.lookup ref = some d)
    {storageRef : Nat} (hc : s.clients.lookup storageRef = some c) {bind : ClientCxt → ClientCxt}
    (hdir : (bind c).dirRef = some ref) (hname : d.storageName = (bind c).storageName)
    (hperm : FlagsPermitted P s (bind c) d.storageName) :
    Granted P { s with clients := s.clients.modify storageRef bind } := by
  have hlook : ∀ q x, (s.clients.modify storageRef bind).lookup q = some x →
      x = bind c ∨ s.clients.lookup q = some x := by
    intro q x hx
    rw [lookup_modify] at hx
    split at hx
    · rename_i heq
      subst heq
      rw [hc] at hx
      cases hx
      exact .inl rfl
    · exact .inr hx
  refine ⟨h.kept, h.created, h.unique, ?_, ?_, ?_, h.fitting⟩
  · intro q x r hx hr
    rcases hlook q x hx with rfl | hold
    · rw [hdir] at hr
      cases hr
      exact lookup_lt hd
    · exact h.older q x r hold hr
  · intro q x r e hx hr he
    rcases hlook q x hx with rfl | hold
    · rw [hdir] at hr
      cases hr
      dsimp only at he
      rw [hd] at he
      cases he
      exact ⟨hname, hperm⟩
    · exact h.bound q x r e hold hr he
  · intro q x purpose hx halw
    rcases hlook q x hx with rfl | hold
    · refine ⟨ref, hdir, fun hnone => ?_⟩
      dsimp only at hnone
      rw [hd] at hnone
      cases hnone
    · exact h.unbound q x purpose hold halw

theorem Granted.getStorageRef (h : Granted P s) {env : GetEnv}
    (hcare : env.dirExists = true → CarefulName P s name ∧ P.CfgFits ∧
      (s.appNames session = some secFileCreatorName → P.isServiceStorage name = false)) :
    Granted P (s.getStorageRef P session name env) := by
  unfold State.getStorageRef
  split
  · exact h
  rename_i hinv
  split
  · exact h
  rename_i hexis
  obtain ⟨hname, hfits, hsvc⟩ := hcare (by simpa using hexis)
  split
  · exact h
  rename_i appName happ
  obtain ⟨fullName, happN, hcut⟩ := Option.map_eq_some_iff.1 happ
  have hlen := h.fitting session fullName happN
  rw [cut_of_lt (by omega)] at hcut
  subst hcut
  dsimp only
  have hfnd := h.findOrCreateClientCxt session name
  generalize s.findOrCreateClientCxt P session name = found at hfnd ⊢
  obtain ⟨s₁, storageRef⟩ := found
  obtain ⟨hgrt, hdirs, hnms, c, hc, hsess, hcnam⟩ := hfnd
  have hname₁ : CarefulName P s₁ name := by
    unfold CarefulName State.findDirRef
    rw [hdirs]
    exact hname
  have hdirF := hgrt.findOrCreateDirRef env.dir (by simpa using hinv) hname₁
  generalize s₁.findOrCreateDirRef P name env.dir = result at hdirF ⊢
  obtain ⟨t, dirRef⟩ := result
  obtain ⟨hgran, hcls, hnam, hrec⟩ := hdirF
  dsimp only at hgran hcls hnam hrec ⊢
  rcases dirRef with _ | dirRef
  · exact hgran.like (releaseClientCxt_like ..)
  obtain ⟨d, hd, hdnam⟩ := hrec dirRef rfl
  dsimp only
  rw [hd]
  dsimp only
  split
  swap
  · exact hgran.like (releaseClientCxt_like ..)
  rename_i hacc
  rw [← hcls] at hc
  have hsame : c.storageName = name := by
    rcases hcnam with hsame | hcut
    · exact hsame
    have hlen := (hgran.kept dirRef d hd).own.2.1
    rw [hdnam, length_append] at hlen
    rw [hcut, cut_of_lt (by omega)]
  have hgra := grant_same (P := P) d name fullName { c with dirRef := some dirRef }
  refine hgran.bindClientCxt hd hc hgra.1 ?_ ?_
  · rw [hgra.2.2.1]
    exact hdnam.trans hsame.symm
  intro purpose halw
  rw [hgra.2.1, hdnam]
  have happT : t.appNames session = some fullName := by
    rw [hnam, hnms]
    exact happN
  have hcrtr := hgran.created dirRef d hd
  rw [hdnam] at hcrtr
  refine ⟨fullName, ?_, ?_⟩
  · change t.appNames c.clientSessionRef = some fullName
    rw [hsess]
    exact happT
  refine grant_permitted hfits hcrtr ?_ ?_ purpose halw
  · rintro rfl
    exact hsvc happN
  -- What an app that is not the creator could do before, it could do with this record.
  intro hmst purpose hbef
  have hacce : P.isAppAccessible name fullName = true := by
    unfold accepts at hacc
    rw [hmst] at hacc
    exact hacc
  obtain ⟨r, hr, hgone⟩ := hgran.unbound storageRef c purpose hc hbef
  rcases hlook : t.dirs.lookup r with _ | e
  · have hnot := hgone hlook
    rw [hsame, isServiceStorage_of_isAppAccessible hacce] at hnot
    cases hnot
  obtain ⟨henam, hperm⟩ := hgran.bound storageRef c r e hc hr hlook
  obtain ⟨appName, happ', hpmt⟩ := hperm purpose hbef
  rw [hsess, happT] at happ'
  cases happ'
  rw [henam, hsame] at hpmt
  exact hpmt

end References

/-! ## Deletion and sessions -/

section Deletion

variable {storageRef dirRef : Nat} {d : Dir}

/-- The record goes with its creator; contexts that led to it were of a storage that is not the
service's. -/
theorem Granted.eraseDir (h : Granted P s) (hd : s.dirs.lookup dirRef = some d)
    (hsvc : P.isServiceStorage d.storageName = false)
    (hdige : ∀ r e, s.dirs.lookup r = some e → e.storageName ≠ d.storageName →
      P.sha1 e.storageName ≠ P.sha1 d.storageName) :
    Granted P { s with
      dirs := s.dirs.erase dirRef
      creators := update s.creators (P.sha1 d.storageName) none } := by
  have hoth : ∀ r e, (s.dirs.erase dirRef).lookup r = some e →
      s.dirs.lookup r = some e ∧ P.sha1 e.storageName ≠ P.sha1 d.storageName := by
    intro r e he
    obtain ⟨hne, hold⟩ := lookup_of_erase he
    exact ⟨hold, hdige r e hold fun hsame => hne (h.unique r e dirRef d hold hd hsame)⟩
  refine ⟨?_, ?_, ?_, h.older, ?_, ?_, h.fitting⟩
  · intro r e he
    exact h.kept r e (hoth r e he).1
  · intro r e he
    obtain ⟨hold, hne⟩ := hoth r e he
    dsimp only
    rw [update_of_ne hne]
    exact h.created r e hold
  · intro r e r' e' he he'
    exact h.unique r e r' e' (hoth r e he).1 (hoth r' e' he').1
  · intro q c r e hc hr he
    obtain ⟨hold, hne⟩ := hoth r e he
    obtain ⟨hname, hperm⟩ := h.bound q c r e hc hr hold
    exact ⟨hname, fun purpose halw => sessionPermits_update hne (hperm purpose halw)⟩
  intro q c purpose hc halw
  obtain ⟨r, hr, hgone⟩ := h.unbound q c purpose hc halw
  refine ⟨r, hr, fun hnone => ?_⟩
  dsimp only at hnone
  rw [lookup_erase] at hnone
  split at hnone
  · rename_i heq
    subst heq
    rw [← (h.bound q c r d hc hr hd).1]
    exact hsvc
  · exact hgone hnone

theorem Granted.deleteStorage (h : Granted P s) {env : DeleteEnv}
    (hcare : ∀ y ∈ s.contextOf storageRef, ∀ e ∈ s.dirs.entries,
      e.2.storageName ≠ y.2.2.storageName →
        P.sha1 e.2.storageName ≠ P.sha1 y.2.2.storageName) :
    Granted P (s.deleteStorage P storageRef env) := by
  unfold State.deleteStorage
  split
  · exact h
  rename_i dirRef d htgt
  obtain ⟨c, hctx, hsvc⟩ := deleteTarget_eq_some htgt
  have hdige := hcare _ hctx
  dsimp only at hdige
  have h₁ := fscDeleteStorage_cipher s d.rfsFscStorageRef env.rfs
  generalize s.fscDeleteStorage d.rfsFscStorageRef env.rfs = result at h₁ ⊢
  obtain ⟨s₁, ok⟩ := result
  rcases ok with _ | _
  · exact h.like h₁.like
  dsimp only at h₁ ⊢
  have h₂ := h₁.trans (fscDeleteStorage_cipher s₁ d.fscStorageRef env.fsc)
  generalize s₁.fscDeleteStorage d.fscStorageRef env.fsc = result at h₂ ⊢
  obtain ⟨s₂, ok⟩ := result
  rcases ok with _ | _
  · exact h.like h₂.like
  dsimp only at h₂ ⊢
  have hgrt := h.like h₂.like
  have hd : s₂.dirs.lookup dirRef = some d := by
    rw [h₂.dirs]
    exact (contextOf_eq_some hctx).2.2
  rcases clearStorageCreator_cases (P := P) s₂ d.storageName env.creatorCleared with
    hkept | hclrd
  · rw [hkept]
    exact hgrt
  rw [hclrd]
  refine (hgrt.eraseDir hd hsvc ?_).like (releaseClientCxt_like ..)
  intro r e he
  rw [h₂.dirs] at he
  exact hdige (r, e) (lookup_eq_some_iff.1 he)

theorem foldl_closeClientCxt_like (env : Nat → KeyEnv) (refs : List Nat) (s : State) :
    Like s (refs.foldl (closeClientCxt env) s) := by
  induction refs generalizing s with
  | nil => exact .refl s
  | cons ref rest ih => exact (closeClientCxt_like s env ref).trans (ih _)

theorem closeClientCxt_gone (env : Nat → KeyEnv) (s : State) (ref : Nat) :
    (closeClientCxt env s ref).clients.lookup ref = none := by
  unfold closeClientCxt
  split
  · assumption
  · unfold releaseClientCxt
    rw [lookup_erase, if_pos rfl]

theorem Like.client_none (h : Like s t) (hnone : s.clients.lookup storageRef = none) :
    t.clients.lookup storageRef = none := by
  rcases hc : t.clients.lookup storageRef with _ | c
  · rfl
  obtain ⟨old, hold, -⟩ := h.clients storageRef c hc
  rw [hnone] at hold
  cases hold

theorem foldl_closeClientCxt_gone (env : Nat → KeyEnv) {refs : List Nat} (s : State) {ref : Nat}
    (href : ref ∈ refs) : (refs.foldl (closeClientCxt env) s).clients.lookup ref = none := by
  induction refs generalizing s with
  | nil => cases href
  | cons first rest ih =>
    rcases mem_cons.1 href with rfl | hrest
    · exact (foldl_closeClientCxt_like env rest _).client_none (closeClientCxt_gone env s ref)
    · exact ih _ hrest

theorem Granted.setAppName (h : Granted P s) {session : Nat} {appName : Option Name}
    (hgone : appName = none → ∀ q c, s.clients.lookup q = some c → c.clientSessionRef ≠ session)
    (hopen : appName ≠ none → s.appNames session = none)
    (hlen : ∀ name, appName = some name → name.length ≤ P.maxAppNameLen) :
    Granted P { s with appNames := update s.appNames session appName } := by
  refine ⟨h.kept, h.created, h.unique, h.older, ?_, h.unbound, ?_⟩
  · intro q c r d hc hr hd
    obtain ⟨hname, hperm⟩ := h.bound q c r d hc hr hd
    refine ⟨hname, fun purpose halw => ?_⟩
    obtain ⟨app, happ, hpmt⟩ := hperm purpose halw
    refine ⟨app, ?_, hpmt⟩
    have hoth : c.clientSessionRef ≠ session := by
      intro heq
      cases appName with
      | none => exact hgone rfl q c hc heq
      | some name =>
        rw [heq, hopen nofun] at happ
        cases happ
    dsimp only
    rw [update_of_ne hoth]
    exact happ
  · intro other name happ
    dsimp only at happ
    by_cases heq : other = session
    · subst heq
      rw [update_self] at happ
      exact hlen name happ
    · rw [update_of_ne heq] at happ
      exact h.fitting other name happ

theorem Granted.sessionClosed (h : Granted P s) (session : Nat) (env : Nat → KeyEnv) :
    Granted P (s.sessionClosed session env) := by
  have hlike := foldl_closeClientCxt_like env (s.contextsOf session) s
  apply (h.like hlike).setAppName
  · intro _ q c hc heq
    obtain ⟨old, hold, hsame⟩ := hlike.clients q c hc
    rw [hsame] at heq
    have hmem : q ∈ s.contextsOf session := by
      apply mem_map.2
      exact ⟨(q, old), mem_filter.2 ⟨lookup_eq_some_iff.1 hold, decide_eq_true heq⟩, rfl⟩
    rw [foldl_closeClientCxt_gone env s hmem] at hc
    cases hc
  · intro hne
    exact absurd rfl hne
  · nofun

end Deletion

/-! ## Runs -/

section Runs

variable {session storageRef : Nat} {filePath : Name} {d : Dir}

section

variable (h : Granted P s)
include h

/-- What a context of the session may do with a file whose name stays in the directory. -/
theorem Granted.allowed {c : ClientCxt} {dirRef : Nat}
    (hctx : s.contextOf storageRef = some (c, dirRef, d)) (hsess : c.clientSessionRef = session)
    (halw : c.allows purpose = true) {path : Name}
    (hpath : P.ownDir d.storageName <:+ follow workingDir path) :
    Allowed P workingDir s session storageRef ⟨path, purpose⟩ := by
  intro _
  obtain ⟨hc, hdir, hd⟩ := contextOf_eq_some hctx
  have hperm := (h.bound storageRef c dirRef d hc hdir hd).2 purpose halw
  rw [hsess] at hperm
  exact ⟨_, hctx, hpath, hperm⟩

theorem Granted.allowed_target {c : ClientCxt} {dirRef : Nat}
    (hctx : s.contextOf storageRef = some (c, dirRef, d)) (hsess : c.clientSessionRef = session)
    (halw : c.allows purpose = true) (hsty : StaysIn P d filePath) :
    Allowed P workingDir s session storageRef ⟨targetFilePath P d filePath, purpose⟩ := by
  have hkept := h.kept dirRef d (contextOf_eq_some hctx).2.2
  exact h.allowed hctx hsess halw (follow_targetFilePath hkept hsty workingDir)

theorem Granted.importFile {source target : Name} {env : ImportEnv}
    (hcare : ∀ y ∈ s.contextOf storageRef,
      (s.importTarget storageRef source target env).isSome = true →
        y.1.clientSessionRef = session ∧ StaysIn P y.2.2 target ∧
          StaysIn P y.2.2 (target ++ tmpFileNameExtension) ∧
            CarefulSource P workingDir y.1 y.2.2 source) :
    ∀ x ∈ (s.importFile P storageRef source target env).accesses,
      Allowed P workingDir s session storageRef x := by
  unfold State.importFile
  rcases htgt : s.importTarget storageRef source target env with _ | d
  · exact fun _ hx => nomatch hx
  obtain ⟨c, dirRef, hctx, hwrit⟩ :=
    fileTarget_eq_some (Option.filter_eq_some_iff.1 htgt).1
  obtain ⟨hsess, hfile, htmp, hsrc⟩ := hcare _ hctx (by rw [htgt]; rfl)
  have htmpA : ∀ purpose, purpose ≠ .read → Allowed P workingDir s session storageRef
      ⟨tmpTargetFilePath P d target, purpose⟩ := by
    intro purpose hpurp
    rw [tmpTargetFilePath_eq]
    refine h.allowed_target hctx hsess ?_ htmp
    unfold ClientCxt.allows
    rw [if_neg hpurp]
    exact hwrit
  intro x hx
  dsimp only at hx
  rcases mem_append.1 hx with hsta | hlast
  swap
  · rw [mem_singleton.1 hlast]
    exact htmpA .remove nofun
  rcases mem_append.1 hsta with hfst | hcopd
  · rcases mem_cons.1 hfst with rfl | hwrtn
    · intro hinsi
      obtain ⟨hown, hrea⟩ := hsrc hinsi
      have halw : c.allows .read = true := hrea
      exact h.allowed hctx hsess halw hown hinsi
    · rw [mem_singleton.1 hwrtn]
      exact htmpA .write nofun
  · split at hcopd
    · rcases mem_cons.1 hcopd with rfl | hrena
      · exact htmpA .remove nofun
      · rw [mem_singleton.1 hrena]
        exact h.allowed_target hctx hsess hwrit hfile
    · cases hcopd

theorem Granted.usedFile (htgt : s.fileTarget storageRef purpose = some d)
    (hcare : ∀ y ∈ s.contextOf storageRef, y.1.allows purpose = true →
      y.1.clientSessionRef = session ∧ StaysIn P y.2.2 filePath) :
    Allowed P workingDir s session storageRef ⟨targetFilePath P d filePath, purpose⟩ := by
  obtain ⟨c, dirRef, hctx, halw⟩ := fileTarget_eq_some htgt
  obtain ⟨hsess, hsty⟩ := hcare _ hctx halw
  exact h.allowed_target hctx hsess halw hsty

theorem Granted.contained {a : Action} (hcare : CarefulFiles P workingDir s a) :
    Contained P workingDir s a := by
  cases a with
  | importFile session storageRef source target env => exact h.importFile hcare
  | readFile session storageRef filePath env =>
    intro x hx
    unfold readFile at hx
    split at hx
    · cases hx
    rename_i d htgt
    rw [mem_singleton.1 hx]
    exact h.usedFile (Option.filter_eq_some_iff.1 htgt).1 hcare
  | deleteFile session storageRef filePath env =>
    intro x hx
    unfold deleteFile at hx
    split at hx
    · cases hx
    rename_i d htgt
    rw [mem_singleton.1 hx]
    exact h.usedFile (Option.filter_eq_some_iff.1 htgt).1 hcare
  | opened | createServiceStorage | createStorage | getStorageRef | unlockStorage | lockStorage
  | deleteStorage | closed => trivial

end

theorem importFile_like (s : State) (source target : Name) (env : ImportEnv) :
    Like s (s.importFile P storageRef source target env).state := by
  unfold importFile
  split
  · exact .refl s
  · exact withUnlocked_like ..

theorem readFile_like (s : State) (filePath : Name) (env : FileEnv) :
    Like s (s.readFile P storageRef filePath env).state := by
  unfold readFile
  split
  · exact .refl s
  · exact withUnlocked_like ..

theorem deleteFile_like (s : State) (filePath : Name) (env : FileEnv) :
    Like s (s.deleteFile P storageRef filePath env).state := by
  unfold deleteFile
  split
  · exact .refl s
  · exact withUnlocked_like ..

theorem granted_start : Granted P start := by
  refine ⟨?_, ?_, ?_, ?_, ?_, ?_, ?_⟩
  · intro _ _ h
    cases h
  · intro _ _ h
    cases h
  · intro _ _ _ _ h
    cases h
  · intro _ _ _ h
    cases h
  · intro _ _ _ _ h
    cases h
  · intro _ _ _ h
    cases h
  · intro _ _ h
    cases h

theorem step_granted {a : Action} (h : Granted P s) (hcare : CarefulFiles P workingDir s a)
    (hstep : step P s a = some t) : Granted P t := by
  unfold step at hstep
  split at hstep
  swap
  · cases hstep
  rename_i henab
  cases hstep
  cases a with
  | opened session appName =>
    have hclsd := of_decide_eq_true henab.2
    refine h.setAppName nofun (fun _ => hclsd) fun name happ => ?_
    cases happ
    exact hcare
  | createServiceStorage cfg env => exact h.createStorage none hcare
  | createStorage session name env => exact h.createStorage (some session) hcare
  | getStorageRef session name env => exact h.getStorageRef hcare
  | unlockStorage session storageRef env => exact h.like (unlockStorage_like ..)
  | lockStorage session storageRef env => exact h.like (lockStorage_like ..)
  | importFile session storageRef source target env => exact h.like (importFile_like ..)
  | readFile session storageRef filePath env => exact h.like (readFile_like ..)
  | deleteFile session storageRef filePath env => exact h.like (deleteFile_like ..)
  | deleteStorage session storageRef env => exact h.deleteStorage hcare
  | closed session env => exact h.sessionClosed session env

/-- As long as the steps are careful, files are used in the directory of their storage only, and
with the permission. -/
theorem contained_run (P : Platform) (workingDir : List Name) (actions : List Action)
    (hcare : Meets (step P) (CarefulFiles P workingDir) start actions) :
    Meets (step P) (Contained P workingDir) start actions :=
  Meets.of_invariant (Granted P) (fun _ _ h hok => h.contained hok)
    (fun _ _ _ h hok hstep => step_granted h hok hstep) granted_start hcare

/-- Two apps use the files of the storage that the service made for them, the loader those of its
own storage as well; a deleted storage is made again by the other app. -/
theorem contained_sharedMaps :
    let actions := sharedMaps ++ [
      .importFile 2 1 "/tmp/map".toList "north/map".toList ⟨⟨bothKeys, bothKeys⟩, 10, 5, true⟩,
      .readFile 1 0 "north/../north/map".toList ⟨bothKeys, bothKeys⟩,
      .createStorage 2 "own".toList ⟨false, true, .written, opensDir⟩,
      .getStorageRef 2 "own".toList ⟨true, opensDir⟩,
      .importFile 2 2 "/data/secfile/own/a".toList "b".toList ⟨⟨bothKeys, bothKeys⟩, 10, 5, true⟩,
      .deleteFile 2 2 "b".toList ⟨bothKeys, bothKeys⟩,
      .deleteStorage 2 2 ⟨true, ⟨true, true, true⟩, ⟨true, true, true⟩, true⟩,
      .createStorage 1 "own".toList ⟨false, true, .written, opensDir⟩,
      .getStorageRef 2 "own".toList ⟨true, opensDir⟩, .getStorageRef 1 "own".toList ⟨true, opensDir⟩,
      .readFile 1 4 "b".toList ⟨bothKeys, bothKeys⟩, .closed 1 fun _ => bothKeys]
    Meets (step twoApps) (CarefulFiles twoApps []) start actions ∧
      Meets (step twoApps) (Contained twoApps []) start actions := by
  intro actions
  have hcare : Meets (step twoApps) (CarefulFiles twoApps []) start actions := by decide +kernel
  exact ⟨hcare, contained_run twoApps [] actions hcare⟩

/-- The loader may not read the storage of the service, but while the viewer has it unlocked the
loader reads a file there by the way of its own. -/
theorem containment_fails : ¬ ∀ (P : Platform) (workingDir : List Name) (actions : List Action),
    Meets (step P) (Contained P workingDir) start actions := by
  intro h
  have hrun := h twoApps [] (sharedMaps ++ [
    .importFile 2 1 "/tmp/map".toList "map".toList ⟨⟨bothKeys, bothKeys⟩, 10, 5, true⟩,
    .unlockStorage 1 0 bothKeys,
    .createStorage 2 "own".toList ⟨false, true, .written, opensDir⟩,
    .getStorageRef 2 "own".toList ⟨true, opensDir⟩,
    .readFile 2 2 "../maps/map".toList ⟨bothKeys, bothKeys⟩])
  exact absurd hrun (by decide +kernel)

end Runs

end TelAF.SecFileStorage
