import TelAF.FsCryptKeys

/-!
# Encrypted storage along runs

A call can lose the key of an encrypted directory where the platform hands out its key file with an
error, can unlock a directory with a key that the platform refused, and leaves the other objects of
a directory with the flag they had. In the runs in which none of this is met the keys are kept.
-/

namespace TelAF.FsCrypt

open TransitionRuns KeyStore State Function List Bool Option

namespace State

variable (sha512 : List UInt8 → List UInt8) (s : State)

/-- There is no usable key for the directory, and a new one is asked for. -/
def generates (dirPath : Name) (r : Replies) : Bool :=
  if s.device.isDir dirPath r.stat then
    r.getKey.result = .notFound && r.isDirectoryEmpty &&
      s.device.ioControlGetPolicy dirPath r.getPolicy ≠ .ok
  else r.makePath

/-- The key of the directory is found, and the directory has a policy or can be given one. -/
def reuses (dirPath : Name) (r : Replies) : Bool :=
  s.device.isDir dirPath r.stat && r.getKey.result = .ok &&
    (s.device.ioControlGetPolicy dirPath r.getPolicy = .ok ||
      s.device.ioControlGetPolicy dirPath r.getPolicy = .unavailable && r.isDirectoryEmpty)

/-- A deletion of the key file in the reply loses no key of a directory with a policy. -/
def Harmless (reply : KeyReply) (r : Replies) : Prop :=
  r.deleteKey = .ok → ∀ ref ∈ reply.keyFileRef, s.device.guards ref = false
deriving Decidable

/-- A key file that was just made is known to nobody. -/
def New (ref : Nat) : Prop :=
  s.device.keyFiles ref = none ∧ ∀ e ∈ s.storages.entries, e.2.keyFileRef ≠ some ref
deriving Decidable

/-- The directory has a policy, or can be given the one of the key. -/
def hasOrTakesPolicy (dirPath : Name) (reply : KeyReply) (storageAlreadyExist : Bool) (r : Replies) :
    Bool :=
  storageAlreadyExist || ((s.device.makePath dirPath).ioControlSetPolicy
    (computeDescriptor sha512 reply.key) reply.keyFileRef dirPath r.setPolicy).1 = .ok

/-- A key that comes into the keyring is the key of no object but the one that the call returns. -/
def CarefulUse (dirPath : Name) (reply : KeyReply) (storageAlreadyExist : Bool)
    (r : Replies) : Prop :=
  r.addKey = true → s.device.keyring (keySpecifier (computeDescriptor sha512 reply.key)) = false →
    ∀ e ∈ s.storages.entries,
      keySpecifier e.2.descriptor = keySpecifier (computeDescriptor sha512 reply.key) →
        s.hasOrTakesPolicy sha512 dirPath reply storageAlreadyExist r = true ∧
          s.storages.search
            (isClosed reply.keyFileRef dirPath (computeDescriptor sha512 reply.key)) = some e.1
deriving Decidable

def CarefulGet (dirPath : Name) (r : Replies) : Prop :=
  if s.generates dirPath r then
    if r.generateAesKey.result = .ok then
      (∀ ref ∈ r.generateAesKey.keyFileRef, s.New ref) ∧
        s.CarefulUse sha512 dirPath r.generateAesKey false r
    else s.Harmless r.generateAesKey r
  else if s.reuses dirPath r then
    (∀ ref ∈ r.getKey.keyFileRef, s.device.keyFiles ref = some dirPath) ∧
      s.CarefulUse sha512 dirPath r.getKey (s.device.ioControlGetPolicy dirPath r.getPolicy = .ok) r
  else s.device.isDir dirPath r.stat = true → r.getKey.result ≠ .ok → s.Harmless r.getKey r
deriving Decidable

/-- A key that goes out of the keyring is the key of no other object. -/
def CarefulRemove (ref : Nat) (p : Storage) (r : Replies) : Prop :=
  p.keyIsAddedToKernel = true → s.canRemoveKey r p.dirpath = true →
    Alone s.storages ref p.descriptor

/-- A key that the platform refuses comes without the key file of the object, and one that comes
into the keyring is the key of no other object. -/
def CarefulUnlock (ref : Nat) (p : Storage) (r : Replies) : Prop :=
  r.getKey.keyFileRef = p.keyFileRef → s.canAddKey r p.dirpath = true →
    r.getKey.result = .ok ∧
      (s.device.keyring (keySpecifier p.descriptor) = false → Alone s.storages ref p.descriptor)

def Careful : Event → Prop
  | .getStorageRef _ dirPath r => s.CarefulGet sha512 dirPath r
  | .lockStorage ref r => ∀ n ∈ ref, ∀ p ∈ s.storages.lookup n, s.CarefulRemove n p r
  | .unlockStorage _ ref r => ∀ n ∈ ref, ∀ p ∈ s.storages.lookup n, s.CarefulUnlock n p r
  | .deleteStorage ref r => ∀ n ∈ ref, ∀ p ∈ s.storages.lookup n, s.CarefulRemove n p r
  | _ => True

instance (ref : Nat) (p : Storage) (r : Replies) : Decidable (s.CarefulRemove ref p r) := by
  unfold CarefulRemove Alone
  infer_instance

instance (ref : Nat) (p : Storage) (r : Replies) : Decidable (s.CarefulUnlock ref p r) := by
  unfold CarefulUnlock Alone
  infer_instance

instance : DecidableRel (Careful sha512) := fun s e => by
  cases e
  all_goals
    unfold Careful
    infer_instance

end State

structure Fine (d : Device) (s : State) : Prop where
  flags : FlagsAgree s.storages s.device.keyring
  owned : Owned s.storages s.device.keyFiles
  keys : KeepsKeys d s.device
  added : ∀ a ∈ s.added, a ∈ s.provided

namespace Fine

variable {sha512 : List UInt8 → List UInt8} {d : Device} {s : State} {client : Nat} {r : Replies}
  {dirPath : Name} {reply : KeyReply}

theorem provide (h : Fine d s) : Fine d (s.provide client dirPath reply) := by
  unfold State.provide
  split
  · exact { h with added := fun a ha => mem_cons_of_mem _ (h.added a ha) }
  · exact h

theorem provided_provide (hok : reply.result = .ok) :
    ⟨client, dirPath, reply.key⟩ ∈ (s.provide client dirPath reply).provided := by
  simp [State.provide, hok]

@[simp] theorem storages_provide : (s.provide client dirPath reply).storages = s.storages := by
  unfold State.provide
  split
  all_goals rfl

@[simp] theorem device_provide : (s.provide client dirPath reply).device = s.device := by
  unfold State.provide
  split
  all_goals rfl

theorem withDirs (h : Fine d s) {d' : Device} (hfils : d'.keyFiles = s.device.keyFiles)
    (hring : d'.keyring = s.device.keyring) : Fine d (s.withDevice d') where
  flags := by
    change FlagsAgree s.storages d'.keyring
    rw [hring]
    exact h.flags
  owned := by
    change Owned s.storages d'.keyFiles
    rw [hfils]
    exact h.owned
  keys := by
    intro ref path hpath hgrd
    change d'.keyFiles ref = some path
    rw [hfils]
    exact h.keys ref path hpath hgrd
  added := h.added

variable {keyFileRef : Option Nat}

theorem deleteKey (h : Fine d s) {result : Result}
    (hfree : result = .ok → ∀ ref ∈ keyFileRef, d.guards ref = false) :
    Fine d (s.withDevice (s.device.deleteKey keyFileRef result)) where
  flags := by
    change FlagsAgree s.storages (s.device.deleteKey keyFileRef result).keyring
    rw [deleteKey_keyring]
    exact h.flags
  owned := h.owned.mono (deleteKey_sub keyFileRef result)
  keys := h.keys.deleteKey hfree
  added := h.added

variable {storageAlreadyExist : Bool}

theorem exception (h : Fine d s)
    {result : Result} (hfree : storageAlreadyExist = false → r.deleteKey = .ok →
      ∀ ref ∈ keyFileRef, d.guards ref = false) :
    Fine d (s.exception r storageAlreadyExist keyFileRef result).2 := by
  cases storageAlreadyExist with
  | true => exact h
  | false => exact h.deleteKey (hfree rfl)

/-- The key is in the keyring, and the object is taken over or made. -/
theorem take {s₁ : State} (h : Fine d s) {descriptor : List Char}
    (hstgs : s₁.storages = s.storages) (hfils : s₁.device.keyFiles = s.device.keyFiles)
    (hring : s₁.device.keyring = update s.device.keyring (keySpecifier descriptor) true)
    (hadde : ∀ a ∈ s₁.added, a ∈ s₁.provided)
    (hdir : ∀ ref ∈ keyFileRef, s.device.keyFiles ref = some dirPath)
    (halon : s.device.keyring (keySpecifier descriptor) = true ∨
      ∀ e ∈ s.storages.entries, keySpecifier e.2.descriptor = keySpecifier descriptor →
        s.storages.search (isClosed keyFileRef dirPath descriptor) = some e.1) :
    Fine d (s₁.takeStorage client keyFileRef dirPath descriptor).2 := by
  have hdev : (s₁.takeStorage client keyFileRef dirPath descriptor).2.device = s₁.device := by
    unfold takeStorage
    split
    all_goals rfl
  have hledg : (s₁.takeStorage client keyFileRef dirPath descriptor).2.added = s₁.added ∧
      (s₁.takeStorage client keyFileRef dirPath descriptor).2.provided = s₁.provided := by
    unfold takeStorage
    split
    all_goals exact ⟨rfl, rfl⟩
  rw [← hstgs] at halon
  refine ⟨?_, ?_, ?_, ?_⟩
  · rw [hdev, hring]
    exact FlagsAgree.take (hstgs ▸ h.flags) halon
  · rw [hdev, hfils]
    exact Owned.take (hstgs ▸ h.owned) hdir
  · intro ref path hpath hgrd
    rw [hdev, hfils]
    exact h.keys ref path hpath hgrd
  · rw [hledg.1, hledg.2]
    exact hadde

theorem useKey (h : Fine d s) (hprov : ⟨client, dirPath, reply.key⟩ ∈ s.provided)
    (hdir : ∀ ref ∈ reply.keyFileRef, s.device.keyFiles ref = some dirPath)
    (hfree : storageAlreadyExist = false → ∀ ref ∈ reply.keyFileRef, d.guards ref = false)
    (hcare : r.addKey = true →
      s.device.keyring (keySpecifier (computeDescriptor sha512 reply.key)) = false →
      ∀ e ∈ s.storages.entries,
        keySpecifier e.2.descriptor = keySpecifier (computeDescriptor sha512 reply.key) →
          (storageAlreadyExist || (s.device.ioControlSetPolicy (computeDescriptor sha512 reply.key)
            reply.keyFileRef dirPath r.setPolicy).1 = .ok) = true ∧
          s.storages.search (State.isClosed reply.keyFileRef dirPath
            (computeDescriptor sha512 reply.key)) = some e.1) :
    Fine d (s.useKey sha512 client r dirPath reply storageAlreadyExist).2 := by
  generalize hdesc : computeDescriptor sha512 reply.key = descriptor at hcare
  by_cases hadd : s.canAddKey r dirPath = true
  swap
  · simp only [State.useKey, State.ioControlAddKey, hadd, false_eq_true]
    exact h.exception fun hexis _ => hfree hexis
  have hcare := hcare (by simp [State.canAddKey] at hadd; exact hadd.2)
  have hledg : ∀ a ∈ ⟨client, dirPath, reply.key⟩ :: s.added, a ∈ s.provided := by
    intro a ha
    rcases mem_cons.1 ha with rfl | ha
    · exact hprov
    · exact h.added a ha
  have hring : s.device.keyring (keySpecifier descriptor) = true ∨
      s.device.keyring (keySpecifier descriptor) = false := by
    cases s.device.keyring (keySpecifier descriptor)
    all_goals simp
  have halon : s.device.keyring (keySpecifier descriptor) = true ∨
      ∀ e ∈ s.storages.entries, keySpecifier e.2.descriptor = keySpecifier descriptor →
        s.storages.search (State.isClosed reply.keyFileRef dirPath descriptor) = some e.1 :=
    hring.imp_right fun hclr e he hspec => (hcare hclr e he hspec).2
  cases hexis : storageAlreadyExist with
  | true =>
    simp only [State.useKey, State.ioControlAddKey, hadd, hdesc]
    exact h.take rfl rfl rfl hledg hdir halon
  | false =>
    rw [hexis] at hcare hfree
    simp only [State.useKey, State.ioControlAddKey, hadd, hdesc, if_true, false_eq_true,
      if_false]
    have hdirs : ({ s.device with
        keyring := update s.device.keyring (keySpecifier descriptor) true } : Device).dirs
          dirPath = s.device.dirs dirPath := rfl
    have hresu := ioControlSetPolicy_result s.device descriptor reply.keyFileRef dirPath r.setPolicy
      hdirs
    have hfils := ioControlSetPolicy_keyFiles { s.device with
        keyring := update s.device.keyring (keySpecifier descriptor) true }
      descriptor reply.keyFileRef dirPath r.setPolicy
    have hkr := ioControlSetPolicy_keyring { s.device with
        keyring := update s.device.keyring (keySpecifier descriptor) true }
      descriptor reply.keyFileRef dirPath r.setPolicy
    split
    · rename_i device hset
      rw [hset] at hfils hkr
      exact h.take rfl hfils hkr hledg hdir halon
    rename_i res device hfail hset
    rw [hset] at hresu hfils hkr
    have hres : (s.device.ioControlSetPolicy descriptor reply.keyFileRef dirPath r.setPolicy).1 ≠
        .ok := fun hok => hfail (hresu.trans hok)
    refine Fine.exception ⟨?_, ?_, ?_, hledg⟩ fun _ _ => hfree rfl
    · change FlagsAgree s.storages device.keyring
      rw [hkr]
      refine h.flags.add (hring.imp_right fun hclr e he hspec => ?_)
      have hset := (hcare hclr e he hspec).1
      simp [hres] at hset
    · change Owned s.storages device.keyFiles
      rw [hfils]
      exact h.owned
    · intro ref path hpath hgrd
      change device.keyFiles ref = some path
      rw [hfils]
      exact h.keys ref path hpath hgrd

@[simp] theorem storages_generateAesKey :
    (s.generateAesKey client r dirPath).storages = s.storages := by
  unfold generateAesKey
  split
  all_goals simp

@[simp] theorem keyring_generateAesKey :
    (s.generateAesKey client r dirPath).device.keyring = s.device.keyring := by
  unfold generateAesKey
  split
  all_goals simp

@[simp] theorem dirs_generateAesKey :
    (s.generateAesKey client r dirPath).device.dirs = s.device.dirs := by
  unfold generateAesKey
  split
  all_goals simp

theorem provided_generateAesKey (hok : r.generateAesKey.result = .ok) :
    ⟨client, dirPath, r.generateAesKey.key⟩ ∈ (s.generateAesKey client r dirPath).provided := by
  unfold generateAesKey
  split
  all_goals exact provided_provide hok

variable {ref : Nat}

theorem keyFiles_generateAesKey (hok : r.generateAesKey.result = .ok)
    (href : r.generateAesKey.keyFileRef = some ref) :
    (s.generateAesKey client r dirPath).device.keyFiles ref = some dirPath := by
  simp [generateAesKey, hok, href]

theorem generateAesKey (h : Fine d s)
    (hnew : r.generateAesKey.result = .ok → ∀ ref ∈ r.generateAesKey.keyFileRef,
      d.keyFiles ref = none ∧ ∀ e ∈ s.storages.entries, e.2.keyFileRef ≠ some ref) :
    Fine d (s.generateAesKey client r dirPath) := by
  unfold State.generateAesKey
  split
  swap
  · exact h.provide
  rename_i ref hok href
  obtain ⟨hnone, hunk⟩ := hnew hok ref href
  have hpro : Fine d (s.provide client dirPath r.generateAesKey) := h.provide
  refine ⟨?_, ?_, ?_, hpro.added⟩
  · simpa using h.flags
  · simpa using h.owned.generate hunk
  intro other path hpath hgrd
  have hne : other ≠ ref := by
    intro heq
    rw [heq, hnone] at hpath
    cases hpath
  change update s.device.keyFiles ref (some dirPath) other = some path
  rw [update_of_ne hne]
  exact h.keys other path hpath hgrd

theorem useNewKey (h : Fine d s)
    (hharm : r.generateAesKey.result ≠ .ok → r.deleteKey = .ok →
      ∀ ref ∈ r.generateAesKey.keyFileRef, d.guards ref = false)
    (hnew : r.generateAesKey.result = .ok → ∀ ref ∈ r.generateAesKey.keyFileRef,
      d.keyFiles ref = none ∧ ∀ e ∈ s.storages.entries, e.2.keyFileRef ≠ some ref)
    (hcare : r.generateAesKey.result = .ok → r.addKey = true →
      s.device.keyring (keySpecifier (computeDescriptor sha512 r.generateAesKey.key)) = false →
      ∀ e ∈ s.storages.entries,
        keySpecifier e.2.descriptor =
            keySpecifier (computeDescriptor sha512 r.generateAesKey.key) →
          (s.device.ioControlSetPolicy (computeDescriptor sha512 r.generateAesKey.key)
            r.generateAesKey.keyFileRef dirPath r.setPolicy).1 = .ok ∧
          s.storages.search (State.isClosed r.generateAesKey.keyFileRef dirPath
            (computeDescriptor sha512 r.generateAesKey.key)) = some e.1) :
    Fine d (s.useNewKey sha512 client r dirPath).2 := by
  have hmade : Fine d (s.generateAesKey client r dirPath) := h.generateAesKey hnew
  unfold State.useNewKey
  split
  swap
  · rename_i hfail
    exact hmade.exception fun _ => hharm (by simpa using hfail)
  rename_i hok
  have hgrd : ∀ ref ∈ r.generateAesKey.keyFileRef, d.guards ref = false := by
    intro ref href
    simp [Device.guards, (hnew hok ref href).1]
  refine hmade.useKey (provided_generateAesKey hok) ?_ (fun _ => hgrd) ?_
  · exact fun ref href => keyFiles_generateAesKey hok href
  intro hadd hclr e he hspec
  rw [keyring_generateAesKey] at hclr
  rw [storages_generateAesKey] at he ⊢
  obtain ⟨hset, hfnd⟩ := hcare hok hadd hclr e he hspec
  rw [ioControlSetPolicy_result s.device _ _ _ _ (by rw [dirs_generateAesKey])]
  exact ⟨by simpa using hset, hfnd⟩

theorem of_generates {s₀ : State} (h : Fine s₀.device s) (hgen : s₀.generates dirPath r = true)
    (hstgs : s.storages = s₀.storages) (hring : s.device.keyring = s₀.device.keyring)
    (hdirs : s.device.dirs dirPath = (s₀.device.makePath dirPath).dirs dirPath)
    (hcare : s₀.CarefulGet sha512 dirPath r) :
    Fine s₀.device (s.useNewKey sha512 client r dirPath).2 := by
  unfold State.CarefulGet at hcare
  rw [if_pos hgen] at hcare
  apply h.useNewKey
  · intro hfail
    rw [if_neg hfail] at hcare
    exact hcare
  · intro hok ref href
    rw [if_pos hok] at hcare
    rw [hstgs]
    exact hcare.1 ref href
  intro hok hadd hclr e he hspec
  rw [if_pos hok] at hcare
  rw [hring] at hclr
  rw [hstgs] at he ⊢
  obtain ⟨hset, hfnd⟩ := hcare.2 hadd hclr e he hspec
  rw [ioControlSetPolicy_result (s₀.device.makePath dirPath) _ _ _ _ hdirs]
  exact ⟨by simpa [hasOrTakesPolicy] using hset, hfnd⟩

theorem makePath_of_isDir {stat : Bool} (hdir : d.isDir dirPath stat = true) :
    (d.makePath dirPath).dirs dirPath = d.dirs dirPath := by
  simp only [Device.isDir, and_eq_true] at hdir
  obtain ⟨policy, hpol⟩ := isSome_iff_exists.1 hdir.2
  simp [Device.makePath, hpol]

theorem dirs_of_unavailable {performed : Bool}
    (h : d.ioControlGetPolicy dirPath performed = .unavailable) : d.dirs dirPath = some none := by
  unfold Device.ioControlGetPolicy at h
  split at h
  · cases h
  · assumption
  · cases h

/-- A call that finds the key of the directory is careful about it. -/
theorem of_reuses (h : Fine s.device s) (hgen : s.generates dirPath r = false)
    (hreus : s.reuses dirPath r = true) (hcare : s.CarefulGet sha512 dirPath r)
    (hexis : storageAlreadyExist = decide (s.device.ioControlGetPolicy dirPath r.getPolicy = .ok))
    (hnone : storageAlreadyExist = false → s.device.dirs dirPath = some none) :
    Fine s.device
      ((s.getKey client r dirPath).useKey sha512 client r dirPath r.getKey storageAlreadyExist).2 := by
  have hpart := hreus
  simp only [reuses, and_eq_true, decide_eq_true_eq] at hpart
  obtain ⟨⟨hdir, hok⟩, _⟩ := hpart
  unfold State.CarefulGet at hcare
  rw [hgen, hreus] at hcare
  obtain ⟨hownr, huse⟩ := hcare
  apply Fine.useKey h.provide (provided_provide hok)
  · intro ref href
    rw [device_provide]
    exact hownr ref href
  · intro hfal ref href
    simp [Device.guards, hownr ref href, hnone hfal]
  intro hadd hclr e he hspec
  rw [device_provide] at hclr ⊢
  rw [storages_provide] at he ⊢
  obtain ⟨hset, hfnd⟩ := huse hadd hclr e he hspec
  rw [hasOrTakesPolicy, ← hexis,
    ioControlSetPolicy_result s.device _ _ _ _ (makePath_of_isDir hdir)] at hset
  exact ⟨hset, hfnd⟩

theorem getStorageRef (h : Fine s.device s) (hcare : s.CarefulGet sha512 dirPath r) :
    Fine s.device (s.getStorageRef sha512 client r dirPath).2 := by
  unfold State.getStorageRef
  by_cases hdir : s.device.isDir dirPath r.stat = true
  · rw [if_pos hdir]
    dsimp only
    have hask : Fine s.device (s.getKey client r dirPath) := h.provide
    have hdev : (s.getKey client r dirPath).device = s.device := device_provide
    have hstgs : (s.getKey client r dirPath).storages = s.storages := storages_provide
    rw [hdev]
    have hharm : s.generates dirPath r = false → r.getKey.result ≠ .ok →
        r.deleteKey = .ok → ∀ ref ∈ r.getKey.keyFileRef, s.device.guards ref = false := by
      intro hgen hfail
      have hreus : s.reuses dirPath r = false := by simp [State.reuses, hfail]
      unfold State.CarefulGet at hcare
      rw [hgen, hreus] at hcare
      exact hcare hdir hfail
    split
    · rename_i hresu
      split
      · rename_i hemp
        refine hask.exception fun _ => hharm ?_ (by simp [hresu])
        simp [State.generates, hdir, hemp]
      rename_i hemp
      split
      · rename_i hpol
        refine hask.exception fun _ => hharm ?_ (by simp [hresu])
        simp [State.generates, hdir, hpol]
      rename_i hpol
      refine hask.of_generates ?_ hstgs (by rw [hdev]) ?_ hcare
      · simpa [State.generates, hdir, hresu, hpol] using hemp
      · rw [hdev, makePath_of_isDir hdir]
    · rename_i hresu
      have hgen : s.generates dirPath r = false := by simp [State.generates, hdir, hresu]
      split
      · rename_i hpol
        refine h.of_reuses hgen ?_ hcare (by simp [hpol]) nofun
        simp [State.reuses, hdir, hresu, hpol]
      · rename_i hpol
        split
        · rename_i hemp
          refine h.of_reuses hgen ?_ hcare (by simp [hpol]) ?_
          · simp [State.reuses, hdir, hresu, hpol, hemp]
          · exact fun _ => dirs_of_unavailable hpol
        · exact hask
      · exact hask
    · rename_i hnotF hok
      refine hask.exception fun _ => hharm ?_ (fun hresu => hok hresu)
      simp only [State.generates, hdir]
      simpa using fun hresu => absurd hresu hnotF
  · rw [if_neg hdir]
    split
    · rename_i hmake
      refine Fine.of_generates ?_ ?_ rfl rfl rfl hcare
      · exact h.withDirs rfl rfl
      · simpa [State.generates, hdir] using hmake
    · exact h

variable {p : Storage}

section

variable (h : Fine d s)
include h

theorem removeKey (hp : s.storages.lookup ref = some p)
    (halon : Alone s.storages ref p.descriptor) :
    Fine d ((s.withDevice { s.device with
      keyring := update s.device.keyring (keySpecifier p.descriptor) false }).setFlag
        ref false) where
  flags := h.flags.modify false hp (Or.inr halon)
  owned := h.owned.modify (fun _ => rfl) (fun _ => rfl)
  keys := h.keys
  added := h.added

theorem clearFlag (hp : s.storages.lookup ref = some p)
    (hclr : p.keyIsAddedToKernel = false) : Fine d (s.setFlag ref false) where
  flags := h.flags.clear hp hclr
  owned := h.owned.modify (fun _ => rfl) (fun _ => rfl)
  keys := h.keys
  added := h.added

theorem lockStorage {ref : Option Nat}
    (hcare : ∀ n ∈ ref, ∀ p ∈ s.storages.lookup n, s.CarefulRemove n p r) :
    Fine d (s.lockStorage r ref).2 := by
  unfold State.lockStorage
  split
  · exact h
  rename_i n
  split
  · exact h
  rename_i p hp
  by_cases hflag : p.keyIsAddedToKernel = true
  · rw [if_pos hflag]
    by_cases hremo : s.canRemoveKey r p.dirpath = true
    · simp only [State.ioControlRemoveKey, hremo]
      exact h.removeKey hp (hcare n rfl p hp hflag hremo)
    · simp only [State.ioControlRemoveKey, hremo, false_eq_true]
      exact h
  · rw [if_neg hflag]
    exact h.clearFlag hp (by simpa using hflag)

theorem unlockStorage {ref : Option Nat}
    (hcare : ∀ n ∈ ref, ∀ p ∈ s.storages.lookup n, s.CarefulUnlock n p r) :
    Fine d (s.unlockStorage client r ref).2 := by
  unfold State.unlockStorage
  split
  · exact h
  rename_i n
  split
  · exact h
  rename_i p hp
  have hask : Fine d (s.getKey client r p.dirpath) := h.provide
  split
  · exact hask
  rename_i hsame
  have hstgs : (s.getKey client r p.dirpath).storages = s.storages := storages_provide
  have hdev : (s.getKey client r p.dirpath).device = s.device := device_provide
  have hcan : (s.getKey client r p.dirpath).canAddKey r p.dirpath = s.canAddKey r p.dirpath := by
    rw [State.canAddKey, hdev, State.canAddKey]
  by_cases hadd : s.canAddKey r p.dirpath = true
  swap
  · simp only [State.ioControlAddKey, hcan, hadd, false_eq_true]
    exact hask
  obtain ⟨hok, halon⟩ := hcare n rfl p hp (by simpa using hsame) hadd
  simp only [State.ioControlAddKey, hcan, hadd]
  refine ⟨?_, ?_, ?_, ?_⟩
  · refine hask.flags.modify true (by rw [hstgs, hp]) ?_
    rw [hdev, hstgs]
    cases hring : s.device.keyring (keySpecifier p.descriptor) with
    | true => exact Or.inl rfl
    | false => exact Or.inr (halon hring)
  · exact hask.owned.modify (fun _ => rfl) (fun _ => rfl)
  · exact hask.keys
  · intro a ha
    rcases mem_cons.1 ha with rfl | ha
    · exact provided_provide hok
    · exact hask.added a ha

theorem removeSession (session : Nat) : Fine d (s.removeSessionFromStorage session) where
  flags := by
    intro ref p hp
    change (s.storages.mapRefs _).lookup ref = some p at hp
    rw [RefMap.lookup_mapRefs] at hp
    obtain ⟨q, hq, rfl⟩ := map_eq_some_iff.1 hp
    have hflag := h.flags ref q hq
    split
    all_goals exact hflag
  owned := by
    intro ref p r path hp
    change (s.storages.mapRefs _).lookup ref = some p at hp
    rw [RefMap.lookup_mapRefs] at hp
    obtain ⟨q, hq, rfl⟩ := map_eq_some_iff.1 hp
    have howne := h.owned ref q r path hq
    split
    all_goals exact howne
  keys := h.keys
  added := h.added

theorem removeRecursive : Fine (d.removeRecursive dirPath)
    (s.withDevice (s.device.removeRecursive dirPath)) where
  flags := h.flags
  owned := h.owned
  keys := fun ref path hpath hgrd => h.keys ref path hpath (guards_removeRecursive.1 hgrd).1
  added := h.added

end

theorem deleteLocked (h : Fine d (s.setFlag ref false)) (hp : s.storages.lookup ref = some p) :
    Fine d (s.deleteLocked r ref p).2 ∨
      Fine (d.removeRecursive p.dirpath) (s.deleteLocked r ref p).2 ∧
        (s.deleteLocked r ref p).2.device.dirs p.dirpath = none := by
  unfold State.deleteLocked
  split
  swap
  · exact Or.inl h
  right
  have hrmvd : Fine (d.removeRecursive p.dirpath) ((s.setFlag ref false).withDevice
      ((s.setFlag ref false).device.removeRecursive p.dirpath)) := h.removeRecursive
  have hfree : r.deleteKey = .ok → ∀ file ∈ p.keyFileRef,
      (d.removeRecursive p.dirpath).guards file = false := by
    intro _ file hfile
    rw [eq_false_iff]
    intro hguar
    obtain ⟨hgrd, hoth⟩ := guards_removeRecursive.1 hguar
    obtain ⟨path, _, hpath, _⟩ := guards_iff.1 hgrd
    have hsome : (s.setFlag ref false).storages.lookup ref =
        some { p with keyIsAddedToKernel := false } := by
      simp [State.setFlag, hp]
    have hdir := h.owned ref _ file path hsome hfile (h.keys file path hpath hgrd)
    exact hoth (hpath.trans (congrArg some hdir))
  have hdel := hrmvd.deleteKey hfree
  have hgone : ((s.setFlag ref false).withDevice
      ((s.setFlag ref false).device.removeRecursive p.dirpath)).device.dirs p.dirpath = none :=
    Device.dirs_removeRecursive_self ..
  split
  · exact ⟨{ hdel with flags := hdel.flags.erase, owned := hdel.owned.erase },
      (congrFun (deleteKey_dirs ..) _).trans hgone⟩
  · exact ⟨hdel, (congrFun (deleteKey_dirs ..) _).trans hgone⟩

theorem deleteStorage (h : Fine d s) {ref : Option Nat}
    (hcare : ∀ n ∈ ref, ∀ p ∈ s.storages.lookup n, s.CarefulRemove n p r) :
    Fine d (s.deleteStorage r ref).2 ∨
      ∃ n p, ref = some n ∧ s.storages.lookup n = some p ∧
        Fine (d.removeRecursive p.dirpath) (s.deleteStorage r ref).2 ∧
        (s.deleteStorage r ref).2.device.dirs p.dirpath = none := by
  unfold State.deleteStorage
  split
  · exact Or.inl h
  rename_i n
  split
  · exact Or.inl h
  rename_i p hp
  by_cases hflag : p.keyIsAddedToKernel = true
  · rw [if_pos hflag]
    by_cases hremo : s.canRemoveKey r p.dirpath = true
    · simp only [State.ioControlRemoveKey, hremo]
      have hclrd := h.removeKey hp (hcare n rfl p hp hflag hremo)
      exact (hclrd.deleteLocked hp).imp_right fun hgone => ⟨n, p, rfl, hp, hgone⟩
    · simp only [State.ioControlRemoveKey, hremo, false_eq_true]
      exact Or.inl h
  · rw [if_neg hflag]
    have hclrd := h.clearFlag hp (by simpa using hflag)
    exact (hclrd.deleteLocked hp).imp_right fun hgone => ⟨n, p, rfl, hp, hgone⟩

end Fine

section Runs

variable (sha512 : List UInt8 → List UInt8)

/-- The client deletes a storage object of the directory. -/
def State.Deletes (s : State) (e : Event) (dirPath : Name) : Prop :=
  ∃ ref r p, e = .deleteStorage (some ref) r ∧ s.storages.lookup ref = some p ∧
    p.dirpath = dirPath

/-- What one step does to the keys of the directories. -/
structure Kept (s : State) (e : Event) : Prop where
  /-- The key of a directory with a policy goes with the directory. -/
  key : ∀ r path, s.device.keyFiles r = some path → s.device.guards r = true →
    (s.step sha512 e).device.keyFiles r ≠ some path →
    s.Deletes e path ∧ (s.step sha512 e).device.dirs path = none
  /-- What is added is what the platform returned to the client for the directory. -/
  added : ∀ a ∈ (s.step sha512 e).added, a ∈ (s.step sha512 e).provided
  flags : ∀ ref p, (s.step sha512 e).storages.lookup ref = some p →
    p.keyIsAddedToKernel = (s.step sha512 e).device.keyring (keySpecifier p.descriptor)

def watch (s : State) (e : Event) : Option State := some (s.step sha512 e)

/-- The objects know of the keyring and of their key files. -/
structure Sound (s : State) : Prop where
  flags : FlagsAgree s.storages s.device.keyring
  owned : Owned s.storages s.device.keyFiles

variable {sha512} {s : State}

theorem Sound.begin (h : Sound s) : Fine s.begin.device s.begin where
  flags := h.flags
  owned := h.owned
  keys := .of_eq rfl
  added := fun _ ha => nomatch ha

theorem Fine.sound {d : Device} (h : Fine d s) : Sound s := ⟨h.flags, h.owned⟩

/-- A careful step loses no key but that of a directory whose storage it deletes. -/
theorem Sound.step (h : Sound s) {e : Event} (hcare : s.Careful sha512 e) :
    Fine s.device (s.step sha512 e) ∨
      ∃ path, s.Deletes e path ∧ Fine (s.device.removeRecursive path) (s.step sha512 e) ∧
        (s.step sha512 e).device.dirs path = none := by
  have hbegi := h.begin
  cases e with
  | getStorageRef client dirPath r => exact Or.inl (hbegi.getStorageRef hcare)
  | lockStorage ref r => exact Or.inl (hbegi.lockStorage hcare)
  | unlockStorage client ref r => exact Or.inl (hbegi.unlockStorage hcare)
  | deleteStorage ref r =>
    refine (hbegi.deleteStorage hcare).imp_right ?_
    rintro ⟨n, p, rfl, hp, hfine, hgone⟩
    exact ⟨p.dirpath, ⟨n, r, p, rfl, hp, rfl⟩, hfine, hgone⟩
  | sessionClosed session => exact Or.inl (hbegi.removeSession session)
  | otherProgram dirPath present => exact Or.inl (hbegi.withDirs rfl rfl)

theorem Sound.kept (h : Sound s) {e : Event} (hcare : s.Careful sha512 e) : Kept sha512 s e := by
  rcases h.step hcare with hfine | ⟨gone, hdels, hfine, hgone⟩
  · refine ⟨?_, hfine.added, hfine.flags⟩
    intro r path hpath hgrd hlost
    exact absurd (hfine.keys r path hpath hgrd) hlost
  refine ⟨?_, hfine.added, hfine.flags⟩
  intro r path hpath hgrd hlost
  by_cases heq : path = gone
  · subst heq
    exact ⟨hdels, hgone⟩
  have hoth : s.device.keyFiles r ≠ some gone := by
    rw [hpath]
    exact fun h => heq (some.inj h)
  have hsty := guards_removeRecursive.2 ⟨hgrd, hoth⟩
  exact absurd (hfine.keys r path hpath hsty) hlost

theorem boot_sound (device : Device) : Sound (boot device) :=
  ⟨fun _ _ hp => (nomatch hp), fun _ _ _ _ hp => nomatch hp⟩

variable (sha512)

/-- In every run of careful calls the keys of encrypted directories are kept. -/
theorem kept_run (device : Device) (events : List Event)
    (hcare : Meets (watch sha512) (State.Careful sha512) (State.boot device) events) :
    Meets (watch sha512) (Kept sha512) (State.boot device) events := by
  refine Meets.of_invariant Sound ?_ ?_ (boot_sound device) hcare
  · intro s e h hcare
    exact h.kept hcare
  intro s e t h hcare hstep
  cases hstep
  rcases h.step hcare with hfine | ⟨_, _, hfine, _⟩
  all_goals exact hfine.sound

end Runs

/-! A storage is made, locked, taken over by another client, unlocked and deleted. -/

def rawKey : List UInt8 := (List.range 64).map UInt8.ofNat

def rawKeyDigest : List UInt8 :=
  [238, 67, 32, 235, 175, 63, 219, 79, 44, 131, 43, 19, 114, 0, 192, 142,
   35, 94, 15, 167, 187, 208, 235, 23, 64, 199, 6, 59, 168, 160, 209, 81,
   218, 119, 224, 3, 57, 142, 23, 20, 169, 85, 212, 117, 176, 94, 62, 149,
   11, 99, 149, 3, 180, 82, 236, 24, 93, 228, 34, 155, 196, 135, 57, 73]

def rawKeyDoubleDigest : List UInt8 :=
  [4, 51, 78, 35, 5, 122, 110, 45, 207, 232, 196, 136, 15, 241, 107, 114,
   37, 47, 176, 240, 245, 12, 148, 9, 28, 101, 54, 91, 18, 81, 87, 29,
   223, 155, 70, 102, 133, 229, 40, 1, 228, 42, 194, 245, 112, 163, 33, 17,
   231, 236, 143, 94, 39, 245, 108, 109, 7, 245, 184, 106, 87, 215, 65, 127]

/-- The digests of the key and of its digest. -/
def digestOf (bytes : List UInt8) : List UInt8 :=
  if bytes = rawKey then rawKeyDigest else if bytes = rawKeyDigest then rawKeyDoubleDigest else []

def data : Name := "/data".toList

def emptyDevice : Device := ⟨fun _ => none, fun _ => none, fun _ => false⟩

def keyFound : KeyReply := ⟨.ok, some 0, rawKey⟩

def working : Replies := ⟨true, keyFound, true, true, true, keyFound, true, true, true, .ok, .ok⟩

def keptStorage : List Event :=
  [.getStorageRef 1 data working, .lockStorage (some 0) working, .sessionClosed 1,
    .getStorageRef 2 data working, .lockStorage (some 0) working, .unlockStorage 2 (some 0) working,
    .deleteStorage (some 0) working]

theorem kept_run_storage :
    Meets (watch digestOf) (Kept digestOf) (State.boot emptyDevice) keptStorage :=
  kept_run digestOf emptyDevice keptStorage (by decide +kernel)

example : computeDescriptor digestOf rawKey = "04334e23057a6e2d".toList := by decide +kernel

/-- The key file of the storage comes back with a timeout, and is deleted. -/
def timeoutWithKeyFile : List Event :=
  [.getStorageRef 1 data working,
    .getStorageRef 1 data { working with getKey := ⟨.timeout, some 0, List.replicate 64 0⟩ }]

theorem not_kept :
    ¬ ∀ (sha512 : List UInt8 → List UInt8) (device : Device) (events : List Event),
      Meets (watch sha512) (Kept sha512) (State.boot device) events := by
  intro h
  have hrun := h digestOf emptyDevice timeoutWithKeyFile
  have hlost := ((hrun.2 _ rfl).1.key 0 data (by decide +kernel) (by decide +kernel)
    (by decide +kernel)).2
  exact absurd hlost (by decide +kernel)

end TelAF.FsCrypt
