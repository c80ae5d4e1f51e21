import TelAF.FsCrypt

/-!
# The keys of encrypted directories

The keyring has one entry for a descriptor, while each storage object has a flag of its own for it.
A key file is deleted where a call fails, and where a storage is deleted. What a call does with the
keyring and with the key files is stated for each call, and from that for every run.
-/

namespace TelAF.FsCrypt

open TransitionRuns KeyStore Function

/-- Every object knows whether the keyring has its key. -/
def FlagsAgree (storages : RefMap Storage) (keyring : List Char → Bool) : Prop :=
  ∀ ref p, storages.lookup ref = some p →
    p.keyIsAddedToKernel = keyring (keySpecifier p.descriptor)

/-- The objects other than one have other descriptors. -/
def Alone (storages : RefMap Storage) (ref : Nat) (descriptor : List Char) : Prop :=
  ∀ e ∈ storages.entries, keySpecifier e.2.descriptor = keySpecifier descriptor → e.1 = ref

variable {keyFileRef : Option Nat}

section Flags

variable {storages : RefMap Storage} {keyring : List Char → Bool} {ref : Nat} {p : Storage}

section

variable (h : FlagsAgree storages keyring)
include h

/-- The flag of an object is set with the entry of the keyring. -/
theorem FlagsAgree.modify (flag : Bool) (hp : storages.lookup ref = some p)
    (halon : keyring (keySpecifier p.descriptor) = flag ∨ Alone storages ref p.descriptor) :
    FlagsAgree (storages.modify ref fun q => { q with keyIsAddedToKernel := flag })
      (update keyring (keySpecifier p.descriptor) flag) := by
  intro other q hq
  rw [RefMap.lookup_modify] at hq
  by_cases heq : other = ref
  · subst heq
    rw [if_pos rfl, hp] at hq
    cases hq
    rw [update_self]
  rw [if_neg heq] at hq
  by_cases hspec : keySpecifier q.descriptor = keySpecifier p.descriptor
  · rcases halon with hsame | halon
    · rw [hspec, update_self, h other q hq, hspec, hsame]
    · exact absurd (halon (other, q) (RefMap.lookup_eq_some_iff.1 hq) hspec) heq
  · rw [update_of_ne hspec]
    exact h other q hq

theorem FlagsAgree.clear (hp : storages.lookup ref = some p)
    (hclr : p.keyIsAddedToKernel = false) :
    FlagsAgree (storages.modify ref fun q => { q with keyIsAddedToKernel := false }) keyring := by
  intro other q hq
  rw [RefMap.lookup_modify] at hq
  by_cases heq : other = ref
  · subst heq
    rw [if_pos rfl, hp] at hq
    cases hq
    exact hclr.symm.trans (h other p hp)
  · rw [if_neg heq] at hq
    exact h other q hq

theorem FlagsAgree.erase : FlagsAgree (storages.erase ref) keyring := by
  intro other q hq
  exact h other q (RefMap.lookup_of_erase hq).2

/-- A key comes into the keyring that was there, or is the key of no object. -/
theorem FlagsAgree.add {descriptor : List Char}
    (hnone : keyring (keySpecifier descriptor) = true ∨
      ∀ e ∈ storages.entries, keySpecifier e.2.descriptor ≠ keySpecifier descriptor) :
    FlagsAgree storages (update keyring (keySpecifier descriptor) true) := by
  intro ref p hp
  by_cases hspec : keySpecifier p.descriptor = keySpecifier descriptor
  · rcases hnone with htrue | hnone
    · rw [hspec, update_self, h ref p hp, hspec, htrue]
    · exact absurd hspec (hnone (ref, p) (RefMap.lookup_eq_some_iff.1 hp))
  · rw [update_of_ne hspec]
    exact h ref p hp

end

/-- An object that is taken over or made has its flag set with the entry of the keyring. -/
theorem FlagsAgree.take {s : State} {client : Nat} {dirPath : Name}
    {descriptor : List Char} (h : FlagsAgree s.storages keyring)
    (halon : keyring (keySpecifier descriptor) = true ∨
      ∀ e ∈ s.storages.entries, keySpecifier e.2.descriptor = keySpecifier descriptor →
        s.storages.search (State.isClosed keyFileRef dirPath descriptor) = some e.1) :
    FlagsAgree (s.takeStorage client keyFileRef dirPath descriptor).2.storages
      (update keyring (keySpecifier descriptor) true) := by
  have hoth : ∀ ref p, s.storages.lookup ref = some p →
      s.storages.search (State.isClosed keyFileRef dirPath descriptor) ≠ some ref →
      p.keyIsAddedToKernel =
        update keyring (keySpecifier descriptor) true (keySpecifier p.descriptor) := by
    intro ref p hp hne
    by_cases hspec : keySpecifier p.descriptor = keySpecifier descriptor
    · rcases halon with htrue | halon
      · rw [hspec, update_self, h ref p hp, hspec, htrue]
      · exact absurd (halon (ref, p) (RefMap.lookup_eq_some_iff.1 hp) hspec) hne
    · rw [update_of_ne hspec]
      exact h ref p hp
  unfold State.takeStorage
  cases hfnd : s.storages.search (State.isClosed keyFileRef dirPath descriptor) with
  | none =>
    intro ref p hp
    rcases RefMap.lookup_create_cases hp with ⟨-, rfl⟩ | hold
    · rw [update_self]
    · exact hoth ref p hold (by simp [hfnd])
  | some found =>
    obtain ⟨q, hq, hclsd⟩ := RefMap.search_eq_some hfnd
    have hdesc : q.descriptor = descriptor := by
      simp only [State.isClosed, Bool.and_eq_true, decide_eq_true_eq] at hclsd
      exact hclsd.1.2
    intro ref p hp
    rw [RefMap.lookup_modify] at hp
    by_cases heq : ref = found
    · subst heq
      rw [if_pos rfl, hq] at hp
      cases hp
      rw [hdesc, update_self]
    · rw [if_neg heq] at hp
      exact hoth ref p hp (by simpa [hfnd] using Ne.symm heq)

end Flags

/-- The key file of an object is for the directory of the object. -/
def Owned (storages : RefMap Storage) (keyFiles : Nat → Option Name) : Prop :=
  ∀ ref p r path, storages.lookup ref = some p → p.keyFileRef = some r →
    keyFiles r = some path →
    path = p.dirpath

/-- The keys of directories with a policy are not lost. -/
def KeepsKeys (d d' : Device) : Prop :=
  ∀ r path, d.keyFiles r = some path → d.guards r = true → d'.keyFiles r = some path

section Files

variable {storages : RefMap Storage} {keyFiles : Nat → Option Name} {d d' : Device}

section

variable (h : Owned storages keyFiles)
include h

theorem Owned.modify {ref : Nat} {f : Storage → Storage}
    (hfile : ∀ p, (f p).keyFileRef = p.keyFileRef) (hdir : ∀ p, (f p).dirpath = p.dirpath) :
    Owned (storages.modify ref f) keyFiles := by
  intro other q r path hq hr hpath
  rw [RefMap.lookup_modify] at hq
  split at hq
  · obtain ⟨p, hp, rfl⟩ := Option.map_eq_some_iff.1 hq
    rw [hdir]
    exact h other p r path hp ((hfile p).symm.trans hr) hpath
  · exact h other q r path hq hr hpath

theorem Owned.erase {ref : Nat} : Owned (storages.erase ref) keyFiles := by
  intro other q r path hq
  exact h other q r path (RefMap.lookup_of_erase hq).2

theorem Owned.mono {keyFiles' : Nat → Option Name}
    (hsub : ∀ r path, keyFiles' r = some path → keyFiles r = some path) :
    Owned storages keyFiles' := by
  intro ref p r path hp hr hpath
  exact h ref p r path hp hr (hsub r path hpath)

theorem Owned.generate {new : Nat} {dirPath : Name}
    (hnew : ∀ e ∈ storages.entries, e.2.keyFileRef ≠ some new) :
    Owned storages (update keyFiles new (some dirPath)) := by
  intro ref p r path hp hr hpath
  have hne : r ≠ new := by
    intro heq
    exact hnew (ref, p) (RefMap.lookup_eq_some_iff.1 hp) (heq ▸ hr)
  rw [update_of_ne hne] at hpath
  exact h ref p r path hp hr hpath

end

theorem Owned.take {s : State} {client : Nat} {dirPath : Name}
    {descriptor : List Char} (h : Owned s.storages keyFiles)
    (hdir : ∀ r ∈ keyFileRef, keyFiles r = some dirPath) :
    Owned (s.takeStorage client keyFileRef dirPath descriptor).2.storages keyFiles := by
  unfold State.takeStorage
  split
  · exact h.modify (fun _ => rfl) (fun _ => rfl)
  intro ref p r path hp hr hpath
  rcases RefMap.lookup_create_cases hp with ⟨-, rfl⟩ | hold
  · rw [hdir r hr] at hpath
    exact (Option.some.inj hpath).symm
  · exact h ref p r path hold hr hpath

theorem deleteKey_sub (keyFileRef : Option Nat) (result : Result) (r : Nat) (path : Name)
    (h : (d.deleteKey keyFileRef result).keyFiles r = some path) : d.keyFiles r = some path := by
  unfold Device.deleteKey at h
  split at h
  · rename_i ref
    by_cases heq : r = ref
    · subst heq
      simp at h
    · simpa [update_of_ne heq] using h
  · exact h

theorem deleteKey_keyring (keyFileRef : Option Nat) (result : Result) :
    (d.deleteKey keyFileRef result).keyring = d.keyring := by
  unfold Device.deleteKey
  split
  all_goals rfl

theorem deleteKey_dirs (keyFileRef : Option Nat) (result : Result) :
    (d.deleteKey keyFileRef result).dirs = d.dirs := by
  unfold Device.deleteKey
  split
  all_goals rfl

section SetPolicy

variable (d) (descriptor : List Char) (keyFile : Option Nat) (dirPath : Name) (performed : Bool)

theorem ioControlSetPolicy_result (h : d'.dirs dirPath = d.dirs dirPath) :
    (d'.ioControlSetPolicy descriptor keyFile dirPath performed).1 =
      (d.ioControlSetPolicy descriptor keyFile dirPath performed).1 := by
  unfold Device.ioControlSetPolicy
  rw [h]
  split
  all_goals simp_all

theorem ioControlSetPolicy_keyFiles :
    (d.ioControlSetPolicy descriptor keyFile dirPath performed).2.keyFiles = d.keyFiles := by
  unfold Device.ioControlSetPolicy
  split
  all_goals rfl

theorem ioControlSetPolicy_keyring :
    (d.ioControlSetPolicy descriptor keyFile dirPath performed).2.keyring = d.keyring := by
  unfold Device.ioControlSetPolicy
  split
  all_goals rfl

end SetPolicy

theorem guards_iff {r : Nat} : d.guards r = true ↔ ∃ path policy, d.keyFiles r = some path ∧
    d.dirs path = some (some policy) ∧ policy.keyFile = some r := by
  unfold Device.guards
  rcases d.keyFiles r with _ | path
  · simp
  cases hdir : d.dirs path with
  | none => simp [hdir]
  | some policy => cases policy <;> simp [hdir]

/-- The keys that are not lost with a directory are those of the other ones. -/
theorem guards_removeRecursive {r : Nat} {dirPath : Name} :
    (d.removeRecursive dirPath).guards r = true ↔
      d.guards r = true ∧ d.keyFiles r ≠ some dirPath := by
  rw [guards_iff, guards_iff]
  constructor
  · rintro ⟨path, policy, hpath, hdir, hfile⟩
    have hne : path ≠ dirPath := by
      intro heq
      simp [heq] at hdir
    rw [d.dirs_removeRecursive_of_ne hne] at hdir
    exact ⟨⟨path, policy, hpath, hdir, hfile⟩, fun h => hne (Option.some.inj (hpath.symm.trans h))⟩
  · rintro ⟨⟨path, policy, hpath, hdir, hfile⟩, hoth⟩
    have hne : path ≠ dirPath := fun heq => hoth (heq ▸ hpath)
    exact ⟨path, policy, hpath, (d.dirs_removeRecursive_of_ne hne).trans hdir, hfile⟩

theorem KeepsKeys.of_eq (h : d'.keyFiles = d.keyFiles) : KeepsKeys d d' := by
  intro r path hpath _
  rw [h]
  exact hpath

/-- A key file that is deleted is not the key of a directory with a policy. -/
theorem KeepsKeys.deleteKey {result : Result} (h : KeepsKeys d d')
    (hfree : result = .ok → ∀ r ∈ keyFileRef, d.guards r = false) :
    KeepsKeys d (d'.deleteKey keyFileRef result) := by
  intro r path hpath hgrd
  have hkept := h r path hpath hgrd
  unfold Device.deleteKey
  split
  · rename_i ref
    by_cases heq : r = ref
    · subst heq
      rw [hfree rfl r rfl] at hgrd
      cases hgrd
    · simpa [update_of_ne heq] using hkept
  · exact hkept

end Files

end TelAF.FsCrypt
