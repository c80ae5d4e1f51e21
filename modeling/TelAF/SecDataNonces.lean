import Mathlib.Tactic.SplitIfs
import TelAF.SecDataStorage

/-!
# The nonces of the encryptions

An encryption takes its key and its nonce from the names of the item and of its owner. Two
encryptions use the same pair just when they are of one item, or of items whose names give the
same key id and whose owners have the same digest.
-/

namespace TelAF.SecDataStorage

open TransitionRuns List Option

namespace State

variable (P : Platform) (s : State) (c ref : Nat)

@[simp] theorem encryptions_createSecDataRef (i : Item) :
    (s.createSecDataRef P i).encryptions = s.encryptions := rfl

@[simp] theorem encryptions_provideData (i : Item) :
    (s.provideData P i).encryptions = s.encryptions := by
  unfold provideData
  split_ifs
  · rfl
  · exact s.encryptions_createSecDataRef P i

theorem encryptions_createData (dataName : Name) (created : Bool) :
    (s.createData P c dataName created).1.encryptions = s.encryptions := by
  unfold createData
  dsimp only
  split_ifs <;> simp

theorem encryptions_getDataRef (dataLabel : Name) :
    (s.getDataRef P c dataLabel).1.encryptions = s.encryptions := by
  unfold getDataRef
  split
  · rfl
  · dsimp only
    split_ifs <;> simp

theorem encryptions_openWriting (data : SecData) (env : WriteStart) :
    (s.openWriting ref data env).1.encryptions = s.encryptions := by
  unfold openWriting useTempFile
  split_ifs <;> simp

theorem encryptions_openReading (keyRef : Nat) (data : SecData) (env : ReadStart) :
    (s.openReading ref keyRef data env).1.encryptions = s.encryptions := by
  unfold openReading
  split_ifs
  · split <;> simp
  all_goals simp

theorem encryptions_writeDataStart (env : WriteStart) :
    (s.writeDataStart P c ref env).1.encryptions = s.encryptions ++
      (s.encryptedItem P c ref env).toList.map
        fun i => (i, P.getDataKeyId i, P.nonce i.owner) := by
  unfold writeDataStart encryptedItem
  rcases s.dataOf ref with _ | found
  · simp
  obtain ⟨d, r, data⟩ := found
  dsimp only [bind_some]
  -- the checks come in the order of the conditions of an encryption
  by_cases hwr : data.isInWritingProcess = true
  · simp [hwr]
  by_cases hrdg : data.isInReadingProcess = true
  · simp [hrdg]
  by_cases huse : mayUse P c .writing d data = true
  swap
  · simp [hwr, hrdg, huse]
  by_cases hfile : data.path ∈ s.files
  swap
  · simp [hwr, hrdg, huse, hfile]
  rcases hkey : s.keys.lookup data.keyRef with _ | k
  · simp [hwr, hrdg, huse, hfile]
  cases hstarted : env.started with
  | false => simp [hwr, hrdg, huse, hfile]
  | true => simp [hwr, hrdg, huse, hfile, encryptions_openWriting, startEncryption,
      SecData.item]

theorem encryptions_writeDataChunk (bufferSize : Nat) (fits processed : Bool) :
    (s.writeDataChunk P c ref bufferSize fits processed).1.encryptions = s.encryptions := by
  unfold writeDataChunk endWriting
  split
  · rfl
  · split_ifs <;> simp

theorem encryptions_writeDataEnd (ended renamed : Bool) :
    (s.writeDataEnd c ref ended renamed).1.encryptions = s.encryptions := by
  unfold writeDataEnd endWriting
  split
  · rfl
  · dsimp only
    split_ifs <;> simp

theorem encryptions_readDataFirstChunk (env : ReadStart) :
    (s.readDataFirstChunk P c ref env).1.encryptions = s.encryptions := by
  unfold readDataFirstChunk
  split
  · rfl
  next d r data _ =>
  cases s.getKey (P.getDataKeyId data.item) with
  | none =>
    split_ifs <;> simp
  | some keyRef =>
    split_ifs <;> simp [encryptions_openReading]

theorem encryptions_readDataNextChunk (outcome : ReadOutcome) :
    (s.readDataNextChunk c ref outcome).1.encryptions = s.encryptions := by
  unfold readDataNextChunk endReading
  split
  · rfl
  · cases outcome <;> dsimp only <;> split_ifs <;> simp

theorem encryptions_deleteData : (s.deleteData ref).1.encryptions = s.encryptions := by
  unfold deleteData
  split
  · rfl
  · dsimp only
    split_ifs <;> simp

theorem encryptions_shareData (app : Name) (usage : Usage) (shared : Bool) :
    (s.shareData P c ref app usage shared).1.encryptions = s.encryptions := by
  unfold shareData shareKey
  split
  · rfl
  · dsimp only
    split_ifs <;> simp

theorem encryptions_cancelDataSharing (app : Name) (canceled : Bool) :
    (s.cancelDataSharing ref app canceled).1.encryptions = s.encryptions := by
  unfold cancelDataSharing cancelKeySharing
  split
  · rfl
  · next d r data _ => cases s.keys.lookup data.keyRef <;> dsimp only <;> split_ifs <;> simp

end State

section
variable (P : Platform)

/-- No two encryptions have the same key and nonce. -/
def NoncesFresh (s : State) : Prop := (s.encryptions.map Prod.snd).Nodup
deriving Decidable

/-- What is encrypted was not encrypted before, and neither was an item of another owner with the
same digest whose names give the same key id. -/
def FreshItem (s : State) : Action → Prop
  | .writeDataStart c ref env =>
    ∀ i ∈ s.encryptedItem P c ref env, ∀ e ∈ s.encryptions,
      e.1 ≠ i ∧ (P.getDataKeyId e.1 = P.getDataKeyId i → P.nonce e.1.owner ≠ P.nonce i.owner)
  | _ => True

instance : DecidableRel (FreshItem P) := fun _ => by
  rintro ⟨⟩ <;> unfold FreshItem <;> infer_instance

end

variable {P : Platform} {s t : State} {a : Action}

/-- The encryptions so far are as the names of their items say. -/
structure Derived (P : Platform) (s : State) : Prop where
  fresh : NoncesFresh s
  derived : ∀ e ∈ s.encryptions, e.2 = (P.getDataKeyId e.1, P.nonce e.1.owner)

theorem perform_encryptions (ha : ∀ c ref env, a ≠ .writeDataStart c ref env) :
    (perform P s a).1.encryptions = s.encryptions := by
  cases a with
  | createData c dataName created => exact s.encryptions_createData P c dataName created
  | getDataRef c dataLabel => exact s.encryptions_getDataRef P c dataLabel
  | writeDataStart c ref env => exact absurd rfl (ha c ref env)
  | writeDataChunk c ref size fits processed =>
    exact s.encryptions_writeDataChunk P c ref size fits processed
  | writeDataEnd c ref ended renamed => exact s.encryptions_writeDataEnd c ref ended renamed
  | readDataFirstChunk c ref env => exact s.encryptions_readDataFirstChunk P c ref env
  | readDataNextChunk c ref outcome => exact s.encryptions_readDataNextChunk c ref outcome
  | deleteData c ref => exact s.encryptions_deleteData ref
  | shareData c ref app usage shared => exact s.encryptions_shareData P c ref app usage shared
  | cancelDataSharing c ref app canceled => exact s.encryptions_cancelDataSharing ref app canceled
  | disconnect c => rfl

section

variable (h : Derived P s)
include h

/-- One more encryption with a pair that none of the earlier ones has. -/
theorem Derived.append (i : Item)
    (ht : t.encryptions = s.encryptions ++ [(i, P.getDataKeyId i, P.nonce i.owner)]) :
    NoncesFresh t ↔ ∀ e ∈ s.encryptions,
      e.1 ≠ i ∧ (P.getDataKeyId e.1 = P.getDataKeyId i → P.nonce e.1.owner ≠ P.nonce i.owner) := by
  unfold NoncesFresh
  rw [ht, map_append, map_singleton, nodup_append]
  constructor
  · rintro ⟨-, -, hnew⟩ e he
    have hpair := hnew e.2 (mem_map_of_mem he) _ (mem_singleton_self _)
    rw [h.derived e he] at hpair
    constructor
    · intro heq
      apply hpair
      rw [heq]
    · intro hkey hnonc
      apply hpair
      rw [hkey, hnonc]
  · intro hnew
    refine ⟨h.fresh, by simp, ?_⟩
    intro pair hpair other hoth heq
    obtain ⟨e, he, rfl⟩ := mem_map.1 hpair
    rw [mem_singleton] at hoth
    rw [h.derived e he, hoth, Prod.mk.injEq] at heq
    exact (hnew e he).2 heq.1 heq.2

theorem Derived.writeDataStart (c ref : Nat) (env : State.WriteStart) :
    NoncesFresh (s.writeDataStart P c ref env).1 ↔ FreshItem P s (.writeDataStart c ref env) := by
  have henc := s.encryptions_writeDataStart P c ref env
  cases hitem : s.encryptedItem P c ref env with
  | none =>
    rw [hitem, toList_none, map_nil, append_nil] at henc
    have hfr : NoncesFresh (s.writeDataStart P c ref env).1 := by
      unfold NoncesFresh
      rw [henc]
      exact h.fresh
    simp [FreshItem, hitem, hfr]
  | some i =>
    rw [hitem, toList_some] at henc
    rw [h.append i henc]
    simp [FreshItem, hitem]

/-- A step keeps the nonces fresh just when what it encrypts is. -/
theorem Derived.fresh_iff (a : Action) :
    (∀ t, step P s a = some t → NoncesFresh t) ↔ FreshItem P s a := by
  have hstep : (∀ t, step P s a = some t → NoncesFresh t) ↔ NoncesFresh (perform P s a).1 := by
    simp [step]
  rw [hstep]
  by_cases ha : ∃ c ref env, a = .writeDataStart c ref env
  · obtain ⟨c, ref, env, rfl⟩ := ha
    exact h.writeDataStart c ref env
  have hoth : ∀ c ref env, a ≠ .writeDataStart c ref env := fun c ref env heq =>
    ha ⟨c, ref, env, heq⟩
  have hfr : FreshItem P s a := by
    cases a <;> first | trivial | exact absurd rfl (hoth _ _ _)
  unfold NoncesFresh
  rw [perform_encryptions hoth]
  exact iff_of_true h.fresh hfr

theorem Derived.step (hfr : ∀ t, step P s a = some t → NoncesFresh t)
    (hstep : step P s a = some t) : Derived P t := by
  refine ⟨hfr t hstep, ?_⟩
  obtain rfl : (perform P s a).1 = t := some.inj hstep
  by_cases ha : ∃ c ref env, a = .writeDataStart c ref env
  · obtain ⟨c, ref, env, rfl⟩ := ha
    have henc := s.encryptions_writeDataStart P c ref env
    intro e he
    replace he : e ∈ (s.writeDataStart P c ref env).1.encryptions := he
    rw [henc, mem_append] at he
    rcases he with hold | hnew
    · exact h.derived e hold
    · obtain ⟨i, -, rfl⟩ := mem_map.1 hnew
      rfl
  · rw [perform_encryptions fun c ref env heq => ha ⟨c, ref, env, heq⟩]
    exact h.derived

end

/-- Throughout a run no key and nonce are used twice just when nothing is encrypted that was
encrypted before, itself or under the same key id by an owner with the same digest. -/
theorem nonces_run_iff (P : Platform) (hs : s.encryptions = []) (actions : List Action) :
    (∀ before, before <+: actions → ∀ t, exec (step P) s before = some t → NoncesFresh t) ↔
      Meets (step P) (FreshItem P) s actions := by
  have hstart : Derived P s := by
    constructor
    · simp [NoncesFresh, hs]
    · simp [hs]
  rw [← meets_iff_reached hstart.fresh]
  apply @meets_congr _ _ _ _ _ (Derived P)
  · intro u a hu
    exact hu.fresh_iff a
  · intro u a v hu hfresh hstep
    exact hu.step hfresh hstep
  · exact hstart

/-- Two apps, the first with the even sessions. -/
def twoApps : Platform where
  maxKeyIdSize := 256
  maxAppNameLen := 47
  maxDataChunkSize := 8192
  secDataStorage := "/data/".toList
  md5 := fun data => (data.map Char.toNat).take 16
  appName := fun c => if c % 2 = 0 then "app1".toList else "app2".toList
  appName_directory := by
    intro c
    split_ifs <;> decide

/-- Every crypto session and file operation succeeds. -/
def undisturbed : State.WriteStart := ⟨true, true, true⟩

/-- An app creates an item, gets a reference to it and writes it. -/
def writtenOnce : List Action :=
  [.createData 0 "x".toList true, .getDataRef 0 "x".toList, .writeDataStart 0 0 undisturbed,
    .writeDataEnd 0 0 true true]

theorem nonces_writtenOnce :
    ∃ t, exec (step twoApps) start writtenOnce = some t ∧ NoncesFresh t := by
  have hrun : (exec (step twoApps) start writtenOnce).isSome = true := by decide +kernel
  obtain ⟨t, ht⟩ := Option.isSome_iff_exists.1 hrun
  have hfresh := (nonces_run_iff twoApps (s := start) rfl writtenOnce).2 (by decide +kernel)
  exact ⟨t, ht, hfresh writtenOnce (List.prefix_refl _) t ht⟩

/-- Later the app writes it again. -/
theorem nonces_fails :
    ¬ ∀ before, before <+: writtenOnce ++ [.writeDataStart 0 0 undisturbed] →
      ∀ t, exec (step twoApps) start before = some t → NoncesFresh t := by
  intro h
  have hrun : (exec (step twoApps) start (writtenOnce ++ [.writeDataStart 0 0 undisturbed])).any
      (fun t => ¬ NoncesFresh t) = true := by decide +kernel
  obtain ⟨t, ht, hfails⟩ := (Option.any_eq_true _ _).1 hrun
  exact of_decide_eq_true hfails (h _ (List.prefix_refl _) t ht)

end TelAF.SecDataStorage
