import TelAF.SecFileContainment

/-!
# Failing steps of creation and deletion

A storage is created and deleted in steps. A step that fails ends the call, and what the earlier
steps did stays, so that a creation can leave an entry under which every other one is a duplicate.
-/

namespace TelAF.SecFileStorage

open State

section Grammar

variable (P : Platform) (s t : State)

/-- The record of a new storage is there. -/
def Created : Prop := (t.dirs.lookup s.dirs.next).isSome
deriving Decidable

/-- No record, creator or encrypted directory is left. -/
structure Untouched : Prop where
  dirs : t.dirs = s.dirs
  creators : t.creators = s.creators
  fscStorages : t.fscStorages = s.fscStorages

def State.CreateEnv.working (env : CreateEnv) : CreateEnv :=
  { env with creator := .written, dir := opensDir }

/-- The record, the creator and both encrypted directories, which are `x` and the backup `y`. -/
structure Usable (dirRef : Nat) (d : Dir) (x y : FscStorage) : Prop where
  record : s.dirs.lookup dirRef = some d
  creator : s.creators (P.sha1 d.storageName) ≠ none
  directory : s.fscStorages.lookup d.fscStorageRef = some x
  backup : s.fscStorages.lookup d.rfsFscStorageRef = some y
  distinct : d.fscStorageRef ≠ d.rfsFscStorageRef

def State.DeleteEnv.working (env : DeleteEnv) : DeleteEnv :=
  { env with rfs := ⟨true, true, true⟩, fsc := ⟨true, true, true⟩, creatorCleared := true }

/-- The directory itself is removed, which comes before its key is deleted. -/
def FscStorage.removed (x : FscStorage) (env : Deletion) : Prop :=
  (x.keyIsAddedToKernel → env.removed) ∧ env.emptied

def FscStorage.deleted (x : FscStorage) (env : Deletion) : Prop := x.removed env ∧ env.keyDeleted

/-- The deletion fails before anything is done. -/
def FscStorage.refuses (x : FscStorage) (env : Deletion) : Prop :=
  if x.keyIsAddedToKernel then env.removed = false else env.emptied = false

/-- No step fails once the backup is touched. -/
def Deletes (storageRef : Nat) (env : DeleteEnv) : Prop :=
  ∀ dirRef d x y, s.deleteTarget P storageRef env = some (dirRef, d) →
    Usable P s dirRef d x y →
    y.refuses env.rfs ∨ y.deleted env.rfs ∧ x.deleted env.fsc ∧ env.creatorCleared

end Grammar

/-! ## Creation -/

variable {P : Platform} {s : State} {session : Option Nat} {name : Name}

variable {dirRef storageRef : Nat} {d : Dir} {x y : FscStorage}

end TelAF.SecFileStorage
