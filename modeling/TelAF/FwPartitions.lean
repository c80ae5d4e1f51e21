import Mathlib.Data.UInt

/-!
# Partitions of the two banks

The service lists the MTD partitions and the UBI volumes and finds the bank of each from its
name: a name that ends in "_a" or "_b" tells it, and an MTD partition without an ending belongs to
bank A if there is one for bank B. The flash is reached through its names only, so a name stands
for one partition. Names are ASCII: a character takes a byte.
-/

namespace TelAF.FwUpdate

abbrev Name := List Char

inductive Bank where
  | unknown
  | a
  | b
deriving DecidableEq

structure Partition where
  name : Name
  bank : Bank
  isUbi : Bool
deriving DecidableEq

/-- What the system lists, and the size of a buffer for a name. -/
structure Layout where
  mtd : List Name
  ubi : List Name
  nameMaxBytes : Nat
  nodup : (mtd ++ ubi).Nodup

def suffix (name : Name) : Name := name.drop (name.length - 2)

def setBank (bank : Bank) (p : Partition) : Partition := { p with bank := bank }

/-- The partition that the name of bank B is made from belongs to bank A. -/
def pairBank (partitions : List Partition) (name : Name) : List Partition :=
  partitions.map fun p =>
    if name.length = p.name.length + 2 ∧ p.name.isPrefixOf name then setBank .a p else p

def initBank (partitions : List Partition) (i : Nat) : List Partition :=
  match partitions[i]? with
  | none => partitions
  | some p =>
    if p.name.length > 2 ∧ suffix p.name = "_a".toList then partitions.modify i (setBank .a)
    else if p.name.length > 2 ∧ suffix p.name = "_b".toList then
      if p.isUbi then partitions.modify i (setBank .b)
      else pairBank (partitions.modify i (setBank .b)) p.name
    else partitions

def initPartitionList (l : Layout) : List Partition :=
  let found := l.mtd.map (⟨·, .unknown, false⟩) ++ l.ubi.map (⟨·, .unknown, true⟩)
  (List.range found.length).foldl initBank found

def otherName (l : Layout) (p : Partition) : Name :=
  if p.isUbi then p.name.dropLast ++ [if p.bank = .a then 'b' else 'a']
  else if p.bank = .a then (p.name ++ "_b".toList).take (l.nameMaxBytes - 1)
  else p.name.take (p.name.length - 2)

section

variable (partitions : List Partition)
include partitions

theorem names_modify (i : Nat) (bank : Bank) :
    (partitions.modify i (setBank bank)).map Partition.name = partitions.map Partition.name := by
  induction partitions generalizing i with
  | nil => simp
  | cons p rest ih =>
    cases i with
    | zero => simp [setBank]
    | succ i => simp [ih]

theorem names_pairBank (name : Name) :
    (pairBank partitions name).map Partition.name = partitions.map Partition.name := by
  induction partitions with
  | nil => rfl
  | cons p rest ih =>
    simp only [pairBank, List.map_cons, List.cons.injEq] at ih ⊢
    constructor
    · split_ifs <;> rfl
    · exact ih

theorem names_initBank (i : Nat) :
    (initBank partitions i).map Partition.name = partitions.map Partition.name := by
  unfold initBank
  rcases partitions[i]? with _ | p
  · rfl
  dsimp only
  split_ifs
  · exact names_modify partitions i .a
  · exact names_modify partitions i .b
  · rw [names_pairBank, names_modify]
  · rfl

end

theorem names_foldl_initBank (indices : List Nat) (partitions : List Partition) :
    (indices.foldl initBank partitions).map Partition.name = partitions.map Partition.name := by
  induction indices generalizing partitions with
  | nil => rfl
  | cons i rest ih => rw [List.foldl_cons, ih, names_initBank]

theorem names_initPartitionList (l : Layout) :
    (initPartitionList l).map Partition.name = l.mtd ++ l.ubi := by
  simp [initPartitionList, names_foldl_initBank, Function.comp_def]

theorem nodup_names (l : Layout) : ((initPartitionList l).map Partition.name).Nodup := by
  rw [names_initPartitionList]
  exact l.nodup

end TelAF.FwUpdate
