import Mathlib.Data.Option.Basic
import Mathlib.Data.List.Nodup

/-!
# Maps of safe references

A reference map stores objects under references that it hands out itself. A reference is never
handed out twice, so an object that was deleted is not found again under its old reference.
-/

namespace TelAF

open List

/-- The objects with their references, all of them older than the next one. -/
structure RefMap (α : Type*) where
  entries : List (Nat × α)
  next : Nat
  fresh : ∀ e ∈ entries, e.1 < next
  nodup : (entries.map Prod.fst).Nodup

namespace RefMap

variable {α : Type*}

def empty : RefMap α := ⟨[], 0, by simp, by simp⟩

def lookup (m : RefMap α) (ref : Nat) : Option α := m.entries.lookup ref

/-- Store an object under the reference `m.next`. -/
def create (m : RefMap α) (a : α) : RefMap α where
  entries := m.entries ++ [(m.next, a)]
  next := m.next + 1
  fresh := by
    intro e he
    rcases List.mem_append.1 he with hold | hnew
    · exact Nat.lt_succ_of_lt (m.fresh e hold)
    · rw [List.mem_singleton.1 hnew]
      exact Nat.lt_succ_self m.next
  nodup := by
    rw [List.map_append]
    apply List.nodup_append.2
    refine ⟨m.nodup, by simp, ?_⟩
    intro ref href other hoth heq
    obtain ⟨e, he, rfl⟩ := List.mem_map.1 href
    have hnext : other = m.next := by simpa using hoth
    have hlt := m.fresh e he
    omega

/-- Change every object, knowing its reference. -/
def mapRefs (m : RefMap α) (f : Nat → α → α) : RefMap α where
  entries := m.entries.map fun e => (e.1, f e.1 e.2)
  next := m.next
  fresh := by
    intro e he
    obtain ⟨old, hold, rfl⟩ := List.mem_map.1 he
    exact m.fresh old hold
  nodup := by simpa [Function.comp_def] using m.nodup

/-- Change the object that has the reference. -/
def modify (m : RefMap α) (ref : Nat) (f : α → α) : RefMap α :=
  m.mapRefs fun r a => if r = ref then f a else a

def filterRefs (m : RefMap α) (keep : Nat → α → Bool) : RefMap α where
  entries := m.entries.filter fun e => keep e.1 e.2
  next := m.next
  fresh := fun e he => m.fresh e (List.mem_of_mem_filter he)
  nodup := m.nodup.sublist (List.filter_sublist.map Prod.fst)

def erase (m : RefMap α) (ref : Nat) : RefMap α := m.filterRefs fun r _ => r ≠ ref

/-- The reference of the first object with a property. -/
def search (m : RefMap α) (p : α → Bool) : Option Nat :=
  (m.entries.find? fun e => p e.2).map Prod.fst

def values (m : RefMap α) : List α := m.entries.map Prod.snd

section Lookup

variable {m : RefMap α} {ref other : Nat} {a : α}

theorem lookup_eq_some_iff : m.lookup ref = some a ↔ (ref, a) ∈ m.entries := by
  unfold lookup
  have hnd := m.nodup
  generalize m.entries = entries at hnd ⊢
  induction entries with
  | nil => simp
  | cons e rest ih =>
    obtain ⟨hnew, hrest⟩ := nodup_cons.1 hnd
    rw [lookup_cons]
    by_cases heq : ref = e.1
    · subst heq
      have hoth : (e.1, a) ∉ rest := fun hmem => hnew (mem_map.2 ⟨(e.1, a), hmem, rfl⟩)
      simp [hoth, Prod.ext_iff, eq_comm]
    · have hne : (ref, a) ≠ e := fun h => heq (congrArg Prod.fst h)
      have hbeq : (ref == e.1) = false := by simp [heq]
      simp [hbeq, hne, ih hrest]

theorem lookup_lt (h : m.lookup ref = some a) : ref < m.next := m.fresh _ (lookup_eq_some_iff.1 h)

@[simp] theorem lookup_next : m.lookup m.next = none := by
  cases h : m.lookup m.next with
  | none => rfl
  | some a =>
    have hlt := lookup_lt h
    omega

@[simp] theorem lookup_empty : (empty : RefMap α).lookup ref = none := rfl

theorem lookup_create (b : α) :
    (m.create b).lookup ref = if ref = m.next then some b else m.lookup ref := by
  apply Option.ext
  intro a
  rw [lookup_eq_some_iff]
  simp only [create, mem_append, mem_singleton, ← lookup_eq_some_iff]
  by_cases heq : ref = m.next
  · subst heq
    simp [eq_comm]
  · simp [heq]

theorem lookup_create_cases {b : α} (h : (m.create b).lookup ref = some a) :
    ref = m.next ∧ a = b ∨ m.lookup ref = some a := by
  rw [lookup_create] at h
  split at h
  · cases h
    exact .inl ⟨‹_›, rfl⟩
  · exact .inr h

/-- A label that no stored object has keeps the labels distinct. -/
theorem distinct_create {β : Type*} {f : α → β} {b : α}
    (hdist : ∀ r a q c, m.lookup r = some a → m.lookup q = some c → f a = f c → r = q)
    (hnew : ∀ r a, m.lookup r = some a → f a ≠ f b) {r q : Nat} {a c : α}
    (ha : (m.create b).lookup r = some a) (hc : (m.create b).lookup q = some c)
    (heq : f a = f c) : r = q := by
  rcases lookup_create_cases ha with ⟨rfl, rfl⟩ | hold
  · rcases lookup_create_cases hc with ⟨rfl, -⟩ | hold
    · rfl
    · exact absurd heq.symm (hnew q c hold)
  · rcases lookup_create_cases hc with ⟨-, rfl⟩ | hold'
    · exact absurd heq (hnew r a hold)
    · exact hdist r a q c hold hold' heq

@[simp] theorem lookup_create_self (b : α) : (m.create b).lookup m.next = some b := by
  simp [lookup_create]

theorem lookup_create_of_some (h : m.lookup ref = some a) (b : α) :
    (m.create b).lookup ref = some a := by
  have hlt := lookup_lt h
  have hne : ref ≠ m.next := by omega
  rw [lookup_create, if_neg hne, h]

theorem lookup_mapRefs (f : Nat → α → α) :
    (m.mapRefs f).lookup ref = (m.lookup ref).map (f ref) := by
  apply Option.ext
  intro b
  rw [Option.map_eq_some_iff]
  simp only [mapRefs, mem_map, Prod.exists, Prod.mk.injEq, lookup_eq_some_iff]
  constructor
  · rintro ⟨r, a, ha, rfl, rfl⟩
    exact ⟨a, ha, rfl⟩
  · rintro ⟨a, ha, rfl⟩
    exact ⟨ref, a, ha, rfl, rfl⟩

theorem lookup_modify (f : α → α) :
    (m.modify other f).lookup ref =
      if ref = other then (m.lookup ref).map f else m.lookup ref := by
  unfold modify
  rw [lookup_mapRefs]
  by_cases heq : ref = other
  all_goals simp [heq]

@[simp] theorem lookup_modify_self (f : α → α) :
    (m.modify ref f).lookup ref = (m.lookup ref).map f := by simp [lookup_modify]

theorem lookup_modify_of_ne (h : ref ≠ other) (f : α → α) :
    (m.modify other f).lookup ref = m.lookup ref := by simp [lookup_modify, h]

theorem lookup_filterRefs (keep : Nat → α → Bool) :
    (m.filterRefs keep).lookup ref = (m.lookup ref).filter (keep ref) := by
  apply Option.ext
  intro a
  rw [lookup_eq_some_iff, Option.filter_eq_some_iff, lookup_eq_some_iff]
  simp [filterRefs]

theorem lookup_erase : (m.erase other).lookup ref = if ref = other then none else m.lookup ref := by
  unfold erase
  rw [lookup_filterRefs]
  by_cases heq : ref = other
  · simp [heq]
  · cases m.lookup ref <;> simp [heq]

theorem lookup_of_erase (h : (m.erase other).lookup ref = some a) :
    ref ≠ other ∧ m.lookup ref = some a := by
  rw [lookup_erase] at h
  by_cases heq : ref = other
  · simp [heq] at h
  · exact ⟨heq, by simpa [heq] using h⟩

theorem erase_modify (f : α → α) : (m.modify ref f).erase ref = m.erase ref := by
  have hents : ((m.modify ref f).erase ref).entries = (m.erase ref).entries := by
    change ((m.entries.map fun e => (e.1, if e.1 = ref then f e.2 else e.2)).filter _) = _
    rw [filter_map]
    have hid : ∀ e ∈ m.entries.filter fun e => decide (e.1 ≠ ref),
        (e.1, if e.1 = ref then f e.2 else e.2) = e := by
      intro e he
      have hne := of_decide_eq_true (mem_filter.1 he).2
      rw [if_neg hne]
    exact (map_congr_left hid).trans (map_id _)
  exact (RefMap.mk.injEq ..).mpr ⟨hents, rfl⟩

end Lookup

section Search

variable {m : RefMap α} {p : α → Bool} {ref : Nat}

theorem search_eq_some (h : m.search p = some ref) :
    ∃ a, m.lookup ref = some a ∧ p a = true := by
  obtain ⟨e, he, rfl⟩ := Option.map_eq_some_iff.1 h
  have hp := find?_some (p := fun e : Nat × α => p e.2) he
  exact ⟨e.2, lookup_eq_some_iff.2 (mem_of_find?_eq_some he), hp⟩

theorem search_eq_none : m.search p = none ↔ ∀ ref a, m.lookup ref = some a → p a = false := by
  unfold search
  rw [Option.map_eq_none_iff, find?_eq_none]
  constructor
  · intro h ref a ha
    simpa using h (ref, a) (lookup_eq_some_iff.1 ha)
  · intro h e he
    simp [h e.1 e.2 (lookup_eq_some_iff.2 he)]

end Search

@[simp] theorem next_create {m : RefMap α} (a : α) : (m.create a).next = m.next + 1 := rfl

end RefMap

end TelAF
