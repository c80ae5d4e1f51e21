import Mathlib.Data.UInt
import TelAF.RefMap
import Mathlib.Algebra.BigOperators.Group.List.Basic

/-!
# Sums over maps of safe references

Every object of a map counts with a weight. An operation on one object changes the sum by the
weight that goes and the weight that comes; with weights 0 and 1 the sum is a number of objects.
-/

namespace TelAF.RefMap

open List

variable {α : Type*} {m : RefMap α} {w w' : Nat → α → Nat} {ref : Nat} {a : α}

def total (m : RefMap α) (w : Nat → α → Nat) : Nat := (m.entries.map fun e => w e.1 e.2).sum

@[simp] theorem total_empty : (empty : RefMap α).total w = 0 := rfl

theorem total_create : (m.create a).total w = m.total w + w m.next a := by simp [total, create]

theorem total_congr (h : ∀ ref a, m.lookup ref = some a → w ref a = w' ref a) :
    m.total w = m.total w' := by
  unfold total
  congr 1
  apply map_congr_left
  intro e he
  exact h e.1 e.2 (lookup_eq_some_iff.2 he)

theorem total_add : (m.total fun ref a => w ref a + w' ref a) = m.total w + m.total w' := by
  unfold total
  induction m.entries with
  | nil => rfl
  | cons e rest ih =>
    simp only [map_cons, sum_cons, ih]
    omega

theorem total_mapRefs (f : Nat → α → α) :
    (m.mapRefs f).total w = m.total fun ref a => w ref (f ref a) := by
  simp [total, mapRefs, Function.comp_def]

theorem total_filterRefs (keep : Nat → α → Bool) :
    (m.filterRefs keep).total w = m.total fun ref a => if keep ref a then w ref a else 0 := by
  change ((m.entries.filter fun e => keep e.1 e.2).map fun e => w e.1 e.2).sum =
    (m.entries.map fun e => if keep e.1 e.2 then w e.1 e.2 else 0).sum
  induction m.entries with
  | nil => rfl
  | cons e rest ih =>
    rw [filter_cons, map_cons, sum_cons, ← ih]
    split_ifs with hkeep
    all_goals simp

theorem total_split (h : m.lookup ref = some a) :
    m.total w = w ref a + m.total fun r b => if r = ref then 0 else w r b := by
  have hmem := lookup_eq_some_iff.1 h
  have hnd := m.nodup
  unfold total
  generalize m.entries = entries at hmem hnd ⊢
  induction entries with
  | nil => simp at hmem
  | cons e rest ih =>
    obtain ⟨hnew, hrest⟩ := nodup_cons.1 hnd
    simp only [map_cons, sum_cons]
    rcases mem_cons.1 hmem with rfl | htail
    · have hoths : (rest.map fun e => if e.1 = ref then 0 else w e.1 e.2) =
          rest.map fun e => w e.1 e.2 := by
        apply map_congr_left
        intro e he
        have hne : e.1 ≠ ref := fun heq => hnew (mem_map.2 ⟨e, he, heq⟩)
        exact if_neg hne
      rw [hoths, if_pos rfl, zero_add]
    · have hne : e.1 ≠ ref := fun heq => hnew (mem_map.2 ⟨(ref, a), htail, heq.symm⟩)
      have hsum := ih htail hrest
      dsimp only at hsum
      rw [if_neg hne]
      omega

theorem total_erase_eq (ref : Nat) :
    (m.erase ref).total w = m.total fun r b => if r = ref then 0 else w r b := by
  unfold erase
  rw [total_filterRefs]
  apply total_congr
  intro r b _
  by_cases heq : r = ref
  all_goals simp [heq]

theorem total_erase (h : m.lookup ref = some a) : (m.erase ref).total w + w ref a = m.total w := by
  rw [total_split h, total_erase_eq]
  omega

theorem total_modify (h : m.lookup ref = some a) (f : α → α) :
    (m.modify ref f).total w + w ref a = m.total w + w ref (f a) := by
  have hnew : (m.modify ref f).lookup ref = some (f a) := by simp [h]
  have hoths : ((m.modify ref f).total fun r b => if r = ref then 0 else w r b) =
      m.total fun r b => if r = ref then 0 else w r b := by
    unfold modify
    rw [total_mapRefs]
    apply total_congr
    intro r b _
    by_cases heq : r = ref
    all_goals simp [heq]
  have hleft := total_split (w := w) hnew
  have hright := total_split (w := w) h
  omega

theorem total_modify_of_eq (f : α → α)
    (h : ∀ a, m.lookup ref = some a → w ref (f a) = w ref a) :
    (m.modify ref f).total w = m.total w := by
  cases ha : m.lookup ref with
  | none =>
    unfold modify
    rw [total_mapRefs]
    apply total_congr
    intro r b hb
    have hne : r ≠ ref := by
      rintro rfl
      rw [ha] at hb
      cases hb
    simp [hne]
  | some a =>
    have hsum := total_modify (w := w) ha f
    rw [h a ha] at hsum
    omega

theorem le_total (h : m.lookup ref = some a) : w ref a ≤ m.total w := by
  rw [total_split h]
  exact Nat.le_add_right _ _

theorem total_eq_zero : m.total w = 0 ↔ ∀ ref a, m.lookup ref = some a → w ref a = 0 := by
  constructor
  · intro hzero ref a ha
    have hle := le_total (w := w) ha
    omega
  intro hall
  have hsame : m.total w = m.total fun _ _ => 0 := total_congr hall
  rw [hsame]
  simp [total]

theorem count_values_flatMap {β : Type*} [DecidableEq β] (f : α → List β) (b : β) :
    (m.values.flatMap f).count b = m.total fun _ a => (f a).count b := by
  unfold total values
  induction m.entries with
  | nil => rfl
  | cons e rest ih =>
    simp only [map_cons, flatMap_cons, count_append, sum_cons, ih]

theorem count_filter_values_flatMap {β : Type*} [DecidableEq β]
    (p : α → Bool) (f : α → List β)
    (b : β) : ((m.values.filter p).flatMap f).count b =
      m.total fun _ a => if p a then (f a).count b else 0 := by
  unfold total values
  induction m.entries with
  | nil => rfl
  | cons e rest ih =>
    simp only [map_cons, sum_cons, ← ih, filter_cons]
    split_ifs
    · rw [flatMap_cons, count_append]
    · rw [zero_add]

end TelAF.RefMap
