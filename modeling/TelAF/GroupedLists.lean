import Mathlib.Data.List.Destutter

/-!
# Lists whose equal elements stand together

Removing repetitions of neighbours (`List.destutter`) leaves every element once if equal
elements stand together. Parts of such a list are such lists, and so is the list with one
more element at its end, if that is new or equal to the last one.
-/

namespace TelAF.GroupedLists

open List

variable {α : Type*} {l : List α} {a b : α}

/-- Nothing else stands between two equal elements. -/
def Grouped (l : List α) : Prop := ∀ a b, [a, b, a].Sublist l → b = a

theorem grouped_nil : Grouped ([] : List α) := by
  intro a b h
  cases h

theorem Grouped.sublist {l' : List α} (h : Grouped l) (hsub : l'.Sublist l) : Grouped l' :=
  fun a b hab => h a b (hab.trans hsub)

theorem sublist_concat {x : α} (h : [a, b, a].Sublist (l ++ [x])) :
    [a, b, a].Sublist l ∨ [a, b].Sublist l ∧ a = x := by
  obtain ⟨l₁, l₂, heq, h₁, h₂⟩ := sublist_append_iff.1 h
  rcases sublist_singleton.1 h₂ with rfl | rfl
  · rw [append_nil] at heq
    exact .inl (heq ▸ h₁)
  have hspl : [a, b] ++ [a] = l₁ ++ [x] := heq
  obtain ⟨hinit, hlast⟩ := append_inj' hspl rfl
  exact .inr ⟨hinit ▸ h₁, singleton_injective hlast⟩

theorem Grouped.concat_new (h : Grouped l) (ha : a ∉ l) : Grouped (l ++ [a]) := by
  intro b c hsub
  rcases sublist_concat hsub with hold | ⟨hold, rfl⟩
  · exact h b c hold
  · exact absurd (hold.subset (mem_cons_self ..)) ha

theorem Grouped.concat_last (h : Grouped l) (ha : l.getLast? = some a) : Grouped (l ++ [a]) := by
  obtain ⟨init, rfl⟩ := getLast?_eq_some_iff.1 ha
  intro b c hsub
  rcases sublist_concat hsub with hold | ⟨hold, rfl⟩
  · exact h b c hold
  obtain ⟨l₁, l₂, heq, h₁, h₂⟩ := sublist_append_iff.1 hold
  rcases sublist_singleton.1 h₂ with rfl | rfl
  · rw [append_nil] at heq
    have hinit : [b, c].Sublist init := heq ▸ h₁
    exact h b c (hinit.append (List.Sublist.refl [b]))
  · have hspl : [b] ++ [c] = l₁ ++ [b] := heq
    exact singleton_injective (append_inj' hspl rfl).2

theorem Grouped.append_replicate (h : Grouped l) (ha : a ∉ l ∨ l.getLast? = some a) (n : Nat) :
    Grouped (l ++ replicate n a) := by
  induction n with
  | zero =>
    rw [replicate_zero, append_nil]
    exact h
  | succ n ih =>
    rw [replicate_succ', ← append_assoc]
    cases n with
    | zero =>
      rw [replicate_zero, append_nil]
      rcases ha with hnew | hlast
      · exact h.concat_new hnew
      · exact h.concat_last hlast
    | succ n =>
      apply ih.concat_last
      rw [replicate_succ', ← append_assoc]
      exact getLast?_concat

theorem nodup_of_isChain (hchai : l.IsChain (· ≠ ·)) (h : Grouped l) : l.Nodup := by
  induction l with
  | nil => exact nodup_nil
  | cons a rest ih =>
    rw [nodup_cons]
    refine ⟨?_, ih hchai.tail (h.sublist (sublist_cons_self ..))⟩
    intro ha
    rcases rest with _ | ⟨b, rest⟩
    · cases ha
    have hne : a ≠ b := (isChain_cons_cons.1 hchai).1
    have hmem : a ∈ rest := (mem_cons.1 ha).resolve_left hne
    have hsub : [a, b, a].Sublist (a :: b :: rest) :=
      ((singleton_sublist.2 hmem).cons_cons b).cons_cons a
    exact hne (h a b hsub).symm

variable [DecidableEq α]

theorem mem_destutter : a ∈ l.destutter (· ≠ ·) ↔ a ∈ l := by
  have hfrom : ∀ (l : List α) (b : α), a ∈ l.destutter' (· ≠ ·) b ↔ a ∈ b :: l := by
    intro l
    induction l with
    | nil => exact fun b => Iff.rfl
    | cons c rest ih =>
      intro b
      by_cases hbc : b = c
      · rw [destutter'_cons_neg rest (not_not.2 hbc), ih, hbc]
        simp
      · rw [destutter'_cons_pos rest hbc, mem_cons, ih, mem_cons (b := b)]
  cases l with
  | nil => exact Iff.rfl
  | cons b rest => exact hfrom rest b

theorem Grouped.nodup_destutter (h : Grouped l) : (l.destutter (· ≠ ·)).Nodup :=
  nodup_of_isChain (isChain_destutter _ l) (h.sublist (destutter_sublist _ l))

end TelAF.GroupedLists
