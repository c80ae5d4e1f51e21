import Mathlib.Data.List.Perm.Basic
import Mathlib.Data.List.Nodup
import Mathlib.Data.List.Range
import Mathlib.Logic.Function.Basic

/-!
# Buffers of a pool

The buffers of a pool are numbered in the order in which they are taken. A ledger is
balanced if the releases and the holders together name every buffer taken, each once:
then no buffer is released twice or while it is held, and none is lost. Holders are
queues and slots; a slot is named by a key and holds at most one buffer.
-/

namespace TelAF.PoolLedger

open Function List

variable {taken b : Nat} {released held held' : List Nat}

/-- Every buffer taken is released or held, and that once. -/
def Balanced (taken : Nat) (released held : List Nat) : Prop :=
  (released ++ held).Perm (List.range taken)

namespace Balanced

theorem empty : Balanced 0 [] [] := List.Perm.nil

theorem congr (h : Balanced taken released held) (hheld : held'.Perm held) :
    Balanced taken released held' := (hheld.append_left released).trans h

theorem take (h : Balanced taken released held) : Balanced (taken + 1) released (taken :: held) := by
  have hfst : (released ++ taken :: held).Perm (taken :: (released ++ held)) := perm_middle
  have hlast : (taken :: range taken).Perm (range taken ++ [taken]) :=
    (perm_append_singleton taken _).symm
  unfold Balanced
  rw [range_succ]
  exact (hfst.trans (h.cons taken)).trans hlast

theorem release (h : Balanced taken released (b :: held)) :
    Balanced taken (released ++ [b]) held := by
  unfold Balanced
  rw [append_assoc]
  exact h

theorem count_eq (h : Balanced taken released held) :
    released.count b + held.count b = if b < taken then 1 else 0 := by
  have hcnt := List.Perm.count_eq h b
  rw [count_append, nodup_range.count] at hcnt
  simpa only [mem_range] using hcnt

theorem released_le (h : Balanced taken released held) : released.count b ≤ 1 := by
  have hcnt := h.count_eq (b := b)
  split_ifs at hcnt <;> omega

/-- Once nothing is held, every buffer taken has been released once. -/
theorem released_all (h : Balanced taken released []) (hb : b < taken) : released.count b = 1 := by
  have hcnt := h.count_eq (b := b)
  rw [if_pos hb, count_nil] at hcnt
  omega

end Balanced

variable {Key : Type*} {keys keys' : List Key} {slot : Key → Option Nat} {k : Key}

def inSlots (keys : List Key) (slot : Key → Option Nat) : List Nat := keys.filterMap slot

theorem inSlots_congr (hnd : keys.Nodup) (hnd' : keys'.Nodup)
    (h : ∀ k, slot k ≠ none → (k ∈ keys ↔ k ∈ keys')) :
    (inSlots keys slot).Perm (inSlots keys' slot) := by
  have hfull : ∀ l : List Key, inSlots l slot = inSlots (l.filter fun k => (slot k).isSome) slot := by
    intro l
    induction l with
    | nil => rfl
    | cons k l ih =>
      unfold inSlots at ih ⊢
      cases hk : slot k with
      | none | some b => simp [hk, ih]
  rw [hfull keys, hfull keys']
  refine List.Perm.filterMap slot ?_
  rw [perm_ext_iff_of_nodup (hnd.filter _) (hnd'.filter _)]
  intro k
  simp only [mem_filter, and_congr_left_iff]
  intro hk
  exact h k (Option.isSome_iff_ne_none.1 hk)

variable [DecidableEq Key]

theorem inSlots_update_of_not_mem (hk : k ∉ keys) (b : Option Nat) :
    inSlots keys (update slot k b) = inSlots keys slot := by
  refine filterMap_congr fun k' hk' => ?_
  have hoth : k' ≠ k := fun heq => hk (heq ▸ hk')
  rw [update_of_ne hoth]

theorem inSlots_empty (hnd : keys.Nodup) (hk : k ∈ keys) (hslot : slot k = some b) :
    (inSlots keys slot).Perm (b :: inSlots keys (update slot k none)) := by
  induction keys with
  | nil => cases hk
  | cons first rest ih =>
    obtain ⟨hfst, hrest⟩ := nodup_cons.1 hnd
    by_cases heq : k = first
    · subst heq
      have hsame : inSlots rest (update slot k none) = inSlots rest slot :=
        inSlots_update_of_not_mem hfst none
      unfold inSlots at hsame ⊢
      rw [filterMap_cons_some hslot, filterMap_cons_none (update_self ..), hsame]
    have hmem : k ∈ rest := (mem_cons.1 hk).resolve_left heq
    have hperm := ih hrest hmem
    have hoth : update slot k none first = slot first :=
      update_of_ne (Ne.symm heq) ..
    unfold inSlots at hperm ⊢
    cases hslot' : slot first with
    | none =>
      rw [filterMap_cons_none hslot', filterMap_cons_none (hoth.trans hslot')]
      exact hperm
    | some b' =>
      rw [filterMap_cons_some hslot', filterMap_cons_some (hoth.trans hslot')]
      exact (hperm.cons b').trans (List.Perm.swap b b' _)

theorem inSlots_fill (hnd : keys.Nodup) (hk : k ∈ keys) (hslot : slot k = none) (b : Nat) :
    (inSlots keys (update slot k (some b))).Perm (b :: inSlots keys slot) := by
  have hfill : update slot k (some b) k = some b := update_self ..
  have hemp := inSlots_empty hnd hk hfill
  rwa [update_idem, ← hslot, update_eq_self] at hemp

end TelAF.PoolLedger
