import Mathlib.Data.List.Basic

/-!
# Computations that read an array cell by cell

`Probe β α` is a computation that reads cells of an array and ends with a result. It
keeps what a plain function of the array forgets, namely which cells were read. A run on
two arrays that agree on these cells reads the same cells and ends with the same result,
and a computation whose reads lie below a bound depends on nothing else.
-/

namespace TelAF.Probes

open List

universe u v w

inductive Probe (β : Type u) (α : Type v) where
  | done (result : α)
  | read (i : Nat) (next : β → Probe β α)

namespace Probe
variable {β : Type u} {α : Type v} {γ : Type w}

def bind : Probe β α → (α → Probe β γ) → Probe β γ
  | .done result, f => f result
  | .read i next, f => .read i fun b => (next b).bind f

def run (cells : Nat → β) : Probe β α → α
  | .done result => result
  | .read i next => (next (cells i)).run cells

def reads (cells : Nat → β) : Probe β α → List Nat
  | .done _ => []
  | .read i next => i :: (next (cells i)).reads cells

/-- Every cell read on an array lies below a bound. -/
def Within (cells : Nat → β) (bound : Nat) (p : Probe β α) : Prop :=
  ∀ i ∈ p.reads cells, i < bound

def readMany (start : Nat) : Nat → Probe β (List β)
  | 0 => .done []
  | n + 1 => .read start fun b => (readMany (start + 1) n).bind fun bs => .done (b :: bs)

variable {cells cells' : Nat → β} {bound : Nat} {p : Probe β α} {f : α → Probe β γ}

@[simp] theorem run_done (result : α) : (done result : Probe β α).run cells = result := rfl

@[simp] theorem run_read (i : Nat) (next : β → Probe β α) :
    (read i next).run cells = (next (cells i)).run cells := rfl

@[simp] theorem run_bind (p : Probe β α) (f : α → Probe β γ) :
    (p.bind f).run cells = (f (p.run cells)).run cells := by
  induction p with
  | done result => rfl
  | read i next ih => exact ih (cells i)

theorem reads_bind (p : Probe β α) (f : α → Probe β γ) :
    (p.bind f).reads cells = p.reads cells ++ (f (p.run cells)).reads cells := by
  induction p with
  | done result => rfl
  | read i next ih =>
    change i :: ((next (cells i)).bind f).reads cells = _
    rw [ih]
    rfl

theorem run_ite {c : Prop} [Decidable c] (p q : Probe β α) :
    (if c then p else q).run cells = if c then p.run cells else q.run cells := by
  split_ifs <;> rfl

@[simp] theorem run_readMany (start n : Nat) :
    (readMany start n : Probe β (List β)).run cells =
      (range n).map fun i => cells (start + i) := by
  induction n generalizing start with
  | zero => rfl
  | succ n ih =>
    have hnext : ((readMany (start + 1) n).bind fun bs => done (cells start :: bs)).run cells =
        cells start :: (range n).map fun i => cells (start + 1 + i) := by
      rw [run_bind, ih]
      rfl
    rw [range_succ_eq_map, map_cons, map_map]
    refine hnext.trans ?_
    refine congrArg₂ cons rfl (map_congr_left fun i _ => ?_)
    exact congrArg cells (by omega)

theorem reads_readMany (start n : Nat) :
    (readMany start n : Probe β (List β)).reads cells =
      (range n).map fun i => start + i := by
  induction n generalizing start with
  | zero => rfl
  | succ n ih =>
    have hnext : ((readMany (start + 1) n).bind fun bs => done (cells start :: bs)).reads cells =
        (range n).map fun i => start + 1 + i := by
      rw [reads_bind, ih]
      exact append_nil _
    rw [range_succ_eq_map, map_cons, map_map]
    refine (congrArg (cons start) hnext).trans ?_
    refine congrArg₂ cons rfl (map_congr_left fun i _ => ?_)
    simp only [Function.comp_apply]
    omega

theorem within_done (result : α) : (done result : Probe β α).Within cells bound := by
  intro i hi
  cases hi

theorem within_read {i : Nat} {next : β → Probe β α} (hi : i < bound)
    (h : (next (cells i)).Within cells bound) : (read i next).Within cells bound := by
  intro j hj
  rcases mem_cons.1 hj with rfl | hj
  · exact hi
  · exact h j hj

theorem within_bind (hp : p.Within cells bound) (hf : (f (p.run cells)).Within cells bound) :
    (p.bind f).Within cells bound := by
  intro i hi
  rw [reads_bind, mem_append] at hi
  rcases hi with hi | hi
  · exact hp i hi
  · exact hf i hi

theorem within_ite {c : Prop} [Decidable c] {q : Probe β α} (hp : c → p.Within cells bound)
    (hq : ¬c → q.Within cells bound) : (if c then p else q).Within cells bound := by
  split_ifs with h
  · exact hp h
  · exact hq h

theorem within_readMany {start n : Nat} (h : start + n ≤ bound) :
    (readMany start n : Probe β (List β)).Within cells bound := by
  intro i hi
  rw [reads_readMany] at hi
  obtain ⟨j, hj, rfl⟩ := mem_map.1 hi
  have := mem_range.1 hj
  omega

end Probe

end TelAF.Probes
