import Mathlib.Order.WellFounded
import TelAF.TransitionRuns

/-!
# Infinite runs that lead to a goal

An infinite run takes an action in every state. Where some actions are helpful in a state, a run
in which a helpful action always comes, unless the goal does, reaches the goal again and again,
if helpful actions decrease a measure and the others leave it.
-/

namespace TelAF.TransitionRuns

structure InfiniteRun {State Action : Type*} (step : State → Action → Option State) where
  state : ℕ → State
  action : ℕ → Action
  next : ∀ i, step (state i) (action i) = some (state (i + 1))

namespace InfiniteRun

variable {State Action : Type*} {step : State → Action → Option State}
variable (r : InfiniteRun step) {Inv : State → Prop}

/-- What holds at the start and is preserved by every step holds all along. -/
theorem invariant (hsta : Inv (r.state 0))
    (hstep : ∀ s a t, Inv s → step s a = some t → Inv t) (i : ℕ) : Inv (r.state i) := by
  induction i with
  | zero => exact hsta
  | succ i ih => exact hstep _ _ _ ih (r.next i)

/-- Unless the goal is reached before, a helpful action comes. -/
def Fair (goal : State → Prop) (helpful : State → Action → Prop) : Prop :=
  ∀ i, ∃ j, i ≤ j ∧ (goal (r.state j) ∨ helpful (r.state j) (r.action j))

variable {r} {Measure : Type*} [LT Measure] [WellFoundedLT Measure]

theorem reaches_goal {goal : State → Prop} {helpful : State → Action → Prop}
    (measure : State → Measure) (hinv : ∀ i, Inv (r.state i)) (hfair : r.Fair goal helpful)
    (hhelp : ∀ s a t, Inv s → ¬ goal s → helpful s a → step s a = some t →
      goal t ∨ measure t < measure s)
    (hoth : ∀ s a t, Inv s → ¬ goal s → ¬ helpful s a → step s a = some t →
      goal t ∨ measure t = measure s) (i : ℕ) : ∃ j, i ≤ j ∧ goal (r.state j) := by
  generalize hm : measure (r.state i) = m
  induction m using WellFoundedLT.induction generalizing i with
  | ind m ih =>
    -- The helpful action is some number of steps away; until then the measure stays.
    obtain ⟨j, hij, hj⟩ := hfair i
    obtain ⟨n, hn⟩ := Nat.exists_eq_add_of_le hij
    subst hn
    induction n generalizing i with
    | zero =>
      by_cases hgoal : goal (r.state i)
      · exact ⟨i, le_refl i, hgoal⟩
      have hnow : helpful (r.state i) (r.action i) := hj.resolve_left hgoal
      obtain hnext | hless := hhelp _ _ _ (hinv i) hgoal hnow (r.next i)
      · exact ⟨i + 1, Nat.le_succ i, hnext⟩
      · obtain ⟨k, hk, hrchd⟩ := ih _ (hm ▸ hless) (i + 1) rfl
        exact ⟨k, by omega, hrchd⟩
    | succ n ihn =>
      by_cases hgoal : goal (r.state i)
      · exact ⟨i, le_refl i, hgoal⟩
      by_cases hnow : helpful (r.state i) (r.action i)
      · obtain hnext | hless := hhelp _ _ _ (hinv i) hgoal hnow (r.next i)
        · exact ⟨i + 1, Nat.le_succ i, hnext⟩
        · obtain ⟨k, hk, hrchd⟩ := ih _ (hm ▸ hless) (i + 1) rfl
          exact ⟨k, by omega, hrchd⟩
      obtain hnext | hsame := hoth _ _ _ (hinv i) hgoal hnow (r.next i)
      · exact ⟨i + 1, Nat.le_succ i, hnext⟩
      have hplc : i + 1 + n = i + (n + 1) := by omega
      obtain ⟨k, hk, hrchd⟩ := ihn (i + 1) (hsame.trans hm) (by omega) (hplc ▸ hj)
      exact ⟨k, by omega, hrchd⟩

end InfiniteRun

end TelAF.TransitionRuns
