import Mathlib.Data.List.Basic
import Mathlib.Data.List.TakeWhile

/-!
# Histories of test results

What the bits of a diagnostic status byte stand for, as properties of the history
of one event: its completed test results, the starts and stops of its operation
cycle and the clears, the most recent first. Nothing before the last clear counts.

Beside each property stand the equations that say how one more happening changes
it; a status machine that satisfies them computes the property.
-/

namespace TelAF.StatusHistory

inductive Happening where
  | failed
  | passed
  | started
  | stopped
  | cleared
deriving DecidableEq

open Happening List

def sinceClear (h : List Happening) : List Happening := h.takeWhile (· ≠ cleared)

/-- The history since the operation cycle was last started, and since the last clear. -/
def thisCycle (h : List Happening) : List Happening := (sinceClear h).takeWhile (· ≠ started)

def FailedIn (h : List Happening) : Prop := failed ∈ h
deriving Decidable

def TestedIn (h : List Happening) : Prop := failed ∈ h ∨ passed ∈ h
deriving Decidable

def TestFailed (h : List Happening) : Prop :=
  (sinceClear h).find? (fun x => x = failed ∨ x = passed) = some failed

/-- A cycle that is being stopped has completed a test, and none of them failed. -/
def PassedCycle (h : List Happening) : Prop := TestedIn (thisCycle h) ∧ ¬ FailedIn (thisCycle h)

/-- There was a failed result, and no cycle stopped since then was a passed one. -/
def Pending (h : List Happening) : Prop :=
  ∃ newer older, sinceClear h = newer ++ failed :: older ∧
    ∀ after before, newer = after ++ stopped :: before →
      ¬ PassedCycle (before ++ failed :: older)

/-- The number of operation cycles with a failed result. -/
def failedCycles (h : List Happening) : Nat :=
  ((sinceClear h).splitOn started).countP (failed ∈ ·)

variable {h : List Happening} {x : Happening}

@[simp] theorem sinceClear_cleared : sinceClear (cleared :: h) = [] := by simp [sinceClear]

theorem sinceClear_cons (hx : x ≠ cleared) : sinceClear (x :: h) = x :: sinceClear h := by
  simp [sinceClear, hx]

@[simp] theorem sinceClear_sinceClear : sinceClear (sinceClear h) = sinceClear h := by
  have hkept : ∀ y ∈ sinceClear h, (fun x => decide (x ≠ cleared)) y = true := by
    intro y hy
    exact mem_takeWhile_imp (p := fun x => decide (x ≠ cleared)) hy
  exact takeWhile_eq_self_iff.2 hkept

@[simp] theorem thisCycle_started : thisCycle (started :: h) = [] := by simp [thisCycle, sinceClear]

theorem thisCycle_cons (hclrd : x ≠ cleared) (hstrt : x ≠ started) :
    thisCycle (x :: h) = x :: thisCycle h := by
  simp [thisCycle, sinceClear_cons hclrd, hstrt]

@[simp] theorem thisCycle_sinceClear : thisCycle (sinceClear h) = thisCycle h := by simp [thisCycle]

@[simp] theorem failedIn_nil : ¬ FailedIn [] := not_mem_nil

@[simp] theorem testedIn_nil : ¬ TestedIn [] := by simp [TestedIn]

@[simp] theorem failedIn_cons : FailedIn (x :: h) ↔ x = failed ∨ FailedIn h := by
  simp [FailedIn, eq_comm]

@[simp] theorem testedIn_cons : TestedIn (x :: h) ↔ x = failed ∨ x = passed ∨ TestedIn h := by
  simp only [TestedIn, mem_cons]
  tauto

@[simp] theorem testFailed_failed : TestFailed (failed :: h) := by simp [TestFailed, sinceClear]

@[simp] theorem testFailed_passed : ¬ TestFailed (passed :: h) := by simp [TestFailed, sinceClear]

@[simp] theorem testFailed_started : TestFailed (started :: h) ↔ TestFailed h := by
  simp [TestFailed, sinceClear]

@[simp] theorem testFailed_stopped : TestFailed (stopped :: h) ↔ TestFailed h := by
  simp [TestFailed, sinceClear]

@[simp] theorem pending_failed : Pending (failed :: h) := by
  refine ⟨[], sinceClear h, sinceClear_cons (by decide), ?_⟩
  intro after before hnewe
  simp at hnewe

/-- A happening that is no failure stays in front of the failure that is pending. -/
theorem pending_cons (hclrd : x ≠ cleared) (hfail : x ≠ failed) :
    Pending (x :: h) ↔ Pending h ∧ ¬ (x = stopped ∧ PassedCycle h) := by
  have hcyc : ∀ newer older, sinceClear h = newer ++ failed :: older →
      (PassedCycle (newer ++ failed :: older) ↔ PassedCycle h) := by
    intro newer older hspl
    rw [← hspl]
    simp [PassedCycle]
  constructor
  · rintro ⟨newer, older, hspl, hstop⟩
    rw [sinceClear_cons hclrd] at hspl
    rcases newer with _ | ⟨y, newer⟩
    · exact absurd (cons.inj hspl).1 hfail
    obtain ⟨rfl, hrest⟩ := cons.inj hspl
    refine ⟨⟨newer, older, hrest, fun after before hnewe => ?_⟩, ?_⟩
    · exact hstop (x :: after) before (by rw [hnewe, cons_append])
    · rintro ⟨rfl, hpass⟩
      exact hstop [] newer rfl ((hcyc newer older hrest).2 hpass)
  · rintro ⟨⟨newer, older, hspl, hstop⟩, hlast⟩
    refine ⟨x :: newer, older, by rw [sinceClear_cons hclrd, hspl, cons_append], ?_⟩
    intro after before hnewe
    cases after with
    | nil =>
      obtain ⟨rfl, rfl⟩ := cons.inj hnewe
      exact fun hpass => hlast ⟨rfl, (hcyc newer older hspl).1 hpass⟩
    | cons y after => exact hstop after before (cons.inj hnewe).2

@[simp] theorem pending_passed : Pending (passed :: h) ↔ Pending h := by
  rw [pending_cons (by decide) (by decide)]
  simp

@[simp] theorem pending_started : Pending (started :: h) ↔ Pending h := by
  rw [pending_cons (by decide) (by decide)]
  simp

@[simp] theorem pending_stopped : Pending (stopped :: h) ↔ Pending h ∧ ¬ PassedCycle h := by
  rw [pending_cons (by decide) (by decide)]
  simp

@[simp] theorem failedCycles_started : failedCycles (started :: h) = failedCycles h := by
  unfold failedCycles
  rw [sinceClear_cons (by decide), splitOn_cons_eq_if_modifyHead]
  simp

theorem splitOn_started (l : List Happening) :
    ∃ earlier, l.splitOn started = l.takeWhile (· ≠ started) :: earlier := by
  induction l with
  | nil => exact ⟨[], splitOn_nil started⟩
  | cons y l ih =>
    obtain ⟨earlier, hspl⟩ := ih
    rw [splitOn_cons_eq_if_modifyHead]
    by_cases hy : y = started
    · rw [if_pos (beq_iff_eq.2 hy)]
      exact ⟨l.splitOn started, by simp [hy]⟩
    · rw [hspl]
      exact ⟨earlier, by simp [hy]⟩

theorem failedCycles_cons (hclrd : x ≠ cleared) (hstrt : x ≠ started) :
    failedCycles (x :: h) =
      failedCycles h + if x = failed ∧ ¬ FailedIn (thisCycle h) then 1 else 0 := by
  obtain ⟨earlier, hspl⟩ := splitOn_started (sinceClear h)
  have hhead : (sinceClear h).takeWhile (· ≠ started) = thisCycle h := rfl
  unfold failedCycles
  rw [sinceClear_cons hclrd, splitOn_cons_eq_if_modifyHead,
    if_neg (fun heq => hstrt (beq_iff_eq.1 heq)), hspl, hhead, modifyHead_cons,
    countP_cons, countP_cons]
  by_cases hx : x = failed
  · by_cases hin : failed ∈ thisCycle h <;> simp [hx, FailedIn, hin]
  · simp [hx, Ne.symm hx]

@[simp] theorem failedCycles_failed :
    failedCycles (failed :: h) = failedCycles h + if ¬ FailedIn (thisCycle h) then 1 else 0 := by
  rw [failedCycles_cons (by decide) (by decide)]
  simp

@[simp] theorem failedCycles_passed : failedCycles (passed :: h) = failedCycles h := by
  rw [failedCycles_cons (by decide) (by decide)]
  simp

@[simp] theorem failedCycles_stopped : failedCycles (stopped :: h) = failedCycles h := by
  rw [failedCycles_cons (by decide) (by decide)]
  simp

theorem failedCycles_pos (hfail : FailedIn (thisCycle h)) : 0 < failedCycles h := by
  obtain ⟨earlier, hspl⟩ := splitOn_started (sinceClear h)
  unfold failedCycles
  rw [hspl, countP_pos_iff]
  exact ⟨_, mem_cons_self .., decide_eq_true hfail⟩

end TelAF.StatusHistory
