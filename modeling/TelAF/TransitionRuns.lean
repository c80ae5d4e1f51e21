import Mathlib.Logic.Basic
import Mathlib.Data.Option.Basic
import Mathlib.Data.List.Induction

/-!
# Guarded runs of partial transition systems

A transition function takes a state and an action and returns the next state, or
`none` where the action is not enabled. `exec` performs a list of actions.
`Meets` says that every action of such a run is taken in a state allowed by a
guard; guards describe the environment and the scheduling under which an
invariant is claimed. The invariant rules below are the only induction over runs
used by the developments built on this module.
-/

namespace TelAF.TransitionRuns

open Option List

variable {State Action : Type*} (step : State → Action → Option State)

/-- Perform the actions in order; an action that is not enabled ends the run. -/
def exec : State → List Action → Option State
  | s, [] => some s
  | s, a :: rest => (step s a).bind fun t => exec t rest

@[simp] theorem exec_nil (s : State) : exec step s [] = some s := rfl

@[simp] theorem exec_cons (s : State) (a : Action) (rest : List Action) :
    exec step s (a :: rest) = (step s a).bind fun t => exec step t rest := rfl

theorem exec_append (s : State) (as bs : List Action) :
    exec step s (as ++ bs) = (exec step s as).bind fun t => exec step t bs := by
  induction as generalizing s with
  | nil => rfl
  | cons a as ih =>
    rw [cons_append, exec_cons, exec_cons, bind_assoc]
    exact congrArg (bind (step s a)) (funext ih)

variable (ok : State → Action → Prop)

/-- Every action of the run is taken in a state that the guard allows. -/
def Meets : State → List Action → Prop
  | _, [] => True
  | s, a :: rest => ok s a ∧ ∀ t, step s a = some t → Meets t rest

instance decidableMeets [DecidableRel ok] : ∀ s as, Decidable (Meets step ok s as)
  | _, [] => inferInstanceAs (Decidable True)
  | s, a :: rest =>
    match h : step s a with
    | none => decidable_of_iff (ok s a) (by simp [Meets, h])
    | some t =>
      have := decidableMeets t rest
      decidable_of_iff (ok s a ∧ Meets step ok t rest) (by simp [Meets, h])

variable {step ok} {other : State → Action → Prop} {Inv : State → Prop}

/-- What one guarded step preserves, every guarded run preserves. -/
theorem exec_invariant (hstep : ∀ s a t, Inv s → ok s a → step s a = some t → Inv t)
    {s t : State} {as : List Action} (hs : Inv s) (hok : Meets step ok s as)
    (hrun : exec step s as = some t) : Inv t := by
  induction as generalizing s with
  | nil =>
    cases hrun
    exact hs
  | cons a as ih =>
    obtain ⟨u, hu, hrest⟩ := bind_eq_some_iff.1 hrun
    exact ih (hstep s a u hs hok.1 hu) (hok.2 u hu) hrest

theorem exec_invariant_of_step (hstep : ∀ s a t, Inv s → step s a = some t → Inv t)
    {s t : State} {as : List Action} (hs : Inv s) (hrun : exec step s as = some t) : Inv t := by
  induction as generalizing s with
  | nil =>
    cases hrun
    exact hs
  | cons a as ih =>
    obtain ⟨u, hu, hrest⟩ := bind_eq_some_iff.1 hrun
    exact ih (hstep s a u hs hu) hrest

theorem Meets.mono {weak : State → Action → Prop} (h : ∀ s a, ok s a → weak s a)
    {s : State} {as : List Action} (hok : Meets step ok s as) : Meets step weak s as := by
  induction as generalizing s with
  | nil => trivial
  | cons a as ih => exact ⟨h s a hok.1, fun t ht => ih (hok.2 t ht)⟩

/-- What a guard gives in the states of an invariant holds along the run. -/
theorem Meets.of_invariant (Inv : State → Prop) (himp : ∀ s a, Inv s → ok s a → other s a)
    (hstep : ∀ s a t, Inv s → ok s a → step s a = some t → Inv t)
    {s : State} {as : List Action} (hs : Inv s) (hok : Meets step ok s as) :
    Meets step other s as := by
  induction as generalizing s with
  | nil => trivial
  | cons a as ih =>
    refine ⟨himp s a hs hok.1, fun t ht => ?_⟩
    exact ih (hstep s a t hs hok.1 ht) (hok.2 t ht)

/-- Guards that agree in the states of an invariant are met by the same runs. -/
theorem meets_congr (hiff : ∀ s a, Inv s → (ok s a ↔ other s a))
    (hstep : ∀ s a t, Inv s → ok s a → step s a = some t → Inv t)
    {s : State} {as : List Action} (hs : Inv s) : Meets step ok s as ↔ Meets step other s as := by
  induction as generalizing s with
  | nil => exact Iff.rfl
  | cons a as ih =>
    constructor
    · rintro ⟨hfst, hrest⟩
      exact ⟨(hiff s a hs).1 hfst, fun t ht => (ih (hstep s a t hs hfst ht)).1 (hrest t ht)⟩
    rintro ⟨hfst, hrest⟩
    have hok := (hiff s a hs).2 hfst
    exact ⟨hok, fun t ht => (ih (hstep s a t hs hok ht)).2 (hrest t ht)⟩

/-- A run meets a guard if its first part does and the rest does from where that ends. -/
theorem meets_append {s : State} {as bs : List Action} :
    Meets step ok s (as ++ bs) ↔
      Meets step ok s as ∧ ∀ t, exec step s as = some t → Meets step ok t bs := by
  induction as generalizing s with
  | nil => simp [Meets]
  | cons a as ih =>
    constructor
    · rintro ⟨hfst, hrest⟩
      refine ⟨⟨hfst, fun t ht => (ih.1 (hrest t ht)).1⟩, fun t ht => ?_⟩
      obtain ⟨u, hu, hrun⟩ := bind_eq_some_iff.1 ht
      exact (ih.1 (hrest u hu)).2 t hrun
    · rintro ⟨⟨hfst, hmid⟩, hlast⟩
      refine ⟨hfst, fun u hu => ih.2 ⟨hmid u hu, fun t ht => hlast t ?_⟩⟩
      rw [exec_cons, hu]
      exact ht

/-- A guard on the states that steps lead to is one on the states of the run. -/
theorem meets_iff_reached {P : State → Prop} {s : State} {as : List Action} (hs : P s) :
    Meets step (fun s a => ∀ t, step s a = some t → P t) s as ↔
      ∀ bs, bs <+: as → ∀ t, exec step s bs = some t → P t := by
  induction as generalizing s with
  | nil =>
    constructor
    · intro _ bs hbs t ht
      rw [prefix_nil.1 hbs] at ht
      cases ht
      exact hs
    · exact fun _ => trivial
  | cons a as ih =>
    constructor
    · rintro ⟨hfst, hrest⟩ bs hbs t ht
      cases bs with
      | nil =>
        cases ht
        exact hs
      | cons b bs =>
        obtain ⟨rfl, hpref⟩ := cons_prefix_cons.1 hbs
        obtain ⟨u, hu, hrun⟩ := bind_eq_some_iff.1 ht
        exact (ih (hfst u hu)).1 (hrest u hu) bs hpref t hrun
    · intro h
      have hfst : ∀ u, step s a = some u → P u := by
        intro u hu
        apply h [a] (cons_prefix_cons.2 ⟨rfl, nil_prefix⟩) u
        rw [exec_cons, hu]
        rfl
      refine ⟨hfst, fun u hu => (ih (hfst u hu)).2 fun bs hbs t ht => ?_⟩
      apply h (a :: bs) (cons_prefix_cons.2 ⟨rfl, hbs⟩) t
      rw [exec_cons, hu]
      exact ht

theorem Meets.and {s : State} {as : List Action}
    (h : Meets step ok s as) (h' : Meets step other s as) :
    Meets step (fun s a => ok s a ∧ other s a) s as := by
  induction as generalizing s with
  | nil => trivial
  | cons a as ih => exact ⟨⟨h.1, h'.1⟩, fun t ht => ih (h.2 t ht) (h'.2 t ht)⟩

variable (step)

/-- Some step of the run opens something, and no later step ends it. -/
def Since (opens ends : State → Action → Prop) (s : State) (as : List Action) : Prop :=
  ∃ before a after t u, as = before ++ a :: after ∧ exec step s before = some t ∧
    step t a = some u ∧ opens t a ∧ Meets step (fun t a => ¬ ends t a) u after

variable {step} {opens ends : State → Action → Prop}

theorem since_last {s t u : State} {as : List Action} {a : Action}
    (hrun : exec step s as = some t) (hstep : step t a = some u) (hope : opens t a) :
    Since step opens ends s (as ++ [a]) :=
  ⟨as, a, [], t, u, rfl, hrun, hstep, hope, trivial⟩

theorem Since.append {s t : State} {as : List Action} {a : Action}
    (h : Since step opens ends s as) (hrun : exec step s as = some t) (hkept : ¬ ends t a) :
    Since step opens ends s (as ++ [a]) := by
  obtain ⟨before, opening, after, u, v, rfl, hbef, hstep, hope, hopen⟩ := h
  refine ⟨before, opening, after ++ [a], u, v, by simp, hbef, hstep, hope, ?_⟩
  rw [meets_append]
  refine ⟨hopen, fun w hw => ⟨?_, fun _ _ => trivial⟩⟩
  rw [exec_append, hbef, bind_some, exec_cons, hstep, bind_some, hw] at hrun
  cases hrun
  exact hkept

/-- What only an opening step sets, and no ending step leaves set, is set since an opening
step. -/
theorem since_of_flag {flag : State → Prop}
    (hflag : ∀ s a t, ok s a → step s a = some t → flag t → opens s a ∨ flag s ∧ ¬ ends s a)
    {s t : State} {as : List Action} (hs : ¬ flag s) (hok : Meets step ok s as)
    (hrun : exec step s as = some t) (ht : flag t) : Since step opens ends s as := by
  induction as using reverseRecOn generalizing t with
  | nil =>
    cases hrun
    exact absurd ht hs
  | append_singleton as a ih =>
    rw [exec_append] at hrun
    obtain ⟨u, hu, hlast⟩ := bind_eq_some_iff.1 hrun
    obtain ⟨v, hstep, hv⟩ := bind_eq_some_iff.1 hlast
    cases hv
    obtain ⟨hbef, haft⟩ := meets_append.1 hok
    rcases hflag u a t (haft u hu).1 hstep ht with hope | ⟨hset, hkept⟩
    · exact since_last hu hstep hope
    · exact (ih hbef hu hset).append hu hkept

end TelAF.TransitionRuns
