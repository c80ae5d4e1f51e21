import TelAF.RoutingExclusivity
import Mathlib.Data.List.Chain

/-!
# Pairs of registration events

The UDS layer resets session, unlock and authentication when a connection is reported
de-registered. A connection reports by the state it is in before it leaves: whoever sets
that state otherwise (a second activation of an active connection, the shutdown of the
stack, an activation of a connection that has left) loses an event or reports one twice.
-/

namespace TelAF.RegistrationEvents
open TransitionRuns DoipMessages DoipConnection DoipControl DoipChanges RoutingExclusivity List

/-- The events take turns, starting with a registration. -/
structure Alternates (l : List ConnectionEvent) : Prop where
  turns : l.IsChain (· ≠ ·)
  starts : l.head? ≠ some .saDeregistered

theorem Alternates.nil : Alternates [] := ⟨isChain_nil, nofun⟩

theorem Alternates.register {l : List ConnectionEvent} (h : Alternates l)
    (hlast : l.getLast? ≠ some .saRegistered) : Alternates (l ++ [.saRegistered]) := by
  constructor
  · rw [isChain_append]
    refine ⟨h.turns, isChain_singleton _, ?_⟩
    intro x hx y hy hsame
    cases hy
    exact hlast (hsame ▸ hx)
  · cases l with
    | nil => simp
    | cons e rest => exact h.starts

theorem Alternates.deregister {l : List ConnectionEvent} (h : Alternates l)
    (hlast : l.getLast? = some .saRegistered) : Alternates (l ++ [.saDeregistered]) := by
  constructor
  · rw [isChain_append]
    refine ⟨h.turns, isChain_singleton _, ?_⟩
    intro x hx y hy
    cases hy
    rw [hlast] at hx
    cases hx
    exact ConnectionEvent.noConfusion
  · cases l with
    | nil => cases hlast
    | cons e rest => exact h.starts

def eventsOf (events : List (ConnId × ConnectionEvent)) (c : ConnId) : List ConnectionEvent :=
  events.filterMap fun e => if e.1 = c then some e.2 else none

theorem eventsOf_append (l l' : List (ConnId × ConnectionEvent)) (c : ConnId) :
    eventsOf (l ++ l') c = eventsOf l c ++ eventsOf l' c := filterMap_append

theorem eventsOf_singleton (x c : ConnId) (event : ConnectionEvent) :
    eventsOf [(x, event)] c = if x = c then [event] else [] := by
  unfold eventsOf
  split_ifs with hx <;> simp [hx]

theorem eventsOf_eq_nil {events : List (ConnId × ConnectionEvent)} {c : ConnId}
    (h : ∀ e ∈ events, e.1 ≠ c) : eventsOf events c = [] := by
  unfold eventsOf
  rw [filterMap_eq_nil_iff]
  intro e he
  exact if_neg (h e he)

/-- An open registration belongs to an active connection, and that one is still managed. -/
structure Paired (k : Control) : Prop where
  alternates : ∀ c, Alternates (eventsOf k.events c)
  active : ∀ c, (eventsOf k.events c).getLast? = some .saRegistered ↔
    (k.routing c).connState = .registeredRoutingActive
  apart : ∀ c ∈ k.box, c ∉ k.deleted
  inactive : ∀ c ∈ k.deleted, (k.routing c).connState ≠ .registeredRoutingActive

/-- No active connection activates its routing once more, none is active when the stack is
shut down, and a connection that has left the box is given no address. -/
def KeepsPairs (cfg : DoipConf) (s : Stack) (a : Action) : Prop :=
  (isRound a = true → repeatsActivation cfg s = false) ∧
  (a = .sessionDeInit ∨ a = .shutdownTimeout →
    ∀ x ∈ s.connectionBox, (s.connections x).connState ≠ .registeredRoutingActive) ∧
  ∀ p ∈ takingOver s a, accepts cfg p.2.2 (s.connections p.2.1).authInfo = true →
    p.2.1 ∈ s.connectionBox
deriving Decidable

section
variable {cfg : DoipConf} {k : Control} {c w : ConnId} {sa : LogicalAddress}

namespace Paired

variable (h : Paired k)
include h

theorem setRouting {r : Routing}
    (hst : r.connState = .registeredRoutingActive ↔
      (k.routing c).connState = .registeredRoutingActive) : Paired (k.setRouting c r) := by
  have hkept : ∀ x, ((k.setRouting c r).routing x).connState = .registeredRoutingActive ↔
      (k.routing x).connState = .registeredRoutingActive := by
    intro x
    rw [Control.setRouting_routing]
    split_ifs with hx
    · rw [hst, hx]
    · rfl
  constructor
  · exact h.alternates
  · intro x
    rw [hkept]
    exact h.active x
  · exact h.apart
  · intro x hx
    rw [Ne, hkept]
    exact h.inactive x hx

theorem request (info : UInt32) : Paired (k.request c sa info) := by
  apply h.setRouting
  rfl

theorem finalize (hnd : k.box.Nodup) : Paired (k.finalize c) := by
  have hoth : ∀ x, x ≠ c → eventsOf (k.finalize c).events x = eventsOf k.events x := by
    intro x hx
    rw [Control.finalize_events, eventsOf_append]
    split_ifs
    · rw [eventsOf_singleton, if_neg (Ne.symm hx), append_nil]
    · exact append_nil _
  have hself : eventsOf (k.finalize c).events c = eventsOf k.events c ++
      if (k.routing c).connState = .registeredRoutingActive then [.saDeregistered] else [] := by
    rw [Control.finalize_events, eventsOf_append]
    split_ifs
    · rw [eventsOf_singleton, if_pos rfl]
    · rfl
  constructor
  · intro x
    by_cases hx : x = c
    · subst hx
      rw [hself]
      split_ifs with hact
      · exact (h.alternates x).deregister ((h.active x).2 hact)
      · rw [append_nil]
        exact h.alternates x
    · rw [hoth x hx]
      exact h.alternates x
  · intro x
    rw [Control.finalize_routing]
    by_cases hx : x = c
    · subst hx
      rw [hself, if_pos rfl]
      constructor
      · intro hlast
        split_ifs at hlast with hact
        · rw [getLast?_append_of_ne_nil _ (by simp)] at hlast
          cases hlast
        · rw [append_nil] at hlast
          exact absurd ((h.active x).1 hlast) hact
      · intro hst
        cases hst
    · rw [hoth x hx, if_neg hx]
      exact h.active x
  · intro x hx hdel
    obtain ⟨hbox, hxc⟩ := (mem_swapRemove hnd).1 hx
    rcases mem_append.1 hdel with hold | hnew
    · exact h.apart x hbox hold
    · exact hxc (mem_singleton.1 hnew)
  · intro x hdel
    rw [Control.finalize_routing]
    split_ifs with hxc
    · exact ConnectState.noConfusion
    rcases mem_append.1 hdel with hold | hnew
    · exact h.inactive x hold
    · exact absurd (mem_singleton.1 hnew) hxc

theorem activate (hmana : c ∉ k.deleted)
    (hnew : (k.routing c).connState ≠ .registeredRoutingActive) (r : Routing) :
    Paired ((k.setRouting c { r with connState := .registeredRoutingActive }).report c
      .saRegistered) := by
  have hlast : (eventsOf k.events c).getLast? ≠ some .saRegistered := mt (h.active c).1 hnew
  constructor
  · intro x
    rw [Control.report_events, eventsOf_append, eventsOf_singleton]
    split_ifs with hx
    · rw [← hx]
      exact (h.alternates c).register hlast
    · rw [append_nil]
      exact h.alternates x
  · intro x
    rw [Control.report_events, Control.report_routing,
      Control.setRouting_routing, eventsOf_append, eventsOf_singleton]
    by_cases hx : x = c
    · subst hx
      simp
    · rw [if_neg (Ne.symm hx), if_neg hx, append_nil]
      exact h.active x
  · exact h.apart
  · intro x hdel
    rw [Control.report_routing, Control.setRouting_routing]
    split_ifs with hx
    · subst hx
      exact absurd hdel hmana
    · exact h.inactive x hdel

theorem assign (hnd : k.box.Nodup) {accepted : Bool} (hmana : accepted = true → c ∉ k.deleted)
    (hnew : (k.routing c).connState ≠ .registeredRoutingActive) :
    Paired (k.assign c accepted sa) := by
  unfold Control.assign
  split_ifs with haccd
  · exact h.activate (hmana haccd) hnew { k.routing c with testerSA := sa }
  apply Paired.finalize
  · apply h.setRouting
    constructor
    · exact fun hst => nomatch hst
    · exact fun hact => absurd hact hnew
  · exact hnd

theorem accept (hwell : WellFormed cfg k) (testerSA : LogicalAddress) :
    Paired (k.accept testerSA) := by
  have hfr : eventsOf k.events k.created = [] :=
    eventsOf_eq_nil fun e he => Nat.ne_of_lt (hwell.eventsCreated e he)
  constructor
  · exact h.alternates
  · intro x
    rw [Control.accept_routing]
    split_ifs with hx
    · subst hx
      change (eventsOf k.events k.created).getLast? = _ ↔ _
      rw [hfr]
      constructor
      · intro hlast
        cases hlast
      · intro hst
        cases hst
    · exact h.active x
  · intro x hx hdel
    rcases mem_append.1 hx with hold | hnew
    · exact h.apart x hold hdel
    · rw [mem_singleton.1 hnew] at hdel
      exact Nat.lt_irrefl _ (hwell.deletedCreated _ hdel)
  · intro x hdel
    rw [Control.accept_routing]
    split_ifs
    · exact ConnectState.noConfusion
    · exact h.inactive x hdel

theorem shutdownAll (hidle : ∀ x ∈ k.box, (k.routing x).connState ≠ .registeredRoutingActive) :
    Paired k.shutdownAll := by
  have hkept : ∀ x, (k.shutdownAll.routing x).connState = .registeredRoutingActive ↔
      (k.routing x).connState = .registeredRoutingActive := by
    intro x
    rw [Control.shutdownAll_routing]
    split_ifs with hx
    · constructor
      · exact fun hst => nomatch hst
      · exact fun hact => absurd hact (hidle x hx)
    · rfl
  constructor
  · exact h.alternates
  · intro x
    rw [hkept]
    exact h.active x
  · exact h.apart
  · intro x hx
    rw [Ne, hkept]
    exact h.inactive x hx

theorem deleteAll (hidle : ∀ x ∈ k.box, (k.routing x).connState ≠ .registeredRoutingActive) :
    Paired k.deleteAll := by
  constructor
  · exact h.alternates
  · exact h.active
  · intro x hx
    cases hx
  intro x hdel
  rcases mem_append.1 hdel with hold | hnew
  · exact h.inactive x hold
  · exact hidle x hnew

end Paired

variable {s t : Stack} {a : Action}

theorem paired_change (hwell : WellFormed cfg (control s)) (h : Paired (control s))
    (hkps : KeepsPairs cfg s a) (hchg : Change cfg s a k) : Paired k := by
  have hinac : ∀ {x : ConnId}, ¬ (control s).registered x →
      ((control s).routing x).connState ≠ .registeredRoutingActive :=
    fun hnew hact => hnew (Or.inl hact)
  cases hchg with
  | quiet => exact h
  | crashed => exact { h with }
  | accepted testerSA => exact h.accept hwell testerSA
  | finalized c sa info => exact (h.request info).finalize hwell.nodup
  | released c => exact { h.finalize hwell.nodup with }
  | assigned c accepted sa info hc _ hnew =>
    apply (h.request info).assign hwell.nodup
    · exact fun _ => h.apart c hc
    · rw [Control.request, setRouting_routing_self]
      exact hinac hnew
  | repeated c accepted sa info hc _ _ ha hrepe =>
    rw [hkps.1 ha] at hrepe
    cases hrepe
  | requested c sa info => exact h.request info
  | checked c other sa info =>
    apply (h.request info).setRouting
    rfl
  | answered c =>
    apply h.setRouting
    rfl
  | refused c w =>
    apply Paired.finalize
    · apply h.setRouting
      rfl
    · exact hwell.nodup
  | tookOver c w confirm hc hflag hwaits hnew =>
    have hasgn : Paired ((control s).assign w
        (accepts cfg confirm (s.connections w).authInfo) (s.connections w).raTesterSa) := by
      apply h.assign hwell.nodup
      · intro haccd
        have htaki : takingOver s (.aliveCheckTimeout c confirm) = some (c, w, confirm) := by
          dsimp only [takingOver]
          rw [hwaits]
          exact if_pos ⟨hflag, mt (isRegistered_iff w).1 hnew⟩
        exact h.apart w (hkps.2.2 (c, w, confirm) htaki haccd)
      · exact hinac hnew
    apply hasgn.finalize
    exact (hwell.assign (hwell.waits c w hwaits).1 _ _).nodup
  | shutdown => exact h.shutdownAll (hkps.2.1 (Or.inl rfl))
  | deleted => exact h.deleteAll (hkps.2.1 (Or.inr rfl))

theorem paired_run {as : List Action} (hok : Meets (step cfg) (KeepsPairs cfg) initStack as)
    (hrun : exec (step cfg) initStack as = some t) : Paired (control t) := by
  have hboth : WellFormed cfg (control t) ∧ Paired (control t) := by
    refine @exec_invariant _ _ _ _ (fun s => WellFormed cfg (control s) ∧ Paired (control s))
      ?_ _ _ _ ?_ hok hrun
    · intro s a t hs hkps hstep
      have hchg := (step_change hs.1 hstep).1
      exact ⟨wellFormed_change hs.1 hchg, paired_change hs.1 hs.2 hkps hchg⟩
    refine ⟨wellFormed_init, ?_⟩
    constructor
    · exact fun _ => Alternates.nil
    · intro c
      constructor
      · intro hlast
        cases hlast
      · intro hst
        cases hst
    all_goals
      intro c hc
      cases hc
  exact hboth.2

/-- Every connection reports registrations and de-registrations in turn, and one that is
finalized or deleted has no registration open. -/
theorem connectionEvents_run {as : List Action}
    (hok : Meets (step cfg) (KeepsPairs cfg) initStack as)
    (hrun : exec (step cfg) initStack as = some t) (c : ConnId) :
    Alternates (eventsOf (connectionEvents t.indications) c) ∧
      ((t.connections c).connState = .finalize ∨ c ∈ t.deleted →
        (eventsOf (connectionEvents t.indications) c).getLast? ≠ some .saRegistered) := by
  have h := paired_run hok hrun
  refine ⟨h.alternates c, ?_⟩
  intro hgone hlast
  have hactive : (t.connections c).connState = .registeredRoutingActive := (h.active c).1 hlast
  rcases hgone with hfinal | hdeleted
  · rw [hactive] at hfinal
    cases hfinal
  · exact h.inactive c hdeleted hactive

end

theorem connectionEvents_run_contested :
    ∃ t, exec (step (openVehicle 4)) initStack (contested ++ [.aliveCheckTimeout 0 .noNeed]) = some t ∧
      Alternates (eventsOf (connectionEvents t.indications) 0) ∧
      ((t.connections 0).connState = .finalize ∨ 0 ∈ t.deleted →
        (eventsOf (connectionEvents t.indications) 0).getLast? ≠ some .saRegistered) := by
  obtain ⟨t, hrun⟩ := Option.isSome_iff_exists.1 (show (exec (step (openVehicle 4)) initStack
    (contested ++ [.aliveCheckTimeout 0 .noNeed])).isSome = true by decide +kernel)
  exact ⟨t, hrun, connectionEvents_run (by decide +kernel) hrun 0⟩

/-- An active connection asks for its address once more and the user refuses. -/
def refusedRepetition : List Action :=
  [.accept 0] ++ messageEvents 0 (routingRequest 0x0E01) .noNeed ++
    [.receive 0 (some (routingRequest 0x0E01)), .consume, .round .reject true]

/-- It is finalized with its registration open. -/
theorem connectionEvents_stay_open :
    ∃ t, exec (step (openVehicle 4)) initStack refusedRepetition = some t ∧
      (t.connections 0).connState = .finalize ∧ 0 ∈ t.deleted ∧
      eventsOf (connectionEvents t.indications) 0 = [.saRegistered] := by
  obtain ⟨t, hrun, hall⟩ :=
    (Option.any_eq_true _ _).1 (show (exec (step (openVehicle 4)) initStack
    refusedRepetition).any (fun t => decide ((t.connections 0).connState = .finalize ∧
      0 ∈ t.deleted ∧ eventsOf (connectionEvents t.indications) 0 = [.saRegistered])) = true by
        decide +kernel)
  exact ⟨t, hrun, of_decide_eq_true hall⟩

end TelAF.RegistrationEvents
