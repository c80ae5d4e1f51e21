import TelAF.RegistrationEvents

/-!
# Finalized connections

A finalized connection has left the box, and no handler looks it up any more. A connection
whose alive check is under way still refers to it if it was the one that asked. Its state
and its events stay as they are, as long as that reference is not followed; then it is
deleted once, and the loop that consumes its bytes ends before its buffer is read.
-/

namespace TelAF.FinalizedConnections
open TransitionRuns DoipMessages DoipConnection DoipControl DoipChanges RoutingExclusivity Control
  List RegistrationEvents

/-- A finalized connection stays finalized and reports nothing. -/
def Stays (k k' : Control) : Prop :=
  ∀ c, (k.routing c).connState = .finalize →
    (k'.routing c).connState = .finalize ∧ eventsOf k'.events c = eventsOf k.events c

theorem Stays.refl (k : Control) : Stays k k := fun _ hfin => ⟨hfin, rfl⟩

theorem Stays.trans {k k' k'' : Control} (h : Stays k k') (h' : Stays k' k'') : Stays k k'' := by
  intro c hfin
  obtain ⟨hmid, hevs⟩ := h c hfin
  obtain ⟨hlast, hevs'⟩ := h' c hmid
  exact ⟨hlast, hevs'.trans hevs⟩

/-- No connection is deleted twice or used after that; one that is waited for by a connection
of the box is in the box itself, or finalized. -/
structure Settled (k : Control) : Prop where
  once : k.deleted.Nodup
  apart : ∀ c ∈ k.box, c ∉ k.deleted
  waiting : ∀ c ∈ k.box, ∀ w, (k.routing c).routingConnectionPtr = some w →
    w ∈ k.box ∨ (k.routing w).connState = .finalize
  existed : ∀ c, (k.routing c).connState = .finalize → c < k.created
  unreleased : k.released = []
  running : k.crashed = false

/-- A reference to a waiting connection is followed only while that one is not finalized, and
no alive check response is malformed. -/
def LeavesFinalized (cfg : DoipConf) (s : Stack) (a : Action) : Prop :=
  (isRound a = true → malformedAliveCheck cfg s = false ∧
    ∀ c ∈ answering cfg s, ∀ w ∈ (s.connections c).routingConnectionPtr,
      (s.connections w).connState ≠ .finalize) ∧
  ∀ p ∈ takingOver s a, (s.connections p.2.1).connState ≠ .finalize
deriving Decidable

section
variable {cfg : DoipConf} {k : Control} {c w : ConnId} {sa : LogicalAddress}

theorem stays_setRouting {r : Routing} (hst : (k.routing c).connState = .finalize →
    r.connState = .finalize) : Stays k (k.setRouting c r) := by
  intro x hfin
  refine ⟨?_, rfl⟩
  rw [setRouting_routing]
  split_ifs with hx
  · subst hx
    exact hst hfin
  · exact hfin

theorem stays_report (event : ConnectionEvent) (hlive : (k.routing c).connState ≠ .finalize) :
    Stays k (k.report c event) := by
  intro x hfin
  refine ⟨hfin, ?_⟩
  rw [report_events, eventsOf_append, eventsOf_singleton]
  have hx : c ≠ x := by
    intro hsame
    subst hsame
    exact hlive hfin
  rw [if_neg hx, append_nil]

theorem stays_finalize : Stays k (k.finalize c) := by
  intro x hfin
  constructor
  · rw [finalize_routing]
    split_ifs
    · rfl
    · exact hfin
  rw [finalize_events, eventsOf_append]
  split_ifs with hact
  · have hx : c ≠ x := by
      intro hsame
      subst hsame
      rw [hact] at hfin
      cases hfin
    rw [eventsOf_singleton, if_neg hx, append_nil]
  · exact append_nil _

theorem stays_assign {accepted : Bool} (hlive : (k.routing c).connState ≠ .finalize) :
    Stays k (k.assign c accepted sa) := by
  have hasgn : ∀ state : ConnectState,
      Stays k (k.setRouting c { k.routing c with testerSA := sa, connState := state }) := by
    intro state
    apply stays_setRouting
    exact fun hfin => absurd hfin hlive
  unfold Control.assign
  split_ifs
  · apply (hasgn .registeredRoutingActive).trans
    apply stays_report
    rw [setRouting_routing_self]
    exact ConnectState.noConfusion
  · exact (hasgn .registeredPendingForAuth).trans stays_finalize

namespace Settled

variable (h : Settled k)
include h

theorem setRouting {r : Routing}
    (hst : r.connState = .finalize ↔ (k.routing c).connState = .finalize)
    (hwts : ∀ w, r.routingConnectionPtr = some w →
      (k.routing c).routingConnectionPtr = some w ∨ w ∈ k.box) : Settled (k.setRouting c r) := by
  have hkept : ∀ x, ((k.setRouting c r).routing x).connState = .finalize ↔
      (k.routing x).connState = .finalize := by
    intro x
    rw [setRouting_routing]
    split_ifs with hx
    · rw [hst, hx]
    · rfl
  constructor
  · exact h.once
  · exact h.apart
  · intro x hx w hw
    rw [hkept]
    rw [setRouting_routing] at hw
    split_ifs at hw with hxc
    · subst hxc
      rcases hwts w hw with hold | hbox
      · exact h.waiting x hx w hold
      · exact Or.inl hbox
    · exact h.waiting x hx w hw
  · intro x hfin
    exact h.existed x ((hkept x).1 hfin)
  · exact h.unreleased
  · exact h.running

theorem request (info : UInt32) : Settled (k.request c sa info) := by
  apply h.setRouting
  · rfl
  · exact fun w hw => Or.inl hw

/-- A connection that is not finalized changes its address and its state. -/
theorem setState (hlive : (k.routing c).connState ≠ .finalize)
    {state : ConnectState} (hst : state ≠ .finalize) :
    Settled (k.setRouting c { k.routing c with testerSA := sa, connState := state }) := by
  apply h.setRouting
  · exact ⟨fun hfin => absurd hfin hst, fun hfin => absurd hfin hlive⟩
  · exact fun w hw => Or.inl hw

theorem report (event : ConnectionEvent) : Settled (k.report c event) := { h with }

variable (hwell : WellFormed cfg k)
include hwell

theorem finalize (hc : c ∈ k.box) : Settled (k.finalize c) := by
  have huniq : c ∉ k.deleted := h.apart c hc
  constructor
  · exact List.Nodup.append h.once (nodup_singleton c) (disjoint_singleton.2 huniq)
  · intro x hx hdel
    obtain ⟨hbox, hxc⟩ := (mem_swapRemove hwell.nodup).1 hx
    rcases mem_append.1 hdel with hold | hnew
    · exact h.apart x hbox hold
    · exact hxc (mem_singleton.1 hnew)
  · intro x hx w hw
    obtain ⟨hbox, hxc⟩ := (mem_swapRemove hwell.nodup).1 hx
    rw [finalize_routing, if_neg hxc] at hw
    rw [finalize_routing, finalize_box, mem_swapRemove hwell.nodup]
    by_cases hwc : w = c
    · rw [if_pos hwc]
      exact Or.inr rfl
    · rw [if_neg hwc]
      exact (h.waiting x hbox w hw).imp_left fun hmem => ⟨hmem, hwc⟩
  · intro x hfin
    rw [finalize_created]
    rw [finalize_routing] at hfin
    split_ifs at hfin with hxc
    · rw [hxc]
      exact hwell.created c hc
    · exact h.existed x hfin
  · rw [finalize_released]
    exact h.unreleased
  · rw [finalize_crashed]
    exact h.running

theorem assign (hc : c ∈ k.box) (hlive : (k.routing c).connState ≠ .finalize) (accepted : Bool) :
    Settled (k.assign c accepted sa) := by
  unfold Control.assign
  split_ifs
  · exact (h.setState hlive (by decide)).report .saRegistered
  have hlast : ConnectState.registeredPendingForAuth ≠ .finalize := by decide
  apply @finalize cfg _ _ (h.setState hlive hlast)
  · apply hwell.setState
    · rfl
    · rfl
    · intro hfin
      cases hfin
  · exact hc

theorem accept (testerSA : LogicalAddress) : Settled (k.accept testerSA) := by
  constructor
  · exact h.once
  · intro x hx hdel
    rcases mem_append.1 hx with hold | hnew
    · exact h.apart x hold hdel
    · rw [mem_singleton.1 hnew] at hdel
      exact Nat.lt_irrefl _ (hwell.deletedCreated _ hdel)
  · intro x hx w hw
    rw [accept_routing] at hw ⊢
    split_ifs at hw with hxnew
    · cases hw
    have hold := (mem_append.1 hx).resolve_right fun hmem =>
      hxnew (mem_singleton.1 hmem)
    have hcrtd := (hwell.waits x w hw).1
    rw [if_neg (Nat.ne_of_lt hcrtd)]
    exact (h.waiting x hold w hw).imp_left (mem_append_left _)
  · intro x hfin
    rw [accept_routing] at hfin
    split_ifs at hfin
    · cases hfin
    · exact Nat.lt_succ_of_lt (h.existed x hfin)
  · exact h.unreleased
  · exact h.running

theorem shutdownAll : Settled k.shutdownAll := by
  constructor
  · exact h.once
  · exact h.apart
  · intro x hx w hw
    rw [shutdownAll_routing] at hw ⊢
    split_ifs with hwbox
    · exact Or.inl hwbox
    · split_ifs at hw <;> exact h.waiting x hx w hw
  · intro x hfin
    rw [shutdownAll_routing] at hfin
    split_ifs at hfin with hbox
    · exact hwell.created x hbox
    · exact h.existed x hfin
  · exact h.unreleased
  · exact h.running

theorem deleteAll : Settled k.deleteAll := by
  constructor
  · apply List.Nodup.append h.once hwell.nodup
    intro x hdel hbox
    exact h.apart x hbox hdel
  · intro x hx
    cases hx
  · intro x hx
    cases hx
  · exact h.existed
  · exact h.unreleased
  · exact h.running

end Settled

theorem stays_accept (h : Settled k) (testerSA : LogicalAddress) : Stays k (k.accept testerSA) := by
  intro x hfin
  refine ⟨?_, rfl⟩
  rw [accept_routing, if_neg (Nat.ne_of_lt (h.existed x hfin))]
  exact hfin

theorem stays_shutdownAll : Stays k k.shutdownAll := by
  intro x hfin
  refine ⟨?_, rfl⟩
  rw [shutdownAll_routing]
  split_ifs
  · rfl
  · exact hfin

variable {s t u : Stack} {a : Action}

theorem answering_mem (hwell : WellFormed cfg (control s)) (h : answering cfg s = some c) :
    c ∈ s.connectionBox := by
  unfold answering at h
  split at h
  · next c' buf hdr hnext =>
    split_ifs at h
    cases h
    have hbuf := (nextMessage_spec hnext).2.1
    refine (hwell.receives c ?_).1
    change (s.connections c).inBuf.isSome = true
    rw [hbuf]
    rfl
  · cases h

theorem settled_change (hwell : WellFormed cfg (control s)) (h : Settled (control s))
    (hrcvs : Receives s) (hlvs : LeavesFinalized cfg s a) (hchg : Change cfg s a k) :
    Settled k ∧ Stays (control s) k := by
  have hmana : ∀ {x w : ConnId}, x ∈ s.connectionBox →
      (s.connections x).routingConnectionPtr = some w →
      (s.connections w).connState ≠ .finalize → w ∈ (control s).box :=
    fun hx hwts hlive => (h.waiting _ hx _ hwts).resolve_right hlive
  have hreqd : ∀ (c : ConnId) (sa : LogicalAddress) (info : UInt32),
      Stays (control s) ((control s).request c sa info) :=
    fun c sa info => stays_setRouting fun hfin => hfin
  cases hchg with
  | quiet => exact ⟨h, Stays.refl _⟩
  | crashed c count hconsuming hnone =>
    rw [hrcvs c count hconsuming] at hnone
    cases hnone
  | accepted testerSA => exact ⟨h.accept hwell testerSA, stays_accept h testerSA⟩
  | finalized c sa info hc =>
    constructor
    · exact (h.request info).finalize (hwell.request sa info) hc
    · exact (hreqd c sa info).trans stays_finalize
  | released c hc ha hmalf =>
    rw [(hlvs.1 ha).1] at hmalf
    cases hmalf
  | assigned c accepted sa info hc hlive =>
    have hst : (((control s).request c sa info).routing c).connState ≠ .finalize := by
      rw [Control.request, setRouting_routing_self]
      exact hlive
    constructor
    · exact (h.request info).assign (hwell.request sa info) hc hst accepted
    · exact (hreqd c sa info).trans (stays_assign hst)
  | repeated c accepted sa info hc hreg =>
    have hst : (((control s).request c sa info).routing c).connState ≠ .finalize := by
      rw [Control.request, setRouting_routing_self]
      intro hfin
      rcases hreg with hact | hpend
      · exact ConnectState.noConfusion (hact.symm.trans hfin)
      · exact ConnectState.noConfusion (hpend.symm.trans hfin)
    constructor
    · exact (h.request info).assign (hwell.request sa info) hc hst accepted
    · exact (hreqd c sa info).trans (stays_assign hst)
  | requested c sa info => exact ⟨h.request info, hreqd c sa info⟩
  | checked c other sa info hc =>
    constructor
    · apply (h.request info).setRouting
      · rfl
      intro w hw
      cases hw
      exact Or.inr hc
    · exact (hreqd c sa info).trans (stays_setRouting fun hfin => hfin)
  | answered c =>
    constructor
    · apply h.setRouting
      · rfl
      · exact fun w hw => Or.inl hw
    · exact stays_setRouting fun hfin => hfin
  | refused c w ha hanswer hwts =>
    have hw := hmana (answering_mem hwell hanswer) hwts ((hlvs.1 ha).2 c hanswer w hwts)
    have hansd : Settled ((control s).answer c) := by
      apply h.setRouting
      · rfl
      · exact fun w hw => Or.inl hw
    constructor
    · exact hansd.finalize hwell.answer hw
    · have hkept : Stays (control s) ((control s).answer c) := stays_setRouting fun hfin => hfin
      exact hkept.trans stays_finalize
  | tookOver c w confirm hc hflag hwts hnew =>
    have htaki : takingOver s (.aliveCheckTimeout c confirm) = some (c, w, confirm) := by
      dsimp only [takingOver]
      rw [hwts]
      exact if_pos ⟨hflag, mt (isRegistered_iff w).1 hnew⟩
    have hlive : (s.connections w).connState ≠ .finalize := hlvs.2 (c, w, confirm) htaki
    have hw := hmana hc hwts hlive
    have hoth : c ≠ w := (hwell.waits c w hwts).2.symm
    constructor
    · apply (h.assign hwell hw hlive _).finalize (hwell.assign (hwell.waits c w hwts).1 _ _)
      unfold Control.assign
      split_ifs
      · exact hc
      · exact (mem_swapRemove hwell.nodup).2 ⟨hc, hoth⟩
    · exact (stays_assign hlive).trans stays_finalize
  | shutdown => exact ⟨h.shutdownAll hwell, stays_shutdownAll⟩
  | deleted => exact ⟨h.deleteAll hwell, fun x hfin => ⟨hfin, rfl⟩⟩

structure Sound (cfg : DoipConf) (s : Stack) : Prop where
  wellFormed : WellFormed cfg (control s)
  settled : Settled (control s)
  receives : Receives s

theorem sound_init : Sound cfg initStack := by
  refine ⟨wellFormed_init, ?_, receives_of_none rfl⟩
  constructor
  · exact nodup_nil
  · intro c hc
    cases hc
  · intro c hc
    cases hc
  · intro c hfin
    cases hfin
  · rfl
  · rfl

theorem sound_step (h : Sound cfg s) (hlvs : LeavesFinalized cfg s a)
    (hstep : step cfg s a = some t) : Sound cfg t ∧ Stays (control s) (control t) := by
  obtain ⟨hchg, hkept⟩ := step_change h.wellFormed hstep
  obtain ⟨hsett, hsty⟩ := settled_change h.wellFormed h.settled h.receives hlvs hchg
  refine ⟨⟨wellFormed_change h.wellFormed hchg, hsett, ?_⟩, hsty⟩
  exact hkept h.receives fun ha => (hlvs.1 ha).1

theorem sound_run {as : List Action} (h : Sound cfg s)
    (hok : Meets (step cfg) (LeavesFinalized cfg) s as) (hrun : exec (step cfg) s as = some t) :
    Sound cfg t ∧ Stays (control s) (control t) := by
  refine @exec_invariant _ _ _ _ (fun t => Sound cfg t ∧ Stays (control s) (control t))
    ?_ _ _ _ ⟨h, Stays.refl _⟩ hok hrun
  intro t a u ht hlvs hstep
  obtain ⟨hsnd, hsty⟩ := sound_step ht.1 hlvs hstep
  exact ⟨hsnd, ht.2.trans hsty⟩

/-- After a connection has been finalized it stays so whatever happens, and reports nothing
more. No connection is deleted twice, and no released buffer is accessed. -/
theorem finalized_run {as bs : List Action} (hok : Meets (step cfg) (LeavesFinalized cfg) initStack
      (as ++ bs)) (has : exec (step cfg) initStack as = some t)
    (hbs : exec (step cfg) t bs = some u) (c : ConnId)
    (hfinal : (t.connections c).connState = .finalize) :
    (u.connections c).connState = .finalize ∧
      eventsOf (connectionEvents u.indications) c = eventsOf (connectionEvents t.indications) c ∧
      u.deleted.count c ≤ 1 ∧ u.released = [] ∧ u.crashed = false := by
  obtain ⟨hokas, hokbs⟩ := meets_append.1 hok
  obtain ⟨hsound, _⟩ := sound_run sound_init hokas has
  obtain ⟨hlast, hstays⟩ := sound_run hsound (hokbs t has) hbs
  obtain ⟨hstate, hevents⟩ := hstays c hfinal
  refine ⟨hstate, hevents, ?_, hlast.settled.unreleased, hlast.settled.running⟩
  exact List.nodup_iff_count_le_one.1 hlast.settled.once c

end

theorem finalized_run_contested :
    ∃ t u, exec (step (openVehicle 4)) initStack (contested ++ [.hangUp 1]) = some t ∧
      exec (step (openVehicle 4)) t [.aliveCheckTimeout 0 .noNeed] = some u ∧
      (u.connections 1).connState = .finalize ∧
      eventsOf (connectionEvents u.indications) 1 = eventsOf (connectionEvents t.indications) 1 ∧
      u.deleted.count 1 ≤ 1 ∧ u.released = [] ∧ u.crashed = false := by
  obtain ⟨t, ht, htwo⟩ := (Option.any_eq_true _ _).1 (show (exec (step (openVehicle 4)) initStack
    (contested ++ [.hangUp 1])).any (fun t => decide ((t.connections 1).connState = .finalize) &&
      (exec (step (openVehicle 4)) t [.aliveCheckTimeout 0 .noNeed]).isSome) = true by decide +kernel)
  obtain ⟨hfinal, hsome⟩ := Bool.and_eq_true_iff.1 htwo
  obtain ⟨u, hu⟩ := Option.isSome_iff_exists.1 hsome
  exact ⟨t, u, ht, hu, finalized_run (by decide +kernel) ht hu 1 (of_decide_eq_true hfinal)⟩

/-- The third connection hangs up while it waits; when the alive check runs out its routing is
activated. -/
theorem finalized_connection_registers :
    ∃ t u, exec (step (openVehicle 4)) initStack (contested ++ [.hangUp 2]) = some t ∧
      (t.connections 2).connState = .finalize ∧ 2 ∈ t.deleted ∧
      step (openVehicle 4) t (.aliveCheckTimeout 0 .noNeed) = some u ∧
      (u.connections 2).connState = .registeredRoutingActive ∧
      eventsOf (connectionEvents t.indications) 2 = [] ∧
      eventsOf (connectionEvents u.indications) 2 = [.saRegistered] := by
  obtain ⟨t, ht, htwo⟩ := (Option.any_eq_true _ _).1 (show (exec (step (openVehicle 4)) initStack
    (contested ++ [.hangUp 2])).any (fun t => (step (openVehicle 4) t (.aliveCheckTimeout 0 .noNeed)).any
      fun u => decide ((t.connections 2).connState = .finalize ∧ 2 ∈ t.deleted ∧
        (u.connections 2).connState = .registeredRoutingActive ∧
        eventsOf (connectionEvents t.indications) 2 = [] ∧
        eventsOf (connectionEvents u.indications) 2 = [.saRegistered])) = true by decide +kernel)
  obtain ⟨u, hu, hall⟩ := (Option.any_eq_true _ _).1 htwo
  obtain ⟨hfinal, hdeleted, hactive, hbefore, hafter⟩ := of_decide_eq_true hall
  exact ⟨t, u, ht, hfinal, hdeleted, hu, hactive, hbefore, hafter⟩

end TelAF.FinalizedConnections
