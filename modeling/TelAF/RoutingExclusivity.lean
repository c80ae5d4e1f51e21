import TelAF.DoipChanges
import TelAF.TransitionRuns

/-!
# One connection for each address of a tester

No two connections of the box are registered for the same address, as long as an address
that is handed over is still free. A connection that asks for the address of another one
waits for the alive check of that one. While it waits it can ask for another address; when
the alive check runs out it is given the address it asked for last, which nobody looks up.
-/

namespace TelAF.RoutingExclusivity
open TransitionRuns DoipMessages DoipConnection DoipControl DoipChanges Control

/-- Connections of the box that are registered for one address are the same. -/
def Exclusive (k : Control) : Prop :=
  ∀ x ∈ k.box, ∀ y ∈ k.box, k.registered x → k.registered y →
    (k.routing x).testerSA = (k.routing y).testerSA → x = y

/-- An address is handed over only while no other connection is registered for it. -/
def FreeAddress (cfg : DoipConf) (s : Stack) (a : Action) : Prop :=
  ∀ p ∈ takingOver s a, p.2.1 ∈ s.connectionBox →
    accepts cfg p.2.2 (s.connections p.2.1).authInfo = true →
    ∀ x ∈ s.connectionBox, x ≠ p.1 → (s.connections x).isConnectionRegistered = true →
      (s.connections x).testerSA ≠ (s.connections p.2.1).raTesterSa
deriving Decidable

section
variable {cfg : DoipConf} {k k' : Control} {c w : ConnId} {sa : LogicalAddress}

theorem registered_setRouting {r : Routing} (hst : r.connState = (k.routing c).connState)
    (x : ConnId) : (k.setRouting c r).registered x ↔ k.registered x := by
  unfold registered
  rw [setRouting_routing]
  split_ifs with hx
  · rw [hst, hx]
  · rfl

theorem registered_finalize (x : ConnId) :
    (k.finalize c).registered x ↔ k.registered x ∧ x ≠ c := by
  unfold registered
  rw [finalize_routing]
  split_ifs with hx <;> simp [hx]

theorem finalize_testerSA (x : ConnId) :
    ((k.finalize c).routing x).testerSA = (k.routing x).testerSA := by
  rw [finalize_routing]
  split_ifs with hx
  · rw [hx]
  · rfl

section

variable (h : Exclusive k)
include h

/-- The connections that are registered afterwards were registered for the same addresses, or
one of them has been given a free address. -/
theorem Exclusive.change (hkept : ∀ x ∈ k'.box, k'.registered x → x ∈ k.box ∧
      (k.registered x ∧ (k'.routing x).testerSA = (k.routing x).testerSA ∨
        x = w ∧ (k'.routing x).testerSA = sa))
    (hfree : ∀ x ∈ k'.box, x ≠ w → k'.registered x → (k'.routing x).testerSA ≠ sa) :
    Exclusive k' := by
  intro x hx y hy hrx hry hsame
  by_cases hxw : x = w
  · by_cases hyw : y = w
    · rw [hxw, hyw]
    obtain ⟨hxbox, hxold⟩ := hkept x hx hrx
    obtain ⟨hybox, hyold⟩ := hkept y hy hry
    have hyreg := hyold.resolve_right fun hnew => hyw hnew.1
    rcases hxold with ⟨hxreg, hxsa⟩ | ⟨_, hxsa⟩
    · apply h x hxbox y hybox hxreg hyreg.1
      rw [← hxsa, hsame, hyreg.2]
    · exact absurd (hsame.symm.trans hxsa) (hfree y hy hyw hry)
  · obtain ⟨hxbox, hxold⟩ := hkept x hx hrx
    obtain ⟨hybox, hyold⟩ := hkept y hy hry
    have hxreg := hxold.resolve_right fun hnew => hxw hnew.1
    rcases hyold with ⟨hyreg, hysa⟩ | ⟨_, hysa⟩
    · apply h x hxbox y hybox hxreg.1 hyreg
      rw [← hxreg.2, hsame, hysa]
    · exact absurd (hsame.trans hysa) (hfree x hx hxw hrx)

theorem Exclusive.setRouting {r : Routing} (hst : r.connState = (k.routing c).connState)
    (hsa : r.testerSA = (k.routing c).testerSA) : Exclusive (k.setRouting c r) := by
  have hkept : ∀ x, ((k.setRouting c r).routing x).testerSA = (k.routing x).testerSA := by
    intro x
    rw [setRouting_routing]
    split_ifs with hx
    · rw [hsa, hx]
    · rfl
  intro x hx y hy hrx hry hsame
  rw [registered_setRouting hst] at hrx hry
  rw [hkept, hkept] at hsame
  exact h x hx y hy hrx hry hsame

theorem Exclusive.finalize (hnd : k.box.Nodup) : Exclusive (k.finalize c) := by
  intro x hx y hy hrx hry hsame
  rw [finalize_testerSA, finalize_testerSA] at hsame
  apply h x ((mem_swapRemove hnd).1 hx).1 y ((mem_swapRemove hnd).1 hy).1
  · exact (registered_finalize x).1 hrx |>.1
  · exact (registered_finalize y).1 hry |>.1
  · exact hsame

theorem Exclusive.request (info : UInt32) : Exclusive (k.request c sa info) := h.setRouting rfl rfl

theorem Exclusive.accept (testerSA : LogicalAddress) : Exclusive (k.accept testerSA) := by
  have hkept : ∀ x ∈ (k.accept testerSA).box, (k.accept testerSA).registered x →
      x ∈ k.box ∧ k.registered x ∧ x ≠ k.created := by
    intro x hx hrx
    unfold registered at hrx
    rw [accept_routing] at hrx
    split_ifs at hrx with hnew
    · rcases hrx with hst | hst <;> cases hst
    · have hold := (List.mem_append.1 hx).resolve_right fun hmem => hnew (List.mem_singleton.1 hmem)
      exact ⟨hold, hrx, hnew⟩
  intro x hx y hy hrx hry hsame
  obtain ⟨hxbox, hxreg, hxold⟩ := hkept x hx hrx
  obtain ⟨hybox, hyreg, hyold⟩ := hkept y hy hry
  rw [accept_routing, accept_routing, if_neg hxold, if_neg hyold] at hsame
  exact h x hxbox y hybox hxreg hyreg hsame

end

variable {x : ConnId}

theorem assign_box_subset (hnd : k.box.Nodup) (accepted : Bool)
    (hx : x ∈ (k.assign w accepted sa).box) : x ∈ k.box := by
  unfold Control.assign at hx
  split_ifs at hx
  · exact hx
  · exact ((mem_swapRemove hnd).1 hx).1

theorem assign_routing_of_ne (accepted : Bool) (hx : x ≠ w) :
    (k.assign w accepted sa).routing x = k.routing x := by
  unfold Control.assign
  split_ifs
  · rw [Control.report_routing, Control.setRouting_routing, if_neg hx]
  · rw [Control.finalize_routing, if_neg hx, Control.setRouting_routing, if_neg hx]

variable {accepted : Bool}

theorem assign_registered_self (h : (k.assign w accepted sa).registered w) :
    accepted = true ∧ ((k.assign w accepted sa).routing w).testerSA = sa := by
  unfold Control.assign at h ⊢
  cases accepted with
  | true =>
    refine ⟨rfl, ?_⟩
    rw [if_pos rfl, Control.report_routing, setRouting_routing_self]
  | false =>
    rw [if_neg Bool.false_ne_true, registered_finalize] at h
    exact absurd rfl h.2

theorem assign_registered_of_ne (hx : x ≠ w) :
    (k.assign w accepted sa).registered x ↔ k.registered x := by
  unfold registered
  rw [assign_routing_of_ne accepted hx]

/-- Of the connections that are left after an address has been given, only those that are left
had to be registered for other addresses. -/
theorem Exclusive.assignWithin (h : Exclusive k) (hnd : k.box.Nodup)
    (hbox : ∀ x ∈ k'.box, x ∈ (k.assign w accepted sa).box)
    (hreg : ∀ x, k'.registered x → (k.assign w accepted sa).registered x)
    (hsa : ∀ x, (k'.routing x).testerSA = ((k.assign w accepted sa).routing x).testerSA)
    (hfree : accepted = true → w ∈ k.box →
      ∀ x ∈ k'.box, x ≠ w → k.registered x →
        (k.routing x).testerSA ≠ sa) : Exclusive k' := by
  have hoth : ∀ x ∈ k'.box, x ≠ w → k'.registered x →
      x ∈ k.box ∧ k.registered x ∧ (k'.routing x).testerSA = (k.routing x).testerSA := by
    intro x hx hxw hrx
    refine ⟨assign_box_subset hnd accepted (hbox x hx), ?_, ?_⟩
    · exact (assign_registered_of_ne hxw).1 (hreg x hrx)
    · rw [hsa, assign_routing_of_ne accepted hxw]
  by_cases hgvn : w ∈ k'.box ∧ k'.registered w
  · obtain ⟨haccd, hgive⟩ := assign_registered_self (hreg w hgvn.2)
    have hw := assign_box_subset hnd accepted (hbox w hgvn.1)
    apply @Exclusive.change _ _ w sa h
    · intro x hx hrx
      by_cases hxw : x = w
      · rw [hxw, hsa w]
        exact ⟨hw, Or.inr ⟨rfl, hgive⟩⟩
      · obtain ⟨hold, hkept⟩ := hoth x hx hxw hrx
        exact ⟨hold, Or.inl hkept⟩
    · intro x hx hxw hrx
      obtain ⟨_, hxreg, hxsa⟩ := hoth x hx hxw hrx
      rw [hxsa]
      exact hfree haccd hw x hx hxw hxreg
  · have hne : ∀ x ∈ k'.box, k'.registered x → x ≠ w := by
      intro x hx hrx hxw
      subst hxw
      exact hgvn ⟨hx, hrx⟩
    intro x hx y hy hrx hry hsame
    obtain ⟨hxbox, hxreg, hxsa⟩ := hoth x hx (hne x hx hrx) hrx
    obtain ⟨hybox, hyreg, hysa⟩ := hoth y hy (hne y hy hry) hry
    rw [hxsa, hysa] at hsame
    exact h x hxbox y hybox hxreg hyreg hsame

theorem Exclusive.assign (h : Exclusive k) (hnd : k.box.Nodup)
    (hfree : ∀ x ∈ k.box, x ≠ w → k.registered x → (k.routing x).testerSA ≠ sa) :
    Exclusive (k.assign w accepted sa) := by
  apply h.assignWithin hnd
  · exact fun _ hx => hx
  · exact fun _ hrx => hrx
  · exact fun _ => rfl
  · exact fun _ _ x hx => hfree x (assign_box_subset hnd accepted hx)

/-- Of an address handed over, the connection whose alive check has run out is not asked. -/
theorem Exclusive.takeOver (h : Exclusive k) (hnd : k.box.Nodup)
    (hfree : accepted = true → w ∈ k.box →
      ∀ x ∈ k.box, x ≠ c → k.registered x → (k.routing x).testerSA ≠ sa) :
    Exclusive ((k.assign w accepted sa).finalize c) := by
  have hasgn : (k.assign w accepted sa).box.Nodup := by
    unfold Control.assign
    split_ifs
    · exact hnd
    · exact swapRemove_nodup hnd
  apply h.assignWithin hnd
  · exact fun x hx => ((mem_swapRemove hasgn).1 hx).1
  · exact fun x hrx => ((registered_finalize x).1 hrx).1
  · exact fun x => finalize_testerSA x
  intro haccd hw x hx _ hrx
  obtain ⟨hbox, hxc⟩ := (mem_swapRemove hasgn).1 hx
  exact hfree haccd hw x (assign_box_subset hnd accepted hbox) hxc hrx

variable {s t : Stack} {a : Action}

/-- One event keeps the addresses apart if it hands none over that is taken. -/
theorem exclusive_change (hwell : WellFormed cfg (control s)) (h : Exclusive (control s))
    (hfree : FreeAddress cfg s a) (hchg : Change cfg s a k) : Exclusive k := by
  cases hchg with
  | quiet | crashed => exact h
  | accepted testerSA => exact h.accept testerSA
  | finalized c sa info => exact (h.request info).finalize hwell.nodup
  | released c => exact h.finalize hwell.nodup
  | assigned c accepted sa info hc _ hnew hunused =>
    apply (h.request info).assign hwell.nodup
    intro x hx hxc hrx
    rw [request, setRouting_routing, if_neg hxc]
    exact hunused x hx ((request_registered sa info x).1 hrx)
  | repeated c accepted sa info hc hreg hsame =>
    apply (h.request info).assign hwell.nodup
    intro x hx hxc hrx hxsa
    rw [request, setRouting_routing, if_neg hxc] at hxsa
    exact hxc (h x hx c hc ((request_registered sa info x).1 hrx) hreg (hxsa.trans hsame.symm))
  | requested c sa info => exact h.request info
  | checked c other sa info => exact (h.request info).setRouting rfl rfl
  | answered c => exact h.setRouting rfl rfl
  | refused c w =>
    have hansd : Exclusive ((control s).answer c) := h.setRouting rfl rfl
    exact hansd.finalize hwell.nodup
  | tookOver c w confirm hc hflag hwaits hnew =>
    apply h.takeOver hwell.nodup
    intro haccd hw x hx hxc hrx
    have htaki : takingOver s (.aliveCheckTimeout c confirm) = some (c, w, confirm) := by
      dsimp only [takingOver]
      rw [hwaits]
      exact if_pos ⟨hflag, mt (isRegistered_iff w).1 hnew⟩
    exact hfree (c, w, confirm) htaki hw haccd x hx hxc ((isRegistered_iff x).2 hrx)
  | shutdown =>
    intro x hx y hy hrx
    have hbox : x ∈ (control s).box := hx
    unfold registered at hrx
    rw [shutdownAll_routing, if_pos hbox] at hrx
    rcases hrx with hst | hst <;> cases hst
  | deleted =>
    intro x hx
    cases hx

/-- The response of the UDS layer finds the connection that is registered for its address. -/
theorem findByAddr_of_exclusive (h : Exclusive (control s))
    (hx : x ∈ s.connectionBox) (hreg : (control s).registered x) :
    s.findConnectionByLogicalAddr (s.connections x).testerSA = some x := by
  cases hfnd : s.findConnectionByLogicalAddr (s.connections x).testerSA with
  | none =>
    unfold Stack.findConnectionByLogicalAddr at hfnd
    rw [List.find?_eq_none] at hfnd
    have hnot := hfnd x hx
    rw [Bool.and_eq_true, decide_eq_true_iff, isRegistered_iff] at hnot
    exact absurd ⟨rfl, hreg⟩ hnot
  | some y =>
    obtain ⟨hy, hyreg, hsame⟩ := findByAddr_some hfnd
    rw [h y hy x hx hyreg hreg hsame]

theorem exclusive_run {as : List Action} (hok : Meets (step cfg) (FreeAddress cfg) initStack as)
    (hrun : exec (step cfg) initStack as = some t) :
    WellFormed cfg (control t) ∧ Exclusive (control t) := by
  refine @exec_invariant _ _ _ _ (fun s => WellFormed cfg (control s) ∧ Exclusive (control s))
    ?_ _ _ _ ?_ hok hrun
  · intro s a t hs hfree hstep
    have hchg := (step_change hs.1 hstep).1
    exact ⟨wellFormed_change hs.1 hchg, exclusive_change hs.1 hs.2 hfree hchg⟩
  · refine ⟨wellFormed_init, ?_⟩
    intro x hx
    cases hx

/-- Two connections of the box in the routing-active state have different addresses, and the
address of each leads to that connection. -/
theorem activeConnections_run {as : List Action}
    (hok : Meets (step cfg) (FreeAddress cfg) initStack as)
    (hrun : exec (step cfg) initStack as = some t) :
    ∀ x ∈ t.connectionBox, (t.connections x).connState = .registeredRoutingActive →
      (∀ y ∈ t.connectionBox, (t.connections y).connState = .registeredRoutingActive →
        (t.connections x).testerSA = (t.connections y).testerSA → x = y) ∧
      t.findConnectionByLogicalAddr (t.connections x).testerSA = some x := by
  obtain ⟨_, h⟩ := exclusive_run hok hrun
  intro x hx hactive
  have hregistered : (control t).registered x := Or.inl hactive
  constructor
  · intro y hy hyactive hsame
    exact h x hx y hy hregistered (Or.inl hyactive) hsame
  · exact findByAddr_of_exclusive h hx hregistered

/-- Whatever happens, no more connections are in the box than it has room for, only those of the box
that are not finalized have a reception buffer, and none waits for an alive check of itself. -/
theorem wellFormed_run {as : List Action} (hrun : exec (step cfg) initStack as = some t) :
    WellFormed cfg (control t) :=
  exec_invariant_of_step (fun _ _ _ h hstep => wellFormed_step h hstep) wellFormed_init hrun

end

def openVehicle (maxSockNum : Nat) : DoipConf where
  entitySA := 0x1000
  maxSockNum := maxSockNum
  maxDataSize := 4096
  authEnableStatus := false
  authInfo := 0
  isFunctionalAddress := fun _ => false

def routingRequest (sa : LogicalAddress) : List UInt8 :=
  [0x02, 0xFD, 0x00, 0x05, 0x00, 0x00, 0x00, 0x07,
    (sa / 256).toUInt8, sa.toUInt8, 0x00, 0x00, 0x00, 0x00, 0x00]

/-- The events of a message that arrives in one piece. -/
def messageEvents (c : ConnId) (bytes : List UInt8) (confirm : UserConfirmResult) : List Action :=
  [.receive c (some bytes), .consume, .round confirm true, .round confirm true]

/-- Two testers have their addresses; a third connection asks for one of them. -/
def contested : List Action :=
  [.accept 0] ++ messageEvents 0 (routingRequest 0x0E01) .noNeed ++
    [.accept 0] ++ messageEvents 1 (routingRequest 0x0E02) .noNeed ++
    [.accept 0] ++ messageEvents 2 (routingRequest 0x0E01) .noNeed

/-- The third connection is given the address it asked for. -/
theorem activeConnections_run_contested :
    ∃ t, exec (step (openVehicle 4)) initStack (contested ++ [.aliveCheckTimeout 0 .noNeed]) = some t ∧
      ∀ x ∈ t.connectionBox, (t.connections x).connState = .registeredRoutingActive →
        (∀ y ∈ t.connectionBox, (t.connections y).connState = .registeredRoutingActive →
          (t.connections x).testerSA = (t.connections y).testerSA → x = y) ∧
        t.findConnectionByLogicalAddr (t.connections x).testerSA = some x := by
  obtain ⟨t, hrun⟩ := Option.isSome_iff_exists.1 (show (exec (step (openVehicle 4)) initStack
    (contested ++ [.aliveCheckTimeout 0 .noNeed])).isSome = true by decide +kernel)
  exact ⟨t, hrun, activeConnections_run (by decide +kernel) hrun⟩

theorem wellFormed_run_contested :
    ∃ t, exec (step (openVehicle 4)) initStack contested = some t ∧
      WellFormed (openVehicle 4) (control t) := by
  obtain ⟨t, hrun⟩ := Option.isSome_iff_exists.1
    (show (exec (step (openVehicle 4)) initStack contested).isSome = true by decide +kernel)
  exact ⟨t, hrun, wellFormed_run hrun⟩

/-- It asks for the address of the second connection while it waits, and has it as well. -/
theorem activeConnections_share_address :
    ∃ t, exec (step (openVehicle 4)) initStack
        (contested ++ messageEvents 2 (routingRequest 0x0E02) .noNeed ++
          [.aliveCheckTimeout 0 .noNeed]) = some t ∧
      1 ∈ t.connectionBox ∧ 2 ∈ t.connectionBox ∧
      (t.connections 1).connState = .registeredRoutingActive ∧
      (t.connections 2).connState = .registeredRoutingActive ∧
      (t.connections 1).testerSA = (t.connections 2).testerSA := by
  obtain ⟨t, hrun, hall⟩ :=
    (Option.any_eq_true _ _).1 (show (exec (step (openVehicle 4)) initStack
    (contested ++ messageEvents 2 (routingRequest 0x0E02) .noNeed ++
      [.aliveCheckTimeout 0 .noNeed])).any (fun t => decide (1 ∈ t.connectionBox ∧
        2 ∈ t.connectionBox ∧ (t.connections 1).connState = .registeredRoutingActive ∧
        (t.connections 2).connState = .registeredRoutingActive ∧
        (t.connections 1).testerSA = (t.connections 2).testerSA)) = true by decide +kernel)
  exact ⟨t, hrun, of_decide_eq_true hall⟩

end TelAF.RoutingExclusivity
