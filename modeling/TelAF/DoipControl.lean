import TelAF.DoipConnection
import Mathlib.Data.List.Nodup
import Mathlib.Tactic.Simps.Basic

/-!
# What the lives of connections depend on

`Control` keeps of a stack the routing state of each connection, whether it has its
reception buffer, the box, what was reported, deleted and accessed, and whether the
process is still alive. The operations
of the stack are given by their effects on it: most of them have none, the others are
the operations below.
-/

namespace TelAF.DoipControl
open DoipMessages DoipConnection Function List

section
variable {α : Type*} [DecidableEq α] {l : List α} {a : α}

theorem swapRemove_perm (h : a ∈ l) : (swapRemove l a).Perm (l.erase a) := by
  obtain ⟨before, after, rfl, hnot⟩ := eq_append_cons_of_mem h
  have hidx : (before ++ a :: after).idxOf a = before.length := by
    rw [idxOf_append_of_notMem hnot, idxOf_cons_self, Nat.add_zero]
  rw [erase_append_right _ hnot, erase_cons_head]
  unfold swapRemove
  rcases eq_nil_or_concat after with rfl | ⟨middle, last, rfl⟩
  · rw [getLast?_append_of_ne_nil _ (by simp)]
    simp [hidx]
  have hlast : (before ++ a :: (middle ++ [last])).getLast? = some last := by
    rw [getLast?_eq_some_iff]
    exact ⟨before ++ a :: middle, by simp⟩
  rw [concat_eq_append] at hidx ⊢
  rw [hlast]
  dsimp only
  rw [if_pos (by simp), hidx, set_append_right _ _ (Nat.le_refl _), Nat.sub_self, set_cons_zero,
    ← cons_append, ← append_assoc, dropLast_concat]
  exact List.Perm.append_left before (perm_append_singleton last middle).symm

theorem swapRemove_of_not_mem (h : a ∉ l) : swapRemove l a = l := by
  unfold swapRemove
  cases hlast : l.getLast? with
  | none => exact (getLast?_eq_none_iff.1 hlast).symm
  | some last =>
    dsimp only
    rw [if_neg h]

theorem mem_swapRemove {b : α} (h : l.Nodup) : b ∈ swapRemove l a ↔ b ∈ l ∧ b ≠ a := by
  by_cases ha : a ∈ l
  · rw [(swapRemove_perm ha).mem_iff, List.Nodup.mem_erase_iff h]
    exact And.comm
  rw [swapRemove_of_not_mem ha]
  constructor
  · intro hb
    exact ⟨hb, fun heq => ha (heq ▸ hb)⟩
  · exact And.left

theorem swapRemove_nodup (h : l.Nodup) : (swapRemove l a).Nodup := by
  by_cases ha : a ∈ l
  · exact (swapRemove_perm ha).nodup_iff.2 (h.erase a)
  · rw [swapRemove_of_not_mem ha]
    exact h

theorem length_swapRemove_le : (swapRemove l a).length ≤ l.length := by
  by_cases ha : a ∈ l
  · rw [(swapRemove_perm ha).length_eq]
    exact length_erase_le
  · have hsame := congrArg length (swapRemove_of_not_mem ha)
    exact Nat.le_of_eq hsame

end

structure Control where
  routing : ConnId → Routing
  receiving : ConnId → Bool
  box : List ConnId
  created : Nat
  nodes : Nat
  events : List (ConnId × ConnectionEvent)
  deleted : List ConnId
  released : List ConnId
  crashed : Bool

/-- The connection events among the indications. -/
def connectionEvents (l : List (ConnId × Indication)) : List (ConnId × ConnectionEvent) :=
  l.filterMap fun i => i.2.event?.map (Prod.mk i.1)

def control (s : Stack) : Control where
  routing := fun c => (s.connections c).toRouting
  receiving := fun c => (s.connections c).inBuf.isSome
  box := s.connectionBox
  created := s.created
  nodes := s.aliveCheckNcts
  events := connectionEvents s.indications
  deleted := s.deleted
  released := s.released
  crashed := s.crashed

namespace Control

variable (k : Control) (c : ConnId)

@[simps -fullyApplied receiving box created events deleted released crashed]
def setRouting (r : Routing) : Control := { k with routing := Function.update k.routing c r }

@[simps -fullyApplied routing receiving box created events deleted released crashed]
def report (event : ConnectionEvent) : Control := { k with events := k.events ++ [(c, event)] }

/-- A connection leaves the box; only an active one is reported. -/
def finalize : Control :=
  { (if (k.routing c).connState = .registeredRoutingActive then k.report c .saDeregistered else k) with
    routing := Function.update k.routing c { k.routing c with connState := .finalize }
    receiving := Function.update k.receiving c false
    box := swapRemove k.box c
    deleted := k.deleted ++ [c] }

/-- A connection is given an address; its routing is then activated or refused. -/
def assign (accepted : Bool) (sa : LogicalAddress) : Control :=
  if accepted then
    (k.setRouting c { k.routing c with
      testerSA := sa
      connState := .registeredRoutingActive }).report c .saRegistered
  else
    (k.setRouting c { k.routing c with
      testerSA := sa
      connState := .registeredPendingForAuth }).finalize c

/-- A request for routing keeps its address and its authentication information. -/
def request (sa : LogicalAddress) (info : UInt32) : Control :=
  k.setRouting c { k.routing c with raTesterSa := sa, authInfo := info }

/-- An alive check of `c` is started, on which `waiting` waits. -/
def check (waiting : ConnId) : Control :=
  k.setRouting c { k.routing c with
    singleAliveCheckFlag := true
    routingConnectionPtr := some waiting }

def answer : Control := k.setRouting c { k.routing c with singleAliveCheckFlag := false }

def accept (testerSA : LogicalAddress) : Control := { k with
  routing := Function.update k.routing k.created (newConnection testerSA).toRouting
  receiving := Function.update k.receiving k.created true
  created := k.created + 1
  box := k.box ++ [k.created] }

def shutdownAll : Control := { k with
  routing :=
    fun c => if c ∈ k.box then { k.routing c with connState := .finalize } else k.routing c
  receiving := fun c => if c ∈ k.box then false else k.receiving c }

def deleteAll : Control := { k with
  receiving := fun c => if c ∈ k.box then false else k.receiving c
  box := []
  deleted := k.deleted ++ k.box }

def registered (c : ConnId) : Prop :=
  (k.routing c).connState = .registeredRoutingActive ∨
    (k.routing c).connState = .registeredPendingForConf
deriving Decidable

variable (c' : ConnId) (r : Routing) (event : ConnectionEvent) (testerSA : LogicalAddress)

theorem setRouting_routing :
    (k.setRouting c r).routing c' = if c' = c then r else k.routing c' := update_apply ..

theorem finalize_routing : (k.finalize c).routing c' =
    if c' = c then { k.routing c with connState := .finalize } else k.routing c' :=
  update_apply ..

theorem finalize_receiving :
    (k.finalize c).receiving c' = if c' = c then false else k.receiving c' := update_apply ..

@[simp] theorem finalize_box : (k.finalize c).box = swapRemove k.box c := rfl

@[simp] theorem finalize_created : (k.finalize c).created = k.created := by
  unfold finalize
  split_ifs <;> rfl

theorem finalize_events : (k.finalize c).events =
    k.events ++ if (k.routing c).connState = .registeredRoutingActive then [(c, .saDeregistered)]
      else [] := by
  unfold finalize
  split_ifs
  · rfl
  · exact (append_nil _).symm

@[simp] theorem finalize_released : (k.finalize c).released = k.released := by
  unfold finalize
  split_ifs <;> rfl

@[simp] theorem finalize_crashed : (k.finalize c).crashed = k.crashed := by
  unfold finalize
  split_ifs <;> rfl

@[simp] theorem assign_created (accepted : Bool) (sa : LogicalAddress) :
    (k.assign c accepted sa).created = k.created := by
  unfold assign
  split_ifs <;> simp

theorem accept_routing : (k.accept testerSA).routing c' =
    if c' = k.created then (newConnection testerSA).toRouting else k.routing c' :=
  update_apply ..

theorem accept_receiving :
    (k.accept testerSA).receiving c' = if c' = k.created then true else k.receiving c' :=
  update_apply ..

theorem shutdownAll_routing : k.shutdownAll.routing c' =
    if c' ∈ k.box then { k.routing c' with connState := .finalize } else k.routing c' := rfl

theorem shutdownAll_receiving :
    k.shutdownAll.receiving c' = if c' ∈ k.box then false else k.receiving c' := rfl

theorem deleteAll_receiving :
    k.deleteAll.receiving c' = if c' ∈ k.box then false else k.receiving c' := rfl

end Control

/-- Whether an activation gets through the authentication and the confirmation. -/
def accepts (cfg : DoipConf) (confirm : UserConfirmResult) (authenInfo : UInt32) : Bool :=
  authorised cfg authenInfo && decide (confirm ≠ .reject)

variable {cfg : DoipConf} {confirm : UserConfirmResult} {s t : Stack} {c : ConnId} {k : Control}

theorem control_ext {k' : Control} (hrout : ∀ c, k.routing c = k'.routing c)
    (hrcvg : ∀ c, k.receiving c = k'.receiving c) (hbox : k.box = k'.box)
    (hcrtd : k.created = k'.created) (hnode : k.nodes = k'.nodes)
    (hevs : k.events = k'.events) (hdel : k.deleted = k'.deleted)
    (hreld : k.released = k'.released) (hcrsh : k.crashed = k'.crashed) : k = k' := by
  cases k
  cases k'
  cases funext hrout
  cases funext hrcvg
  cases hbox
  cases hcrtd
  cases hnode
  cases hevs
  cases hdel
  cases hreld
  cases hcrsh
  rfl

theorem control_modify (f : Connection → Connection) :
    control (s.modify c f) = { control s with
      routing := update (control s).routing c (f (s.connections c)).toRouting
      receiving := update (control s).receiving c (f (s.connections c)).inBuf.isSome } := by
  apply control_ext
  · intro c'
    by_cases hc : c' = c
    · subst hc
      simp [control, Stack.modify]
    · simp [control, Stack.modify, hc]
  · intro c'
    by_cases hc : c' = c
    · subst hc
      simp [control, Stack.modify]
    · simp [control, Stack.modify, hc]
  all_goals rfl

variable {f : Connection → Connection}

theorem control_modify_quiet
    (hrout : (f (s.connections c)).toRouting = (s.connections c).toRouting)
    (hrcvg : (f (s.connections c)).inBuf.isSome = (s.connections c).inBuf.isSome) :
    control (s.modify c f) = control s := by
  rw [control_modify, hrout, hrcvg]
  apply control_ext
  · intro c'
    exact congrFun (update_eq_self c _) c'
  · intro c'
    exact congrFun (update_eq_self c _) c'
  all_goals rfl

theorem control_modify_routing
    (hrcvg : (f (s.connections c)).inBuf.isSome = (s.connections c).inBuf.isSome) :
    control (s.modify c f) = (control s).setRouting c (f (s.connections c)).toRouting := by
  rw [control_modify, hrcvg]
  apply control_ext
  · intro c'
    rfl
  · intro c'
    exact congrFun (update_eq_self c _) c'
  all_goals rfl

@[simp] theorem control_send (m : Message) : control (s.send c m) = control s := by
  unfold Stack.send
  split_ifs <;> rfl

@[simp] theorem send_connections (m : Message) : (s.send c m).connections = s.connections := by
  unfold Stack.send
  split_ifs <;> rfl

@[simp] theorem control_activationRes (equipLA : LogicalAddress) (code : RaResCode) :
    control (routingActivationRes cfg s c equipLA code) = control s := control_send _

theorem control_reportConnectionEvent (event : ConnectionEvent) :
    control (reportConnectionEvent cfg s c event) = (control s).report c event := by
  apply control_ext
  case hevs =>
    change connectionEvents (s.indications ++ [_]) = _
    unfold connectionEvents
    rw [filterMap_append]
    rfl
  all_goals intros; rfl

theorem control_enter (state : ConnectState) : control (enter s c state) =
    (control s).setRouting c { (control s).routing c with connState := state } :=
  control_modify_routing rfl

theorem control_deleteConnection : control (deleteConnection s c) = { control s with
    receiving := update (control s).receiving c false
    box := swapRemove (control s).box c
    deleted := (control s).deleted ++ [c] } := by
  have hstop := control_modify (s := s) (c := c) fun conn => { conn with
    initialTimer := false
    generalTimer := false
    aliveCheckTimer := false
    inBuf := none
    udsBuf := none }
  apply control_ext
  · intro c'
    have hrout := congrArg (fun k => k.routing c') hstop
    refine hrout.trans ?_
    exact congrFun (update_eq_self c _) c'
  · intro c'
    exact congrArg (fun k => k.receiving c') hstop
  all_goals rfl

theorem control_finalize : control (finalize cfg s c) = (control s).finalize c := by
  unfold finalize Control.finalize
  rw [control_deleteConnection]
  have hst : ((control s).routing c).connState = (s.connections c).connState := rfl
  rw [hst]
  split_ifs with hactive
  · rw [control_reportConnectionEvent, control_enter]
    rfl
  · rw [control_enter]
    rfl

theorem control_routingActive : control (routingActive cfg s c) =
    ((control s).setRouting c { (control s).routing c with
      connState := .registeredRoutingActive }).report c .saRegistered := by
  unfold routingActive
  rw [control_reportConnectionEvent, control_enter]

theorem setRouting_setRouting (r r' : Routing) :
    (k.setRouting c r).setRouting c r' = k.setRouting c r' := by
  apply control_ext
  · intro c'
    exact congrFun (update_idem r r' k.routing) c'
  all_goals intros; rfl

@[simp] theorem setRouting_routing_self (r : Routing) :
    (k.setRouting c r).routing c = r := update_self ..

/-- A connection that is not active yet is finalized silently, whatever its state was. -/
theorem finalize_setState (state state' : ConnectState)
    (h : state ≠ .registeredRoutingActive)
    (h' : state' ≠ .registeredRoutingActive) (r : Routing) :
    (k.setRouting c { r with connState := state }).finalize c =
      (k.setRouting c { r with connState := state' }).finalize c := by
  unfold Control.finalize
  rw [setRouting_routing_self, setRouting_routing_self, if_neg h, if_neg h']
  apply control_ext
  · intro c'
    by_cases hc : c' = c
    · subst hc
      simp
    · simp [Control.setRouting]
  all_goals intros; rfl

theorem control_assign (sa : LogicalAddress) (authenInfo : UInt32) :
    control (assign cfg confirm s c sa authenInfo) =
      (control s).assign c (accepts cfg confirm authenInfo) sa := by
  have hasgn : control (s.modify c fun conn => { conn with testerSA := sa }) =
      (control s).setRouting c { (control s).routing c with testerSA := sa } :=
    control_modify_routing rfl
  unfold assign pendingForAuth checkRoutingActivationAuthen Control.assign accepts
  by_cases hauth : authorised cfg authenInfo
  · rw [if_pos hauth, hauth]
    unfold pendingForConf checkRoutingActivationConfirm
    cases confirm with
    | reject =>
      rw [control_finalize, control_activationRes, control_enter, control_enter, hasgn]
      simp only [setRouting_routing_self, setRouting_setRouting]
      exact finalize_setState .registeredPendingForConf .registeredPendingForAuth (by decide)
        (by decide) { (control s).routing c with testerSA := sa }
    | noNeed | pass =>
      rw [if_pos (by decide)]
      rw [control_routingActive, control_activationRes, control_enter, control_enter,
        hasgn]
      simp only [setRouting_routing_self, setRouting_setRouting]
  · have hfal : authorised cfg authenInfo = false := by simpa using hauth
    rw [if_neg hauth, hfal, Bool.false_and, if_neg (by decide)]
    rw [control_finalize, control_activationRes, control_enter, hasgn]
    simp only [setRouting_routing_self, setRouting_setRouting]

theorem control_refuseActivation (fromSa : LogicalAddress) (code : RaResCode) :
    control (refuseActivation cfg s c fromSa code) = (control s).finalize c := by
  unfold refuseActivation
  rw [control_finalize, control_activationRes]

theorem control_readAndDiscardMsg (len : Nat) : control (readAndDiscardMsg s c len) = control s := by
  unfold readAndDiscardMsg
  split_ifs <;> rfl

theorem control_headerNack (code : HeaderNackCode) (left : Nat) :
    control (respondHeaderNegativeAck cfg s c code left) =
      if code = .incorrectPatternFormat ∨ code = .invalidPayloadLength then (control s).finalize c
      else control s := by
  unfold respondHeaderNegativeAck
  split_ifs with h
  · rw [control_finalize, control_send]
  · rw [control_readAndDiscardMsg, control_send]

theorem isRegistered_iff (c : ConnId) :
    (s.connections c).isConnectionRegistered = true ↔ (control s).registered c := decide_eq_true_iff

theorem control_stop : control (stop s c) = { control s with
    receiving := update (control s).receiving c false
    deleted := (control s).deleted ++ [c] } := by
  have hdlt := control_deleteConnection (s := s) (c := c)
  apply control_ext
  · intro c'
    exact congrArg (fun k => k.routing c') hdlt
  · intro c'
    exact congrArg (fun k => k.receiving c') hdlt
  all_goals rfl

theorem control_foldl_shutdown (l : List ConnId) : control (l.foldl shutdown s) = { control s with
    routing := fun c => if c ∈ l then { (control s).routing c with connState := .finalize }
      else (control s).routing c
    receiving := fun c => if c ∈ l then false else (control s).receiving c } := by
  induction l generalizing s with
  | nil => simp
  | cons c rest ih =>
    have hfst : control (shutdown s c) = { control s with
        routing := update (control s).routing c
          { (control s).routing c with connState := .finalize }
        receiving := update (control s).receiving c false } := control_modify _
    rw [foldl_cons, ih, hfst]
    apply control_ext
    · intro c'
      by_cases hc : c' = c <;> by_cases hrest : c' ∈ rest <;> simp [hc]
    · intro c'
      by_cases hc : c' = c <;> by_cases hrest : c' ∈ rest <;> simp [hc]
    all_goals rfl

theorem control_foldl_stop (l : List ConnId) : control (l.foldl stop s) = { control s with
    receiving := fun c => if c ∈ l then false else (control s).receiving c
    deleted := (control s).deleted ++ l } := by
  induction l generalizing s with
  | nil => simp
  | cons c rest ih =>
    rw [foldl_cons, ih, control_stop]
    apply control_ext
    case hrcvg =>
      intro c'
      by_cases hc : c' = c <;> by_cases hrest : c' ∈ rest <;> simp [hc]
    case hdel => simp
    all_goals intros; rfl

theorem control_serverCreateConnection (testerSA : LogicalAddress)
    (h : s.connectionBox.length < cfg.maxSockNum) :
    control (serverCreateConnection cfg s testerSA) = (control s).accept testerSA := by
  unfold serverCreateConnection
  rw [if_neg (Nat.not_le.2 h)]
  apply control_ext
  · intro c'
    by_cases hc : c' = s.created
    · subst hc
      simp [control, Control.accept]
    · simp [control, Control.accept, hc]
  · intro c'
    by_cases hc : c' = s.created
    · subst hc
      simp [control, Control.accept, newConnection]
    · simp [control, Control.accept, hc]
  all_goals rfl

@[simp] theorem control_dropDiag : control (dropDiag s c) = control s := control_modify_quiet rfl rfl

theorem control_setBuffer (buf : Buffer) (h : (control s).receiving c = true) :
    control (setBuffer s c buf) = control s := control_modify_quiet rfl h.symm

theorem control_diagRefused (ta sa : LogicalAddress) (code : DiagNackCode) :
    control (diagRefused cfg s c ta sa code) = control s ∨
      control (diagRefused cfg s c ta sa code) = (control s).finalize c := by
  unfold diagRefused
  rw [control_dropDiag]
  split_ifs
  · right
    rw [control_finalize, control_send]
  · left
    exact control_send _

theorem control_indicate_uds (sa ta : LogicalAddress) (taType : TaType) (data : List UInt8) :
    control (s.indicate c (.uds sa ta taType data)) = control s := by
  apply control_ext
  case hevs =>
    change connectionEvents (s.indications ++ [_]) = connectionEvents s.indications
    unfold connectionEvents
    simp [Indication.event?]
  all_goals intros; rfl

theorem control_informUdsMessage {sa ta : LogicalAddress} {data : List UInt8}
    (h : informUdsMessage cfg s c sa ta data = some t) : control t = control s := by
  unfold informUdsMessage at h
  split_ifs at h
  all_goals
    cases h
    exact control_indicate_uds ..

/-- A diagnostic message has no effect on its connection or finalizes it; then it has failed. -/
def DiagOutcome (s : Stack) (c : ConnId) (r : Stack × DiagResult) : Prop :=
  control r.1 = control s ∨ control r.1 = (control s).finalize c ∧ r.2 = .failed

theorem diagOutcome_refused (ta sa : LogicalAddress) (code : DiagNackCode) :
    DiagOutcome s c (diagRefused cfg s c ta sa code, .failed) := by
  rcases control_diagRefused ta sa code with h | h
  · exact Or.inl h
  · exact Or.inr ⟨h, rfl⟩

theorem secondHandler_outcome :
    DiagOutcome s c (diagnosticMsgSecondHandler cfg s c) := by
  unfold diagnosticMsgSecondHandler
  dsimp only
  split_ifs
  · right
    rw [control_dropDiag, control_headerNack]
    exact ⟨rfl, rfl⟩
  iterate 4 exact diagOutcome_refused ..
  split
  · exact diagOutcome_refused ..
  next t hinform =>
  left
  rw [control_send, control_dropDiag]
  exact control_informUdsMessage hinform

theorem diagnosticMsgFirstHandler_outcome (allocated : Bool) (data : Memory)
    (pos payloadLen receivedLen : Nat) :
    DiagOutcome s c (diagnosticMsgFirstHandler cfg s c allocated data pos payloadLen receivedLen) := by
  have hqui : control (s.modify c fun conn => { conn with
      udsBuf := some ((conn.udsBuf.getD Memory.zero).write 0
        (data.read pos (min payloadLen receivedLen)))
      udsTotalLen := payloadLen
      udsReceived := receivedLen }) = control s := control_modify_quiet rfl rfl
  unfold diagnosticMsgFirstHandler
  split_ifs
  · exact Or.inl rfl
  · unfold DiagOutcome
    rw [← hqui]
    exact secondHandler_outcome
  · exact Or.inl hqui

end TelAF.DoipControl
