import TelAF.DoipControl

/-!
# What one event can do to the connections

`Change` lists the effects of one event on the control part of the stack, with the
conditions under which each of them occurs. `step_change` is the only result that goes
through the handlers; every invariant of the connections is a case analysis of `Change`.
It rests on `WellFormed`, which every event preserves and which shows that the alive
check of all connections is never performed: a box that is full of registered
connections has no room for one that asks.
-/

namespace TelAF.DoipChanges
open DoipMessages DoipConnection DoipControl Function List Option

/-! ## The messages at hand -/

variable (cfg : DoipConf)

/-- The message that the next round of the loop processes. -/
def nextMessage (s : Stack) : Option (ConnId × Buffer × Header) :=
  match s.consuming with
  | none => none
  | some (c, count) =>
    match (s.connections c).inBuf with
    | none => none
    | some buf =>
      let hdr := unpackHeaderStruct buf.data buf.dataPos
      if (buf.dataSize ≥ headerGenericLength ∧ count < batchSize) ∧
          (s.connections c).connState ≠ .finalize ∧ headerError cfg hdr = none then
        some (c, buf, hdr)
      else none

/-- An alive check response whose payload is not an address. -/
def malformedAliveCheck (s : Stack) : Bool :=
  match nextMessage cfg s with
  | some (_, _, hdr) =>
    decide (hdr.payloadType = .aliveCheckResponse ∧ hdr.payloadLen ≠ logicalAddressLength)
  | none => false

/-- The connection that answers an alive check with the next message. -/
def answering (s : Stack) : Option ConnId :=
  match nextMessage cfg s with
  | some (c, buf, hdr) =>
    if hdr.payloadType = .aliveCheckResponse ∧ hdr.payloadLen = logicalAddressLength ∧
        buf.data.read16 (buf.dataPos + headerGenericLength) = (s.connections c).testerSA ∧
        (s.connections c).singleAliveCheckFlag then some c
    else none
  | none => none

/-- A well-formed routing activation request: its address and authentication information. -/
def activationRequest (buf : Buffer) (hdr : Header) : Option (LogicalAddress × UInt32) :=
  let pos := buf.dataPos + headerGenericLength
  let fromSa := buf.data.read16 pos
  let type := buf.data (pos + 2)
  if hdr.payloadType = .routingActiveRequest ∧
      (hdr.payloadLen = raMandLen ∨ hdr.payloadLen = raAllLen) ∧
      (0x0E00 ≤ fromSa ∧ fromSa ≤ 0x0FFF) ∧ ¬ (0x02 ≤ type ∧ type ≤ 0xDF) then
    some (fromSa, if hdr.payloadLen = raAllLen then buf.data.read32 (pos + 7) else 0)
  else none

/-- A registered connection asks once more for its own address. -/
def repeatsActivation (s : Stack) : Bool :=
  match nextMessage cfg s with
  | some (c, buf, hdr) =>
    match activationRequest buf hdr with
    | some (fromSa, _) =>
      (s.connections c).isConnectionRegistered && decide (fromSa = (s.connections c).testerSA)
    | none => false
  | none => false

/-- The connection whose alive check runs out, with the one that waits for it and is not
registered. -/
def takingOver (s : Stack) : Action → Option (ConnId × ConnId × UserConfirmResult)
  | .aliveCheckTimeout c confirm =>
    match (s.connections c).routingConnectionPtr with
    | some waiting =>
      if (s.connections c).singleAliveCheckFlag ∧
          ¬ (s.connections waiting).isConnectionRegistered then some (c, waiting, confirm)
      else none
    | none => none
  | _ => none

/-! ## Well-formed stacks -/

structure WellFormed (k : Control) : Prop where
  nodup : k.box.Nodup
  created : ∀ c ∈ k.box, c < k.created
  room : k.box.length ≤ cfg.maxSockNum
  noAllCheck : ∀ c, (k.routing c).allAliveCheckFlag = false
  receives : ∀ c, k.receiving c = true → c ∈ k.box ∧ (k.routing c).connState ≠ .finalize
  waits : ∀ c w, (k.routing c).routingConnectionPtr = some w → w < k.created ∧ w ≠ c
  eventsCreated : ∀ i ∈ k.events, i.1 < k.created
  deletedCreated : ∀ c ∈ k.deleted, c < k.created

def isRound : Action → Bool
  | .round .. => true
  | _ => false

inductive Change (s : Stack) : Action → Control → Prop
  | quiet {a : Action} : Change s a (control s)
  | crashed {a : Action} (c : ConnId) (count : Nat) (hcons : s.consuming = some (c, count))
      (hnone : (control s).receiving c = false) : Change s a { control s with crashed := true }
  | accepted {a : Action} (testerSA : LogicalAddress)
      (hroom : s.connectionBox.length < cfg.maxSockNum) : Change s a ((control s).accept testerSA)
  | finalized {a : Action} (c : ConnId) (sa : LogicalAddress) (info : UInt32)
      (hc : c ∈ s.connectionBox) : Change s a (((control s).request c sa info).finalize c)
  | released {a : Action} (c : ConnId) (hc : c ∈ s.connectionBox)
      (ha : isRound a = true) (hmalf : malformedAliveCheck cfg s = true) :
      Change s a { (control s).finalize c with released := s.released ++ [c] }
  | assigned {a : Action} (c : ConnId) (accepted : Bool) (sa : LogicalAddress) (info : UInt32)
      (hc : c ∈ s.connectionBox) (hlive : (s.connections c).connState ≠ .finalize)
      (hnew : ¬ (control s).registered c)
      (hfree : ∀ x ∈ s.connectionBox, (control s).registered x → (s.connections x).testerSA ≠ sa) :
      Change s a (((control s).request c sa info).assign c accepted sa)
  | repeated {a : Action} (c : ConnId) (accepted : Bool) (sa : LogicalAddress) (info : UInt32)
      (hc : c ∈ s.connectionBox) (hreg : (control s).registered c)
      (hsame : (s.connections c).testerSA = sa) (ha : isRound a = true)
      (hrepeats : repeatsActivation cfg s = true) :
      Change s a (((control s).request c sa info).assign c accepted sa)
  | requested {a : Action} (c : ConnId) (sa : LogicalAddress) (info : UInt32)
      (hc : c ∈ s.connectionBox) : Change s a ((control s).request c sa info)
  | checked {a : Action} (c other : ConnId) (sa : LogicalAddress) (info : UInt32)
      (hc : c ∈ s.connectionBox) (hnew : ¬ (control s).registered c) (hoth : other ≠ c) :
      Change s a (((control s).request c sa info).check other c)
  | answered {a : Action} (c : ConnId) : Change s a ((control s).answer c)
  | refused {a : Action} (c w : ConnId) (ha : isRound a = true)
      (hansw : answering cfg s = some c)
      (hwts : (s.connections c).routingConnectionPtr = some w)
      (hnew : ¬ (control s).registered w) :
      Change s a (((control s).answer c).finalize w)
  | tookOver (c w : ConnId) (confirm : UserConfirmResult) (hc : c ∈ s.connectionBox)
      (hflag : (s.connections c).singleAliveCheckFlag = true)
      (hwts : (s.connections c).routingConnectionPtr = some w)
      (hnew : ¬ (control s).registered w) :
      Change s (.aliveCheckTimeout c confirm)
        (((control s).assign w (accepts cfg confirm (s.connections w).authInfo)
          (s.connections w).raTesterSa).finalize c)
  | shutdown : Change s .sessionDeInit (control s).shutdownAll
  | deleted : Change s .shutdownTimeout (control s).deleteAll

/-! ## Well-formedness is kept -/

variable {cfg : DoipConf} {k : Control} {c : ConnId}

namespace WellFormed

variable (h : WellFormed cfg k)
include h

theorem setRouting (r : Routing) (hall : r.allAliveCheckFlag = false)
    (hst : k.receiving c = true → r.connState ≠ .finalize)
    (hwts : ∀ w, r.routingConnectionPtr = some w → w < k.created ∧ w ≠ c) :
    WellFormed cfg (k.setRouting c r) := by
  constructor
  · exact h.nodup
  · exact h.created
  · exact h.room
  · intro c'
    rw [Control.setRouting_routing]
    split_ifs
    · exact hall
    · exact h.noAllCheck c'
  · intro c' hrcvs
    obtain ⟨hbox, hlive⟩ := h.receives c' hrcvs
    refine ⟨hbox, ?_⟩
    rw [Control.setRouting_routing]
    split_ifs with hc
    · exact hst (hc ▸ hrcvs)
    · exact hlive
  · intro c' w hw
    rw [Control.setRouting_routing] at hw
    split_ifs at hw with hc
    · exact hc ▸ hwts w hw
    · exact h.waits c' w hw
  · exact h.eventsCreated
  · exact h.deletedCreated

/-- A change of the addresses and of the state of a connection. -/
theorem setState {r : Routing} (hall : r.allAliveCheckFlag = (k.routing c).allAliveCheckFlag)
    (hwts : r.routingConnectionPtr = (k.routing c).routingConnectionPtr)
    (hst : r.connState = .finalize → (k.routing c).connState = .finalize) :
    WellFormed cfg (k.setRouting c r) := by
  apply h.setRouting
  · rw [hall]
    exact h.noAllCheck c
  · intro hrcvs hfin
    exact (h.receives c hrcvs).2 (hst hfin)
  · intro w hw
    exact h.waits c w (hwts ▸ hw)

theorem report (hc : c < k.created) (event : ConnectionEvent) :
    WellFormed cfg (k.report c event) := by
  refine { h with eventsCreated := ?_ }
  intro i hi
  rcases mem_append.1 hi with hold | hnew
  · exact h.eventsCreated i hold
  · rw [mem_singleton.1 hnew]
    exact hc

theorem finalize (hc : c < k.created) : WellFormed cfg (k.finalize c) := by
  constructor
  · exact swapRemove_nodup h.nodup
  · intro c' hc'
    rw [Control.finalize_created]
    exact h.created c' ((mem_swapRemove h.nodup).1 hc').1
  · exact Nat.le_trans length_swapRemove_le h.room
  · intro c'
    rw [Control.finalize_routing]
    split_ifs
    · exact h.noAllCheck c
    · exact h.noAllCheck c'
  · intro c' hrcvs
    rw [Control.finalize_receiving] at hrcvs
    split_ifs at hrcvs with hsame
    obtain ⟨hbox, hlive⟩ := h.receives c' hrcvs
    rw [Control.finalize_routing, if_neg hsame]
    exact ⟨(mem_swapRemove h.nodup).2 ⟨hbox, hsame⟩, hlive⟩
  · intro c' w hw
    rw [Control.finalize_created]
    rw [Control.finalize_routing] at hw
    split_ifs at hw with hsame
    · exact hsame ▸ h.waits c w hw
    · exact h.waits c' w hw
  · intro i hi
    rw [Control.finalize_created]
    rw [Control.finalize_events] at hi
    rcases mem_append.1 hi with hold | hnew
    · exact h.eventsCreated i hold
    split_ifs at hnew
    · rw [mem_singleton.1 hnew]
      exact hc
    · cases hnew
  · intro c' hc'
    rw [Control.finalize_created]
    rcases mem_append.1 hc' with hold | hnew
    · exact h.deletedCreated c' hold
    · rw [mem_singleton.1 hnew]
      exact hc

theorem request (sa : LogicalAddress) (info : UInt32) :
    WellFormed cfg (k.request c sa info) := h.setState rfl rfl id

theorem answer : WellFormed cfg (k.answer c) := h.setState rfl rfl id

theorem assign (hc : c < k.created) (accepted : Bool) (sa : LogicalAddress) :
    WellFormed cfg (k.assign c accepted sa) := by
  have hasgn : ∀ state : ConnectState, state ≠ .finalize →
      WellFormed cfg (k.setRouting c { k.routing c with testerSA := sa, connState := state }) := by
    intro state hst
    apply h.setState
    · rfl
    · rfl
    · exact fun hfin => absurd hfin hst
  unfold Control.assign
  split_ifs
  · exact (hasgn _ (by decide)).report hc .saRegistered
  · exact (hasgn _ (by decide)).finalize hc

theorem check {waiting : ConnId} (hcrtd : waiting < k.created)
    (hoth : waiting ≠ c) : WellFormed cfg (k.check c waiting) := by
  apply h.setRouting
  · exact h.noAllCheck c
  · exact fun hrcvs => (h.receives c hrcvs).2
  intro w hw
  cases hw
  exact ⟨hcrtd, hoth⟩

theorem accept (hroom : k.box.length < cfg.maxSockNum)
    (testerSA : LogicalAddress) : WellFormed cfg (k.accept testerSA) := by
  have hfr : k.created ∉ k.box := fun hmem => Nat.lt_irrefl _ (h.created _ hmem)
  constructor
  · exact List.Nodup.append h.nodup (nodup_singleton _) (disjoint_singleton.2 hfr)
  · intro c hc
    rcases mem_append.1 hc with hold | hnew
    · exact Nat.lt_succ_of_lt (h.created c hold)
    · rw [mem_singleton.1 hnew]
      exact Nat.lt_succ_self _
  · rw [Control.accept, length_append]
    exact hroom
  · intro c
    rw [Control.accept_routing]
    split_ifs
    · rfl
    · exact h.noAllCheck c
  · intro c hrcvs
    rw [Control.accept_routing]
    rw [Control.accept_receiving] at hrcvs
    split_ifs at hrcvs with hc
    · rw [if_pos hc, hc]
      exact ⟨mem_append_right _ (mem_singleton_self _), ConnectState.noConfusion⟩
    obtain ⟨hbox, hlive⟩ := h.receives c hrcvs
    rw [if_neg hc]
    exact ⟨mem_append_left _ hbox, hlive⟩
  · intro c w hw
    rw [Control.accept_routing] at hw
    split_ifs at hw
    · cases hw
    · obtain ⟨hcrtd, hoth⟩ := h.waits c w hw
      exact ⟨Nat.lt_succ_of_lt hcrtd, hoth⟩
  · exact fun i hi => Nat.lt_succ_of_lt (h.eventsCreated i hi)
  · exact fun c hc => Nat.lt_succ_of_lt (h.deletedCreated c hc)

theorem shutdownAll : WellFormed cfg k.shutdownAll := by
  constructor
  · exact h.nodup
  · exact h.created
  · exact h.room
  · intro c
    rw [Control.shutdownAll_routing]
    split_ifs <;> exact h.noAllCheck c
  · intro c hrcvs
    rw [Control.shutdownAll_receiving] at hrcvs
    split_ifs at hrcvs with hbox
    exact absurd (h.receives c hrcvs).1 hbox
  · intro c w hw
    rw [Control.shutdownAll_routing] at hw
    split_ifs at hw <;> exact h.waits c w hw
  · exact h.eventsCreated
  · exact h.deletedCreated

theorem deleteAll : WellFormed cfg k.deleteAll := by
  constructor
  · exact nodup_nil
  · intro c hc
    cases hc
  · exact Nat.zero_le _
  · exact h.noAllCheck
  · intro c hrcvs
    rw [Control.deleteAll_receiving] at hrcvs
    split_ifs at hrcvs with hbox
    exact absurd (h.receives c hrcvs).1 hbox
  · exact h.waits
  · exact h.eventsCreated
  · intro c hc
    rcases mem_append.1 hc with hold | hnew
    · exact h.deletedCreated c hold
    · exact h.created c hnew

end WellFormed

variable {a : Action}

theorem wellFormed_change {s : Stack} {k : Control} (h : WellFormed cfg (control s))
    (hchg : Change cfg s a k) : WellFormed cfg k := by
  cases hchg with
  | quiet => exact h
  | crashed => exact { h with }
  | accepted testerSA hroom => exact h.accept hroom testerSA
  | finalized c sa info hc => exact (h.request sa info).finalize (h.created c hc)
  | released c hc => exact { h.finalize (h.created c hc) with }
  | assigned c accepted sa info hc | repeated c accepted sa info hc =>
    exact (h.request sa info).assign (h.created c hc) accepted sa
  | requested c sa info => exact h.request sa info
  | checked c other sa info hc _ hoth =>
    exact (h.request sa info).check (h.created c hc) hoth.symm
  | answered => exact h.answer
  | refused c w _ _ hwts => exact h.answer.finalize (h.waits c w hwts).1
  | tookOver c w confirm hc _ hwts =>
    apply (h.assign (h.waits c w hwts).1 _ _).finalize
    rw [Control.assign_created]
    exact h.created c hc
  | shutdown => exact h.shutdownAll
  | deleted => exact h.deleteAll

/-! ## The handlers -/

variable {confirm : UserConfirmResult} {s : Stack} {buf : Buffer} {hdr : Header}

theorem request_self : k.request c (k.routing c).raTesterSa (k.routing c).authInfo = k := by
  apply control_ext
  · intro c'
    exact congrFun (update_eq_self c k.routing) c'
  all_goals intros; rfl

variable {sa : LogicalAddress}

theorem findByAddr_some {other : ConnId}
    (h : s.findConnectionByLogicalAddr sa = some other) :
    other ∈ s.connectionBox ∧ (control s).registered other ∧
      (s.connections other).testerSA = sa := by
  have hfnd := find?_some h
  rw [Bool.and_eq_true, decide_eq_true_iff, isRegistered_iff] at hfnd
  exact ⟨mem_of_find?_eq_some h, hfnd.2, hfnd.1⟩

theorem findByAddr_none (h : s.findConnectionByLogicalAddr sa = none) :
    ∀ x ∈ s.connectionBox, (control s).registered x → (s.connections x).testerSA ≠ sa := by
  intro x hx hreg hsame
  unfold Stack.findConnectionByLogicalAddr at h
  rw [find?_eq_none] at h
  have hnot := h x hx
  rw [Bool.and_eq_true, decide_eq_true_iff, isRegistered_iff] at hnot
  exact hnot ⟨hsame, hreg⟩

/-- A box with a connection that is not registered is not full of registered ones. -/
theorem getRegisteredConnectionNum_lt (h : WellFormed cfg (control s)) (hc : c ∈ s.connectionBox)
    (hnew : ¬ (control s).registered c) : s.getRegisteredConnectionNum < cfg.maxSockNum := by
  have hcnt : s.getRegisteredConnectionNum ≠ s.connectionBox.length := by
    intro hall
    unfold Stack.getRegisteredConnectionNum at hall
    rw [countP_eq_length] at hall
    exact hnew ((isRegistered_iff c).1 (hall c hc))
  have hle : s.getRegisteredConnectionNum ≤ s.connectionBox.length := countP_le_length
  exact Nat.lt_of_lt_of_le (Nat.lt_of_le_of_ne hle hcnt) h.room

/-- The effects of a well-formed routing activation request. -/
inductive Activation (k : Control) (c : ConnId) (sa : LogicalAddress) : Control → Prop
  | assigned (accepted : Bool) (hnew : ¬ k.registered c)
      (hfree : ∀ x ∈ k.box, k.registered x → (k.routing x).testerSA ≠ sa) :
      Activation k c sa (k.assign c accepted sa)
  | repeated (accepted : Bool) (hreg : k.registered c) (hsame : (k.routing c).testerSA = sa) :
      Activation k c sa (k.assign c accepted sa)
  | different (hreg : k.registered c) : Activation k c sa (k.finalize c)
  | checked (other : ConnId) (hnew : ¬ k.registered c) (hoth : other ≠ c) :
      Activation k c sa (k.check other c)
  | waiting : Activation k c sa k

theorem control_startSingleAliveCheck (other waiting : ConnId) :
    control (startSingleAliveCheck s other waiting) = (control s).check other waiting := by
  unfold startSingleAliveCheck startAliveCheck
  rw [control_send]
  exact control_modify_routing rfl

theorem requestActivation_activation (sa : LogicalAddress) (info : UInt32)
    (h : WellFormed cfg (control s)) (hc : c ∈ s.connectionBox) :
    Activation (control s) c sa (control (requestActivation cfg confirm s c sa info)) := by
  unfold requestActivation
  by_cases hnone : s.getRegisteredConnectionNum = 0
  · have hnew : ∀ x ∈ s.connectionBox, ¬ (control s).registered x := by
      intro x hx
      unfold Stack.getRegisteredConnectionNum at hnone
      rw [countP_eq_zero] at hnone
      rw [← isRegistered_iff]
      exact hnone x hx
    rw [if_pos hnone, control_assign]
    exact .assigned _ (hnew c hc) fun x hx hreg => absurd hreg (hnew x hx)
  rw [if_neg hnone]
  by_cases hreg : (s.connections c).isConnectionRegistered = true
  · rw [if_pos hreg]
    rw [isRegistered_iff] at hreg
    split_ifs with hsame
    · rw [control_assign]
      exact .repeated _ hreg hsame.symm
    · rw [control_refuseActivation]
      exact .different hreg
  have hnew : ¬ (control s).registered c := mt (isRegistered_iff c).2 hreg
  have hfull := getRegisteredConnectionNum_lt h hc hnew
  rw [if_neg hreg]
  rcases hfind : s.findConnectionByLogicalAddr sa with _ | other
  · dsimp only
    rw [if_neg (Nat.ne_of_lt hfull), control_assign]
    exact .assigned _ hnew (findByAddr_none hfind)
  obtain ⟨_, hoth, _⟩ := findByAddr_some hfind
  have hne : other ≠ c := fun heq => hnew (heq ▸ hoth)
  dsimp only
  rw [if_neg hne]
  split_ifs
  · exact .waiting
  · rw [control_startSingleAliveCheck]
    exact .checked other hnew hne

@[simp] theorem request_registered (sa : LogicalAddress) (info : UInt32) (x : ConnId) :
    (k.request c sa info).registered x ↔ k.registered x := by
  unfold Control.registered Control.request
  rw [Control.setRouting_routing]
  split_ifs with hx
  · rw [hx]
  · exact Iff.rfl

@[simp] theorem request_testerSA (sa : LogicalAddress) (info : UInt32) (x : ConnId) :
    ((k.request c sa info).routing x).testerSA = (k.routing x).testerSA := by
  unfold Control.request
  rw [Control.setRouting_routing]
  split_ifs with hx
  · rw [hx]
  · rfl

/-- A connection still has its buffer, or it is finalized. -/
def Served (k : Control) (c : ConnId) : Prop :=
  (k.routing c).connState = .finalize ∨ k.receiving c = true

theorem served_finalize (k : Control) (c : ConnId) : Served (k.finalize c) c := by
  left
  rw [Control.finalize_routing, if_pos rfl]

theorem Activation.served {k' : Control} (h : Activation k c sa k')
    (hrcvg : k.receiving c = true) : Served k' c := by
  have hassi : ∀ accepted, Served (k.assign c accepted sa) c := by
    intro accepted
    unfold Control.assign
    split_ifs
    · exact Or.inr hrcvg
    · exact served_finalize _ _
  cases h with
  | assigned accepted | repeated accepted => exact hassi accepted
  | different => exact served_finalize _ _
  | checked | waiting => exact Or.inr hrcvg

theorem nextMessage_spec (hnext : nextMessage cfg s = some (c, buf, hdr)) :
    (∃ count, s.consuming = some (c, count)) ∧ (s.connections c).inBuf = some buf ∧
      hdr = unpackHeaderStruct buf.data buf.dataPos ∧
      (s.connections c).connState ≠ .finalize ∧ headerError cfg hdr = none := by
  unfold nextMessage at hnext
  split at hnext
  · cases hnext
  next c' count hcons =>
  split at hnext
  · cases hnext
  next buf' hbuf =>
  dsimp only at hnext
  split_ifs at hnext with hcond
  cases hnext
  exact ⟨⟨count, hcons⟩, hbuf, rfl, hcond.2.1, hcond.2.2⟩

theorem finalized_change (hc : c ∈ s.connectionBox) : Change cfg s a ((control s).finalize c) := by
  have hself : Change cfg s a (((control s).request c ((control s).routing c).raTesterSa
      ((control s).routing c).authInfo).finalize c) := .finalized c _ _ hc
  rw [request_self] at hself
  exact hself

variable {t : Stack}

theorem finishMessage_receiving (buf : Buffer) (payloadLen : Nat)
    (h : (control t).receiving c = true) :
    control (finishMessage t c buf payloadLen).1 = control t ∧
      (finishMessage t c buf payloadLen).2 = .ok := by
  have hbuf : (t.connections c).inBuf.isSome = true := h
  unfold finishMessage
  rw [← not_isSome, hbuf, Bool.not_true]
  exact ⟨control_setBuffer _ h, rfl⟩

theorem finishMessage_released (buf : Buffer) (payloadLen : Nat)
    (h : (control t).receiving c = false) : control (finishMessage t c buf payloadLen).1 =
      { control t with released := t.released ++ [c] } := by
  have hbuf : (t.connections c).inBuf.isSome = false := h
  unfold finishMessage
  rw [← not_isSome, hbuf, Bool.not_false]
  rfl

section
variable {a : Action} (h : WellFormed cfg (control s)) (hc : c ∈ s.connectionBox)
  (hrcvg : (control s).receiving c = true) (ha : isRound a = true)
  (hnext : nextMessage cfg s = some (c, buf, hdr))
include h hc hrcvg ha hnext

theorem routingActiveReqHandler_change (confirm : UserConfirmResult)
    (htype : hdr.payloadType = .routingActiveRequest) :
    Change cfg s a (control (routingActiveReqHandler cfg confirm s c buf.data
        (buf.dataPos + headerGenericLength) hdr.payloadLen)) ∧
      Served (control (routingActiveReqHandler cfg confirm s c buf.data
        (buf.dataPos + headerGenericLength) hdr.payloadLen)) c := by
  have hfina : ∀ k', k' = (control s).finalize c → Change cfg s a k' ∧ Served k' c := by
    rintro k' rfl
    exact ⟨finalized_change hc, served_finalize _ _⟩
  unfold routingActiveReqHandler
  dsimp only
  by_cases hlen : hdr.payloadLen ≠ raMandLen ∧ hdr.payloadLen ≠ raAllLen
  · rw [if_pos hlen]
    apply hfina
    rw [control_headerNack]
    exact if_pos (Or.inr rfl)
  rw [if_neg hlen]
  by_cases hsa : buf.data.read16 (buf.dataPos + headerGenericLength) < 0x0E00 ∨
      buf.data.read16 (buf.dataPos + headerGenericLength) > 0x0FFF
  · rw [if_pos hsa]
    apply hfina
    exact control_refuseActivation ..
  rw [if_neg hsa]
  by_cases hkind : 0x02 ≤ buf.data (buf.dataPos + headerGenericLength + 2) ∧
      buf.data (buf.dataPos + headerGenericLength + 2) ≤ 0xDF
  · rw [if_pos hkind, control_refuseActivation, control_modify_routing rfl]
    exact ⟨.finalized c _ (s.connections c).authInfo hc, served_finalize _ _⟩
  rw [if_neg hkind]
  have hreq : activationRequest buf hdr =
      some (buf.data.read16 (buf.dataPos + headerGenericLength),
        if hdr.payloadLen = raAllLen then
          buf.data.read32 (buf.dataPos + headerGenericLength + 7) else 0) := by
    refine if_pos ⟨htype, ?_, ?_, hkind⟩
    · tauto
    · rw [not_or, UInt16.not_lt, UInt16.not_lt] at hsa
      exact hsa
  generalize (if hdr.payloadLen = raAllLen then
    buf.data.read32 (buf.dataPos + headerGenericLength + 7) else 0) = info at hreq ⊢
  generalize buf.data.read16 (buf.dataPos + headerGenericLength) = fromSa at hreq ⊢
  have hctrl : control ((s.modify c fun conn => { conn with raTesterSa := fromSa }).modify c
      fun conn => { conn with initialTimer := false, authInfo := info }) =
      (control s).request c fromSa info := by
    rw [control_modify_routing rfl, control_modify_routing rfl, setRouting_setRouting]
    simp only [Stack.modify, update_self]
    rfl
  generalize ((s.modify c fun conn => { conn with raTesterSa := fromSa }).modify c
    fun conn => { conn with initialTimer := false, authInfo := info }) = t at hctrl ⊢
  have hbox : c ∈ t.connectionBox := by
    have hsame : t.connectionBox = s.connectionBox := congrArg Control.box hctrl
    rw [hsame]
    exact hc
  have hwell : WellFormed cfg (control t) := by
    rw [hctrl]
    exact h.request fromSa info
  have hactn : Activation _ c fromSa (control (requestActivation cfg confirm t c fromSa info)) :=
    requestActivation_activation fromSa info hwell hbox
  rw [hctrl] at hactn
  refine ⟨?_, hactn.served hrcvg⟩
  generalize control (requestActivation cfg confirm t c fromSa info) = k' at hactn ⊢
  cases hactn with
  | assigned accepted hnew hfree =>
    rw [request_registered] at hnew
    have hlive := (nextMessage_spec hnext).2.2.2.1
    refine .assigned c accepted fromSa info hc hlive hnew fun x hx hreg hsame => ?_
    exact hfree x hx ((request_registered ..).2 hreg) ((request_testerSA ..).trans hsame)
  | repeated accepted hreg hsame =>
    rw [request_registered] at hreg
    rw [request_testerSA] at hsame
    refine .repeated c accepted fromSa info hc hreg hsame ha ?_
    unfold repeatsActivation
    rw [hnext]
    dsimp only
    rw [hreq]
    dsimp only
    rw [(isRegistered_iff c).2 hreg]
    exact decide_eq_true hsame.symm
  | different => exact .finalized c fromSa info hc
  | checked other hnew hoth =>
    exact .checked c other fromSa info hc ((request_registered ..).not.1 hnew) hoth
  | waiting => exact .requested c fromSa info hc

omit hc in
theorem aliveCheckResHandler_change (htype : hdr.payloadType = .aliveCheckResponse)
    (hlen : hdr.payloadLen = logicalAddressLength) :
    Change cfg s a (control (aliveCheckResHandler cfg s c buf.data
        (buf.dataPos + headerGenericLength) hdr.payloadLen)) ∧
      (control (aliveCheckResHandler cfg s c buf.data
        (buf.dataPos + headerGenericLength) hdr.payloadLen)).receiving c = true := by
  have hqui : ∀ k', k' = control s → Change cfg s a k' ∧ k'.receiving c = true := by
    rintro k' rfl
    exact ⟨.quiet, hrcvg⟩
  have hstop : control (s.modify c fun conn => { conn with aliveCheckTimer := false })
      = control s := control_modify_quiet rfl rfl
  have hfla : ((s.modify c fun conn => { conn with aliveCheckTimer := false }).connections
      c).toRouting = (s.connections c).toRouting := congrArg (fun k => k.routing c) hstop
  unfold aliveCheckResHandler
  rw [if_neg (not_not.2 hlen)]
  by_cases hsame : buf.data.read16 (buf.dataPos + headerGenericLength) ≠ (s.connections c).testerSA
  · rw [if_pos hsame]
    exact hqui _ rfl
  rw [if_neg hsame]
  dsimp only
  rw [congrArg Routing.allAliveCheckFlag hfla,
    show (s.connections c).allAliveCheckFlag = false from h.noAllCheck c, if_neg Bool.false_ne_true,
    congrArg Routing.singleAliveCheckFlag hfla, Bool.not_false, Bool.true_and]
  rcases hflag : (s.connections c).singleAliveCheckFlag with _ | _
  · exact hqui _ hstop
  have hansw : answering cfg s = some c := by
    unfold answering
    rw [hnext]
    exact if_pos ⟨htype, hlen, not_not.1 hsame, hflag⟩
  have hclrd : control ((s.modify c fun conn => { conn with aliveCheckTimer := false }).modify c
      fun conn => { conn with singleAliveCheckFlag := false }) = (control s).answer c := by
    rw [control_modify_routing rfl, hstop]
    simp only [Stack.modify, update_self]
    rfl
  rw [Bool.not_true, if_neg Bool.false_ne_true, if_pos rfl]
  generalize (s.modify c fun conn => { conn with aliveCheckTimer := false }).modify c
    (fun conn => { conn with singleAliveCheckFlag := false }) = t at hclrd ⊢
  have hptr : (t.connections c).routingConnectionPtr = (s.connections c).routingConnectionPtr := by
    have hrout := congrArg (fun k => (k.routing c).routingConnectionPtr) hclrd
    refine hrout.trans ?_
    dsimp only [Control.answer]
    rw [setRouting_routing_self]
    rfl
  have hreg : ∀ w, (control t).registered w ↔ (control s).registered w := by
    intro w
    rw [hclrd]
    unfold Control.registered Control.answer
    rw [Control.setRouting_routing]
    split_ifs with hw
    · rw [hw]
    · exact Iff.rfl
  unfold refuseWaiting
  rw [hptr]
  rcases hwts : (s.connections c).routingConnectionPtr with _ | w
  · dsimp only
    rw [hclrd]
    exact ⟨.answered c, hrcvg⟩
  dsimp only
  by_cases hw : (control s).registered w
  · rw [if_pos ((isRegistered_iff w).2 ((hreg w).2 hw)), hclrd]
    exact ⟨.answered c, hrcvg⟩
  rw [if_neg (mt (isRegistered_iff w).1 (mt (hreg w).1 hw)),
    control_refuseActivation, hclrd]
  refine ⟨.refused c w ha hansw hwts hw, ?_⟩
  rw [Control.finalize_receiving, if_neg (h.waits c w hwts).2.symm]
  exact hrcvg

/-- A message has one of the effects listed; a connection that goes on receiving has its
buffer, except after a malformed alive check response. -/
theorem processDoipMessage_change (confirm : UserConfirmResult) (allocated : Bool) :
    Change cfg s a (control (processDoipMessage cfg confirm s c allocated hdr.payloadType buf
        hdr.payloadLen).1) ∧
      ((processDoipMessage cfg confirm s c allocated hdr.payloadType buf hdr.payloadLen).2 = .ok →
        (control (processDoipMessage cfg confirm s c allocated hdr.payloadType buf
          hdr.payloadLen).1).receiving c = true ∨ malformedAliveCheck cfg s = true) := by
  have hfini : ∀ t, Change cfg s a (control t) ∧ (control t).receiving c = true →
      Change cfg s a (control (finishMessage t c buf hdr.payloadLen).1) ∧
        ((finishMessage t c buf hdr.payloadLen).2 = .ok →
          (control (finishMessage t c buf hdr.payloadLen).1).receiving c = true ∨
            malformedAliveCheck cfg s = true) := by
    rintro t ⟨hchg, hkept⟩
    rw [(finishMessage_receiving buf hdr.payloadLen hkept).1]
    exact ⟨hchg, fun _ => Or.inl hkept⟩
  unfold processDoipMessage
  dsimp only
  split
  · next htype =>
    obtain ⟨hchg, hserv⟩ :=
      routingActiveReqHandler_change h hc hrcvg ha hnext confirm htype
    split_ifs with hfin hlen
    · exact ⟨hchg, fun hok => absurd hok (by decide)⟩
    · have hkept := hserv.resolve_left hfin
      rw [control_setBuffer _ hkept]
      exact ⟨hchg, fun _ => Or.inl hkept⟩
    · exact hfini _ ⟨hchg, hserv.resolve_left hfin⟩
  · apply hfini
    rw [control_send]
    exact ⟨.quiet, hrcvg⟩
  · next htype =>
    by_cases hlen : hdr.payloadLen = logicalAddressLength
    · exact hfini _ (aliveCheckResHandler_change h hrcvg ha hnext htype hlen)
    have hmalf : malformedAliveCheck cfg s = true := by
      unfold malformedAliveCheck
      rw [hnext]
      exact decide_eq_true ⟨htype, hlen⟩
    have hhdl : control (aliveCheckResHandler cfg s c buf.data
        (buf.dataPos + headerGenericLength) hdr.payloadLen) = (control s).finalize c := by
      unfold aliveCheckResHandler
      rw [if_pos hlen, control_headerNack]
      exact if_pos (Or.inr rfl)
    have hreld : (aliveCheckResHandler cfg s c buf.data
        (buf.dataPos + headerGenericLength) hdr.payloadLen).released = s.released :=
      (congrArg Control.released hhdl).trans (Control.finalize_released _ _)
    rw [finishMessage_released, hhdl, hreld]
    · exact ⟨.released c hc ha hmalf, fun _ => Or.inr hmalf⟩
    · rw [hhdl, Control.finalize_receiving, if_pos rfl]
  · split_ifs
    · exact ⟨.quiet, fun hok => absurd hok (by decide)⟩
    have hout : DiagOutcome s c (diagnosticMsgFirstHandler cfg s c allocated buf.data
        (buf.dataPos + headerGenericLength) hdr.payloadLen (buf.dataSize - headerGenericLength)) :=
      diagnosticMsgFirstHandler_outcome ..
    split
    · next t heq =>
      rw [heq] at hout
      rcases hout with hsame | ⟨_, hfail⟩
      · dsimp only at hsame ⊢
        rw [hsame]
        exact ⟨.quiet, fun hok => absurd hok (by decide)⟩
      · cases hfail
    · next t heq =>
      rw [heq] at hout
      rcases hout with hsame | ⟨_, hfail⟩
      · dsimp only at hsame
        apply hfini
        rw [hsame]
        exact ⟨.quiet, hrcvg⟩
      · cases hfail
    next t result _ _ heq =>
    rw [heq] at hout
    dsimp only [DiagOutcome] at hout
    split_ifs with hfin
    · refine ⟨?_, fun hok => absurd hok (by decide)⟩
      rcases hout with hsame | ⟨hfina, _⟩
      · dsimp only
        rw [hsame]
        exact .quiet
      · dsimp only
        rw [hfina]
        exact finalized_change hc
    · rcases hout with hsame | ⟨hfina, _⟩
      · apply hfini
        rw [hsame]
        exact ⟨.quiet, hrcvg⟩
      · have hst := congrArg (fun k => (k.routing c).connState) hfina
        rw [Control.finalize_routing, if_pos rfl] at hst
        exact absurd hst hfin
  · exact hfini _ ⟨.quiet, hrcvg⟩

end

/-! ## The events -/

/-- The connection whose bytes are consumed has its buffer. -/
def Receives (s : Stack) : Prop :=
  ∀ c count, s.consuming = some (c, count) → (control s).receiving c = true

theorem control_stopConsuming : control (stopConsuming s c) = control s := by
  have hqui := control_modify_quiet (s := s) (c := c)
    (f := fun conn => { conn with isConsuming := false }) rfl rfl
  exact hqui

theorem control_leaveLoop (buf : Buffer) : control (leaveLoop s c buf) = control s := by
  unfold leaveLoop
  split_ifs
  · rfl
  · exact control_stopConsuming

theorem leaveLoop_consuming (buf : Buffer) : (leaveLoop s c buf).consuming = none := by
  unfold leaveLoop
  split_ifs <;> rfl

section
variable {a : Action} (h : WellFormed cfg (control s)) (hc : c ∈ s.connectionBox)
  (hrcvg : (control s).receiving c = true)
include h hc hrcvg

theorem rejectMessage_change (buf : Buffer) (hdr : Header) (code : HeaderNackCode) :
    Change cfg s a (control (rejectMessage cfg s c buf hdr code)) ∧
      (rejectMessage cfg s c buf hdr code).consuming = none := by
  have hlive := (h.receives c hrcvg).2
  have hansw : control (respondHeaderNegativeAck cfg s c code (bytesLeft hdr buf)) = _ :=
    control_headerNack code (bytesLeft hdr buf)
  unfold rejectMessage
  generalize respondHeaderNegativeAck cfg s c code (bytesLeft hdr buf) = t at hansw ⊢
  have hst : (t.connections c).connState = ((control t).routing c).connState := rfl
  by_cases hfata : code = .incorrectPatternFormat ∨ code = .invalidPayloadLength
  · rw [if_pos hfata] at hansw
    rw [hansw, Control.finalize_routing, if_pos rfl] at hst
    rw [if_pos hst]
    refine ⟨?_, rfl⟩
    change Change cfg s a (control t)
    rw [hansw]
    exact finalized_change hc
  rw [if_neg hfata] at hansw
  rw [hansw] at hst
  have hrcvs : (control t).receiving c = true := by
    rw [hansw]
    exact hrcvg
  rw [if_neg fun hfin => hlive (hst.symm.trans hfin)]
  refine ⟨?_, rfl⟩
  rw [control_stopConsuming, control_setBuffer _ hrcvs, hansw]
  exact .quiet

theorem consumeMessage_change (confirm : UserConfirmResult) (allocated : Bool) (count : Nat)
    (ha : isRound a = true)
    (hnext : nextMessage cfg s = some (c, buf, hdr)) :
    Change cfg s a (control (consumeMessage cfg confirm s c allocated count buf hdr)) ∧
      (malformedAliveCheck cfg s = false →
        Receives (consumeMessage cfg confirm s c allocated count buf hdr)) := by
  obtain ⟨hchg, hkept⟩ := processDoipMessage_change h hc hrcvg ha hnext confirm allocated
  unfold consumeMessage
  generalize processDoipMessage cfg confirm s c allocated hdr.payloadType buf hdr.payloadLen = r
    at hchg hkept ⊢
  obtain ⟨t, result⟩ := r
  cases result with
  | ok =>
    refine ⟨hchg, fun hwell => ?_⟩
    intro c' count' hcons
    cases hcons
    have hrcvs := (hkept rfl).resolve_right (by rw [hwell]; decide)
    exact hrcvs
  | outOfMemory =>
    rw [control_leaveLoop]
    refine ⟨hchg, fun _ c' count' hcons => ?_⟩
    rw [leaveLoop_consuming] at hcons
    cases hcons
  | noSocket | messageTooShort =>
    rw [control_stopConsuming]
    refine ⟨hchg, fun _ c' count' hcons => ?_⟩
    cases hcons

end

theorem receives_of_none (h : s.consuming = none) : Receives s := by
  intro c count hcons
  rw [h] at hcons
  cases hcons

theorem consumeRound_change {count : Nat} (confirm : UserConfirmResult) (allocated : Bool)
    (h : WellFormed cfg (control s)) (ha : isRound a = true)
    (hcons : s.consuming = some (c, count)) :
    Change cfg s a (control (consumeRound cfg confirm s c allocated count)) ∧
      (Receives s → malformedAliveCheck cfg s = false →
        Receives (consumeRound cfg confirm s c allocated count)) := by
  unfold consumeRound
  cases hbuf : (s.connections c).inBuf with
  | none =>
    have hnone : (control s).receiving c = false := by
      change (s.connections c).inBuf.isSome = false
      rw [hbuf]
      rfl
    refine ⟨.crashed c count hcons hnone, fun hrcvs _ => ?_⟩
    rw [hrcvs c count hcons] at hnone
    cases hnone
  | some buf =>
    have hrcvg : (control s).receiving c = true := by
      change (s.connections c).inBuf.isSome = true
      rw [hbuf]
      rfl
    obtain ⟨hc, hlive⟩ := h.receives c hrcvg
    have hst : ¬ (s.connections c).connState = .finalize := hlive
    dsimp only
    by_cases hcond : ¬ (buf.dataSize ≥ headerGenericLength ∧ count < batchSize)
    · rw [if_pos hcond, control_leaveLoop]
      exact ⟨.quiet, fun _ _ => receives_of_none (leaveLoop_consuming buf)⟩
    rw [if_neg hcond, if_neg hst]
    cases herr : headerError cfg (unpackHeaderStruct buf.data buf.dataPos) with
    | some code =>
      obtain ⟨hchg, hstop⟩ := rejectMessage_change (a := a) h hc hrcvg buf
        (unpackHeaderStruct buf.data buf.dataPos) code
      exact ⟨hchg, fun _ _ => receives_of_none hstop⟩
    | none =>
      have hnext : nextMessage cfg s = some (c, buf, unpackHeaderStruct buf.data buf.dataPos) := by
        unfold nextMessage
        rw [hcons]
        dsimp only
        rw [hbuf]
        exact if_pos ⟨not_not.1 hcond, hlive, herr⟩
      obtain ⟨hchg, hkept⟩ := consumeMessage_change h hc hrcvg confirm allocated count ha hnext
      exact ⟨hchg, fun _ hwell => hkept hwell⟩

/-! ### Events outside of the loop -/

theorem send_consuming (m : Message) : (s.send c m).consuming = s.consuming := by
  unfold Stack.send
  split_ifs <;> rfl

theorem finalize_consuming : (finalize cfg s c).consuming = s.consuming := by
  unfold finalize
  split_ifs <;> rfl

theorem assign_consuming (sa : LogicalAddress) (info : UInt32) :
    (assign cfg confirm s c sa info).consuming = s.consuming := by
  unfold assign pendingForAuth checkRoutingActivationAuthen pendingForConf
    checkRoutingActivationConfirm routingActivationRes
  split_ifs
  · cases confirm with
    | reject => exact finalize_consuming.trans (send_consuming _)
    | noNeed | pass => exact send_consuming (s := enter (enter _ c _) c _) _
  · exact finalize_consuming.trans (send_consuming _)

theorem diagRefused_consuming (ta sa : LogicalAddress) (code : DiagNackCode) :
    (diagRefused cfg s c ta sa code).consuming = s.consuming := by
  unfold diagRefused
  split_ifs
  · exact finalize_consuming.trans (send_consuming _)
  · exact send_consuming _

theorem secondHandler_consuming :
    (diagnosticMsgSecondHandler cfg s c).1.consuming = s.consuming := by
  unfold diagnosticMsgSecondHandler
  dsimp only
  split_ifs
  · exact finalize_consuming.trans (send_consuming _)
  iterate 4 exact diagRefused_consuming ..
  split
  · exact diagRefused_consuming ..
  next t hinfo =>
  unfold informUdsMessage at hinfo
  split_ifs at hinfo
  all_goals
    cases hinfo
    exact send_consuming _

theorem secondHandler_control (h : control t = control s) :
    control (diagnosticMsgSecondHandler cfg t c).1 = control s ∨
      control (diagnosticMsgSecondHandler cfg t c).1 = (control s).finalize c := by
  rw [← h]
  rcases @secondHandler_outcome cfg t c with hsame | ⟨hfin, _⟩
  · exact Or.inl hsame
  · exact Or.inr hfin

/-- Received bytes have no effect on the connection, except that of the diagnostic message
they complete. -/
theorem receiveDiagMessage_spec (read : Option (List UInt8)) :
    (control (receiveDiagMessage cfg s c read) = control s ∨
        control (receiveDiagMessage cfg s c read) = (control s).finalize c) ∧
      (receiveDiagMessage cfg s c read).consuming = s.consuming := by
  have hstrt : control (s.modify c fun conn => { conn with generalTimer := true }) = control s :=
    control_modify_quiet rfl rfl
  unfold receiveDiagMessage
  dsimp only
  split
  · have hread : ∀ (udsBuf : Option Memory) (received : Nat),
        control ((s.modify c fun conn => { conn with generalTimer := true }).modify c fun conn =>
          { conn with udsBuf := udsBuf, udsReceived := received }) = control s := by
      intro udsBuf received
      rw [control_modify_quiet (by rfl) (by rfl), hstrt]
    split_ifs
    · exact ⟨secondHandler_control (hread _ _), secondHandler_consuming⟩
    · exact ⟨Or.inl (hread _ _), rfl⟩
  · exact ⟨Or.inl hstrt, rfl⟩

theorem receiveTCPData_spec {buf : Buffer} (hbuf : (s.connections c).inBuf = some buf)
    (read : Option (List UInt8)) : control (receiveTCPData s c buf read) = control s ∧
      (receiveTCPData s c buf read).consuming = s.consuming := by
  have hrcvg : (control s).receiving c = true := by
    change (s.connections c).inBuf.isSome = true
    rw [hbuf]
    rfl
  have hstrt : ∀ buf, control (s.modify c fun conn =>
      { conn with generalTimer := true, inBuf := some buf }) = control s :=
    fun buf => control_modify_quiet rfl hrcvg.symm
  unfold receiveTCPData
  rcases read with _ | bytes
  · exact ⟨hstrt _, rfl⟩
  dsimp only
  generalize (if maxBufferSize - (buf.dataPos + buf.dataSize) ≤ maxMsgLenExceptUds then buf.reset
    else buf) = start
  have hstd : ∀ buf', control (setBuffer (s.modify c fun conn =>
      { conn with generalTimer := true, inBuf := some start }) c buf') = control s := by
    intro buf'
    have hkept : (control (s.modify c fun conn =>
        { conn with generalTimer := true, inBuf := some start })).receiving c = true := by
      rw [hstrt]
      exact hrcvg
    rw [control_setBuffer _ hkept, hstrt]
  split_ifs
  · exact ⟨hstd _, rfl⟩
  refine ⟨?_, rfl⟩
  have hmrk : ∀ t : Stack, control { t.modify c fun conn =>
      { conn with isConsuming := true } with queue := t.queue ++ [c] } = control t :=
    fun t => control_modify_quiet (s := t) (c := c)
      (f := fun conn => { conn with isConsuming := true }) rfl rfl
  exact (hmrk _).trans (hstd _)

theorem readable_spec (read : Option (List UInt8)) :
    (control (readable cfg s c read) = control s ∨
        control (readable cfg s c read) = (control s).finalize c) ∧
      (readable cfg s c read).consuming = s.consuming := by
  unfold readable
  split_ifs
  · exact receiveDiagMessage_spec read
  cases hbuf : (s.connections c).inBuf with
  | none => exact ⟨Or.inl rfl, rfl⟩
  | some buf =>
    obtain ⟨hctrl, hcons⟩ := receiveTCPData_spec hbuf read
    exact ⟨Or.inl hctrl, hcons⟩

theorem aliveCheckTimerHandler_change (h : WellFormed cfg (control s)) (hc : c ∈ s.connectionBox) :
    Change cfg s (.aliveCheckTimeout c confirm) (control (aliveCheckTimerHandler cfg confirm s c)) ∧
      (aliveCheckTimerHandler cfg confirm s c).consuming = s.consuming := by
  have hstop : control (s.modify c fun conn => { conn with aliveCheckTimer := false })
      = control s := control_modify_quiet rfl rfl
  have hrout : ∀ x, ((s.modify c fun conn => { conn with aliveCheckTimer := false }).connections
      x).toRouting = (s.connections x).toRouting := fun x => congrArg (fun k => k.routing x) hstop
  have hcons : (s.modify c fun conn => { conn with aliveCheckTimer := false }).consuming
      = s.consuming := rfl
  unfold aliveCheckTimerHandler
  dsimp only
  generalize s.modify c (fun conn => { conn with aliveCheckTimer := false }) = t
    at hstop hrout hcons ⊢
  rw [congrArg Routing.allAliveCheckFlag (hrout c),
    congrArg Routing.singleAliveCheckFlag (hrout c),
    show (s.connections c).allAliveCheckFlag = false from h.noAllCheck c, if_neg Bool.false_ne_true,
    congrArg Routing.routingConnectionPtr (hrout c), Bool.not_false, Bool.true_and]
  rcases hflag : (s.connections c).singleAliveCheckFlag with _ | _
  · rw [Bool.not_false, if_pos rfl, hstop]
    exact ⟨.quiet, hcons⟩
  rw [Bool.not_true, if_neg Bool.false_ne_true]
  rcases hwts : (s.connections c).routingConnectionPtr with _ | w
  · dsimp only
    rw [control_finalize, hstop, finalize_consuming]
    exact ⟨finalized_change hc, hcons⟩
  rw [control_finalize, finalize_consuming]
  unfold takeOver
  have hreg : (t.connections w).isConnectionRegistered = true ↔ (control s).registered w := by
    rw [isRegistered_iff, hstop]
  by_cases hw : (control s).registered w
  · rw [if_pos (hreg.2 hw), hstop]
    exact ⟨finalized_change hc, hcons⟩
  rw [if_neg (mt hreg.1 hw), control_assign, hstop, assign_consuming,
    congrArg Routing.authInfo (hrout w), congrArg Routing.raTesterSa (hrout w)]
  exact ⟨.tookOver c w confirm hc hflag hwts hw, hcons⟩

theorem requestUdsMessage_spec (ta : LogicalAddress) (data : List UInt8) :
    control (requestUdsMessage s ta data) = control s ∧
      (requestUdsMessage s ta data).consuming = s.consuming := by
  unfold requestUdsMessage
  split
  · exact ⟨rfl, rfl⟩
  split_ifs
  · exact ⟨rfl, rfl⟩
  · exact ⟨control_send _, send_consuming _⟩

theorem foldl_shutdown_consuming (l : List ConnId) :
    (l.foldl shutdown s).consuming = s.consuming := by
  induction l generalizing s with
  | nil => rfl
  | cons c rest ih =>
    rw [foldl_cons, ih]
    rfl

theorem foldl_stop_consuming (l : List ConnId) : (l.foldl stop s).consuming = s.consuming := by
  induction l generalizing s with
  | nil => rfl
  | cons c rest ih =>
    rw [foldl_cons, ih]
    rfl

theorem initialTimer_stopped :
    control (s.modify c fun conn => { conn with initialTimer := false }) = control s :=
  control_modify_quiet rfl rfl

theorem generalTimer_stopped :
    control (s.modify c fun conn => { conn with generalTimer := false }) = control s :=
  control_modify_quiet rfl rfl

/-- A call of `ConsumeTCPData` starts, if its connection is still there. -/
theorem consume_spec (rest : List ConnId) (h : s.consuming = none) :
    control (if c ∈ s.connectionBox ∧ (s.connections c).inBuf.isSome then
        { s with queue := rest, consuming := some (c, 0) } else
        { s with queue := rest }) = control s ∧
      Receives (if c ∈ s.connectionBox ∧ (s.connections c).inBuf.isSome then
        { s with queue := rest, consuming := some (c, 0) } else { s with queue := rest }) := by
  split_ifs with hstar
  · refine ⟨rfl, ?_⟩
    intro c' count hcons
    cases hcons
    exact hstar.2
  · exact ⟨rfl, receives_of_none h⟩

/-- Outside of the loop nothing is accessed that could have been released. -/
theorem dispatch_change (h : WellFormed cfg (control s))
    (hidle : s.consuming = none) (hdisp : dispatch cfg s a = some t) :
    Change cfg s a (control t) ∧ Receives t := by
  have hkept : ∀ {t' : Stack}, t'.consuming = s.consuming → Receives t' :=
    fun hsame => receives_of_none (hsame.trans hidle)
  cases a with
  | accept testerSA =>
    cases hdisp
    by_cases hroom : s.connectionBox.length < cfg.maxSockNum
    · rw [control_serverCreateConnection testerSA hroom]
      refine ⟨.accepted testerSA hroom, hkept ?_⟩
      rw [serverCreateConnection, if_neg (Nat.not_le.2 hroom)]
    · rw [serverCreateConnection, if_pos (Nat.not_lt.1 hroom)]
      exact ⟨.quiet, hkept rfl⟩
  | hangUp c =>
    obtain ⟨hc, ⟨⟩⟩ := ite_none_right_eq_some.1 hdisp
    rw [control_finalize]
    exact ⟨finalized_change hc, hkept finalize_consuming⟩
  | receive c read =>
    obtain ⟨hc, ⟨⟩⟩ := ite_none_right_eq_some.1 hdisp
    obtain ⟨hctrl, hsame⟩ := @readable_spec cfg c s read
    refine ⟨?_, hkept hsame⟩
    rcases hctrl with hqui | hfin
    · rw [hqui]
      exact .quiet
    · rw [hfin]
      exact finalized_change hc
  | consume =>
    unfold dispatch at hdisp
    rcases hque : s.queue with _ | ⟨c, rest⟩
    · rw [hque] at hdisp
      cases hdisp
    rw [hque] at hdisp
    cases hdisp
    obtain ⟨hqui, hrcvs⟩ := consume_spec (c := c) rest hidle
    rw [hqui]
    exact ⟨.quiet, hrcvs⟩
  | round => cases hdisp
  | initialTimeout c =>
    obtain ⟨⟨hc, _⟩, ⟨⟩⟩ := ite_none_right_eq_some.1 hdisp
    rw [control_finalize, initialTimer_stopped]
    exact ⟨finalized_change hc, hkept finalize_consuming⟩
  | generalTimeout c =>
    obtain ⟨⟨hc, _⟩, ⟨⟩⟩ := ite_none_right_eq_some.1 hdisp
    rw [control_finalize, generalTimer_stopped]
    exact ⟨finalized_change hc, hkept finalize_consuming⟩
  | aliveCheckTimeout c confirm =>
    obtain ⟨⟨hc, _⟩, ⟨⟩⟩ := ite_none_right_eq_some.1 hdisp
    obtain ⟨hchg, hsame⟩ := @aliveCheckTimerHandler_change cfg c confirm s h hc
    exact ⟨hchg, hkept hsame⟩
  | respond ta data =>
    cases hdisp
    obtain ⟨hqui, hsame⟩ := requestUdsMessage_spec (s := s) ta data
    rw [hqui]
    exact ⟨.quiet, hkept hsame⟩
  | sessionDeInit =>
    cases hdisp
    have hall : control { s.connectionBox.foldl shutdown s with shutdownTimer := true } =
        (control s).shutdownAll := control_foldl_shutdown s.connectionBox
    rw [hall]
    exact ⟨.shutdown, hkept (foldl_shutdown_consuming _)⟩
  | shutdownTimeout =>
    obtain ⟨_, ⟨⟩⟩ := ite_none_right_eq_some.1 hdisp
    have hall : control { s.connectionBox.foldl stop s with
        shutdownTimer := false, connectionBox := [] } = (control s).deleteAll :=
      congrArg (fun k => { k with box := [] }) (control_foldl_stop s.connectionBox)
    rw [hall]
    exact ⟨.deleted, hkept (foldl_stop_consuming _)⟩

/-- Every event has one of the listed effects. Unless an alive check response is malformed,
the connection under consumption keeps its buffer. -/
theorem step_change (h : WellFormed cfg (control s)) (hstep : step cfg s a = some t) :
    Change cfg s a (control t) ∧
      (Receives s → (isRound a = true → malformedAliveCheck cfg s = false) → Receives t) := by
  unfold step at hstep
  split_ifs at hstep
  split at hstep
  · next c count confirm allocated hcons =>
    cases hstep
    obtain ⟨hchg, hkept⟩ := consumeRound_change (a := .round confirm allocated) confirm allocated
      h rfl hcons
    exact ⟨hchg, fun hrcvs hwell => hkept hrcvs (hwell rfl)⟩
  · cases hstep
  · next hidle =>
    obtain ⟨hchg, hrcvs⟩ := dispatch_change h hidle hstep
    exact ⟨hchg, fun _ _ => hrcvs⟩

theorem wellFormed_init : WellFormed cfg (control initStack) := by
  constructor
  · exact nodup_nil
  · intro c hc
    cases hc
  · exact Nat.zero_le _
  · intro c
    rfl
  · intro c hrcvs
    cases hrcvs
  · intro c w hw
    cases hw
  · intro i hi
    cases hi
  · intro c hc
    cases hc

theorem wellFormed_step (h : WellFormed cfg (control s))
    (hstep : step cfg s a = some t) : WellFormed cfg (control t) :=
  wellFormed_change h (step_change h hstep).1

end TelAF.DoipChanges
