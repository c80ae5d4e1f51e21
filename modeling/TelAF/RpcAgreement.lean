import TelAF.RpcConnection
import TelAF.TransitionRuns

/-!
# Agreement of connected RPC proxies

One thing at a time keeps a connecting server proxy going: a request, the timer or a queued
event. That holds in every run. That the node is connected where the server proxy is does
not: an unsubscription may reach the node alone, the node answers a request by the state it
is in although events are queued that change it, and a response that was sent before the
service went down counts for the connection after it.
-/

namespace TelAF.RpcConnection
open TransitionRuns ServerProxy List Option

/-! ## What is asked of a state -/

/-- Availability after the queued events of a server proxy. -/
def upAfter (up : Bool) (events : List ServerAction) : Bool :=
  events.foldl (fun up action =>
    match action with
    | .connectService => true
    | .disconnectService => false
    | .reconnectService => up) up

structure Quiescent (s : System) : Prop where
  toNode : s.toNode = []
  toServer : s.toServer = []
  serverEvents : s.server.events = []
  nodeEvents : s.node.events = []

/-- At most one request is outstanding, the server proxy does not get stuck while connecting,
nor disconnected while the service is available, and both sides agree at rest. -/
structure Agreeing (s : System) : Prop where
  one : s.outstanding.length ≤ 1
  continues : s.server.state = .connecting ∨ s.server.state = .connectAborted →
    s.outstanding ≠ [] ∨ s.server.timer ∨ .reconnectService ∈ s.server.events
  returns : s.server.state = .notConnected → s.available → .connectService ∈ s.server.events
  connected : s.server.state = .connected → Quiescent s → s.node.state = .connected

/-! ## What is asked of a step -/

/-- The state of a node after its queued events. -/
def ClientNode.fate (n : ClientNode) : NodeState := n.events.foldl ClientNode.next n.state

def ServerMsg.isDown : ServerMsg → Bool
  | .stateChange isAvailable _ => !isAvailable
  | .response _ _ => false

/-- The server proxy is going to handle a disconnect. -/
def Closing (s : System) : Prop :=
  .disconnectService ∈ s.server.events ∨ ∃ msg ∈ s.toServer, msg.isDown = true
deriving Decidable

/-- A response that connects the server proxy. -/
def Connects (s : System) (id : Nat) (resp : ConnectServiceResp) : Prop :=
  id ∈ s.outstanding ∧ s.server.accepts resp
deriving Decidable

/-- A response that connects the server proxy, for a request since which it has not handled a
disconnect. -/
def Expected (s : System) : ServerMsg → Prop
  | .response id (some resp) => Connects s id resp ∧ id ∉ s.stale
  | _ => False

instance (s : System) : DecidablePred (Expected s)
  | .response _ (some _) => inferInstanceAs (Decidable (_ ∧ _))
  | .response _ none => isFalse id
  | .stateChange _ _ => isFalse id

/-- The server proxy relies on the node, or is going to. -/
def Relies (s : System) : Prop :=
  s.server.state = .connected ∨ ∃ msg ∈ s.toServer, Expected s msg
deriving Decidable

/-- The node may be told of an unsubscription while it is not relied on, and may answer where
its queued events leave it connected. Otherwise the server proxy must be going to disconnect. -/
def NodeReady (s : System) : NodeMsg → Prop
  | .subscription isSubscribed => isSubscribed = false → Relies s → Closing s
  | .request id req =>
    s.isOffered → ∀ resp ∈ (s.node.connectService req).2, Connects s id resp →
      id ∉ s.stale → (s.node.connectService req).1.fate = .connected ∨ Closing s

instance (s : System) : DecidablePred (NodeReady s)
  | .subscription _ => inferInstanceAs (Decidable (_ → _))
  | .request _ _ => inferInstanceAs (Decidable (_ → _))

/-- What connects the server proxy answers a request since which it has not disconnected. -/
def ServerReady (s : System) : ServerMsg → Prop
  | .response id resp =>
    s.server.state = .connecting → ∀ r ∈ resp, Connects s id r → id ∉ s.stale
  | .stateChange _ _ => True

instance (s : System) : DecidablePred (ServerReady s)
  | .response _ _ => inferInstanceAs (Decidable (_ → _))
  | .stateChange _ _ => isTrue trivial

def InOrder (s : System) : Action → Prop
  | .deliverToNode => ∀ msg ∈ s.toNode.head?, NodeReady s msg
  | .deliverToServer => ∀ msg ∈ s.toServer.head?, ServerReady s msg
  | _ => True

instance decidableInOrder : DecidableRel InOrder := fun _ a => by
  cases a <;> unfold InOrder <;> infer_instance

/-! ## The server proxy -/

def isUp : NodeState → Bool
  | .connecting | .connected => true
  | .notConnected | .connectAborted => false

/-- A server proxy connects with one thing pending, a request, the timer or an event, and is
at rest with none. Its state and its events follow the availability of the service. -/
structure Progressing (p : ServerProxy) (outstanding : Nat) (available : Bool) : Prop where
  requested : p.isRequested = true
  running : p.aborted = false
  pending : outstanding + p.timer.toNat + p.events.count .reconnectService =
    if p.state = .connecting ∨ p.state = .connectAborted then 1 else 0
  timer : p.timer = true → p.state = .connecting
  available : upAfter (isUp p.state) p.events = available

variable {action : ServerAction}

section
variable {p : ServerProxy} {outstanding : Nat} {available : Bool}

theorem upAfter_append (up : Bool) (events : List ServerAction) (action : ServerAction) :
    upAfter up (events ++ [action]) = upAfter (upAfter up events) [action] := by
  unfold upAfter
  rw [foldl_append]

theorem connect_mem_of_upAfter {events : List ServerAction} (h : upAfter false events = true) :
    .connectService ∈ events := by
  induction events with
  | nil => cases h
  | cons action events ih =>
    cases action with
    | connectService => exact mem_cons_self
    | reconnectService | disconnectService => exact mem_cons_of_mem _ (ih h)

section

variable (h : Progressing p outstanding available)
include h

theorem Progressing.report (hacti : action ≠ .reconnectService) :
    Progressing (p.report action) outstanding (upAfter available [action]) := by
  constructor
  · exact h.requested
  · exact h.running
  · unfold ServerProxy.report
    rw [count_append, count_singleton, if_neg (by simpa using hacti)]
    exact h.pending
  · exact h.timer
  · unfold ServerProxy.report
    rw [upAfter_append, h.available]

theorem Progressing.stateChangeHandler (isAvailable versionOk : Bool) :
    Progressing (p.stateChangeHandler isAvailable versionOk) outstanding
      (if isAvailable ∧ ¬ versionOk then available else isAvailable) := by
  unfold ServerProxy.stateChangeHandler
  split_ifs with hrefused havl
  · exact h
  · rw [havl]
    exact h.report (by decide)
  · rw [Bool.eq_false_iff.2 havl]
    exact h.report (by decide)

theorem Progressing.advertiseService : Progressing p.advertiseService outstanding available := by
  unfold ServerProxy.advertiseService
  split_ifs
  · exact h
  · exact h
  · exact ⟨h.requested, h.running, h.pending, h.timer, h.available⟩

end

/-- The response ends the request. It connects the server proxy or makes it try again, unless
the service has gone down. -/
theorem Progressing.connectServiceResp (h : Progressing p (outstanding + 1) available)
    (resp : Option ConnectServiceResp) :
    Progressing (p.connectServiceResp resp) outstanding available := by
  have hpend := h.pending
  have havl := h.available
  unfold ServerProxy.connectServiceResp
  cases hst : p.state with
  | notConnected | connected =>
    rw [hst, if_neg (by decide)] at hpend
    omega
  | connectAborted =>
    rw [hst, if_pos (Or.inr rfl)] at hpend
    rw [hst] at havl
    refine ⟨h.requested, h.running, ?_, ?_, havl⟩
    · change outstanding + p.timer.toNat + p.events.count .reconnectService = 0
      omega
    intro hset
    have hcong := h.timer hset
    rw [hst] at hcong
    cases hcong
  | connecting =>
    rw [hst, if_pos (Or.inl rfl)] at hpend
    rw [hst] at havl
    have hretr : Progressing (p.report .reconnectService) outstanding available := by
      refine ⟨h.requested, h.running, ?_, fun _ => hst, ?_⟩
      · unfold ServerProxy.report
        dsimp only
        rw [count_append, count_singleton_self, if_pos (Or.inl hst)]
        omega
      · unfold ServerProxy.report
        rw [upAfter_append, hst, havl]
        rfl
    rw [if_neg (by decide)]
    rcases resp with _ | resp
    · exact hretr
    dsimp only
    split_ifs with hacc
    · have htim : p.timer = false := by
        rcases hset : p.timer with _ | _
        · rfl
        rw [hset] at hpend
        simp only [Bool.toNat_true] at hpend
        omega
      have hnone : outstanding + p.timer.toNat + p.events.count .reconnectService = 0 := by omega
      apply Progressing.advertiseService
      exact ⟨h.requested, h.running, hnone, fun hset => (nomatch htim.symm.trans hset),
        havl⟩
    · exact hretr

def sent (outcome : ServerProxy × Option ConnectServiceReq) : Nat := outcome.2.toList.length

theorem Progressing.reConnectTimerHandler (h : Progressing p outstanding available)
    (htim : p.timer = true) :
    Progressing p.reConnectTimerHandler.1 (outstanding + sent p.reConnectTimerHandler)
      available := by
  have hst := h.timer htim
  have hpend := h.pending
  rw [if_pos (Or.inl hst), htim, Bool.toNat_true] at hpend
  have hout : p.reConnectTimerHandler =
      ({ p with timer := false }, some p.connectServiceReq) := by
    unfold ServerProxy.reConnectTimerHandler ServerProxy.connectService
    rw [if_pos h.requested]
  rw [hout]
  refine ⟨h.requested, h.running, ?_, fun hset => (nomatch hset), h.available⟩
  dsimp only [sent]
  rw [if_pos (Or.inl hst)]
  simp only [toList_some, Bool.toNat_false]
  omega

theorem Progressing.eventHandler {rest : List ServerAction}
    (h : Progressing p outstanding available) (hevs : p.events = action :: rest) :
    let outcome := ServerProxy.eventHandler { p with events := rest } action
    Progressing outcome.1 (outstanding + sent outcome) available := by
  have hpend := h.pending
  have havl := h.available
  have htim := h.timer
  have hreqd := h.requested
  have hruns := h.running
  rw [hevs] at hpend havl
  unfold ServerProxy.eventHandler ServerProxy.connectService sent
  cases hst : p.state with
  | notConnected =>
    rw [hst] at hpend htim havl
    rw [if_neg (by decide)] at hpend
    cases action with
    | connectService =>
      rw [count_cons_of_ne (by decide)] at hpend
      rw [if_pos hreqd]
      refine ⟨hreqd, hruns, ?_, fun _ => rfl, havl⟩
      dsimp only [toList_some, length_singleton]
      rw [if_pos (Or.inl rfl)]
      omega
    | reconnectService =>
      rw [count_cons_self] at hpend
      omega
    | disconnectService =>
      refine ⟨hreqd, hruns, ?_, fun hset => (nomatch htim hset), ?_⟩
      · exact hpend
      · exact havl
  | connecting =>
    rw [hst] at hpend htim havl
    rw [if_pos (Or.inl rfl)] at hpend
    cases action with
    | connectService =>
      refine ⟨hreqd, hruns, ?_, fun _ => rfl, ?_⟩
      · exact hpend
      · exact havl
    | reconnectService =>
      rw [count_cons_self] at hpend
      refine ⟨hreqd, hruns, ?_, fun _ => rfl, ?_⟩
      · dsimp only [toList_none, length_nil, Bool.toNat_true]
        rw [if_pos (Or.inl rfl)]
        omega
      · exact havl
    | disconnectService =>
      rw [count_cons_of_ne (by decide)] at hpend
      dsimp only
      split_ifs with hset
      · rw [hset, Bool.toNat_true] at hpend
        refine ⟨hreqd, hruns, ?_, fun hset => (nomatch hset), havl⟩
        dsimp only [toList_none, length_nil, Bool.toNat_false]
        rw [if_neg (by decide)]
        omega
      · exact ⟨hreqd, hruns, hpend, fun hset' => absurd hset' hset, havl⟩
  | connectAborted =>
    rw [hst] at hpend htim havl
    rw [if_pos (Or.inr rfl)] at hpend
    cases action with
    | connectService =>
      exact ⟨hreqd, hruns, hpend, fun _ => rfl, havl⟩
    | reconnectService =>
      rw [count_cons_self] at hpend
      refine ⟨hreqd, hruns, ?_, fun hset => (nomatch htim hset), havl⟩
      dsimp only [toList_none, length_nil]
      rw [if_neg (by decide)]
      omega
    | disconnectService =>
      refine ⟨hreqd, hruns, ?_, fun hset => (nomatch htim hset), ?_⟩
      · exact hpend
      · exact havl
  | connected =>
    rw [hst] at hpend htim havl
    rw [if_neg (by decide)] at hpend
    cases action with
    | connectService =>
      refine ⟨hreqd, hruns, ?_, fun hset => (nomatch htim hset), ?_⟩
      · exact hpend
      · exact havl
    | reconnectService =>
      rw [count_cons_self] at hpend
      omega
    | disconnectService =>
      exact ⟨hreqd, hruns, hpend, fun hset => (nomatch htim hset), havl⟩

end

/-! ## Steps that take the first message or event -/

section
variable {s t : System}

theorem run_deliverToServer (hrun : run s .deliverToServer = some t) :
    ∃ msg rest, s.toServer = msg :: rest ∧
      System.serverReceives { s with toServer := rest } msg = t := by
  unfold run at hrun
  cases hmsgs : s.toServer with
  | nil => simp [hmsgs] at hrun
  | cons msg rest => exact ⟨msg, rest, rfl, by simpa [hmsgs] using hrun⟩

theorem run_deliverToNode (hrun : run s .deliverToNode = some t) :
    ∃ msg rest, s.toNode = msg :: rest ∧
      System.nodeReceives { s with toNode := rest } msg = t := by
  unfold run at hrun
  cases hmsgs : s.toNode with
  | nil => simp [hmsgs] at hrun
  | cons msg rest => exact ⟨msg, rest, rfl, by simpa [hmsgs] using hrun⟩

theorem run_serverEvent (hrun : run s .serverEvent = some t) :
    ∃ action rest, s.server.events = action :: rest ∧
      System.serverHandles { s with server := { s.server with events := rest } } action = t := by
  unfold run at hrun
  cases hevs : s.server.events with
  | nil => simp [hevs] at hrun
  | cons action rest => exact ⟨action, rest, rfl, by simpa [hevs] using hrun⟩

theorem run_nodeEvent (hrun : run s .nodeEvent = some t) :
    ∃ action rest, s.node.events = action :: rest ∧
      { s with node := ClientNode.eventHandler { s.node with events := rest } action } = t := by
  unfold run at hrun
  cases hevs : s.node.events with
  | nil => simp [hevs] at hrun
  | cons action rest => exact ⟨action, rest, rfl, by simpa [hevs] using hrun⟩

theorem run_loseToServer (hrun : run s .loseToServer = some t) :
    ∃ msg rest, s.toServer = msg :: rest ∧ msg.isResponse = true ∧
      { s with toServer := rest } = t := by
  unfold run at hrun
  cases hmsgs : s.toServer with
  | nil => simp [hmsgs] at hrun
  | cons msg rest => exact ⟨msg, rest, rfl, by simpa [hmsgs] using hrun⟩

theorem run_loseToNode (hrun : run s .loseToNode = some t) :
    ∃ msg rest, s.toNode = msg :: rest ∧ msg.isRequest = true ∧
      { s with toNode := rest } = t := by
  unfold run at hrun
  cases hmsgs : s.toNode with
  | nil => simp [hmsgs] at hrun
  | cons msg rest => exact ⟨msg, rest, rfl, by simpa [hmsgs] using hrun⟩

end

/-! ## Progress in every run -/

/-- The server proxy of the system makes progress. -/
def Progresses (s : System) : Prop := Progressing s.server s.outstanding.length s.available

variable {outcome : ServerProxy × Option ConnectServiceReq}

section
variable {s t : System}

theorem progresses_of_start (h : Start s) : Progresses s := by
  obtain ⟨hst, htim, _, habrt⟩ := h.server
  constructor
  · exact h.requested
  · exact habrt
  · rw [h.quiet.2.2.1, htim, hst, h.events]
    cases s.available <;> rfl
  · intro hset
    rw [htim] at hset
    cases hset
  · rw [hst, h.events]
    cases s.available <;> rfl

theorem Progresses.agreeing (h : Progresses s)
    (hcnd : s.server.state = .connected → Quiescent s → s.node.state = .connected) :
    Agreeing s := by
  have hpend := h.pending
  constructor
  · split_ifs at hpend <;> omega
  · intro hst
    rw [if_pos hst] at hpend
    by_contra hnone
    push Not at hnone
    obtain ⟨houts, htim, hevs⟩ := hnone
    rw [houts, count_eq_zero.2 hevs, Bool.eq_false_iff.2 htim] at hpend
    cases hpend
  · intro hst havl
    apply connect_mem_of_upAfter
    have hup := h.available
    rw [hst] at hup
    exact hup.trans havl
  · exact hcnd

theorem progresses_withServer
    (h : Progressing outcome.1 (s.outstanding.length + sent outcome) s.available) :
    Progresses (s.withServer outcome) := by
  unfold System.withServer
  obtain ⟨p, req⟩ := outcome
  rcases req with _ | req
  · exact h
  unfold Progresses
  rw [length_append]
  exact h

theorem progresses_respond (h : Progresses s) (id : Nat) (resp : Option ConnectServiceResp) :
    Progresses (s.respond id resp) := by
  unfold System.respond
  split_ifs with hid
  · have hlen : (s.outstanding.erase id).length + 1 = s.outstanding.length := by
      have hpos := length_pos_of_mem hid
      rw [length_erase_of_mem hid]
      omega
    unfold Progresses at h
    rw [← hlen] at h
    exact h.connectServiceResp resp
  · exact h

theorem progresses_step (h : Progresses s) (a : Action) (hstep : step s a = some t) :
    Progresses t := by
  obtain ⟨_, hrun⟩ := ite_none_left_eq_some.1 hstep
  cases a with
  | deliverToServer =>
    obtain ⟨msg, rest, _, rfl⟩ := run_deliverToServer hrun
    cases msg with
    | response id resp => exact progresses_respond (s := { s with toServer := rest }) h id resp
    | stateChange isAvailable versionOk => exact h.stateChangeHandler isAvailable versionOk
  | deliverToNode =>
    obtain ⟨msg, rest, _, rfl⟩ := run_deliverToNode hrun
    unfold System.nodeReceives
    cases msg with
    | request id req =>
      split_ifs
      all_goals exact h
    | subscription isSubscribed => exact h
  | serverEvent =>
    obtain ⟨action, rest, hevs, rfl⟩ := run_serverEvent hrun
    exact progresses_withServer (Progressing.eventHandler h hevs)
  | nodeEvent =>
    obtain ⟨action, rest, _, rfl⟩ := run_nodeEvent hrun
    exact h
  | timerExpires =>
    obtain ⟨htim, ⟨⟩⟩ := ite_none_right_eq_some.1 hrun
    exact progresses_withServer (Progressing.reConnectTimerHandler h htim)
  | commandFails id =>
    obtain ⟨_, ⟨⟩⟩ := ite_none_right_eq_some.1 hrun
    exact progresses_respond h id none
  | loseToServer =>
    obtain ⟨msg, rest, _, _, rfl⟩ := run_loseToServer hrun
    exact h
  | loseToNode =>
    obtain ⟨msg, rest, _, _, rfl⟩ := run_loseToNode hrun
    exact h
  | _ =>
    cases hrun
    exact h

end

/-! ## Agreement in runs that are in order -/

/-- Where the server proxy relies on the node, the node is going to be connected or the server
proxy to disconnect. -/
structure Reliable (s : System) : Prop where
  requests : ∀ id req, .request id req ∈ s.toNode → id < s.nextId
  responses : ∀ id resp, .response id resp ∈ s.toServer → id < s.nextId
  relies : Relies s → s.node.fate = .connected ∨ Closing s

section
variable {s t : System} {p : ServerProxy}

theorem reliable_of_start (h : Start s) : Reliable s := by
  obtain ⟨htoNo, htoSe, _, _⟩ := h.quiet
  constructor
  · rw [htoNo]
    exact fun _ _ hmem => nomatch hmem
  · rw [htoSe]
    exact fun _ _ hmem => nomatch hmem
  rintro (hst | ⟨msg, hmem, _⟩)
  · rw [h.server.1] at hst
    cases hst
  · rw [htoSe] at hmem
    cases hmem

theorem Reliable.connected (h : Reliable s) (hst : s.server.state = .connected)
    (hqui : Quiescent s) : s.node.state = .connected := by
  rcases h.relies (Or.inl hst) with hfate | hclsg
  · unfold ClientNode.fate at hfate
    rwa [hqui.nodeEvents] at hfate
  rcases hclsg with hev | ⟨msg, hmsg, _⟩
  · rw [hqui.serverEvents] at hev
    cases hev
  · rw [hqui.toServer] at hmsg
    cases hmsg

variable {msg : ServerMsg}

/-- What is expected is no service-down indication, and no failure. -/
theorem expected_iff : Expected s msg ↔
    ∃ id resp, msg = .response id (some resp) ∧ Connects s id resp ∧ id ∉ s.stale := by
  constructor
  · intro h
    cases msg with
    | response id resp =>
      cases resp with
      | none => exact h.elim
      | some resp => exact ⟨id, resp, rfl, h⟩
    | stateChange isAvailable versionOk => exact h.elim
  · rintro ⟨id, resp, rfl, h⟩
    exact h

theorem Reliable.mono (h : Reliable s) (hnext : t.nextId = s.nextId)
    (hreqs : ∀ id req, .request id req ∈ t.toNode → .request id req ∈ s.toNode)
    (hresps : ∀ id resp, .response id resp ∈ t.toServer → .response id resp ∈ s.toServer)
    (hrely : Relies t → Relies s) (hclsg : Closing s → Closing t)
    (hfate : s.node.fate = .connected → t.node.fate = .connected) : Reliable t := by
  constructor
  · intro id req hmem
    rw [hnext]
    exact h.requests id req (hreqs id req hmem)
  · intro id resp hmem
    rw [hnext]
    exact h.responses id resp (hresps id resp hmem)
  · exact fun hreli => (h.relies (hrely hreli)).imp hfate hclsg

structure SameServer (p q : ServerProxy) : Prop where
  serviceCfg : q.serviceCfg = p.serviceCfg
  sysEventId : q.sysEventId = p.sysEventId
  state : q.state = .connected → p.state = .connected
  events : .disconnectService ∈ p.events → .disconnectService ∈ q.events

theorem SameServer.accepts {q : ServerProxy} (h : SameServer p q) (resp : ConnectServiceResp)
    (hacc : q.accepts resp) : p.accepts resp := by
  unfold ServerProxy.accepts at hacc ⊢
  rwa [h.serviceCfg, h.sysEventId] at hacc

section

variable (p : ServerProxy)

theorem sameServer_connectService : SameServer p p.connectService.1 := by
  unfold connectService
  split_ifs
  all_goals exact ⟨rfl, rfl, id, id⟩

theorem sameServer_reConnectTimerHandler : SameServer p p.reConnectTimerHandler.1 := by
  obtain ⟨hcfg, hev, hst, hevs⟩ := sameServer_connectService p
  exact ⟨hcfg, hev, hst, hevs⟩

theorem sameServer_eventHandler (action : ServerAction) :
    SameServer p (p.eventHandler action).1 := by
  obtain ⟨hcfg, hev, _, hevs⟩ := sameServer_connectService p
  unfold eventHandler
  cases hst : p.state with
  | notConnected =>
    cases action with
    | connectService => exact ⟨hcfg, hev, fun h => (nomatch h), hevs⟩
    | _ => exact ⟨rfl, rfl, id, id⟩
  | connecting =>
    cases action with
    | disconnectService =>
      split_ifs
      all_goals exact ⟨rfl, rfl, fun h => (nomatch h), id⟩
    | reconnectService => exact ⟨rfl, rfl, fun h => (nomatch h), id⟩
    | connectService => exact ⟨rfl, rfl, id, id⟩
  | connectAborted =>
    cases action with
    | disconnectService => exact ⟨rfl, rfl, id, id⟩
    | _ => exact ⟨rfl, rfl, fun h => (nomatch h), id⟩
  | connected =>
    cases action with
    | disconnectService => exact ⟨rfl, rfl, fun h => (nomatch h), id⟩
    | _ => exact ⟨rfl, rfl, id, id⟩

theorem eventHandler_disconnect :
    (p.eventHandler .disconnectService).1.state ≠ .connected ∧
      (p.eventHandler .disconnectService).2 = none := by
  unfold eventHandler
  cases hst : p.state with
  | connecting =>
    split_ifs <;> simp
  | _ => simp [hst]

end

theorem reliable_withServer (h : Reliable s)
    (hsame : SameServer s.server outcome.1) : Reliable (s.withServer outcome) := by
  obtain ⟨q, req⟩ := outcome
  cases req with
  | none =>
    refine h.mono rfl (fun _ _ => id) (fun _ _ => id) ?_ ?_ id
    · rintro (hst | ⟨msg, hmem, hexp⟩)
      · exact Or.inl (hsame.state hst)
      · obtain ⟨id, resp, rfl, ⟨hid, hacc⟩, hstal⟩ := expected_iff.1 hexp
        exact Or.inr ⟨_, hmem, ⟨hid, hsame.accepts resp hacc⟩, hstal⟩
    · exact Or.imp_left hsame.events
  | some req =>
    constructor
    · intro id req' hmem
      rcases mem_append.1 hmem with hold | hnew
      · exact Nat.lt_succ_of_lt (h.requests id req' hold)
      · cases mem_singleton.1 hnew
        exact Nat.lt_succ_self _
    · exact fun id resp hmem => Nat.lt_succ_of_lt (h.responses id resp hmem)
    intro hrely
    have hreli : Relies s := by
      rcases hrely with hst | ⟨msg, hmem, hexp⟩
      · exact Or.inl (hsame.state hst)
      obtain ⟨id, resp, rfl, ⟨hid, hacc⟩, hstal⟩ := expected_iff.1 hexp
      have hlt := h.responses id (some resp) hmem
      rcases mem_append.1 hid with hold | hnew
      · exact Or.inr ⟨_, hmem, ⟨hold, hsame.accepts resp hacc⟩, hstal⟩
      · rw [mem_singleton.1 hnew] at hlt
        exact absurd hlt (Nat.lt_irrefl _)
    exact (h.relies hreli).imp_right (Or.imp_left hsame.events)

/-- After a disconnect nothing that is on its way connects the server proxy. -/
theorem reliable_serverHandles (h : Reliable s) {rest : List ServerAction}
    (hevs : s.server.events = action :: rest) :
    Reliable (System.serverHandles { s with server := { s.server with events := rest } }
      action) := by
  unfold System.serverHandles
  by_cases hacti : action = .disconnectService
  · subst hacti
    obtain ⟨hst, hnone⟩ := eventHandler_disconnect { s.server with events := rest }
    unfold System.withServer
    rw [hnone]
    refine ⟨h.requests, h.responses, ?_⟩
    rintro (hcnd | ⟨msg, _, hexp⟩)
    · exact absurd hcnd hst
    · obtain ⟨id, resp, rfl, ⟨hid, _⟩, hstal⟩ := expected_iff.1 hexp
      exact absurd (mem_append_right _ hid) hstal
  · rw [if_neg hacti]
    apply reliable_withServer (s := { s with server := { s.server with events := rest } })
    · refine h.mono rfl (fun _ _ => id) (fun _ _ => id) id ?_ id
      apply Or.imp_left
      intro hev
      rw [hevs] at hev
      exact (mem_cons.1 hev).resolve_left (Ne.symm hacti)
    · exact sameServer_eventHandler _ _

theorem connectResp_same (p : ServerProxy) (resp : Option ConnectServiceResp) :
    (p.connectServiceResp resp).serviceCfg = p.serviceCfg ∧
      (p.connectServiceResp resp).sysEventId = p.sysEventId ∧
      (.disconnectService ∈ p.events → .disconnectService ∈ (p.connectServiceResp resp).events) ∧
      ((p.connectServiceResp resp).state = .connected → p.state = .connected ∨
        p.state = .connecting ∧ ∃ r ∈ resp, p.accepts r) := by
  unfold connectServiceResp
  split_ifs with hcong habrt
  · exact ⟨rfl, rfl, id, fun h => (nomatch h)⟩
  · exact ⟨rfl, rfl, id, Or.inl⟩
  rw [not_not] at hcong
  rcases resp with _ | resp
  · exact ⟨rfl, rfl, mem_append_left _, Or.inl⟩
  dsimp only
  split_ifs with hacc
  · unfold advertiseService
    split_ifs <;>
      exact ⟨rfl, rfl, id, fun _ => Or.inr ⟨hcong, resp, rfl, hacc⟩⟩
  · exact ⟨rfl, rfl, mem_append_left _, Or.inl⟩

/-- A response may connect the server proxy where the node is going to be connected. -/
theorem reliable_respond (h : Reliable s) (id : Nat) (resp : Option ConnectServiceResp)
    (hreli : s.server.state = .connecting → ∀ r ∈ resp, Connects s id r →
      s.node.fate = .connected ∨ Closing s) : Reliable (s.respond id resp) := by
  unfold System.respond
  split_ifs with hid
  swap
  · exact h
  obtain ⟨hcfg, hev, hevs, hcnd⟩ := connectResp_same s.server resp
  refine ⟨h.requests, h.responses, ?_⟩
  intro hrely
  apply Or.imp_right (Or.imp_left hevs)
  rcases hrely with hst | ⟨msg, hmem, hexp⟩
  · rcases hcnd hst with hold | ⟨hcong, r, hr, hacc⟩
    · exact h.relies (Or.inl hold)
    · exact hreli hcong r hr ⟨hid, hacc⟩
  obtain ⟨id', resp', rfl, ⟨hid', hacc⟩, hstal⟩ := expected_iff.1 hexp
  unfold accepts at hacc
  rw [hcfg, hev] at hacc
  exact h.relies (Or.inr ⟨_, hmem, ⟨mem_of_mem_erase hid', hacc⟩, hstal⟩)

variable {rest : List ServerMsg}

/-- What is taken from the messages to the server proxy, if it is no service-down indication. -/
theorem Closing.received (h : Closing s)
    (hmsgs : s.toServer = msg :: rest) (hdown : msg.isDown = false) :
    Closing { s with toServer := rest } := by
  rcases h with hev | ⟨msg', hin, hdown'⟩
  · exact Or.inl hev
  rw [hmsgs] at hin
  rcases mem_cons.1 hin with rfl | hrest
  · rw [hdown] at hdown'
    cases hdown'
  · exact Or.inr ⟨msg', hrest, hdown'⟩

theorem Reliable.received (h : Reliable s)
    (hmsgs : s.toServer = msg :: rest) (hdown : msg.isDown = false) :
    Reliable { s with toServer := rest } := by
  have hmem : ∀ msg' ∈ rest, msg' ∈ s.toServer := by
    rw [hmsgs]
    exact fun _ => mem_cons_of_mem _
  refine h.mono rfl (fun _ _ hin => hin) (fun _ _ hin => hmem _ hin) ?_
    (fun hclsg => hclsg.received hmsgs hdown) (fun hfate => hfate)
  exact Or.imp_right fun ⟨msg', hin, hexp⟩ => ⟨msg', hmem _ hin, hexp⟩

theorem reliable_serverReceives (h : Reliable s)
    (hmsgs : s.toServer = msg :: rest) (hok : InOrder s .deliverToServer) :
    Reliable (System.serverReceives { s with toServer := rest } msg) := by
  have hhead : s.toServer.head? = some msg := by
    rw [hmsgs]
    rfl
  cases msg with
  | response id resp =>
    apply reliable_respond (h.received hmsgs rfl)
    intro hcong r hr hcns
    cases hr
    have hstal : id ∉ s.stale := hok _ hhead hcong r rfl hcns
    have hrely : Relies s := Or.inr ⟨_, mem_of_head? hhead, hcns, hstal⟩
    exact (h.relies hrely).imp_right fun hclsg => hclsg.received hmsgs rfl
  | stateChange isAvailable versionOk =>
    cases isAvailable with
    | false =>
      refine ⟨h.requests, ?_, fun _ => Or.inr (Or.inl ?_)⟩
      · intro id resp hin
        exact h.responses id resp (hmsgs ▸ mem_cons_of_mem _ hin)
      · exact mem_append_right _ mem_cons_self
    | true =>
      have htkn := h.received hmsgs rfl
      cases versionOk with
      | false => exact htkn
      | true =>
        exact htkn.mono rfl (fun _ _ hin => hin) (fun _ _ hin => hin) (fun hrely => hrely)
          (Or.imp_left (mem_append_left _)) (fun hfate => hfate)

theorem fate_report (n : ClientNode) (action : ClientAction) :
    (n.report action).fate = ClientNode.next n.fate action := by
  unfold ClientNode.report ClientNode.fate
  rw [foldl_append]
  rfl

theorem fate_connectService (n : ClientNode) (req : ConnectServiceReq)
    (hfate : n.fate = .connected) : (n.connectService req).1.fate = .connected := by
  unfold ClientNode.connectService
  split_ifs
  · dsimp only
    rw [fate_report, hfate]
    rfl
  all_goals exact hfate

theorem reliable_nodeReceives (h : Reliable s) {msg : NodeMsg} {rest : List NodeMsg}
    (hmsgs : s.toNode = msg :: rest) (hok : InOrder s .deliverToNode) :
    Reliable (System.nodeReceives { s with toNode := rest } msg) := by
  have hmem : ∀ msg' ∈ rest, msg' ∈ s.toNode := by
    rw [hmsgs]
    exact fun _ => mem_cons_of_mem _
  have htkn : Reliable { s with toNode := rest } :=
    ⟨fun id req hin => h.requests id req (hmem _ hin), h.responses, h.relies⟩
  cases msg with
  | request id req =>
    have hhead : s.toNode.head? = some (.request id req) := by rw [hmsgs]; rfl
    unfold System.nodeReceives
    split_ifs with hoffe
    swap
    · exact htkn
    refine ⟨htkn.requests, ?_, ?_⟩
    · intro id' resp hin
      rcases mem_append.1 hin with hold | hnew
      · exact h.responses id' resp hold
      · cases mem_singleton.1 hnew
        exact h.requests id req (mem_of_head? hhead)
    intro hrely
    have hclsg : Closing s → Closing { s with
        node := (s.node.connectService req).1
        toServer := s.toServer ++ [.response id (s.node.connectService req).2] } :=
      Or.imp_right fun ⟨msg, hin, hdown⟩ => ⟨msg, mem_append_left _ hin, hdown⟩
    have hansd : (s.node.connectService req).1.fate = .connected ∨ Closing s := by
      rcases hrely with hst | ⟨msg, hin, hexp⟩
      · exact (h.relies (Or.inl hst)).imp_left (fate_connectService s.node req)
      rcases mem_append.1 hin with hold | hnew
      · exact (h.relies (Or.inr ⟨msg, hold, hexp⟩)).imp_left (fate_connectService s.node req)
      obtain ⟨id', resp, rfl, hcns, hstal⟩ := expected_iff.1 hexp
      obtain ⟨rfl, hresp⟩ := ServerMsg.response.inj (mem_singleton.1 hnew)
      exact hok _ hhead hoffe resp hresp.symm hcns hstal
    exact hansd.imp_right hclsg
  | subscription isSubscribed =>
    refine ⟨htkn.requests, htkn.responses, ?_⟩
    intro hrely
    cases isSubscribed with
    | true =>
      apply (h.relies hrely).imp_left
      intro hfate
      exact (fate_report s.node .remoteSubscribed).trans (by rw [hfate]; rfl)
    | false =>
      have hhead : s.toNode.head? = some (.subscription false) := by rw [hmsgs]; rfl
      exact Or.inr (hok _ hhead rfl hrely)

theorem reliable_step (h : Reliable s) (a : Action) (hok : InOrder s a)
    (hstep : step s a = some t) : Reliable t := by
  obtain ⟨_, hrun⟩ := ite_none_left_eq_some.1 hstep
  cases a with
  | indicateState isAvailable versionOk =>
    cases hrun
    refine h.mono rfl (fun _ _ hin => hin) ?_ ?_ ?_ (fun hfate => hfate)
    · intro id resp hin
      rcases mem_append.1 hin with hold | hnew
      · exact hold
      · cases mem_singleton.1 hnew
    · apply Or.imp_right
      rintro ⟨msg, hin, hexp⟩
      rcases mem_append.1 hin with hold | hnew
      · exact ⟨msg, hold, hexp⟩
      · rw [mem_singleton.1 hnew] at hexp
        exact hexp.elim
    · exact Or.imp_right fun ⟨msg, hin, hdown⟩ => ⟨msg, mem_append_left _ hin, hdown⟩
  | indicateSubscription isSubscribed =>
    cases hrun
    refine ⟨?_, h.responses, h.relies⟩
    intro id req hin
    rcases mem_append.1 hin with hold | hnew
    · exact h.requests id req hold
    · cases mem_singleton.1 hnew
  | deliverToServer =>
    obtain ⟨msg, rest, hmsgs, rfl⟩ := run_deliverToServer hrun
    exact reliable_serverReceives h hmsgs hok
  | deliverToNode =>
    obtain ⟨msg, rest, hmsgs, rfl⟩ := run_deliverToNode hrun
    exact reliable_nodeReceives h hmsgs hok
  | serverEvent =>
    obtain ⟨action, rest, hevs, rfl⟩ := run_serverEvent hrun
    exact reliable_serverHandles h hevs
  | nodeEvent =>
    obtain ⟨action, rest, hevs, rfl⟩ := run_nodeEvent hrun
    refine ⟨h.requests, h.responses, fun hrely => (h.relies hrely).imp_left ?_⟩
    intro hfate
    unfold ClientNode.fate at hfate
    rw [hevs] at hfate
    exact hfate
  | timerExpires =>
    obtain ⟨_, ⟨⟩⟩ := ite_none_right_eq_some.1 hrun
    exact reliable_withServer h (sameServer_reConnectTimerHandler _)
  | commandFails id =>
    obtain ⟨_, ⟨⟩⟩ := ite_none_right_eq_some.1 hrun
    exact reliable_respond h id none fun _ r hr => nomatch hr
  | loseToServer =>
    obtain ⟨msg, rest, hmsgs, hresponse, rfl⟩ := run_loseToServer hrun
    apply h.received hmsgs
    cases msg with
    | response id resp => rfl
    | stateChange isAvailable versionOk => cases hresponse
  | loseToNode =>
    obtain ⟨msg, rest, hmsgs, _, rfl⟩ := run_loseToNode hrun
    refine ⟨?_, h.responses, h.relies⟩
    exact fun id req hin => h.requests id req (hmsgs ▸ mem_cons_of_mem _ hin)
  | offerService version maxMessageSize | stopOfferService =>
    cases hrun
    exact ⟨h.requests, h.responses, h.relies⟩

/-- Progress holds in every state of every run. Where the steps are in order, connected proxies
agree as well. -/
theorem agreeing_run (hstart : Start s) {as : List Action} (hok : Meets step InOrder s as)
    (hrun : exec step s as = some t) : Agreeing t := by
  have hprogress : Progresses t := by
    apply exec_invariant_of_step _ (progresses_of_start hstart) hrun
    exact fun s a t h hstep => progresses_step h a hstep
  have hreliable : Reliable t := by
    apply exec_invariant _ (reliable_of_start hstart) hok hrun
    exact fun s a t h hok hstep => reliable_step h a hok hstep
  exact hprogress.agreeing hreliable.connected

/-- Whatever is delivered or lost, a server proxy that connects has one thing pending, so that it
neither waits for ever nor connects twice. -/
theorem progresses_run (hstart : Start s) {as : List Action} (hrun : exec step s as = some t) :
    Progresses t :=
  exec_invariant_of_step (fun _ a _ h hstep => progresses_step h a hstep) (progresses_of_start hstart) hrun

end

/-! ## Runs of one service -/

def exampleLink : ServiceLink := ⟨"telaf", "taf_voicecall", anyVersion⟩

/-- A service that is offered, before anything is indicated. -/
def offeredService : System where
  server := ⟨exampleLink, 0x8001, true, .notConnected, false, false, "", 0, [], false⟩
  node := ⟨exampleLink, "v1", 100, 0x8001, .notConnected, []⟩
  isOffered := true
  toNode := []
  toServer := []
  outstanding := []
  nextId := 0
  available := false
  stale := []

theorem start_offeredService : Start offeredService := by constructor <;> simp [offeredService]

/-- The node is subscribed, then the service becomes available and is connected. -/
def connectRun : List Action :=
  [.indicateSubscription true, .deliverToNode, .nodeEvent, .indicateState true true,
    .deliverToServer, .serverEvent, .deliverToNode, .deliverToServer, .nodeEvent]

theorem agreeing_connectRun :
    ∃ t, exec step offeredService connectRun = some t ∧ Agreeing t ∧
      t.server.state = .connected ∧ t.node.state = .connected := by
  have hrun : (exec step offeredService connectRun).any
      (fun t => t.server.state = .connected ∧ t.node.state = .connected) = true := by
    decide +kernel
  obtain ⟨t, ht, h⟩ := (Option.any_eq_true _ _).1 hrun
  have hok : Meets step InOrder offeredService connectRun := by decide +kernel
  exact ⟨t, ht, agreeing_run start_offeredService hok ht, of_decide_eq_true h⟩

theorem progresses_connectRun :
    ∃ t, exec step offeredService connectRun = some t ∧ Progresses t := by
  obtain ⟨t, ht⟩ := isSome_iff_exists.1
    (show (exec step offeredService connectRun).isSome = true by decide +kernel)
  exact ⟨t, ht, progresses_run start_offeredService ht⟩

/-- The server proxy is connected, nothing is in flight and the node is not connected. -/
def Disagrees (t : System) : Prop :=
  t.server.state = .connected ∧ t.toNode = [] ∧ t.toServer = [] ∧ t.server.events = [] ∧
    t.node.events = [] ∧ t.node.state ≠ .connected
deriving Decidable

theorem Disagrees.not_agreeing {t : System} (h : Disagrees t) : ¬ Agreeing t := by
  obtain ⟨hst, htoNo, htoSe, hsrv, hnode, hnot⟩ := h
  exact fun hagre => hnot (hagre.connected hst ⟨htoNo, htoSe, hsrv, hnode⟩)

/-- The unsubscription is queued when the request is answered. -/
def queuedUnsubscription : List Action :=
  [.indicateSubscription true, .deliverToNode, .nodeEvent, .indicateState true true,
    .indicateSubscription false, .deliverToServer, .serverEvent, .deliverToNode, .deliverToNode,
    .nodeEvent, .nodeEvent, .deliverToServer]

/-- The service goes down and up again while the request is on its way. -/
def oldResponse : List Action :=
  [.indicateSubscription true, .deliverToNode, .nodeEvent, .indicateState true true,
    .deliverToServer, .serverEvent, .indicateState false true, .indicateState true true,
    .deliverToServer, .deliverToServer, .serverEvent, .serverEvent, .deliverToNode, .nodeEvent,
    .indicateSubscription false, .deliverToNode, .nodeEvent, .deliverToServer]

/-- The node is unsubscribed alone, or it answers although an unsubscription is queued, or the
server proxy takes an old response. -/
theorem agreeing_fails :
    (∃ t, exec step offeredService (connectRun ++ [.indicateSubscription false, .deliverToNode,
      .nodeEvent]) = some t ∧ ¬ Agreeing t) ∧
    (∃ t, exec step offeredService queuedUnsubscription = some t ∧ ¬ Agreeing t) ∧
    (∃ t, exec step offeredService oldResponse = some t ∧ ¬ Agreeing t) := by
  have hdisagrees : ∀ as : List Action,
      (exec step offeredService as).any (fun t => Disagrees t) = true →
      ∃ t, exec step offeredService as = some t ∧ ¬ Agreeing t := by
    intro as hrun
    obtain ⟨t, ht, h⟩ := (Option.any_eq_true _ _).1 hrun
    exact ⟨t, ht, (of_decide_eq_true h).not_agreeing⟩
  refine ⟨?_, ?_, ?_⟩
  all_goals
    apply hdisagrees
    decide +kernel

end TelAF.RpcConnection
