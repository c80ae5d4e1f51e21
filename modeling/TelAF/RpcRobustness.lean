import TelAF.RpcRemoteData

/-!
# Remote data and the life of the proxies

Where the client proxy checks what a request says, the server proxy asserts the same of
responses and events. A run in which everything that arrives is as those assertions expect it
leaves both proxies unharmed, and what is refused in it changes nothing or closes the session.
-/

namespace TelAF.RpcRemoteData

open RpcConnection RpcProxySessions RpcMessaging RpcClientSessions TransitionRuns RpcClientProxy
  Option List Sessions

/-! ## Session objects -/

/-- No assertion about the object has failed, and its answers fit their messages. -/
def Fine (p : ProxySession) : Prop :=
  p.aborted = false ∧ ∀ x ∈ p.answered, x.2.length = x.1.payload.length

section Object

variable {p q : ProxySession}

theorem Fine.congr (h : Fine p) (habrt : q.aborted = p.aborted)
    (hansd : q.answered = p.answered) : Fine q := by
  obtain ⟨hp, hleng⟩ := h
  refine ⟨habrt.trans hp, ?_⟩
  rw [hansd]
  exact hleng

theorem fine_new (sessionRef : Nat) : Fine (ProxySession.new sessionRef) :=
  ⟨rfl, fun _ hx => nomatch hx⟩

variable (h : Fine p)
include h

theorem Fine.deleteSession (hid : p.rpcSessionId ≠ 0) : Fine p.deleteSession := by
  rw [ProxySession.deleteSession, if_neg hid]
  exact h.congr rfl rfl

theorem Fine.finish (hid : p.rpcSessionId ≠ 0) : Fine p.finish := by
  unfold ProxySession.finish
  split_ifs
  · exact h.congr rfl rfl
  · exact h.deleteSession hid

theorem Fine.closeHandler : Fine p.closeHandler := by
  have hclsd : Fine { p with sessionRef := none } := h.congr rfl rfl
  unfold ProxySession.closeHandler
  dsimp only
  split_ifs with hid
  iterate 2 exact h.congr rfl rfl
  · exact hclsd.finish hid
  · exact hclsd

theorem Fine.msgRecvHandler (msg : Msg) : Fine (p.msgRecvHandler msg) := by
  unfold ProxySession.msgRecvHandler
  dsimp only
  split_ifs <;> exact h.congr rfl rfl

theorem Fine.createSessionResp {resp : Option Nat}
    (hfits : resp = some 0 → p.sessionRef ≠ none) : Fine (p.createSessionResp resp).1 := by
  unfold ProxySession.createSessionResp
  cases href : p.sessionRef with
  | some sessionRef =>
    rcases resp with _ | id
    · exact h.congr rfl rfl
    dsimp only
    split_ifs
    all_goals exact h.congr rfl rfl
  | none =>
    rcases resp with _ | id
    · exact h.congr rfl rfl
    dsimp only
    split_ifs with hzero
    · exact absurd href (hfits (congrArg some hzero))
    · exact Fine.deleteSession (h.congr rfl rfl) hzero

theorem Fine.messageResp (hkept : Kept p) {id : Nat} {msg : Msg}
    (hcmd : Command.message id msg ∈ p.commands) {resp : Option (Nat × List UInt8)}
    (hfits : ∀ r ∈ resp, r.1 = p.rpcSessionId ∧
      (p.sessionRef ≠ none → r.2.length = msg.payload.length)) :
    Fine (p.messageResp id msg resp).1 := by
  have hid : p.rpcSessionId ≠ 0 := by
    obtain ⟨-, -, ⟨hact, -⟩ | hclsd⟩ := hkept.ongoing hcmd
    · exact hact.hid
    · exact hclsd.hid
  unfold ProxySession.messageResp
  split_ifs with hoth
  · obtain ⟨r, hr, hne⟩ := (any_eq_true _ _).1 hoth
    exact absurd (hfits r hr).1 (by simpa using hne)
  cases href : p.sessionRef with
  | some sessionRef =>
    simp only [ProxySession.responded, href]
    rcases resp with _ | r
    · exact h.congr rfl rfl
    refine ⟨h.1, ?_⟩
    intro x hx
    rcases mem_append.1 hx with hold | hnew
    · exact h.2 x hold
    rw [mem_singleton] at hnew
    subst hnew
    exact (hfits r rfl).2 (by simp [href])
  | none =>
    simp only [ProxySession.responded, href]
    split_ifs
    · exact Fine.finish (h.congr rfl rfl) hid
    · exact h.congr rfl rfl

/-- When DeleteSession is answered the object is as the handler asserts it to be. -/
theorem Fine.deleteSessionResp (hkept : Kept p) {id : Nat}
    (hcmd : Command.deleteSession id ∈ p.commands) {resp : Option Nat}
    (hfits : ∀ r ∈ resp, r = p.rpcSessionId) : Fine (p.deleteSessionResp id resp) := by
  unfold ProxySession.deleteSessionResp
  split_ifs with hoth
  · obtain ⟨r, hr, hne⟩ := (any_eq_true _ _).1 hoth
    obtain ⟨hclsd, hpend, hmsgs⟩ := hkept.deleting hcmd
    have hasse : p.sessionRef = none ∧ p.rpcSessionId = r ∧ p.pendingMsgList = [] ∧
        p.msgList = [] := ⟨hclsd, (hfits r hr).symm, hpend, hmsgs⟩
    exact absurd hasse (of_decide_eq_true hne)
  · exact h.congr rfl rfl

end Object

/-! ## All sessions -/

def AllFine (s : Sessions) : Prop :=
  ∀ (ptr : Nat) (p : ProxySession), s.objects[ptr]? = some p → Fine p

variable {handler : ProxySession → ProxySession × Option Nat} {rpcSessionId : Nat}

section Objects

variable {s : Sessions} {ptr : Nat} {p q : ProxySession}
variable (h : AllFine s)
include h

theorem AllFine.set (hq : Fine q) : AllFine (s.set ptr q) := by
  intro ptr' p' hget
  rw [Sessions.set, getElem?_set] at hget
  split_ifs at hget
  · cases hget
    exact hq
  · exact h ptr' p' hget

theorem AllFine.closeSession (sessionRef : Nat) : AllFine (s.closeSession sessionRef) := by
  unfold Sessions.closeSession
  rcases s.findProxySessionByRef sessionRef with _ | ptr
  · exact h
  dsimp only
  cases hp : s.objects[ptr]? with
  | none => exact h
  | some p => exact h.set (h ptr p hp).closeHandler

theorem AllFine.openHandler (sessionRef : Nat) : AllFine (s.openHandler sessionRef) := by
  intro ptr p hget
  rcases mem_append.1 (mem_of_getElem? hget) with hold | hnew
  · obtain ⟨ptr', hget'⟩ := mem_iff_getElem?.1 hold
    exact h ptr' p hget'
  · rw [mem_singleton] at hnew
    exact hnew ▸ fine_new sessionRef

theorem AllFine.msgRecvHandler (sessionRef : Nat) (msg : Msg) :
    AllFine (s.msgRecvHandler sessionRef msg) := by
  unfold Sessions.msgRecvHandler
  rcases s.findProxySessionByRef sessionRef with _ | ptr
  · exact h.closeSession sessionRef
  dsimp only
  cases hp : s.objects[ptr]? with
  | none => exact h
  | some p => exact h.set ((h ptr p hp).msgRecvHandler msg)

theorem AllFine.respond
    (hp : s.objects[ptr]? = some p) (hrels : p.releases = 0) (hout : Fine (handler p).1) :
    AllFine (s.respond ptr handler) := by
  unfold Sessions.respond
  simp only [hp, hrels, ne_eq, not_true_eq_false]
  cases (handler p).2 with
  | none => exact h.set hout
  | some sessionRef => exact (h.set hout).closeSession sessionRef

theorem AllFine.closeByRemote (ptr : Nat) : AllFine (s.closeByRemote ptr) := by
  unfold Sessions.closeByRemote
  rcases hp : s.objects[ptr]? with _ | p
  · exact h
  have hset : AllFine (s.set ptr { p with isRemoteClosed := true }) :=
    h.set ((h ptr p hp).congr rfl rfl)
  dsimp only
  split
  · exact hset
  · exact hset.closeSession _

theorem AllFine.deleteSessionEvent (rpcSessionId : Nat) :
    AllFine (s.deleteSessionEvent rpcSessionId) := by
  unfold Sessions.deleteSessionEvent
  cases s.findProxySessionById rpcSessionId with
  | none => exact h
  | some ptr => exact h.closeByRemote ptr

theorem AllFine.messageEvent {maxPayloadSize : Nat} {payload : List UInt8}
    (hfits : payload ≠ [] → ∀ ptr ∈ s.findProxySessionById rpcSessionId,
      payload.length = maxPayloadSize) :
    AllFine (s.messageEvent maxPayloadSize rpcSessionId payload) := by
  unfold Sessions.messageEvent
  by_cases hemp : payload = []
  · rw [if_pos hemp]
    exact h
  rw [if_neg hemp]
  rcases hfnd : s.findProxySessionById rpcSessionId with _ | ptr
  · exact h
  have hlength := hfits hemp ptr hfnd
  dsimp only
  rcases hp : s.objects[ptr]? with _ | p
  · exact h
  dsimp only
  split_ifs
  · exact h
  · contradiction
  · exact h.set ((h ptr p hp).congr rfl rfl)

/-- The sessions that `CloseAllProxySessions` finds are open. -/
theorem AllFine.foldl_closeProxySession {ptrs : List Nat} (htrkd : Tracked s)
    (hnd : ptrs.Nodup) (hptrs : ∀ ptr ∈ ptrs, ∃ p, s.objects[ptr]? = some p ∧ Active p) :
    AllFine (ptrs.foldl closeProxySession s) := by
  induction ptrs generalizing s with
  | nil => exact h
  | cons ptr rest ih =>
    obtain ⟨p, hp, hact⟩ := hptrs ptr mem_cons_self
    obtain ⟨hnoti, hrest⟩ := nodup_cons.1 hnd
    obtain ⟨hnext, -, hoths⟩ := htrkd.closeByRemote hp hact
    have hfst : s.closeProxySession ptr = s.closeByRemote ptr := by
      simp only [closeProxySession, hp, hact.hopen, if_false]
    rw [foldl_cons, hfst]
    apply ih (h.closeByRemote ptr) hnext hrest
    intro ptr' hmem
    rw [hoths ptr' fun heq => hnoti (heq ▸ hmem)]
    exact hptrs ptr' (mem_cons_of_mem _ hmem)

end Objects

/-! ## The connection -/

section Connection

variable (p : ServerProxy)

structure SameService (p q : ServerProxy) : Prop where
  aborted : q.aborted = p.aborted
  isRequested : q.isRequested = p.isRequested

theorem connectResp_service (resp : Option ConnectServiceResp) :
    SameService p (p.connectServiceResp resp) ∧
      ((p.connectServiceResp resp).proxyService = p.proxyService ∧
          (p.connectServiceResp resp).maxMessageSize = p.maxMessageSize ∨
        ∃ r, resp = some r ∧ p.state = .connecting ∧ p.accepts r ∧
          (p.connectServiceResp resp).maxMessageSize = r.maxMsgSize) ∧
      (p.state = .notConnected → p.timer = false →
        (p.connectServiceResp resp).state = .notConnected ∧
          (p.connectServiceResp resp).timer = false) := by
  unfold ServerProxy.connectServiceResp ServerProxy.advertiseService
  split_ifs with hst habrt
  · exact ⟨⟨rfl, rfl⟩, .inl ⟨rfl, rfl⟩, fun _ htim => ⟨rfl, htim⟩⟩
  · exact ⟨⟨rfl, rfl⟩, .inl ⟨rfl, rfl⟩, fun h htim => ⟨h, htim⟩⟩
  have hcong : p.state = .connecting := not_not.1 hst
  have hnot : p.state ≠ .notConnected := by simp [hcong]
  rcases resp with _ | r
  · exact ⟨⟨rfl, rfl⟩, .inl ⟨rfl, rfl⟩, fun h => absurd h hnot⟩
  dsimp only
  split_ifs with hacc _ hneve
  · exact ⟨⟨rfl, rfl⟩, .inr ⟨r, rfl, hcong, hacc, rfl⟩, fun h => absurd h hnot⟩
  · exact absurd rfl hneve
  · exact ⟨⟨rfl, rfl⟩, .inr ⟨r, rfl, hcong, hacc, rfl⟩, fun h => absurd h hnot⟩
  · exact ⟨⟨rfl, rfl⟩, .inl ⟨rfl, rfl⟩, fun h => absurd h hnot⟩

theorem eventHandler_service (action : ServerAction)
    (hreqd : p.isRequested = true ∨ p.state = .notConnected ∧ p.timer = false)
    (hcns : p.state = .notConnected → action = ServerAction.connectService →
      p.isRequested = true) :
    SameService p (p.eventHandler action).1 ∧
      (p.eventHandler action).1.maxMessageSize = p.maxMessageSize ∧
      ((p.eventHandler action).1.proxyService = true → p.proxyService = true) ∧
      ((p.eventHandler action).1.isRequested = true ∨
        (p.eventHandler action).1.state = .notConnected ∧
          (p.eventHandler action).1.timer = false) := by
  unfold ServerProxy.eventHandler ServerProxy.connectService
  cases hst : p.state with
  | notConnected =>
    cases action with
    | connectService =>
      have hyes := hcns hst rfl
      rw [if_pos hyes]
      exact ⟨⟨rfl, rfl⟩, rfl, id, .inl hyes⟩
    | reconnectService | disconnectService => exact ⟨⟨rfl, rfl⟩, rfl, id, hreqd⟩
  | connecting =>
    have hyes : p.isRequested = true := by simpa [hst] using hreqd
    cases action with
    | disconnectService =>
      split_ifs <;> exact ⟨⟨rfl, rfl⟩, rfl, id, .inl hyes⟩
    | connectService | reconnectService => exact ⟨⟨rfl, rfl⟩, rfl, id, .inl hyes⟩
  | connectAborted =>
    have hyes : p.isRequested = true := by simpa [hst] using hreqd
    cases action <;> exact ⟨⟨rfl, rfl⟩, rfl, id, .inl hyes⟩
  | connected =>
    have hyes : p.isRequested = true := by simpa [hst] using hreqd
    cases action with
    | disconnectService =>
      have hgone : false = true → p.proxyService = true := fun h => nomatch h
      exact ⟨⟨rfl, rfl⟩, rfl, hgone, .inl hyes⟩
    | connectService | reconnectService => exact ⟨⟨rfl, rfl⟩, rfl, id, .inl hyes⟩

end Connection

/-! ## The client proxy -/

section Client

variable {layout : Layout} {s : RpcClientProxy}

@[simp] theorem aborted_deleteSession (s : RpcClientProxy) (ptr : Nat) :
    (s.deleteSession ptr).aborted = s.aborted := by
  unfold deleteSession
  split <;> rfl

@[simp] theorem aborted_deleteAllProxySessions (s : RpcClientProxy) (ptrs : List Nat) :
    (s.deleteAllProxySessions ptrs).aborted = s.aborted := by
  unfold deleteAllProxySessions
  induction ptrs generalizing s with
  | nil => rfl
  | cons ptr rest ih =>
    rw [foldl_cons, ih]
    exact aborted_deleteSession s ptr

theorem aborted_connectServiceMsg (index : Nat) (node : RpcClientProxyNode) (payload : List UInt8) :
    (s.connectServiceMsg layout index node payload).1.aborted = s.aborted := by
  unfold connectServiceMsg
  split <;> rfl

theorem aborted_createSessionMsg (index : Nat) (node : RpcClientProxyNode)
    (payload : List UInt8) (opened : Option Nat) :
    (s.createSessionMsg index node payload opened).1.aborted = s.aborted := by
  unfold createSessionMsg
  split_ifs
  · rfl
  · split <;> rfl

theorem aborted_deleteSessionMsg (index : Nat) (node : RpcClientProxyNode) (payload : List UInt8) :
    (s.deleteSessionMsg index node payload).1.aborted = s.aborted := by
  unfold deleteSessionMsg
  split_ifs
  · rfl
  split
  · rfl
  · exact aborted_deleteSession _ _

theorem aborted_messageMsg (node : RpcClientProxyNode) (rpcMsgRef : Nat) (payload : List UInt8) :
    (s.messageMsg node rpcMsgRef payload).1.aborted = s.aborted := by
  unfold messageMsg
  split_ifs
  · rfl
  split
  · rfl
  split
  · rfl
  · split_ifs <;> rfl

variable {opened : Option Nat}

theorem aborted_rxMessageHandler {m : RxMsg}
    (hok : KnownMethod m ∨ ∀ index ∈ s.findNodeBySystemId m.systemId,
      ∀ node ∈ s.nodes[index]?, node.conn.state = .notConnected ∨
        node.conn.state = .connecting) :
    (s.rxMessageHandler layout m opened).1.aborted = s.aborted := by
  unfold rxMessageHandler
  rcases hfnd : s.findNodeBySystemId m.systemId with _ | index
  · rfl
  dsimp only
  rcases hnode : s.nodes[index]? with _ | node
  · rfl
  dsimp only
  split_ifs with hst hcong hconnect hcrea hdlt hmess
  · rfl
  · rfl
  · exact aborted_connectServiceMsg index node m.payload
  · exact aborted_createSessionMsg index node m.payload opened
  · exact aborted_deleteSessionMsg index node m.payload
  · exact aborted_messageMsg node m.rpcMsgRef m.payload
  rcases hok with hknw | hnot
  · rcases hknw with h | h | h | h
    · exact absurd h hconnect
    · exact absurd h hcrea
    · exact absurd h hdlt
    · exact absurd h hmess
  · rcases hnot index hfnd node hnode with h | h
    · exact absurd h hst
    · exact absurd ⟨h, hconnect⟩ hcong

theorem aborted_nodeEvent {t : RpcClientProxy} {index : Nat} (h : s.nodeEvent index = some t) :
    t.aborted = s.aborted := by
  unfold nodeEvent at h
  rcases hnode : s.nodes[index]? with _ | node
  · simp [hnode] at h
  rcases hevs : node.conn.events with _ | ⟨action, rest⟩
  · simp [hnode, hevs] at h
  simp only [hnode, hevs] at h
  split_ifs at h
  · cases h
    exact aborted_deleteAllProxySessions _ _
  · cases h
    rfl

theorem aborted_subscription (index : Nat) (isSubscribed : Bool) :
    (s.subscription index isSubscribed).aborted = s.aborted := by
  unfold subscription
  split <;> rfl

theorem aborted_responseMsgHandler (ptr rpcMsgRef : Nat) (msg : Option (List UInt8)) :
    (s.responseMsgHandler ptr rpcMsgRef msg).1.aborted = s.aborted := by
  unfold responseMsgHandler
  split <;> rfl

theorem aborted_closeHandler (ptr : Nat) : (s.closeHandler ptr).1.aborted = s.aborted := by
  unfold closeHandler
  split
  · rfl
  split
  · rfl
  · exact aborted_deleteSession _ _

theorem findClientProxySession_eq_none {node : RpcClientProxyNode}
    (h : NoSession s node rpcSessionId) : s.findClientProxySession node rpcSessionId = none := by
  unfold findClientProxySession
  split_ifs
  · rfl
  rw [find?_eq_none]
  intro ptr hmem hfnd
  obtain ⟨c, hc, hid⟩ := (any_eq_true _ _).1 hfnd
  exact h ptr hmem c hc (by simpa using hid)

theorem rxMessageHandler_of_invalid {m : RxMsg} (hinv : InvalidRequest layout s m) :
    s.rxMessageHandler layout m opened = (s, some responseError) := by
  unfold rxMessageHandler
  rcases hfnd : s.findNodeBySystemId m.systemId with _ | index
  · rfl
  dsimp only
  rcases hnode : s.nodes[index]? with _ | node
  · rfl
  dsimp only
  rcases hinv index node hfnd hnode with hst | ⟨hst, hmeth⟩ | hpayl
  · rw [if_pos hst]
  · rw [if_neg (by simp [hst]), if_pos ⟨hst, hmeth⟩]
  split_ifs with hnot hearly hconnect hcrea hdlt hmess
  · rfl
  · rfl
  · rcases hpayl with ⟨-, hreq⟩ | ⟨h, -⟩ | ⟨h, -⟩ | ⟨h, -⟩
    · simp only [connectServiceMsg, hreq]
    all_goals exact absurd (hconnect.symm.trans h) (by decide)
  · rcases hpayl with ⟨h, -⟩ | ⟨-, hreq⟩ | ⟨h, -⟩ | ⟨h, -⟩
    · exact absurd h hconnect
    · unfold createSessionMsg
      rw [if_pos hreq]
    all_goals exact absurd (hcrea.symm.trans h) (by decide)
  · rcases hpayl with ⟨h, -⟩ | ⟨h, -⟩ | ⟨-, hreq⟩ | ⟨h, -⟩
    · exact absurd h hconnect
    · exact absurd h hcrea
    · unfold deleteSessionMsg
      rcases hreq with hsize | hnone
      · rw [if_pos hsize]
      · rw [findClientProxySession_eq_none hnone]
        exact ite_self _
    · exact absurd (hdlt.symm.trans h) (by decide)
  · rcases hpayl with ⟨h, -⟩ | ⟨h, -⟩ | ⟨h, -⟩ | ⟨-, hreq⟩
    · exact absurd h hconnect
    · exact absurd h hcrea
    · exact absurd h hdlt
    unfold messageMsg
    rcases hreq with hsize | hnone
    · rw [if_pos hsize]
    · rw [findClientProxySession_eq_none hnone]
      exact ite_self _
  · rcases hpayl with ⟨h, -⟩ | ⟨h, -⟩ | ⟨h, -⟩ | ⟨h, -⟩
    · exact absurd h hconnect
    · exact absurd h hcrea
    · exact absurd h hdlt
    · exact absurd h hmess

end Client

/-! ## Invalid events and responses -/

section Invalid

theorem findProxySessionById_eq_none {s : Sessions}
    (h : ∀ ptr ∈ s.proxySessionList, ∀ p : ProxySession, s.objects[ptr]? = some p →
      p.rpcSessionId ≠ rpcSessionId) : s.findProxySessionById rpcSessionId = none := by
  unfold findProxySessionById findProxySession
  split_ifs
  · rfl
  rw [find?_eq_none]
  intro ptr hmem hfnd
  obtain ⟨p, hp, hid⟩ := (any_eq_true _ _).1 hfnd
  exact h ptr hmem p hp (by simpa using hid)

theorem eventMsgHandler_of_invalid {s : RpcServerProxy} {data : List UInt8}
    (h : InvalidEvent s data) : eventMsgHandler s data = s := by
  obtain ⟨opCode, hopCo, hinv⟩ := h
  unfold eventMsgHandler
  simp only [hopCo]
  rcases hinv with ⟨hmess, hdlt⟩ | ⟨rfl, hemp⟩ | ⟨rfl, hsize⟩ | hnone
  · rw [if_neg hmess, if_neg hdlt]
  · rw [hemp]
    rfl
  · rw [if_neg (by decide), if_pos rfl, if_pos hsize]
  have hfind := findProxySessionById_eq_none hnone
  have hmess : ∀ msg, s.sessions.messageEvent s.conn.maxMessageSize (ofBe (data.take 4)) msg =
      s.sessions := by
    intro msg
    unfold messageEvent
    rw [hfind]
    exact ite_self _
  have hdlt : s.sessions.deleteSessionEvent (ofBe (data.take 4)) = s.sessions := by
    unfold deleteSessionEvent
    rw [hfind]
  rw [hmess, hdlt]
  split_ifs <;> rfl

/-- A handler that closes the local session leaves a closed one. -/
theorem closed_respond {s : Sessions} {ptr : Nat} {p : ProxySession} (hinde : Indexed s)
    (hp : s.objects[ptr]? = some p) (hrels : p.releases = 0)
    (href : (handler p).1.sessionRef = p.sessionRef) (hcloz : (handler p).2 = p.sessionRef) :
    ∃ q : ProxySession, (s.respond ptr handler).objects[ptr]? = some q ∧
      q.sessionRef = none := by
  have hget : (s.set ptr (handler p).1).objects[ptr]? = some (handler p).1 := by
    rw [getElem?_set_of_some hp, if_pos rfl]
  unfold respond
  simp only [hp, hrels, ne_eq, not_true_eq_false, hcloz]
  rcases hopen : p.sessionRef with _ | sessionRef
  · exact ⟨(handler p).1, hget, href.trans hopen⟩
  have hset := hinde.set hp href
  dsimp only
  rw [hset.closeSession_eq hget (href.trans hopen)]
  refine ⟨(handler p).1.closeHandler, ?_, sessionRef_closeHandler⟩
  exact (getElem?_set_of_some hget _ ptr).trans (if_pos rfl)

theorem failed_createSessionResp (p : ProxySession) :
    (p.createSessionResp none).1.sessionRef = p.sessionRef ∧
      (p.createSessionResp none).2 = p.sessionRef := by
  unfold ProxySession.createSessionResp
  cases href : p.sessionRef with
  | some sessionRef | none => exact ⟨href, rfl⟩

theorem failed_messageResp (p : ProxySession) (id : Nat) (msg : Msg) :
    (p.messageResp id msg none).1.sessionRef = p.sessionRef ∧
      (p.messageResp id msg none).2 = p.sessionRef := by
  unfold ProxySession.messageResp ProxySession.responded
  cases href : p.sessionRef with
  | some sessionRef => exact ⟨rfl, rfl⟩
  | none =>
    simp only [any_none, Bool.false_eq_true, if_false]
    split_ifs
    · exact ⟨sessionRef_finish, trivial⟩
    · exact ⟨rfl, trivial⟩

end Invalid

/-! ## Runs -/

structure Sturdy (bufferSize : Nat) (s : RpcServerProxy) : Prop where
  serving : Serving s
  fine : AllFine s.sessions
  aborted : s.conn.aborted = false
  fits : s.conn.proxyService = true → 4 + s.conn.maxMessageSize ≤ bufferSize
  requested : s.conn.isRequested = true ∨ s.conn.state = .notConnected ∧ s.conn.timer = false

section Runs

variable {layout : Layout} {bufferSize : Nat}
variable {s : RpcServerProxy}

theorem Sturdy.not_aborted (h : Sturdy bufferSize s) : ¬ s.aborted := by
  rintro (habrt | ⟨p, hp, habrt⟩)
  · rw [h.aborted] at habrt
    cases habrt
  obtain ⟨ptr, hget⟩ := mem_iff_getElem?.1 hp
  rw [(h.fine ptr p hget).1] at habrt
  cases habrt

theorem Sturdy.unharmed {s : Proxies} (h : Sturdy bufferSize s.server)
    (hcl : s.client.aborted = false) : Unharmed bufferSize s := by
  constructor
  · exact h.not_aborted
  · exact hcl
  · intro p hp
    obtain ⟨ptr, hget⟩ := mem_iff_getElem?.1 hp
    have hkept := h.serving.tracked.kept ptr p hget
    refine ⟨hkept.notUsed, fun hcmds => ?_⟩
    obtain ⟨command, hcmd⟩ := exists_mem_of_ne_nil _ hcmds
    exact hkept.notReleased hcmd
  · exact h.fits
  · intro p hp
    obtain ⟨ptr, hget⟩ := mem_iff_getElem?.1 hp
    exact (h.fine ptr p hget).2

/-- Only the sessions have changed, and nothing is wrong with them. -/
theorem Sturdy.sessions {sessions : Sessions} (h : Sturdy bufferSize s)
    (hgoes : Goes s.sessions sessions) (hfine : AllFine sessions) :
    Sturdy bufferSize { s with sessions := sessions } :=
  ⟨h.serving.goes hgoes, hfine, h.aborted, h.fits, h.requested⟩

variable {t : RpcServerProxy}

section

variable (h : Sturdy bufferSize s)
include h

theorem sturdy_localAction (a : LocalAction)
    (hok : a = .serverEvent → Orderly s .serverEvent ∧ (s.conn.state = .notConnected →
      s.conn.events.head? = some ServerAction.connectService → s.conn.isRequested = true))
    (hstep : RpcProxySessions.step s a.action = some t) : Sturdy bufferSize t := by
  have hservg : Serving t := by
    apply serving_step h.serving a.action _ hstep
    cases a with
    | serverEvent => exact (hok rfl).1
    | openSession sessionRef | sendMsg sessionRef msg | closeSession sessionRef | timerExpires =>
      trivial
  unfold RpcProxySessions.step at hstep
  split_ifs at hstep
  cases a with
  | openSession sessionRef =>
    obtain ⟨-, ⟨⟩⟩ := ite_none_right_eq_some.1 hstep
    exact ⟨hservg, h.fine.openHandler sessionRef, h.aborted, h.fits, h.requested⟩
  | sendMsg sessionRef msg =>
    cases hstep
    exact ⟨hservg, h.fine.msgRecvHandler sessionRef msg, h.aborted, h.fits, h.requested⟩
  | closeSession sessionRef =>
    cases hstep
    exact ⟨hservg, h.fine.closeSession sessionRef, h.aborted, h.fits, h.requested⟩
  | timerExpires =>
    obtain ⟨htim, ⟨⟩⟩ := ite_none_right_eq_some.1 hstep
    have hyes : s.conn.isRequested = true := by simpa [htim] using h.requested
    have hconn : s.conn.reConnectTimerHandler.1 = { s.conn with timer := false } := by
      simp [ServerProxy.reConnectTimerHandler, ServerProxy.connectService, hyes]
    rw [hconn] at hservg ⊢
    exact ⟨hservg, h.fine, h.aborted, h.fits, .inl hyes⟩
  | serverEvent =>
    obtain ⟨hord, hcns⟩ := hok rfl
    rcases hevs : s.conn.events with _ | ⟨action, rest⟩
    · simp only [RpcProxySessions.run, hevs] at hstep
      cases hstep
    simp only [RpcProxySessions.run, hevs] at hstep
    cases hstep
    obtain ⟨hsame, hsize, hsvc, hreqd⟩ :=
      eventHandler_service { s.conn with events := rest } action h.requested
        fun hst hactn => hcns hst (by rw [hevs, hactn]; rfl)
    have hfits : ((ServerProxy.eventHandler { s.conn with events := rest } action).1.proxyService
        = true → 4 + (ServerProxy.eventHandler { s.conn with events := rest }
          action).1.maxMessageSize ≤ bufferSize) := by
      intro hadv
      rw [hsize]
      exact h.fits (hsvc hadv)
    unfold RpcServerProxy.eventHandler at hservg ⊢
    dsimp only at hservg ⊢
    split_ifs at hservg ⊢ with hdisc
    · obtain ⟨hst, rfl⟩ := hdisc
      have hwts := hord hst (by rw [hevs]; rfl)
      have hacti : ∀ ptr ∈ s.sessions.proxySessionList, ∃ p : ProxySession,
          s.sessions.objects[ptr]? = some p ∧ Active p := by
        intro ptr hmem
        obtain ⟨p, hp, -⟩ := (h.serving.tracked.indexed.listed ptr).1 hmem
        exact ⟨p, hp, h.serving.tracked.active_of_listed hp hmem
          fun hcmd => hwts ptr hmem ⟨p, hp, hcmd⟩⟩
      have hfine : AllFine s.sessions.closeAllProxySessions :=
        h.fine.foldl_closeProxySession h.serving.tracked h.serving.tracked.indexed.nodup hacti
      exact ⟨hservg, hfine, hsame.aborted.trans h.aborted, hfits, hreqd⟩
    · exact ⟨hservg, h.fine, hsame.aborted.trans h.aborted, hfits, hreqd⟩

theorem sturdy_connectResp {resp : Option ConnectServiceResp}
    (hok : ∀ r ∈ resp, s.conn.state = .connecting → s.conn.accepts r →
      4 + r.maxMsgSize ≤ bufferSize)
    (hstep : RpcProxySessions.step s (.connectServiceResp resp) = some t) :
    Sturdy bufferSize t := by
  have hservg := serving_step h.serving (.connectServiceResp resp) trivial hstep
  unfold RpcProxySessions.step at hstep
  split_ifs at hstep
  cases hstep
  obtain ⟨hsame, hsize, hnotC⟩ := connectResp_service s.conn resp
  have hfits : (s.conn.connectServiceResp resp).proxyService = true →
      4 + (s.conn.connectServiceResp resp).maxMessageSize ≤ bufferSize := by
    intro hadv
    rcases hsize with ⟨hsvc, hsize⟩ | ⟨r, hr, hst, hacc, hsize⟩
    · rw [hsize]
      exact h.fits (hsvc ▸ hadv)
    · rw [hsize]
      exact hok r hr hst hacc
  have hreqd : (s.conn.connectServiceResp resp).isRequested = true ∨
      (s.conn.connectServiceResp resp).state = .notConnected ∧
        (s.conn.connectServiceResp resp).timer = false := by
    rcases h.requested with hyes | ⟨hst, htim⟩
    · exact .inl (hsame.isRequested.trans hyes)
    · exact .inr (hnotC hst htim)
  unfold RpcServerProxy.connectServiceResp at hservg ⊢
  dsimp only at hservg ⊢
  split_ifs at hservg ⊢
  all_goals exact ⟨hservg, h.fine, hsame.aborted.trans h.aborted, hfits, hreqd⟩

theorem sturdy_response {ptr : Nat} {command : Command} {r : Response}
    (hok : ∀ p ∈ s.sessions.objects[ptr]?, ResponseFits p r command)
    (hstep : commonRespHandler s ptr command r = some t) : Sturdy bufferSize t := by
  unfold commonRespHandler RpcProxySessions.step at hstep
  rw [if_neg h.not_aborted] at hstep
  cases command with
  | createSession =>
    obtain ⟨⟨p, hp, hcmd⟩, ⟨⟩⟩ := ite_none_right_eq_some.1 hstep
    have hkept := h.serving.tracked.kept ptr p hp
    have hfine := (h.fine ptr p hp).createSessionResp (hok p hp)
    exact h.sessions
      (h.serving.tracked.respond hp (hkept.notReleased hcmd)
        (hkept.createSessionResp hcmd (sessionResp r)))
      (h.fine.respond hp (hkept.notReleased hcmd) hfine)
  | deleteSession id =>
    obtain ⟨⟨p, hp, hcmd⟩, ⟨⟩⟩ := ite_none_right_eq_some.1 hstep
    have hkept := h.serving.tracked.kept ptr p hp
    obtain ⟨hresp, href⟩ := hkept.deleteSessionResp hcmd (sessionResp r)
    have hfine := (h.fine ptr p hp).deleteSessionResp hkept hcmd (hok p hp)
    exact h.sessions (h.serving.tracked.respond hp (hkept.notReleased hcmd) ⟨href, hresp⟩)
      (h.fine.respond hp (hkept.notReleased hcmd) hfine)
  | message id msg =>
    obtain ⟨⟨p, hp, hcmd⟩, ⟨⟩⟩ := ite_none_right_eq_some.1 hstep
    have hkept := h.serving.tracked.kept ptr p hp
    have hfine := (h.fine ptr p hp).messageResp hkept hcmd (hok p hp)
    exact h.sessions
      (h.serving.tracked.respond hp (hkept.notReleased hcmd)
        (hkept.messageResp hcmd (messageResp r)))
      (h.fine.respond hp (hkept.notReleased hcmd) hfine)

theorem sturdy_event {data : List UInt8} (hheader : 5 ≤ data.length)
    (hok : data[4]? = some rpcEventOpMessage → data.drop 5 ≠ [] →
      ∀ ptr ∈ s.sessions.findProxySessionById (ofBe (data.take 4)),
        (data.drop 5).length = s.conn.maxMessageSize) :
    Sturdy bufferSize (eventMsgHandler s data) := by
  unfold eventMsgHandler
  rcases hopCo : data[4]? with _ | opCode
  · have hshort := getElem?_eq_none_iff.1 hopCo
    omega
  dsimp only
  split_ifs with hmess hdlt hmsg
  · exact h.sessions (h.serving.tracked.messageEvent _ _ _)
      (h.fine.messageEvent (hok (hmess ▸ hopCo)))
  · exact h
  · exact h.sessions (h.serving.tracked.deleteSessionEvent _) (h.fine.deleteSessionEvent _)
  · exact h

theorem sturdy_requestService
    (isAvailable versionOk : Bool) : Sturdy bufferSize (requestService s isAvailable versionOk) := by
  have hconn : ∀ q : ServerProxy, q.proxyService = s.conn.proxyService →
      q.maxMessageSize = s.conn.maxMessageSize → q.aborted = s.conn.aborted →
      Sturdy bufferSize { s with conn := { q with isRequested := true } } := by
    intro q hsvc hsize habrt
    refine ⟨⟨h.serving.tracked, ?_⟩, h.fine, habrt.trans h.aborted, ?_, .inl rfl⟩
    · exact fun hnot => h.serving.list (hsvc.symm.trans hnot)
    dsimp only
    rw [hsvc, hsize]
    exact h.fits
  unfold requestService
  split_ifs
  · exact h
  · exact h
  · exact hconn (s.conn.report .connectService) rfl rfl rfl
  · exact hconn s.conn rfl rfl rfl

theorem sturdy_stateChange (isAvailable versionOk : Bool)
    (hstep : RpcProxySessions.step s (.stateChange isAvailable versionOk) = some t) :
    Sturdy bufferSize t := by
  have hservg := serving_step h.serving (.stateChange isAvailable versionOk) trivial hstep
  unfold RpcProxySessions.step at hstep
  split_ifs at hstep
  cases hstep
  unfold ServerProxy.stateChangeHandler at hservg ⊢
  split_ifs at hservg ⊢ <;> exact ⟨hservg, h.fine, h.aborted, h.fits, h.requested⟩

end

/-! ## What is refused -/

theorem Sturdy.refuses {s : Proxies} (h : Sturdy bufferSize s.server) : Refuses layout s := by
  constructor
  · intro m opened hinv
    exact rxMessageHandler_of_invalid hinv
  · intro data hinv
    exact eventMsgHandler_of_invalid hinv
  intro ptr command r t hinv hstep
  unfold commonRespHandler RpcProxySessions.step at hstep
  rw [if_neg h.not_aborted] at hstep
  have hinde := h.serving.tracked.indexed
  cases command with
  | createSession =>
    obtain ⟨⟨p, hp, hcmd⟩, ⟨⟩⟩ := ite_none_right_eq_some.1 hstep
    have hkept := h.serving.tracked.kept ptr p hp
    have hfail : sessionResp r = none := hinv
    rw [hfail]
    obtain ⟨href, hcloz⟩ := failed_createSessionResp p
    exact closed_respond hinde hp (hkept.notReleased hcmd) href hcloz
  | deleteSession id =>
    obtain ⟨⟨p, hp, hcmd⟩, ⟨⟩⟩ := ite_none_right_eq_some.1 hstep
    have hkept := h.serving.tracked.kept ptr p hp
    have hfail : sessionResp r = none := hinv
    rw [hfail]
    have hclsd : p.sessionRef = none := (hkept.deleting hcmd).1
    exact closed_respond hinde hp (hkept.notReleased hcmd) rfl hclsd.symm
  | message id msg =>
    obtain ⟨⟨p, hp, hcmd⟩, ⟨⟩⟩ := ite_none_right_eq_some.1 hstep
    have hkept := h.serving.tracked.kept ptr p hp
    have hfail : messageResp r = none := hinv
    rw [hfail]
    obtain ⟨href, hcloz⟩ := failed_messageResp p id msg
    exact closed_respond hinde hp (hkept.notReleased hcmd) href hcloz

/-- Both proxies of a system that nothing has harmed. -/
structure Robust (bufferSize : Nat) (s : Proxies) : Prop where
  server : Sturdy bufferSize s.server
  client : s.client.aborted = false

theorem robust_of_start {s : Proxies} (h : Start s) : Robust bufferSize s := by
  obtain ⟨-, htim, habrt⟩ := h.quiet
  refine ⟨⟨serving_of_start h.server, ?_, habrt, ?_, .inr ⟨h.server.server.1, htim⟩⟩, h.client⟩
  · intro ptr p hget
    rw [h.server.sessions] at hget
    cases hget
  · intro hadv
    rw [h.server.server.2] at hadv
    cases hadv

theorem robust_step {s t : Proxies} (h : Robust bufferSize s) (a : Action)
    (hok : Fits layout bufferSize s a) (hstep : step layout s a = some t) :
    Robust bufferSize t := by
  have hsrv := h.server
  have hcl := h.client
  have hruns : ¬ (s.server.aborted ∨ s.client.aborted = true) := by
    intro habrt
    rcases habrt with hserv | hclie
    · exact hsrv.not_aborted hserv
    · rw [hcl] at hclie
      cases hclie
  unfold step at hstep
  rw [if_neg hruns] at hstep
  cases a with
  | requestService isAvailable versionOk =>
    cases hstep
    exact ⟨sturdy_requestService hsrv isAvailable versionOk, hcl⟩
  | localAction a =>
    obtain ⟨server, hrun, ⟨⟩⟩ := map_eq_some_iff.1 hstep
    refine ⟨sturdy_localAction hsrv a ?_ hrun, hcl⟩
    rintro rfl
    exact hok
  | stateChange isAvailable versionOk =>
    obtain ⟨-, hstep⟩ := ite_none_right_eq_some.1 hstep
    obtain ⟨server, hrun, ⟨⟩⟩ := map_eq_some_iff.1 hstep
    exact ⟨sturdy_stateChange hsrv isAvailable versionOk hrun, hcl⟩
  | connectResponse r =>
    obtain ⟨server, hrun, ⟨⟩⟩ := map_eq_some_iff.1 hstep
    exact ⟨sturdy_connectResp hsrv hok hrun, hcl⟩
  | response ptr command r =>
    obtain ⟨server, hrun, ⟨⟩⟩ := map_eq_some_iff.1 hstep
    exact ⟨sturdy_response hsrv hok hrun, hcl⟩
  | event data =>
    obtain ⟨-, ⟨⟩⟩ := ite_none_right_eq_some.1 hstep
    exact ⟨sturdy_event hsrv hok.1 hok.2, hcl⟩
  | rxMsg m opened =>
    cases hstep
    exact ⟨hsrv, (aborted_rxMessageHandler hok).trans hcl⟩
  | subscription index isSubscribed =>
    cases hstep
    exact ⟨hsrv, (aborted_subscription index isSubscribed).trans hcl⟩
  | nodeEvent index =>
    obtain ⟨client, hrun, ⟨⟩⟩ := map_eq_some_iff.1 hstep
    exact ⟨hsrv, (aborted_nodeEvent hrun).trans hcl⟩
  | ipcResponse ptr rpcMsgRef msg =>
    cases hstep
    exact ⟨hsrv, (aborted_responseMsgHandler ptr rpcMsgRef msg).trans hcl⟩
  | ipcClose ptr =>
    cases hstep
    exact ⟨hsrv, (aborted_closeHandler ptr).trans hcl⟩

/-- What arrives as the assertions expect it harms neither proxy, and what is invalid in every
state of such a run is refused. -/
theorem unharmed_run {s t : Proxies} (hstart : Start s) {as : List Action}
    (hok : Meets (step layout) (Fits layout bufferSize) s as)
    (hrun : exec (step layout) s as = some t) : Unharmed bufferSize t ∧ Refuses layout t := by
  have hrobust : Robust bufferSize t :=
    exec_invariant (fun s a t => robust_step (a := a)) (robust_of_start hstart) hok hrun
  exact ⟨hrobust.server.unharmed hrobust.client, hrobust.server.refuses⟩

end Runs

/-! ## Runs of one system -/

def radioLayout : Layout := ⟨6, 14, 4⟩

/-- The system uses the voice call service of a remote system, and offers its own radio service
to the system 2. -/
def radioSystem : Proxies where
  server := { voicecallProxy with conn := { voicecallProxy.conn with isRequested := false } }
  registered := false
  client := {
    nodes := [{
      systemId := 2
      conn := {
        serviceCfg := ⟨"telaf", "taf_radio", anyVersion⟩
        version := "v1"
        maxMessageSize := 2
        sysEventId := 0x8004
        state := .notConnected
        events := [] }
      proxySessionList := [] }]
    objects := []
    rpcSessionid := 0
    aborted := false }

theorem start_radioSystem : Start radioSystem :=
  ⟨⟨⟨rfl, rfl⟩, rfl⟩, ⟨rfl, rfl, rfl⟩, rfl⟩

/-- The server proxy is connected and a local client opens a session. -/
def connecting : List Action :=
  [.requestService true true, .localAction .serverEvent,
    .connectResponse (responseConnectService radioLayout ⟨4, "v1", 0x8002⟩),
    .localAction (.openSession 1)]

/-- The system 2 connects to the client proxy. -/
def offering : List Action :=
  [.subscription 0 true, .nodeEvent 0,
    .rxMsg ⟨1, 2, rpcMethodConnectService, textField 6 "telaf" ++ textField 14 "taf_radio" ++
      textField 4 "v1" ++ [0x80, 0x04]⟩ none,
    .nodeEvent 0]

/-- A message is answered in either direction, and an event arrives. -/
def talking : List Action :=
  connecting ++ [.response 0 .createSession (responseSession 5), .localAction (.sendMsg 1 dial),
    .response 0 (.message 5 dial) (responseMessage 5 [0, 0, 0, 0]),
    .event (notifyMessage 5 [1, 1, 1, 1])] ++
  offering ++ [.rxMsg ⟨2, 2, rpcMethodCreateSession, []⟩ (some 9),
    .rxMsg ⟨3, 2, rpcMethodMessage, be32 1 ++ [8, 8]⟩ none, .ipcResponse 0 3 (some [7, 7])]

theorem unharmed_talking :
    ∃ t, exec (step radioLayout) radioSystem talking = some t ∧
      (Unharmed 1400 t ∧ Refuses radioLayout t) ∧
      t.server.sessions.objects.map ProxySession.events = [[[1, 1, 1, 1]]] ∧
      t.client.objects.map ClientProxySession.delivered = [[(3, [8, 8])]] := by
  have hrun : (exec (step radioLayout) radioSystem talking).any (fun t =>
      t.server.sessions.objects.map ProxySession.events = [[[1, 1, 1, 1]]] ∧
        t.client.objects.map ClientProxySession.delivered = [[(3, [8, 8])]]) = true := by
    decide +kernel
  obtain ⟨t, ht, h⟩ := (Option.any_eq_true _ _).1 hrun
  exact ⟨t, ht, unharmed_run start_radioSystem (by decide +kernel) ht, of_decide_eq_true h⟩

/-- A connected system calls a method that does not exist. -/
def unknownMethod : List Action := offering ++ [.rxMsg ⟨2, 2, 0x7005, []⟩ none]

def shortEvent : List Action := [.requestService true true, .event [0, 0, 0, 5]]

/-- The response to a message names another session. -/
def strayResponse : List Action :=
  connecting ++ [.response 0 .createSession (responseSession 5), .localAction (.sendMsg 1 dial),
    .response 0 (.message 5 dial) (responseMessage 6 [0, 0, 0, 0])]

/-- Each of the three ends one of the proxies. -/
theorem unharmed_fails :
    (∃ t, exec (step radioLayout) radioSystem unknownMethod = some t ∧ t.client.aborted = true) ∧
      (∃ t, exec (step radioLayout) radioSystem shortEvent = some t ∧ t.server.aborted) ∧
      ∃ t, exec (step radioLayout) radioSystem strayResponse = some t ∧ t.server.aborted := by
  have hclient : (exec (step radioLayout) radioSystem unknownMethod).any (fun t =>
      t.client.aborted = true) = true := by decide +kernel
  have hevent : (exec (step radioLayout) radioSystem shortEvent).any (fun t =>
      t.server.aborted) = true := by decide +kernel
  have hresponse : (exec (step radioLayout) radioSystem strayResponse).any (fun t =>
      t.server.aborted) = true := by decide +kernel
  obtain ⟨t, ht, h⟩ := (Option.any_eq_true _ _).1 hclient
  obtain ⟨u, hu, h'⟩ := (Option.any_eq_true _ _).1 hevent
  obtain ⟨v, hv, h''⟩ := (Option.any_eq_true _ _).1 hresponse
  exact ⟨⟨t, ht, of_decide_eq_true h⟩, ⟨u, hu, of_decide_eq_true h'⟩, v, hv, of_decide_eq_true h''⟩

end TelAF.RpcRemoteData
