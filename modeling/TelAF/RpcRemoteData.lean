import TelAF.RpcClientSessions
import TelAF.RpcSessionLifetime

/-!
# What a remote system can send

Both proxies of a system, with everything that comes from outside as it is on the wire:
requests, responses and events are bytes of any content and length, from any system, and the
service of the server proxy becomes available and unavailable in any version at any time.
Local clients and the local service do what they like.
-/

namespace TelAF.RpcRemoteData

open RpcConnection RpcProxySessions RpcMessaging RpcClientSessions

section Server

variable (s : RpcServerProxy)

/-- `RequestService`. Where the service is there in another RPC version it fails, after it has
registered the handlers. -/
def requestService (isAvailable versionOk : Bool) : RpcServerProxy :=
  if s.conn.isRequested then s
  else if isAvailable ∧ ¬ versionOk then s
  else
    let conn := if isAvailable then s.conn.report .connectService else s.conn
    { s with conn := { conn with isRequested := true } }

/-- `RpcEventMsgHandler`, which asserts that there is a header. -/
def eventMsgHandler (data : List UInt8) : RpcServerProxy :=
  let rpcSessionId := ofBe (data.take 4)
  let msg := data.drop 5
  match data[4]? with
  | none => { s with conn := { s.conn with aborted := true } }
  | some opCode =>
    if opCode = rpcEventOpMessage then
      { s with sessions := s.sessions.messageEvent s.conn.maxMessageSize rpcSessionId msg }
    else if opCode = rpcEventOpDeleteSession then
      if msg ≠ [] then s
      else { s with sessions := s.sessions.deleteSessionEvent rpcSessionId }
    else s

/-- `CommonRespHandlerFunc` for a command of a session. -/
def commonRespHandler (ptr : Nat) (command : Command) (r : Response) : Option RpcServerProxy :=
  RpcProxySessions.step s (match command with
    | .createSession => .createSessionResp ptr (sessionResp r)
    | .deleteSession rpcSessionId => .deleteSessionResp ptr rpcSessionId (sessionResp r)
    | .message rpcSessionId msg => .messageResp ptr rpcSessionId msg (messageResp r))

end Server

/-- The two proxies of a system; `registered` says that the handlers of the server proxy are. -/
structure Proxies where
  server : RpcServerProxy
  registered : Bool
  client : RpcClientProxy

/-- What local clients and the event loop do to the server proxy. -/
inductive LocalAction where
  | openSession (sessionRef : Nat)
  | sendMsg (sessionRef : Nat) (msg : Msg)
  | closeSession (sessionRef : Nat)
  | timerExpires
  | serverEvent

def LocalAction.action : LocalAction → RpcProxySessions.Action
  | .openSession sessionRef => .openSession sessionRef
  | .sendMsg sessionRef msg => .sendMsg sessionRef msg
  | .closeSession sessionRef => .closeSession sessionRef
  | .timerExpires => .timerExpires
  | .serverEvent => .serverEvent

inductive Action where
  | requestService (isAvailable versionOk : Bool)
  | localAction (a : LocalAction)
  | stateChange (isAvailable versionOk : Bool)
  | connectResponse (r : Response)
  | response (ptr : Nat) (command : Command) (r : Response)
  | event (data : List UInt8)
  | rxMsg (m : RxMsg) (opened : Option Nat)
  | subscription (index : Nat) (isSubscribed : Bool)
  | nodeEvent (index : Nat)
  | ipcResponse (ptr rpcMsgRef : Nat) (msg : Option (List UInt8))
  | ipcClose (ptr : Nat)

section
variable (layout : Layout) (s : Proxies)

/-- Nothing happens in a process that has aborted. -/
def step (a : Action) : Option Proxies :=
  if s.server.aborted ∨ s.client.aborted then none
  else
    match a with
    | .requestService isAvailable versionOk =>
      some { s with server := requestService s.server isAvailable versionOk, registered := true }
    | .localAction a =>
      (RpcProxySessions.step s.server a.action).map fun server => { s with server := server }
    | .stateChange isAvailable versionOk =>
      if s.registered then
        (RpcProxySessions.step s.server (.stateChange isAvailable versionOk)).map
          fun server => { s with server := server }
      else none
    | .connectResponse r =>
      (RpcProxySessions.step s.server (.connectServiceResp (connectServiceResp layout r))).map
        fun server => { s with server := server }
    | .response ptr command r =>
      (commonRespHandler s.server ptr command r).map fun server => { s with server := server }
    | .event data =>
      if s.registered then some { s with server := eventMsgHandler s.server data } else none
    | .rxMsg m opened => some { s with client := (s.client.rxMessageHandler layout m opened).1 }
    | .subscription index isSubscribed =>
      some { s with client := s.client.subscription index isSubscribed }
    | .nodeEvent index => (s.client.nodeEvent index).map fun client => { s with client := client }
    | .ipcResponse ptr rpcMsgRef msg =>
      some { s with client := (s.client.responseMsgHandler ptr rpcMsgRef msg).1 }
    | .ipcClose ptr => some { s with client := (s.client.closeHandler ptr).1 }

end

structure Start (s : Proxies) : Prop where
  server : RpcProxySessions.Start s.server
  quiet : s.server.conn.isRequested = false ∧ s.server.conn.timer = false ∧
    s.server.conn.aborted = false
  client : s.client.aborted = false

/-- Nothing has aborted, no released object is used or held by a command, the messages of the
service fit the buffer they are sent from, and every answer fits its message. -/
structure Unharmed (bufferSize : Nat) (s : Proxies) : Prop where
  server : ¬ s.server.aborted
  client : s.client.aborted = false
  objects : ∀ p ∈ s.server.sessions.objects,
    p.dangling = false ∧ (p.commands ≠ [] → p.releases = 0)
  fits : s.server.conn.proxyService = true → 4 + s.server.conn.maxMessageSize ≤ bufferSize
  answered : ∀ p ∈ s.server.sessions.objects, ∀ x ∈ p.answered, x.2.length = x.1.payload.length

def KnownMethod (m : RxMsg) : Prop :=
  m.methodId = rpcMethodConnectService ∨ m.methodId = rpcMethodCreateSession ∨
    m.methodId = rpcMethodDeleteSession ∨ m.methodId = rpcMethodMessage
deriving Decidable

/-- No session in the list of the node has the id. -/
def NoSession (s : RpcClientProxy) (node : RpcClientProxyNode) (rpcSessionId : Nat) : Prop :=
  ∀ ptr ∈ node.proxySessionList, ∀ c : ClientProxySession, s.objects[ptr]? = some c →
    c.rpcSessionId ≠ rpcSessionId

/-- A payload of the wrong size, or a session that the system of the node does not have. -/
def InvalidPayload (layout : Layout) (s : RpcClientProxy) (node : RpcClientProxyNode)
    (m : RxMsg) : Prop :=
  m.methodId = rpcMethodConnectService ∧ connectServiceReq layout m.payload = none ∨
    m.methodId = rpcMethodCreateSession ∧ m.payload ≠ [] ∨
    m.methodId = rpcMethodDeleteSession ∧
      (m.payload.length ≠ 4 ∨ NoSession s node (ofBe m.payload)) ∨
    m.methodId = rpcMethodMessage ∧
      (m.payload.length ≠ 4 + node.conn.maxMessageSize ∨
        NoSession s node (ofBe (m.payload.take 4)))

/-- A request from a system without a node, before it is connected, or with an invalid
payload. -/
def InvalidRequest (layout : Layout) (s : RpcClientProxy) (m : RxMsg) : Prop :=
  ∀ index node, s.findNodeBySystemId m.systemId = some index → s.nodes[index]? = some node →
    node.conn.state = .notConnected ∨
      node.conn.state = .connecting ∧ m.methodId ≠ rpcMethodConnectService ∨
      InvalidPayload layout s node m

/-- An event with an unknown operation, of the wrong size, or for a session that is not
there. -/
def InvalidEvent (s : RpcServerProxy) (data : List UInt8) : Prop :=
  ∃ opCode, data[4]? = some opCode ∧
    (opCode ≠ rpcEventOpMessage ∧ opCode ≠ rpcEventOpDeleteSession ∨
      opCode = rpcEventOpMessage ∧ data.drop 5 = [] ∨
      opCode = rpcEventOpDeleteSession ∧ data.drop 5 ≠ [] ∨
      ∀ ptr ∈ s.sessions.proxySessionList, ∀ p : ProxySession,
        s.sessions.objects[ptr]? = some p → p.rpcSessionId ≠ ofBe (data.take 4))

def InvalidResponse (r : Response) : Command → Prop
  | .createSession => sessionResp r = none
  | .deleteSession _ => sessionResp r = none
  | .message _ _ => messageResp r = none

/-- What becomes of invalid data: an error response or nothing at all, or the local session is
closed. -/
structure Refuses (layout : Layout) (s : Proxies) : Prop where
  requests : ∀ m opened, InvalidRequest layout s.client m →
    s.client.rxMessageHandler layout m opened = (s.client, some responseError)
  events : ∀ data, InvalidEvent s.server data → eventMsgHandler s.server data = s.server
  responses : ∀ ptr command r t, InvalidResponse r command →
    commonRespHandler s.server ptr command r = some t →
    ∃ p : ProxySession, t.sessions.objects[ptr]? = some p ∧ p.sessionRef = none

def ResponseFits (p : ProxySession) (r : Response) : Command → Prop
  | .createSession => sessionResp r = some 0 → p.sessionRef ≠ none
  | .deleteSession _ => ∀ id ∈ sessionResp r, id = p.rpcSessionId
  | .message _ msg => ∀ resp ∈ messageResp r,
      resp.1 = p.rpcSessionId ∧ (p.sessionRef ≠ none → resp.2.length = msg.payload.length)

instance (p : ProxySession) (r : Response) : DecidablePred (ResponseFits p r) := fun a => by
  cases a <;> unfold ResponseFits <;> infer_instance

/-- The condition on the next thing that happens. -/
def Fits (layout : Layout) (bufferSize : Nat) (s : Proxies) : Action → Prop
  | .localAction .serverEvent =>
    Orderly s.server .serverEvent ∧
      (s.server.conn.state = .notConnected →
        s.server.conn.events.head? = some ServerAction.connectService →
        s.server.conn.isRequested = true)
  | .connectResponse r => ∀ resp ∈ connectServiceResp layout r,
      s.server.conn.state = .connecting → s.server.conn.accepts resp →
      4 + resp.maxMsgSize ≤ bufferSize
  | .response ptr command r => ∀ p ∈ s.server.sessions.objects[ptr]?, ResponseFits p r command
  | .event data =>
    5 ≤ data.length ∧
      (data[4]? = some rpcEventOpMessage → data.drop 5 ≠ [] →
        ∀ ptr ∈ s.server.sessions.findProxySessionById (ofBe (data.take 4)),
          (data.drop 5).length = s.server.conn.maxMessageSize)
  | .rxMsg m _ => KnownMethod m ∨
      ∀ index ∈ s.client.findNodeBySystemId m.systemId,
        ∀ node ∈ s.client.nodes[index]?, node.conn.state = .notConnected ∨
          node.conn.state = .connecting
  | _ => True

instance (layout : Layout) (bufferSize : Nat) :
    DecidableRel (Fits layout bufferSize) := fun _ a => by
  unfold Fits
  split <;> infer_instance

end TelAF.RpcRemoteData
