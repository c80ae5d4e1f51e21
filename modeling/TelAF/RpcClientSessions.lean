import TelAF.RpcMessaging

/-!
# The RPC client proxy

The client proxy stands for the remote clients of a local service. It has a node for each
remote system, and a node has the sessions that this system has created, each with an IPC session
to the service. A request names a session by its id, which is looked up among the sessions
of the node of the system that has sent the request. The service and the SOME/IP layer are
outside.
-/

namespace TelAF.RpcClientSessions

open RpcConnection RpcMessaging

/-- `ClientProxySession_t` with the messages it has outstanding, by the reference of the
SOME/IP request. `payloadSize` belongs to the IPC session. For reasoning, `delivered` are the
requests that the IPC session has been given. -/
structure ClientProxySession where
  sessionRef : Option Nat
  rpcSessionId : Nat
  payloadSize : Nat
  msgList : List Nat
  releases : Nat
  delivered : List (Nat × List UInt8)

/-- `RpcClientProxyNode_t`; the sessions are addresses. -/
structure RpcClientProxyNode where
  systemId : Nat
  conn : ClientNode
  proxySessionList : List Nat

/-- `RpcClientProxy_t` with the counter for session ids. An assertion that fails sets
`aborted`. -/
structure RpcClientProxy where
  nodes : List RpcClientProxyNode
  objects : List ClientProxySession
  rpcSessionid : Nat
  aborted : Bool

structure RxMsg where
  rpcMsgRef : Nat
  systemId : Nat
  methodId : Nat
  payload : List UInt8

namespace ClientProxySession

variable (c : ClientProxySession)

/-- The IPC session is deleted. The object goes with it unless a message is outstanding. -/
def delete : ClientProxySession :=
  { c with
    sessionRef := none
    releases := if c.msgList = [] then c.releases + 1 else c.releases }

def deliver (rpcMsgRef : Nat) (payload : List UInt8) : ClientProxySession :=
  { c with
    msgList := c.msgList ++ [rpcMsgRef]
    delivered := c.delivered ++ [(rpcMsgRef, payload)] }

end ClientProxySession

namespace RpcClientProxy

variable (s : RpcClientProxy)

def setNode (index : Nat) (node : RpcClientProxyNode) : RpcClientProxy :=
  { s with nodes := s.nodes.set index node }

def setObject (ptr : Nat) (c : ClientProxySession) : RpcClientProxy :=
  { s with objects := s.objects.set ptr c }

def findNodeBySystemId (systemId : Nat) : Option Nat :=
  s.nodes.findIdx? fun node => node.systemId == systemId

/-- `FindClientProxySessionBySessionId`. -/
def findClientProxySession (node : RpcClientProxyNode) (rpcSessionId : Nat) : Option Nat :=
  if rpcSessionId = 0 then none
  else node.proxySessionList.find? fun ptr =>
    (s.objects[ptr]?).any fun c => c.rpcSessionId == rpcSessionId

/-- `AllocateRpcSessionId` skips 0 where the counter starts again. -/
def allocateRpcSessionId : Nat :=
  let next := (s.rpcSessionid + 1) % 2 ^ 32
  if next = 0 then 1 else next

def deleteSession (ptr : Nat) : RpcClientProxy :=
  match s.objects[ptr]? with
  | none => s
  | some c => s.setObject ptr c.delete

def deleteAllProxySessions (ptrs : List Nat) : RpcClientProxy := ptrs.foldl deleteSession s

def connectServiceMsg (layout : Layout) (index : Nat) (node : RpcClientProxyNode)
    (payload : List UInt8) : RpcClientProxy × Option Response :=
  match connectServiceReq layout payload with
  | none => (s, some responseError)
  | some req =>
    let outcome := node.conn.connectService req
    (s.setNode index { node with conn := outcome.1 },
      some (outcome.2.elim responseError (responseConnectService layout)))

/-- `opened` is the IPC session that could be opened. -/
def createSessionMsg (index : Nat) (node : RpcClientProxyNode) (payload : List UInt8)
    (opened : Option Nat) : RpcClientProxy × Option Response :=
  if payload ≠ [] then (s, some responseError)
  else
    match opened with
    | none => (s, some responseError)
    | some sessionRef =>
      let c : ClientProxySession := {
        sessionRef := some sessionRef
        rpcSessionId := s.allocateRpcSessionId
        payloadSize := node.conn.maxMessageSize
        msgList := []
        releases := 0
        delivered := [] }
      ({ s.setNode index { node with
            proxySessionList := node.proxySessionList ++ [s.objects.length] } with
          objects := s.objects ++ [c]
          rpcSessionid := s.allocateRpcSessionId },
        some (responseSession c.rpcSessionId))

def deleteSessionMsg (index : Nat) (node : RpcClientProxyNode) (payload : List UInt8) :
    RpcClientProxy × Option Response :=
  if payload.length ≠ 4 then (s, some responseError)
  else
    match s.findClientProxySession node (ofBe payload) with
    | none => (s, some responseError)
    | some ptr =>
      ((s.setNode index { node with
          proxySessionList := node.proxySessionList.filter (· ≠ ptr) }).deleteSession ptr,
        some (responseSession (ofBe payload)))

/-- The response comes when the service has answered. -/
def messageMsg (node : RpcClientProxyNode) (rpcMsgRef : Nat) (payload : List UInt8) :
    RpcClientProxy × Option Response :=
  if payload.length ≠ 4 + node.conn.maxMessageSize then (s, some responseError)
  else
    match s.findClientProxySession node (ofBe (payload.take 4)) with
    | none => (s, some responseError)
    | some ptr =>
      match s.objects[ptr]? with
      | none => (s, some responseError)
      | some c =>
        if c.sessionRef = none then (s, some responseError)
        else if node.conn.maxMessageSize ≠ c.payloadSize then (s, some responseError)
        else (s.setObject ptr (c.deliver rpcMsgRef (payload.drop 4)), none)

/-- `RpcRxMessageHandler`. Before a node is connected it processes no other request than
ConnectService. -/
def rxMessageHandler (layout : Layout) (m : RxMsg) (opened : Option Nat) :
    RpcClientProxy × Option Response :=
  match s.findNodeBySystemId m.systemId with
  | none => (s, some responseError)
  | some index =>
    match s.nodes[index]? with
    | none => (s, some responseError)
    | some node =>
      if node.conn.state = .notConnected then (s, some responseError)
      else if node.conn.state = .connecting ∧ m.methodId ≠ rpcMethodConnectService then
        (s, some responseError)
      else if m.methodId = rpcMethodConnectService then
        s.connectServiceMsg layout index node m.payload
      else if m.methodId = rpcMethodCreateSession then
        s.createSessionMsg index node m.payload opened
      else if m.methodId = rpcMethodDeleteSession then s.deleteSessionMsg index node m.payload
      else if m.methodId = rpcMethodMessage then s.messageMsg node m.rpcMsgRef m.payload
      else ({ s with aborted := true }, none)

/-- `RpcClientNodeEventHandler` for the first event of a node. -/
def nodeEvent (index : Nat) : Option RpcClientProxy :=
  match s.nodes[index]? with
  | none => none
  | some node =>
    match node.conn.events with
    | [] => none
    | action :: rest =>
      let conn := ClientNode.eventHandler { node.conn with events := rest } action
      if node.conn.state = .connected ∧ action = ClientAction.remoteUnsubscribed then
        some ((s.setNode index { node with conn := conn, proxySessionList := [] }
          ).deleteAllProxySessions node.proxySessionList)
      else some (s.setNode index { node with conn := conn })

/-- `RpcSubscriptionHandler`. -/
def subscription (index : Nat) (isSubscribed : Bool) : RpcClientProxy :=
  match s.nodes[index]? with
  | none => s
  | some node => s.setNode index { node with conn := node.conn.subscriptionHandler isSubscribed }

/-- `ProxySessionResponseMsgHandler`; there is no message when the IPC session is closed. -/
def responseMsgHandler (ptr rpcMsgRef : Nat) (msg : Option (List UInt8)) :
    RpcClientProxy × Option Response :=
  match s.objects[ptr]? with
  | none => (s, none)
  | some c =>
    (s.setObject ptr { c with msgList := c.msgList.erase rpcMsgRef },
      match msg with
      | some payload => some (responseMessage c.rpcSessionId payload)
      | none => some responseError)

def nodeOf (ptr : Nat) : Option Nat := s.nodes.findIdx? fun node => ptr ∈ node.proxySessionList

/-- `ProxySessionCloseHandler`, with the event for the remote system. -/
def closeHandler (ptr : Nat) : RpcClientProxy × Option (List UInt8) :=
  match s.nodeOf ptr with
  | none => (s, none)
  | some index =>
    match s.nodes[index]? with
    | none => (s, none)
    | some node =>
      ((s.setNode index { node with
          proxySessionList := node.proxySessionList.filter (· ≠ ptr) }).deleteSession ptr,
        if node.conn.state = .connected then
          (s.objects[ptr]?).map fun c => notifyDeleteSession c.rpcSessionId
        else none)

end RpcClientProxy

end TelAF.RpcClientSessions
