import Mathlib.Data.UInt

/-!
# Connections of RPC proxies

A server proxy stands for a service of a remote system, and the client proxy of that system
has a node for it. The server proxy asks for the service with a ConnectService request when
the service becomes available, and again after two seconds when that fails. The node follows
the subscription of the event group. Both proxies queue their state changes as events of
their own, which run later than the messages that caused them.

What the SOME/IP layer does is outside: it tells the node of subscriptions at any time, and the
messages of one service arrive in the order in which they were sent.
-/

namespace TelAF.RpcConnection

inductive NodeState where
  | notConnected
  | connecting
  | connectAborted
  | connected
deriving DecidableEq

def anyVersion : String := "ANY_VERSION"

/-- `ServiceLink_t` without the id. -/
structure ServiceLink where
  user : String
  name : String
  protocolId : String

structure ConnectServiceReq where
  user : String
  name : String
  protocolId : String
  sysEventId : Nat

structure ConnectServiceResp where
  maxMsgSize : Nat
  protocolId : String
  sysEventId : Nat

/-- `Action_t` of the server proxy. -/
inductive ServerAction where
  | connectService
  | reconnectService
  | disconnectService
deriving DecidableEq

/-- The part of `RpcServerProxy_t` that belongs to the connection. `proxyService` says that
the proxy service is advertised; an assertion that fails sets `aborted`. -/
structure ServerProxy where
  serviceCfg : ServiceLink
  sysEventId : Nat
  isRequested : Bool
  state : NodeState
  timer : Bool
  proxyService : Bool
  version : String
  maxMessageSize : Nat
  events : List ServerAction
  aborted : Bool

namespace ServerProxy

variable (p : ServerProxy)

def report (action : ServerAction) : ServerProxy := { p with events := p.events ++ [action] }

def connectServiceReq : ConnectServiceReq :=
  ⟨p.serviceCfg.user, p.serviceCfg.name, p.serviceCfg.protocolId, p.sysEventId⟩

/-- The request goes out only for a service that was requested. -/
def connectService : ServerProxy × Option ConnectServiceReq :=
  if p.isRequested then (p, some p.connectServiceReq) else ({ p with aborted := true }, none)

def advertiseService : ServerProxy :=
  if p.proxyService then p
  else if p.state ≠ .connected then p
  else { p with proxyService := true }

/-- The service that answers is the one that was asked for. -/
def accepts (resp : ConnectServiceResp) : Prop :=
  (p.serviceCfg.protocolId = anyVersion ∨ p.serviceCfg.protocolId = resp.protocolId) ∧
    p.sysEventId = resp.sysEventId
deriving Decidable

/-- `RpcConnectServiceRespHandler`; a failed command has no response data. -/
def connectServiceResp (resp : Option ConnectServiceResp) : ServerProxy :=
  if p.state ≠ .connecting then
    if p.state = .connectAborted then { p with state := .notConnected } else p
  else
    match resp with
    | none => p.report .reconnectService
    | some resp =>
      if ¬ p.accepts resp then p.report .reconnectService
      else advertiseService { p with
        version := resp.protocolId, maxMessageSize := resp.maxMsgSize, state := .connected }

def reConnectTimerHandler : ServerProxy × Option ConnectServiceReq :=
  let outcome := p.connectService
  ({ outcome.1 with timer := false }, outcome.2)

/-- `RpcServerEventHandler`, without the sessions that it closes. -/
def eventHandler (action : ServerAction) : ServerProxy × Option ConnectServiceReq :=
  match p.state with
  | .notConnected =>
    match action with
    | .connectService =>
      let outcome := p.connectService
      ({ outcome.1 with state := .connecting }, outcome.2)
    | _ => (p, none)
  | .connecting =>
    match action with
    | .reconnectService => ({ p with timer := true }, none)
    | .disconnectService =>
      if p.timer then ({ p with timer := false, state := .notConnected }, none)
      else ({ p with state := .connectAborted }, none)
    | .connectService => (p, none)
  | .connectAborted =>
    match action with
    | .connectService => ({ p with state := .connecting }, none)
    | .reconnectService => ({ p with state := .notConnected }, none)
    | .disconnectService => (p, none)
  | .connected =>
    match action with
    | .disconnectService => ({ p with proxyService := false, state := .notConnected }, none)
    | _ => (p, none)

/-- `RpcStateChangeHandler`; another RPC version than ours counts as not available, without
an event. -/
def stateChangeHandler (isAvailable versionOk : Bool) : ServerProxy :=
  if isAvailable ∧ ¬ versionOk then p
  else if isAvailable then p.report .connectService
  else p.report .disconnectService

end ServerProxy

/-- `Action_t` of the client proxy. -/
inductive ClientAction where
  | remoteUnsubscribed
  | remoteSubscribed
  | remoteConnected
deriving DecidableEq

structure ClientNode where
  serviceCfg : ServiceLink
  version : String
  maxMessageSize : Nat
  sysEventId : Nat
  state : NodeState
  events : List ClientAction

namespace ClientNode

variable (n : ClientNode)

def report (action : ClientAction) : ClientNode := { n with events := n.events ++ [action] }

/-- `RpcClientNodeEventHandler` on the state. -/
def next : NodeState → ClientAction → NodeState
  | .notConnected, .remoteSubscribed => .connecting
  | .connecting, .remoteUnsubscribed => .notConnected
  | .connecting, .remoteConnected => .connected
  | .connected, .remoteUnsubscribed => .notConnected
  | state, _ => state

def eventHandler (action : ClientAction) : ClientNode := { n with state := next n.state action }

def subscriptionHandler (isSubscribed : Bool) : ClientNode :=
  n.report (if isSubscribed then .remoteSubscribed else .remoteUnsubscribed)

def isServiceInfoValid (req : ConnectServiceReq) : Prop :=
  n.serviceCfg.user = req.user ∧ n.serviceCfg.name = req.name ∧
    (n.version = req.protocolId ∨ req.protocolId = anyVersion) ∧ n.sysEventId = req.sysEventId
deriving Decidable

def answers (req : ConnectServiceReq) : Prop :=
  n.state ≠ .notConnected ∧ n.isServiceInfoValid req
deriving Decidable

/-- `RpcRxMessageHandler` for ConnectService; a generic error has no data. -/
def connectService (req : ConnectServiceReq) : ClientNode × Option ConnectServiceResp :=
  if n.answers req then
    (if n.state = .connecting then n.report .remoteConnected else n,
      some ⟨n.maxMessageSize, n.version, n.sysEventId⟩)
  else (n, none)

end ClientNode

inductive NodeMsg where
  | request (id : Nat) (req : ConnectServiceReq)
  | subscription (isSubscribed : Bool)

inductive ServerMsg where
  | response (id : Nat) (resp : Option ConnectServiceResp)
  | stateChange (isAvailable versionOk : Bool)

/-- `outstanding` are the requests whose response handler has not been called. For reasoning,
`available` is the last state change that the server proxy has been told of, and `stale` are
the requests during which it has handled a disconnect. -/
structure System where
  server : ServerProxy
  node : ClientNode
  isOffered : Bool
  toNode : List NodeMsg
  toServer : List ServerMsg
  outstanding : List Nat
  nextId : Nat
  available : Bool
  stale : List Nat

namespace System

variable (s : System)

def withServer (outcome : ServerProxy × Option ConnectServiceReq) : System :=
  match outcome.2 with
  | none => { s with server := outcome.1 }
  | some req => { s with
      server := outcome.1
      toNode := s.toNode ++ [.request s.nextId req]
      outstanding := s.outstanding ++ [s.nextId]
      nextId := s.nextId + 1 }

/-- The response handler is called once; what comes later is dropped. -/
def respond (id : Nat) (resp : Option ConnectServiceResp) : System :=
  if id ∈ s.outstanding then
    { s with
      server := s.server.connectServiceResp resp
      outstanding := s.outstanding.erase id }
  else s

def serverReceives : ServerMsg → System
  | .response id resp => s.respond id resp
  | .stateChange isAvailable versionOk =>
    { s with
      server := s.server.stateChangeHandler isAvailable versionOk
      available := if isAvailable ∧ ¬ versionOk then s.available else isAvailable }

/-- A client proxy that does not offer its service has no handler for requests. -/
def nodeReceives : NodeMsg → System
  | .request id req =>
    if s.isOffered then
      let outcome := s.node.connectService req
      { s with node := outcome.1, toServer := s.toServer ++ [.response id outcome.2] }
    else s
  | .subscription isSubscribed => { s with node := s.node.subscriptionHandler isSubscribed }

def serverHandles (action : ServerAction) : System :=
  { s with
    stale := if action = ServerAction.disconnectService then s.stale ++ s.outstanding else s.stale
  }.withServer (s.server.eventHandler action)

end System

/-- State changes and subscriptions are indicated by the layer below at any time, on either
side. It may lose a request or a response, and report a request as failed. -/
inductive Action where
  | indicateState (isAvailable versionOk : Bool)
  | indicateSubscription (isSubscribed : Bool)
  | deliverToServer
  | deliverToNode
  | serverEvent
  | nodeEvent
  | timerExpires
  | commandFails (id : Nat)
  | loseToServer
  | loseToNode
  | offerService (version : String) (maxMessageSize : Nat)
  | stopOfferService

def NodeMsg.isRequest : NodeMsg → Bool
  | .request _ _ => true
  | .subscription _ => false

def ServerMsg.isResponse : ServerMsg → Bool
  | .response _ _ => true
  | .stateChange _ _ => false

section
variable (s : System)

/-- Nothing is enabled after an abort of the server proxy. -/
def run : Action → Option System
  | .indicateState isAvailable versionOk =>
    some { s with toServer := s.toServer ++ [.stateChange isAvailable versionOk] }
  | .indicateSubscription isSubscribed =>
    some { s with toNode := s.toNode ++ [.subscription isSubscribed] }
  | .deliverToServer =>
    match s.toServer with
    | [] => none
    | msg :: rest => some (System.serverReceives { s with toServer := rest } msg)
  | .deliverToNode =>
    match s.toNode with
    | [] => none
    | msg :: rest => some (System.nodeReceives { s with toNode := rest } msg)
  | .serverEvent =>
    match s.server.events with
    | [] => none
    | action :: rest =>
      some (System.serverHandles { s with server := { s.server with events := rest } } action)
  | .nodeEvent =>
    match s.node.events with
    | [] => none
    | action :: rest =>
      some { s with node := ClientNode.eventHandler { s.node with events := rest } action }
  | .timerExpires =>
    if s.server.timer then some (s.withServer s.server.reConnectTimerHandler) else none
  | .commandFails id => if id ∈ s.outstanding then some (s.respond id none) else none
  | .loseToServer =>
    match s.toServer with
    | [] => none
    | msg :: rest => if msg.isResponse then some { s with toServer := rest } else none
  | .loseToNode =>
    match s.toNode with
    | [] => none
    | msg :: rest => if msg.isRequest then some { s with toNode := rest } else none
  | .offerService version maxMessageSize =>
    some { s with
      isOffered := true
      node := { s.node with version := version, maxMessageSize := maxMessageSize } }
  | .stopOfferService => some { s with isOffered := false }

def step (a : Action) : Option System := if s.server.aborted then none else run s a

end

/-- The proxies after `RequestService` of the server proxy has succeeded: a service that was
available then has its event queued. -/
structure Start (s : System) : Prop where
  requested : s.server.isRequested = true
  server : s.server.state = .notConnected ∧ s.server.timer = false ∧
    s.server.proxyService = false ∧
    s.server.aborted = false
  events : s.server.events = if s.available then [.connectService] else []
  node : s.node.state = .notConnected ∧ s.node.events = []
  quiet : s.toNode = [] ∧ s.toServer = [] ∧ s.outstanding = [] ∧ s.stale = []

end TelAF.RpcConnection
