import TelAF.RpcConnection

/-!
# Sessions of the RPC server proxy

While its service is connected, the server proxy stands for it locally: every session that a
client opens has a session object, and the remote system is asked to create a session too.
Messages wait in the object until that session has an id. The object is released when the
session is closed at both ends, from the response handler of whichever command is the last.
`le_msg_CloseSession` calls the close handler of the service before it returns. What the SOME/IP
layer and the remote system do is outside.
-/

namespace TelAF.RpcProxySessions

open RpcConnection

/-- An IPC message of a client, its reference and its payload. -/
structure Msg where
  ref : Nat
  payload : List UInt8
deriving DecidableEq

/-- A command that has been sent for a session. The session object, or a message object of it,
is the context of its response handler. -/
inductive Command where
  | createSession
  | deleteSession (rpcSessionId : Nat)
  | message (rpcSessionId : Nat) (msg : Msg)
deriving DecidableEq

/-- `ProxySession_t` with the commands that are outstanding for it. `releases` counts the
releases of the object, `dangling` says that a handler has used it after a release, and
`aborted` that an assertion about it has failed. The rest is for reasoning: what came from the
client and what became of it, the id that the remote system has given, and the
DeleteSession commands. -/
structure ProxySession where
  sessionRef : Option Nat
  rpcSessionId : Nat
  isRemoteClosed : Bool
  pendingMsgList : List Msg
  msgList : List Msg
  commands : List Command
  releases : Nat
  dangling : Bool
  aborted : Bool
  received : List Msg
  answered : List (Msg × List UInt8)
  releasedMsgs : List Msg
  events : List (List UInt8)
  acknowledged : Option Nat
  deletes : List Nat

namespace ProxySession

/-- The object that `ProxySessionOpenHandler` creates. -/
def new (sessionRef : Nat) : ProxySession where
  sessionRef := some sessionRef
  rpcSessionId := 0
  isRemoteClosed := false
  pendingMsgList := []
  msgList := []
  commands := [.createSession]
  releases := 0
  dangling := false
  aborted := false
  received := []
  answered := []
  releasedMsgs := []
  events := []
  acknowledged := none
  deletes := []

variable (p : ProxySession)

def release : ProxySession := { p with releases := p.releases + 1 }

def abort : ProxySession := { p with aborted := true }

def releaseMsg (msg : Msg) : ProxySession := { p with releasedMsgs := p.releasedMsgs ++ [msg] }

/-- `rpcProxyMessage_DeleteSessionRequestResponse`, which asserts that there is an id. -/
def deleteSession : ProxySession :=
  if p.rpcSessionId = 0 then p.abort
  else { p with
    commands := p.commands ++ [.deleteSession p.rpcSessionId]
    deletes := p.deletes ++ [p.rpcSessionId] }

/-- The end of a local session without ongoing messages. -/
def finish : ProxySession := if p.isRemoteClosed then p.release else p.deleteSession

/-- `ProxySessionCloseHandler` for the object it has found. -/
def closeHandler : ProxySession :=
  let p := { p with sessionRef := none }
  if p.rpcSessionId = 0 then
    -- CreateSession is outstanding, or its response handler closes the session.
    let p := { p with
      pendingMsgList := []
      releasedMsgs := p.releasedMsgs ++ p.pendingMsgList }
    if p.isRemoteClosed then p.release else p
  else if p.msgList = [] then p.finish
  else p

/-- `ProxySessionMsgRecvHandler` for the object it has found. -/
def msgRecvHandler (msg : Msg) : ProxySession :=
  let p := { p with received := p.received ++ [msg] }
  if p.rpcSessionId = 0 then { p with pendingMsgList := p.pendingMsgList ++ [msg] }
  else { p with
    msgList := p.msgList ++ [msg]
    commands := p.commands ++ [.message p.rpcSessionId msg] }

/-- The id of the remote session is there, and the pending messages are sent in order. -/
def established (rpcSessionId : Nat) : ProxySession :=
  { p with
    rpcSessionId := rpcSessionId
    acknowledged := some rpcSessionId
    pendingMsgList := []
    msgList := p.msgList ++ p.pendingMsgList
    commands := p.commands ++ p.pendingMsgList.map (.message rpcSessionId) }

/-- A response handler has been called for the command. -/
def responded (command : Command) : ProxySession := { p with commands := p.commands.erase command }

/-- `RpcCreateSessionRespHandler`; the second part is the local session that it closes. A
failed command has no id. -/
def createSessionResp (resp : Option Nat) : ProxySession × Option Nat :=
  match p.sessionRef with
  | some sessionRef =>
    match resp with
    | none => ({ p.responded .createSession with isRemoteClosed := true }, some sessionRef)
    | some rpcSessionId =>
      if rpcSessionId = 0 then
        ({ p.responded .createSession with isRemoteClosed := true }, some sessionRef)
      else ((p.responded .createSession).established rpcSessionId, none)
  | none =>
    match resp with
    | none => ((p.responded .createSession).release, none)
    | some rpcSessionId =>
      if rpcSessionId = 0 then (p.abort, none)
      else
        (deleteSession { p.responded .createSession with
          rpcSessionId := rpcSessionId, acknowledged := some rpcSessionId }, none)

/-- `RpcMessageRespHandler`; a response comes with the id and the payload. -/
def messageResp (rpcSessionId : Nat) (msg : Msg) (resp : Option (Nat × List UInt8)) :
    ProxySession × Option Nat :=
  if resp.any (fun resp => resp.1 ≠ p.rpcSessionId) then (p.abort, none)
  else
    let p := { p.responded (.message rpcSessionId msg) with msgList := p.msgList.erase msg }
    match p.sessionRef with
    | some sessionRef =>
      match resp with
      | some resp => ({ p with answered := p.answered ++ [(msg, resp.2)] }, none)
      | none => ({ p.releaseMsg msg with isRemoteClosed := true }, some sessionRef)
    | none =>
      let p := p.releaseMsg msg
      (if p.msgList = [] then p.finish else p, none)

/-- `RpcDeleteSessionRespHandler`. -/
def deleteSessionResp (rpcSessionId : Nat) (resp : Option Nat) : ProxySession :=
  if resp.any (fun resp => ¬ (p.sessionRef = none ∧ p.rpcSessionId = resp ∧
      p.pendingMsgList = [] ∧ p.msgList = [])) then p.abort
  else (p.responded (.deleteSession rpcSessionId)).release

end ProxySession

/-- The objects by their addresses, which are never used again here, and the list of the
service with the open ones. `strayMsgs` are messages of sessions that the list does not have;
they are released. -/
structure Sessions where
  objects : List ProxySession
  proxySessionList : List Nat
  strayMsgs : List Msg

namespace Sessions

variable (s : Sessions)

def set (ptr : Nat) (p : ProxySession) : Sessions := { s with objects := s.objects.set ptr p }

def findProxySession (cond : ProxySession → Bool) : Option Nat :=
  s.proxySessionList.find? fun ptr => (s.objects[ptr]?).any cond

def findProxySessionByRef (sessionRef : Nat) : Option Nat :=
  s.findProxySession fun p => p.sessionRef == some sessionRef

def findProxySessionById (rpcSessionId : Nat) : Option Nat :=
  if rpcSessionId = 0 then none else s.findProxySession fun p => p.rpcSessionId == rpcSessionId

def openHandler (sessionRef : Nat) : Sessions :=
  { s with
    objects := s.objects ++ [ProxySession.new sessionRef]
    proxySessionList := s.proxySessionList ++ [s.objects.length] }

/-- `ProxySessionCloseHandler`, called when either side closes the session. -/
def closeSession (sessionRef : Nat) : Sessions :=
  match s.findProxySessionByRef sessionRef with
  | none => s
  | some ptr =>
    match s.objects[ptr]? with
    | none => s
    | some p =>
      { s.set ptr p.closeHandler with
        proxySessionList := s.proxySessionList.filter (· ≠ ptr) }

def msgRecvHandler (sessionRef : Nat) (msg : Msg) : Sessions :=
  match s.findProxySessionByRef sessionRef with
  | none => { s.closeSession sessionRef with strayMsgs := s.strayMsgs ++ [msg] }
  | some ptr =>
    match s.objects[ptr]? with
    | none => s
    | some p => s.set ptr (p.msgRecvHandler msg)

/-- A response handler uses the object that is its context, and closes the local session where
it says so. What it does to a released object is left open. -/
def respond (ptr : Nat) (handler : ProxySession → ProxySession × Option Nat) : Sessions :=
  match s.objects[ptr]? with
  | none => s
  | some p =>
    if p.releases ≠ 0 then s.set ptr { p with dangling := true }
    else
      let outcome := handler p
      match outcome.2 with
      | none => s.set ptr outcome.1
      | some sessionRef => (s.set ptr outcome.1).closeSession sessionRef

/-- Take the remote session for closed, and close the local one. -/
def closeByRemote (ptr : Nat) : Sessions :=
  match s.objects[ptr]? with
  | none => s
  | some p =>
    let s := s.set ptr { p with isRemoteClosed := true }
    match p.sessionRef with
    | none => s
    | some sessionRef => s.closeSession sessionRef

/-- A turn of the loop, which asserts that the session in the list is open. -/
def closeProxySession (ptr : Nat) : Sessions :=
  match s.objects[ptr]? with
  | none => s
  | some p => if p.sessionRef = none then s.set ptr p.abort else s.closeByRemote ptr

def closeAllProxySessions : Sessions := s.proxySessionList.foldl closeProxySession s

/-- `RPC_EVENT_OP_DELETE_SESSION`. -/
def deleteSessionEvent (rpcSessionId : Nat) : Sessions :=
  match s.findProxySessionById rpcSessionId with
  | none => s
  | some ptr => s.closeByRemote ptr

/-- `RPC_EVENT_OP_MESSAGE`; the length is asserted to be that of the IPC messages. -/
def messageEvent (maxPayloadSize rpcSessionId : Nat) (payload : List UInt8) : Sessions :=
  if payload = [] then s
  else
    match s.findProxySessionById rpcSessionId with
    | none => s
    | some ptr =>
      match s.objects[ptr]? with
      | none => s
      | some p =>
        if p.sessionRef = none then s
        else if payload.length ≠ maxPayloadSize then s.set ptr p.abort
        else s.set ptr { p with events := p.events ++ [payload] }

end Sessions

structure RpcServerProxy where
  conn : ServerProxy
  sessions : Sessions

namespace RpcServerProxy

variable (s : RpcServerProxy)

/-- `AdvertiseService` starts with an empty list of sessions. -/
def connectServiceResp (resp : Option ConnectServiceResp) : RpcServerProxy :=
  let conn := s.conn.connectServiceResp resp
  if ¬ s.conn.proxyService ∧ conn.proxyService then
    ⟨conn, { s.sessions with proxySessionList := [] }⟩
  else { s with conn := conn }

/-- `RpcServerEventHandler`: a connected service that goes away takes its sessions along. -/
def eventHandler (action : ServerAction) : RpcServerProxy :=
  let conn := (s.conn.eventHandler action).1
  if s.conn.state = .connected ∧ action = ServerAction.disconnectService then
    ⟨conn, s.sessions.closeAllProxySessions⟩
  else { s with conn := conn }

def aborted : Prop := s.conn.aborted = true ∨ ∃ p ∈ s.sessions.objects, p.aborted = true
deriving Decidable

end RpcServerProxy

/-- Clients open and close sessions and send messages, the remote system answers commands and
sends events, and the service comes and goes. -/
inductive Action where
  | openSession (sessionRef : Nat)
  | sendMsg (sessionRef : Nat) (msg : Msg)
  | closeSession (sessionRef : Nat)
  | createSessionResp (ptr : Nat) (resp : Option Nat)
  | messageResp (ptr rpcSessionId : Nat) (msg : Msg) (resp : Option (Nat × List UInt8))
  | deleteSessionResp (ptr rpcSessionId : Nat) (resp : Option Nat)
  | messageEvent (rpcSessionId : Nat) (payload : List UInt8)
  | deleteSessionEvent (rpcSessionId : Nat)
  | connectServiceResp (resp : Option ConnectServiceResp)
  | stateChange (isAvailable versionOk : Bool)
  | timerExpires
  | serverEvent

section
variable (s : RpcServerProxy)

/-- The command is outstanding for the object at the address. -/
def Outstanding (ptr : Nat) (command : Command) : Prop :=
  ∃ p ∈ s.sessions.objects[ptr]?, command ∈ p.commands

instance (ptr : Nat) (command : Command) : Decidable (Outstanding s ptr command) :=
  match h : s.sessions.objects[ptr]? with
  | none => isFalse (by simp [Outstanding, h])
  | some p => decidable_of_iff (command ∈ p.commands) (by simp [Outstanding, h])

/-- Sessions are opened while the service is advertised, under a reference that no open session
has. A response handler is called once for every command. -/
def run : Action → Option RpcServerProxy
  | .openSession sessionRef =>
    if s.conn.proxyService ∧ s.sessions.findProxySessionByRef sessionRef = none then
      some { s with sessions := s.sessions.openHandler sessionRef }
    else none
  | .sendMsg sessionRef msg => some { s with sessions := s.sessions.msgRecvHandler sessionRef msg }
  | .closeSession sessionRef => some { s with sessions := s.sessions.closeSession sessionRef }
  | .createSessionResp ptr resp =>
    if Outstanding s ptr .createSession then
      some { s with sessions := s.sessions.respond ptr fun p => p.createSessionResp resp }
    else none
  | .messageResp ptr rpcSessionId msg resp =>
    if Outstanding s ptr (.message rpcSessionId msg) then
      some { s with
        sessions := s.sessions.respond ptr fun p => p.messageResp rpcSessionId msg resp }
    else none
  | .deleteSessionResp ptr rpcSessionId resp =>
    if Outstanding s ptr (.deleteSession rpcSessionId) then
      some { s with
        sessions := s.sessions.respond ptr fun p => (p.deleteSessionResp rpcSessionId resp, none) }
    else none
  | .messageEvent rpcSessionId payload =>
    some { s with
      sessions := s.sessions.messageEvent s.conn.maxMessageSize rpcSessionId payload }
  | .deleteSessionEvent rpcSessionId =>
    some { s with sessions := s.sessions.deleteSessionEvent rpcSessionId }
  | .connectServiceResp resp => some (s.connectServiceResp resp)
  | .stateChange isAvailable versionOk =>
    some { s with conn := s.conn.stateChangeHandler isAvailable versionOk }
  | .timerExpires =>
    if s.conn.timer then some { s with conn := s.conn.reConnectTimerHandler.1 } else none
  | .serverEvent =>
    match s.conn.events with
    | [] => none
    | action :: rest =>
      some (RpcServerProxy.eventHandler { s with conn := { s.conn with events := rest } } action)

def step (a : Action) : Option RpcServerProxy := if s.aborted then none else run s a

end

structure Start (s : RpcServerProxy) : Prop where
  server : s.conn.state = .notConnected ∧ s.conn.proxyService = false
  sessions : s.sessions = ⟨[], [], []⟩

end TelAF.RpcProxySessions
