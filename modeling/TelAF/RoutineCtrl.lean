import TelAF.RefMap
import TelAF.TransitionRuns

/-!
# Routine control

Clients register services for routines, with the VLANs they serve, and a handler for the requests. A
request of a tester becomes an object, which is queued for the event handler of the service. The
handler refuses it or delivers it to the client of the first service for its routine and VLAN; the
client answers it or releases it.
-/

namespace TelAF.RoutineCtrl

open TransitionRuns

structure AddrInfo where
  sa : Nat
  ta : Nat
  taType : Nat
  vlanId : Nat
  ifName : List Char

def AddrInfo.reply (a : AddrInfo) : AddrInfo := { a with sa := a.ta, ta := a.sa }

/-- `taf_RoutineCtrlSvc_t`; the lists hold references of requests and numbers of VLANs. -/
structure Svc where
  identifier : Nat
  sessionRef : Nat
  reqMsgList : List Nat
  rxHandlerRef : Option Nat
  supportedVlanList : List Nat

/-- `taf_RoutineCtrlReqHandler_t`, whose function is never `NULL`. -/
structure ReqHandler where
  svcRef : Nat
  func : Nat
  ctxPtr : Nat

/-- `taf_RoutineCtrlReqMsg_t` without the option record. -/
structure ReqMsg where
  addrInfo : AddrInfo
  subFunc : Nat
  routineId : Nat

inductive CtrlType where
  | startRoutine
  | stopRoutine
  | requestRoutineResults

def typeOf : Nat → Option CtrlType
  | 0x01 => some .startRoutine
  | 0x02 => some .stopRoutine
  | 0x03 => some .requestRoutineResults
  | _ => none

inductive Response where
  | negative (nrc : Nat)
  | positive (data : List UInt8)

inductive Act where
  /-- The handler of the service's client is called. -/
  | delivered (msg svc session : Nat) (type : CtrlType)
  | responded (msg client : Nat) (addr : AddrInfo) (r : Response)
  /-- A negative response of the service itself, before or after the request has an object. -/
  | refused (msg : Option Nat) (addr : AddrInfo) (nrc : Nat)
  /-- The object is taken out of the list of the service. -/
  | unlinked (msg svc : Nat)
  /-- The object is released, on behalf of a client or by the service itself. -/
  | released (msg : Nat) (client : Option Nat)

structure EnableConditionData where
  andConditions : List Nat
  orConditions : List Nat

/-- The configuration; where a function of it throws it has no value. -/
structure Config where
  hasRoutineEntry : Nat → Bool
  routineEnableConditions : Nat → Option EnableConditionData
  nrcByConditionId : Nat → Option Nat

structure State where
  svcRefMap : RefMap Svc
  reqHandlerRefMap : RefMap ReqHandler
  reqMsgRefMap : RefMap ReqMsg
  /-- The references reported to `RxReqEventHandler`. -/
  rxReqEvent : List Nat
  acts : List Act

def svcId : Nat := 0x31

def busyRepeatRequest : Nat := 0x21

def subfunctionNotSupported : Nat := 0x12

/-- The values of `le_result_t` that the calls return. -/
inductive Result where
  | ok
  | badParameter
  | notFound
  | unsupported
  | fault
deriving DecidableEq

/-- The service serves the VLAN; an interface without a VLAN is served by services without VLANs. -/
def Svc.serves (p : Svc) (vlanId : Nat) : Bool :=
  decide (vlanId = 0) && p.supportedVlanList.isEmpty || p.supportedVlanList.contains vlanId

/-- The negative response to a request whose enable conditions are not met. An exception lets the
request pass, and so does a failing condition with the number 0. -/
def checkEnableConditions (cfg : Config) (status : Nat → Bool) (routineId : Nat) : Option Nat :=
  match cfg.routineEnableConditions routineId with
  | none => none
  | some cond =>
    if !cond.andConditions.isEmpty then
      match cond.andConditions.find? fun enableId => !status enableId with
      | some enableId => cfg.nrcByConditionId enableId
      | none => none
    else if cond.orConditions.any status then none
    else
      match cond.orConditions.getLast? with
      | some failingId => if failingId ≠ 0 then cfg.nrcByConditionId failingId else none
      | none => none

namespace State

variable (s : State)

/-- `GetServiceObj` for a client session. -/
def getServiceObjOf (identifier sessionRef : Nat) : Option Nat :=
  s.svcRefMap.search fun p => p.identifier = identifier && p.sessionRef = sessionRef

/-- `GetServiceObj` for a VLAN. -/
def getServiceObj (identifier vlanId : Nat) : Option Nat :=
  s.svcRefMap.search fun p => p.identifier = identifier && p.serves vlanId

def act (as : List Act) : State := { s with acts := s.acts ++ as }

def sendNRCResp (msg : Option Nat) (addr : AddrInfo) (errCode : Nat) : State :=
  s.act [.refused msg addr.reply errCode]

/-- `le_ref_DeleteRef` and `le_mem_Release` of a request. -/
def freeMsg (msg : Nat) (client : Option Nat) : State :=
  { s with
    reqMsgRefMap := s.reqMsgRefMap.erase msg
    acts := s.acts ++ [.released msg client] }

def udsMsgHandler (cfg : Config) (status : Nat → Bool) (addr : AddrInfo)
    (sid subFunc routineId : Nat) : State :=
  if sid ≠ svcId then s
  else
    match checkEnableConditions cfg status routineId with
    | some errCode => s.sendNRCResp none addr errCode
    | none => { s with
        reqMsgRefMap := s.reqMsgRefMap.create ⟨addr, subFunc % 0x80, routineId⟩
        rxReqEvent := s.rxReqEvent ++ [s.reqMsgRefMap.next] }

def refuse (msg : Nat) (addr : AddrInfo) (nrc : Nat) : State :=
  (s.sendNRCResp (some msg) addr nrc).freeMsg msg none

/-- `le_dls_Queue`, and the call of the handler. -/
def deliver (msg svcRef : Nat) (p : Svc) (type : CtrlType) : State :=
  { s with
    svcRefMap := s.svcRefMap.modify svcRef fun p => { p with reqMsgList := p.reqMsgList ++ [msg] }
    acts := s.acts ++ [.delivered msg svcRef p.sessionRef type] }

/-- `RxReqEventHandler` for a request that is found. -/
def handleReq (msg : Nat) (m : ReqMsg) : State :=
  match s.getServiceObj m.routineId m.addrInfo.vlanId with
  | none => s.refuse msg m.addrInfo busyRepeatRequest
  | some svcRef =>
    match s.svcRefMap.lookup svcRef with
    | none => s.refuse msg m.addrInfo busyRepeatRequest
    | some p =>
      match p.rxHandlerRef.bind s.reqHandlerRefMap.lookup with
      | none => s.refuse msg m.addrInfo busyRepeatRequest
      | some _ =>
        match typeOf m.subFunc with
        | none => s.refuse msg m.addrInfo subfunctionNotSupported
        | some type => s.deliver msg svcRef p type

def rxReqEventHandler : State :=
  match s.rxReqEvent with
  | [] => s
  | msg :: rest =>
    let s := { s with rxReqEvent := rest }
    match s.reqMsgRefMap.lookup msg with
    | none => s
    | some m => s.handleReq msg m

/-- `le_dls_Remove` from the list of a service. -/
def unlink (msg svcRef : Nat) : State :=
  { s with
    svcRefMap := s.svcRefMap.modify svcRef fun p => { p with reqMsgList := p.reqMsgList.erase msg }
    acts := s.acts ++ [.unlinked msg svcRef] }

/-- The object is taken out of the list of a service, and released. -/
def removeMsg (msg svcRef client : Nat) : State := (s.unlink msg svcRef).freeMsg msg (some client)

def sendRoutineCtrlResp (client : Nat) (reqMsgRef : Option Nat) (nrc : Nat) (data : List UInt8)
    (backend : Result) : Result × State :=
  match reqMsgRef with
  | none => (.badParameter, s)
  | some msg =>
    match s.reqMsgRefMap.lookup msg with
    | none => (.notFound, s)
    | some m =>
      match s.getServiceObj m.routineId m.addrInfo.vlanId with
      | none => (.notFound, s)
      | some svcRef =>
        match backend with
        | .ok =>
          let r := if nrc ≠ 0 then Response.negative nrc else .positive data
          (.ok, (s.act [.responded msg client m.addrInfo.reply r]).removeMsg msg svcRef client)
        | ret => (ret, s)

def releaseRoutineCtrlMsg (client : Nat) (reqMsgRef : Option Nat) : Result × State :=
  match reqMsgRef with
  | none => (.badParameter, s)
  | some msg =>
    match s.reqMsgRefMap.lookup msg with
    | none => (.notFound, s)
    | some m =>
      match s.getServiceObj m.routineId m.addrInfo.vlanId with
      | none => (.notFound, s)
      | some svcRef => (.ok, s.removeMsg msg svcRef client)

def findOrCreateService (cfg : Config) (client identifier : Nat) : Option Nat × State :=
  if cfg.hasRoutineEntry identifier then
    match s.getServiceObjOf identifier client with
    | some svcRef => (some svcRef, s)
    | none =>
      (some s.svcRefMap.next,
        { s with svcRefMap := s.svcRefMap.create ⟨identifier, client, [], none, []⟩ })
  else (none, s)

/-- The requests are released on behalf of the client that removes the service, or disconnects. -/
def removeRoutineCtrlSvc (client svcRef : Nat) : Result × State :=
  match s.svcRefMap.lookup svcRef with
  | none => (.badParameter, s)
  | some p =>
    let s := p.reqMsgList.foldl (fun s msg => s.removeMsg msg svcRef client) s
    (.ok, { s with
      svcRefMap := s.svcRefMap.erase svcRef
      reqHandlerRefMap :=
        match p.rxHandlerRef with
        | none => s.reqHandlerRefMap
        | some handlerRef => s.reqHandlerRefMap.erase handlerRef })

def addRxReqMsgHandler (svcRef : Nat) (handl : Option Nat) (contextPtr : Nat) :
    Option Nat × State :=
  match handl, s.svcRefMap.lookup svcRef with
  | some func, some p =>
    match p.rxHandlerRef with
    | some _ => (none, s)
    | none =>
      let handlerRef := s.reqHandlerRefMap.next
      (some handlerRef, { s with
        reqHandlerRefMap := s.reqHandlerRefMap.create ⟨svcRef, func, contextPtr⟩
        svcRefMap := s.svcRefMap.modify svcRef fun p => { p with rxHandlerRef := some handlerRef } })
  | _, _ => (none, s)

def removeRxReqMsgHandler (handlerRef : Nat) : State :=
  match s.reqHandlerRefMap.lookup handlerRef with
  | none => s
  | some handler =>
    { s with
      svcRefMap := s.svcRefMap.modify handler.svcRef fun p => { p with rxHandlerRef := none }
      reqHandlerRefMap := s.reqHandlerRefMap.erase handlerRef }

def setVlanId (svcRef vlanId : Nat) (isVlanIdValid : Bool) : Result × State :=
  match s.svcRefMap.lookup svcRef with
  | none => (.badParameter, s)
  | some p =>
    if vlanId = 0 then (.badParameter, s)
    else if !isVlanIdValid then (.unsupported, s)
    else if p.supportedVlanList.contains vlanId then (.ok, s)
    else (.ok, { s with svcRefMap := s.svcRefMap.modify svcRef fun p =>
      { p with supportedVlanList := p.supportedVlanList ++ [vlanId] } })

/-- The services of a session, in the order of the iteration. -/
def servicesOf (sessionRef : Nat) : List Nat :=
  (s.svcRefMap.entries.filter fun e => decide (e.2.sessionRef = sessionRef)).map Prod.fst

def onClientDisconnection (sessionRef : Nat) : State :=
  (s.servicesOf sessionRef).foldl (fun s svcRef => (s.removeRoutineCtrlSvc sessionRef svcRef).2) s

end State

inductive Event where
  | request (status : Nat → Bool) (addr : AddrInfo) (sid subFunc routineId : Nat)
  | rxReqEvent
  | getService (client identifier : Nat)
  | setVlanId (svcRef vlanId : Nat) (isVlanIdValid : Bool)
  | addHandler (svcRef : Nat) (handl : Option Nat) (contextPtr : Nat)
  | removeHandler (handlerRef : Nat)
  | sendResp (client : Nat) (reqMsgRef : Option Nat) (nrc : Nat) (data : List UInt8)
      (backend : Result)
  | releaseMsg (client : Nat) (reqMsgRef : Option Nat)
  | removeSvc (client svcRef : Nat)
  | clientDisconnects (sessionRef : Nat)

def State.step (cfg : Config) (s : State) : Event → State
  | .request status addr sid subFunc routineId =>
    s.udsMsgHandler cfg status addr sid subFunc routineId
  | .rxReqEvent => s.rxReqEventHandler
  | .getService client identifier => (s.findOrCreateService cfg client identifier).2
  | .setVlanId svcRef vlanId isVlanIdValid => (s.setVlanId svcRef vlanId isVlanIdValid).2
  | .addHandler svcRef handl contextPtr => (s.addRxReqMsgHandler svcRef handl contextPtr).2
  | .removeHandler handlerRef => s.removeRxReqMsgHandler handlerRef
  | .sendResp client reqMsgRef nrc data backend =>
    (s.sendRoutineCtrlResp client reqMsgRef nrc data backend).2
  | .releaseMsg client reqMsgRef => (s.releaseRoutineCtrlMsg client reqMsgRef).2
  | .removeSvc client svcRef => (s.removeRoutineCtrlSvc client svcRef).2
  | .clientDisconnects sessionRef => s.onClientDisconnection sessionRef

def State.init : State := ⟨.empty, .empty, .empty, [], []⟩

end TelAF.RoutineCtrl
