import TelAF.DemSnapshots

/-!
# Snapshot triggers

How the DIDs of a snapshot are collected. `IndicateToDataIdSvc` sends the data identifier
service a ReadDID request of its own, whose addresses are zero, and remembers the address of
the request object beside the DTC. When the application answers, `storeDidsAsSnapshot` looks
the DTC up by that address. Objects come from a memory pool: the address of one that has been
released may be handed out again.

References are never used twice. The number of the request that an entry was made for, and
the lists of all entries made, entries erased and snapshots stored, are kept for reasoning
only. The sizes of the interface file and of the DIDs are parameters.
-/

namespace TelAF.SnapshotTriggers
open DemConfiguration DemDatabase DemSnapshots

structure TriggerConf extends SnapshotConf where
  maxReadDidSize : Nat
  didValueSize : Nat → Nat

def maxReadDidReqLen : Nat := 4092

def didOfSupplierFc : Nat := 0xEF01

/-- `taf_ReadDIDRxMsg_t`; `ptr` is the address of the object. -/
structure ReadDIDRxMsg where
  ptr : Nat
  ref : Nat
  sa : Nat
  ta : Nat
  readDID : List Nat
deriving DecidableEq

structure DataIDSvc where
  sessionRef : Nat
  readDIDHandler : Bool
  readDIDMsgList : List ReadDIDRxMsg

/-- An entry of `SnapshotTriggeredList`. There is no fault code where the bytes are empty. -/
structure SnapshotItem where
  dtcCode : DtcCode
  msgPtr : Nat
  supplierFaultCode : List UInt8
  request : Nat
deriving DecidableEq

/-- A call of `SetSnapshotData`, made for the answer to a request. -/
structure Stored where
  request : Nat
  dtcCode : DtcCode
  dids : List DIDInfo

/-- What is passed to the UDS stack; a positive response has the code zero. -/
structure UdsResponse where
  sa : Nat
  ta : Nat
  errCode : UInt8
  data : List UInt8

structure Svr where
  readDIDEvent : List ReadDIDRxMsg
  service : Option DataIDSvc
  leaked : List Nat
  nextRef : Nat
  triggeredList : List SnapshotItem
  db : Database
  responses : List UdsResponse
  triggers : List SnapshotItem
  erased : List SnapshotItem
  stored : List Stored

def newSvr (db : Database) : Svr := ⟨[], none, [], 0, [], db, [], [], [], []⟩

def busyRepeatRequest : UInt8 := 0x21

def incorrectMsgLen : UInt8 := 0x13

namespace Svr

variable (s : Svr)

/-- The messages that wait for the application's answer. -/
def readDIDMsgList : List ReadDIDRxMsg := s.service.elim [] DataIDSvc.readDIDMsgList

def live : List ReadDIDRxMsg := s.readDIDEvent ++ s.readDIDMsgList

/-- The pool hands out an address only while no object is there. -/
def Free (ptr : Nat) : Prop := ptr ∉ s.live.map ReadDIDRxMsg.ptr ∧ ptr ∉ s.leaked
deriving Decidable

def hasReadHandler : Bool := s.service.any DataIDSvc.readDIDHandler

def setReadDIDMsgList (msgs : List ReadDIDRxMsg) : Svr :=
  { s with service := s.service.map fun svc => { svc with readDIDMsgList := msgs } }

def sendResp (msg : ReadDIDRxMsg) (errCode : UInt8) (data : List UInt8) : Svr :=
  { s with responses := s.responses ++ [⟨msg.ta, msg.sa, errCode, data⟩] }

end Svr

variable (c : TriggerConf) (s : Svr)

/-- The list of no DIDs has no data pointer. An object of a list that is too long is never
released. -/
def indicateToDataIdSvc (dtcCode : DtcCode) (dids : List Nat) (supplierFaultCode : List UInt8)
    (ptr : Nat) : Svr :=
  if dids = [] then s
  else if ¬ s.hasReadHandler then s
  else if dids.length > c.maxReadDidSize then { s with leaked := ptr :: s.leaked }
  else
    let msg : ReadDIDRxMsg := ⟨ptr, s.nextRef, 0, 0, dids⟩
    let item : SnapshotItem := ⟨dtcCode, ptr, supplierFaultCode, s.nextRef⟩
    { s with
      readDIDEvent := s.readDIDEvent ++ [msg]
      nextRef := s.nextRef + 1
      triggeredList := s.triggeredList ++ [item]
      triggers := s.triggers ++ [item] }

def readDIDs : List UInt8 → List Nat
  | hi :: lo :: rest => (hi.toNat * 256 + lo.toNat) :: readDIDs rest
  | _ => []

/-- `UDSMsgHandler`, with the message after its service id. -/
def udsMsgHandler (sa ta : Nat) (msg : List UInt8) (ptr : Nat) : Svr :=
  let rxMsg : ReadDIDRxMsg := ⟨ptr, s.nextRef, sa, ta, readDIDs msg⟩
  if msg.length > maxReadDidReqLen ∨ msg.length % 2 ≠ 0 then s.sendResp rxMsg incorrectMsgLen []
  else { s with readDIDEvent := s.readDIDEvent ++ [rxMsg], nextRef := s.nextRef + 1 }

/-- Without a service or a handler the request is refused and released. -/
def rxReadDIDEventHandler : Svr :=
  match s.readDIDEvent with
  | [] => s
  | msg :: rest =>
    let s := { s with readDIDEvent := rest }
    if s.hasReadHandler then s.setReadDIDMsgList (s.readDIDMsgList ++ [msg])
    else s.sendResp msg busyRepeatRequest []

/-- The loop of `storeDidsAsSnapshot`. The byte after a single last one is not part of the
answer; whatever it is, the data is refused. -/
def parseDids (readDID : List Nat) : Nat → List UInt8 → Option (List DIDInfo)
  | rounds + 1, hi :: lo :: rest =>
    let did := hi.toNat * 256 + lo.toNat
    if did ∉ readDID then none
    else if rest.length < c.didValueSize did then none
    else (parseDids readDID rounds (rest.drop (c.didValueSize did))).map fun dids =>
      ⟨did, rest.take (c.didValueSize did)⟩ :: dids
  | _, [] => some []
  | _, _ => none

/-- `faultCodeNode` is the last node of the DID. -/
def removeFaultCodeNode (dids : List DIDInfo) : List DIDInfo :=
  (dids.reverse.eraseP fun info => info.did = didOfSupplierFc).reverse

/-- A fault code that is too short gets zeros in front. -/
def addSupplierFaultCode (supplierFaultCode : List UInt8) (dids : List DIDInfo) :
    Option (List DIDInfo) :=
  if supplierFaultCode = [] then some dids
  else if supplierFaultCode.length > c.didValueSize didOfSupplierFc then none
  else
    let padding := List.replicate (c.didValueSize didOfSupplierFc - supplierFaultCode.length) 0
    some (removeFaultCodeNode dids ++ [⟨didOfSupplierFc, padding ++ supplierFaultCode⟩])

def snapshotDids (readDID : List Nat) (supplierFaultCode : List UInt8) (data : List UInt8) :
    Option (List DIDInfo) :=
  if data.length < 2 then none
  else (parseDids c readDID data.length data).bind (addSupplierFaultCode c supplierFaultCode)

/-- The entry is erased whatever `SetSnapshotData` returns; all other errors leave it. -/
def storeDidsAsSnapshot (data : List UInt8) (msg : ReadDIDRxMsg) : Svr :=
  match s.triggeredList.find? (·.msgPtr = msg.ptr) with
  | none => s
  | some item =>
    match snapshotDids c msg.readDID item.supplierFaultCode data with
    | none => s
    | some dids =>
      { s with
        db := (Store.setSnapshotData c.toSnapshotConf item.dtcCode s.db dids).1
        triggeredList := s.triggeredList.erase item
        erased := s.erased ++ [item]
        stored := s.stored ++ [⟨msg.ref, item.dtcCode, dids⟩] }

/-- Applications know the references that the handler has passed to them. The error code of
an answer to an internal request is not looked at. -/
def sendReadDIDResp (ref : Nat) (errCode : UInt8) (data : List UInt8) : Svr :=
  match s.readDIDMsgList.find? (·.ref = ref) with
  | none => s
  | some msg =>
    let s :=
      if msg.ta = 0 ∧ msg.sa = 0 then storeDidsAsSnapshot c s data msg
      else s.sendResp msg errCode data
    s.setReadDIDMsgList (s.readDIDMsgList.erase msg)

/-- Another client than the one that owns the service gets no reference to it. -/
def getService (sessionRef : Nat) : Svr :=
  match s.service with
  | none => { s with service := some ⟨sessionRef, false, []⟩ }
  | some _ => s

def setReadDIDHandler (registered : Bool) : Svr :=
  { s with service := s.service.map fun svc => { svc with readDIDHandler := registered } }

/-- The delivered requests are released; those in the event queue stay. -/
def removeSvc : Svr := { s with service := none }

def onClientDisconnection (sessionRef : Nat) : Svr :=
  if (s.service.map DataIDSvc.sessionRef) = some sessionRef then removeSvc s else s

inductive Action where
  | triggerSnapshot (dtcCode : DtcCode) (dids : List Nat) (supplierFaultCode : List UInt8)
      (ptr : Nat)
  | readDIDRequest (sa ta : Nat) (msg : List UInt8) (ptr : Nat)
  | rxReadDIDEvent
  | sendReadDIDResp (ref : Nat) (errCode : UInt8) (data : List UInt8)
  | getService (sessionRef : Nat)
  | addRxReadDIDMsgHandler
  | removeRxReadDIDMsgHandler
  | removeSvc
  | clientDisconnection (sessionRef : Nat)

def step : Action → Option Svr
  | .triggerSnapshot dtcCode dids supplierFaultCode ptr =>
    if s.Free ptr then some (indicateToDataIdSvc c s dtcCode dids supplierFaultCode ptr) else none
  | .readDIDRequest sa ta msg ptr =>
    if s.Free ptr then some (udsMsgHandler s sa ta msg ptr) else none
  | .rxReadDIDEvent => some (rxReadDIDEventHandler s)
  | .sendReadDIDResp ref errCode data => some (sendReadDIDResp c s ref errCode data)
  | .getService sessionRef => some (getService s sessionRef)
  | .addRxReadDIDMsgHandler => some (setReadDIDHandler s true)
  | .removeRxReadDIDMsgHandler => some (setReadDIDHandler s false)
  | .removeSvc => some (removeSvc s)
  | .clientDisconnection sessionRef => some (onClientDisconnection s sessionRef)

end TelAF.SnapshotTriggers
