import TelAF.DoipMessages

/-!
# Connections of the DoIP stack

The connection manager keeps the open TCP_DATA connections in its box. A connection
receives into `inBuf`, activates routing for the address of a tester, and forwards
diagnostic messages from `udsBuf`. A connection that asks for the address of another one
waits for the alive check of that one, which keeps a reference to it in
`routingConnectionPtr`. Everything runs on one thread: socket events, timers and the
queued calls of `ConsumeTCPData`; one transition is one such event, and inside of
`ConsumeTCPData` one round of its loop.

Connections are named by the order of their creation, and so are their sockets. All of
them are of the server type, and `Start` finds its sockets and timers. A deleted
connection lives on while another one refers to it, so the objects are never removed
from the state. The intervals of the timers are left out.
-/

namespace TelAF.DoipConnection
open DoipMessages

abbrev ConnId := Nat

inductive ConnectState where
  | listen
  | initialized
  | registeredPendingForAuth
  | registeredPendingForConf
  | registeredRoutingActive
  | finalize
deriving DecidableEq

def maxBufferSize : Nat := 1500
def maxMsgLenExceptUds : Nat := 41
def batchSize : Nat := 5

/-- The reception buffer; positions from `maxBufferSize` on are outside of the array. -/
structure Buffer where
  data : Memory
  dataSize : Nat
  dataPos : Nat

/-- What a connection keeps of its routing activation and of alive checks. -/
structure Routing where
  connState : ConnectState
  testerSA : LogicalAddress
  raTesterSa : LogicalAddress
  authInfo : UInt32
  allAliveCheckFlag : Bool
  singleAliveCheckFlag : Bool
  routingConnectionPtr : Option ConnId

structure Connection extends Routing where
  initialTimer : Bool
  generalTimer : Bool
  aliveCheckTimer : Bool
  isConsuming : Bool
  inBuf : Option Buffer
  udsBuf : Option Memory
  udsTotalLen : Nat
  udsReceived : Nat

structure DoipConf where
  entitySA : LogicalAddress
  maxSockNum : Nat
  maxDataSize : UInt32
  authEnableStatus : Bool
  authInfo : UInt32
  isFunctionalAddress : LogicalAddress → Bool

/-- The stack. `consuming` is the call of `ConsumeTCPData` under way with its count,
`queue` the calls still queued. Beside the state stand what was sent to the testers and
queued to the UDS layer, the bytes to be discarded from sockets, the deletions, and the
accesses to a released `inBuf`. -/
structure Stack where
  connections : ConnId → Connection
  created : Nat
  connectionBox : List ConnId
  aliveCheckNcts : Nat
  shutdownTimer : Bool
  queue : List ConnId
  consuming : Option (ConnId × Nat)
  crashed : Bool
  sent : List (ConnId × Message)
  indications : List (ConnId × Indication)
  discarded : List (ConnId × Nat)
  deleted : List ConnId
  released : List ConnId

/-- Arithmetic of `uint32_t`. -/
def u32 (n : Nat) : Nat := n % 2 ^ 32

/-- Take an element out by moving the last one to its place. -/
def swapRemove {α : Type*} [DecidableEq α] (l : List α) (a : α) : List α :=
  match l.getLast? with
  | none => []
  | some last => if a ∈ l then (l.set (l.idxOf a) last).dropLast else l

def Connection.isConnectionRegistered (conn : Connection) : Bool :=
  decide (conn.connState = .registeredRoutingActive ∨ conn.connState = .registeredPendingForConf)

variable (cfg : DoipConf) (confirm : UserConfirmResult) (s : Stack) (c : ConnId)

namespace Stack

def modify (f : Connection → Connection) : Stack :=
  { s with connections := Function.update s.connections c (f (s.connections c)) }

/-- A message leaves through the socket of a connection in the box. -/
def send (m : Message) : Stack :=
  if c ∈ s.connectionBox then { s with sent := s.sent ++ [(c, m)] } else s

def indicate (i : Indication) : Stack := { s with indications := s.indications ++ [(c, i)] }

/-- Connections of the box that are registered for an address; the first one is taken. -/
def findConnectionByLogicalAddr (logicalAddr : LogicalAddress) : Option ConnId :=
  s.connectionBox.find? fun c =>
    decide ((s.connections c).testerSA = logicalAddr) && (s.connections c).isConnectionRegistered

def getRegisteredConnectionNum : Nat :=
  s.connectionBox.countP fun c => (s.connections c).isConnectionRegistered

end Stack

open Stack

def reportConnectionEvent (event : ConnectionEvent) : Stack :=
  s.indicate c (.connection (s.connections c).testerSA cfg.entitySA event)

/-- `Stop`: timers, buffers and the socket of a connection that is deleted. -/
def stop : Stack :=
  { s.modify c fun conn => { conn with
      initialTimer := false
      generalTimer := false
      aliveCheckTimer := false
      inBuf := none
      udsBuf := none } with
    deleted := s.deleted ++ [c] }

def deleteConnection : Stack := { stop s c with connectionBox := swapRemove s.connectionBox c }

/-! ## The state machine

`ConnectionStateMachine` by its states, the later ones first. -/

def enter (state : ConnectState) : Stack := s.modify c fun conn => { conn with connState := state }

def finalize : Stack :=
  deleteConnection
    (if (s.connections c).connState = .registeredRoutingActive then
      reportConnectionEvent cfg (enter s c .finalize) c .saDeregistered
    else enter s c .finalize) c

def routingActive : Stack :=
  reportConnectionEvent cfg (enter s c .registeredRoutingActive) c .saRegistered

def routingActivationRes (equipLA : LogicalAddress) (code : RaResCode) : Stack :=
  s.send c (.routingActivationRes equipLA cfg.entitySA code)

def checkRoutingActivationConfirm : Stack :=
  match confirm with
  | .pass | .noNeed => routingActive cfg
      (routingActivationRes cfg s c (s.connections c).testerSA .routingSuccessfullyActivated) c
  | .reject => finalize cfg
      (routingActivationRes cfg s c (s.connections c).testerSA .rejectConfirmation) c

def pendingForConf : Stack :=
  checkRoutingActivationConfirm cfg confirm (enter s c .registeredPendingForConf) c

/-- The authentication information is checked where authentication is enabled; a vehicle
without any takes every one. -/
def authorised (authenInfo : UInt32) : Bool :=
  !cfg.authEnableStatus || decide (authenInfo = cfg.authInfo ∨ cfg.authInfo = 0)

def checkRoutingActivationAuthen (authenInfo : UInt32) : Stack :=
  if authorised cfg authenInfo then pendingForConf cfg confirm s c
  else finalize cfg (routingActivationRes cfg s c (s.connections c).testerSA .missingAuthentication) c

def pendingForAuth (authenInfo : UInt32) : Stack :=
  checkRoutingActivationAuthen cfg confirm (enter s c .registeredPendingForAuth) c authenInfo

/-- Assign an address to the connection and activate routing for it. -/
def assign (sa : LogicalAddress) (authenInfo : UInt32) : Stack :=
  pendingForAuth cfg confirm (s.modify c fun conn => { conn with testerSA := sa }) c authenInfo

/-! ## Handlers of the messages -/

/-- `ReadAndDiscardMsg` takes up to a number of bytes from the socket. -/
def readAndDiscardMsg (len : Nat) : Stack :=
  if len = 0 then s else { s with discarded := s.discarded ++ [(c, min len maxBufferSize)] }

def respondHeaderNegativeAck (code : HeaderNackCode) (left : Nat) : Stack :=
  if code = .incorrectPatternFormat ∨ code = .invalidPayloadLength then
    finalize cfg (s.send c (.headerNegativeAck code)) c
  else readAndDiscardMsg (s.send c (.headerNegativeAck code)) c left

/-- Ask for a sign of life of `other`, on which `waiting` waits. -/
def startAliveCheck (other waiting : ConnId) (mark : Routing → Routing) : Stack :=
  (s.modify other fun conn => { conn with
    toRouting := { mark conn.toRouting with routingConnectionPtr := some waiting }
    aliveCheckTimer := true }).send other .aliveCheckReq

def startSingleAliveCheck (other waiting : ConnId) : Stack :=
  startAliveCheck s other waiting ({ · with singleAliveCheckFlag := true })

/-- Without a connection of the address the source follows a null pointer. -/
def performSigleAliveCheck (ta : LogicalAddress) : Stack :=
  match s.findConnectionByLogicalAddr ta with
  | none => { s with crashed := true }
  | some other =>
    if other = c then s else
    if (s.connections other).singleAliveCheckFlag then s else
    startSingleAliveCheck s other c

/-- The round of `PerformAllAliveCheck` for one connection of the box. -/
def aliveCheckRound (other : ConnId) : Stack :=
  if (s.connections other).isConnectionRegistered then
    let s := performSigleAliveCheck s c (s.connections other).testerSA
    if (s.connections other).allAliveCheckFlag then s else
    startAliveCheck s other c ({ · with allAliveCheckFlag := true })
  else s

def performAllAliveCheck : Stack := s.connectionBox.foldl (aliveCheckRound · c) s

/-- The end of `RoutingActiveReqHandler` at `errOut`. -/
def refuseActivation (fromSa : LogicalAddress) (code : RaResCode) : Stack :=
  finalize cfg (routingActivationRes cfg s c fromSa code) c

/-- The last part of `RoutingActiveReqHandler`, for a request that is well formed. -/
def requestActivation (fromSa : LogicalAddress) (oemReserved : UInt32) : Stack :=
  if s.getRegisteredConnectionNum = 0 then assign cfg confirm s c fromSa oemReserved
  else if (s.connections c).isConnectionRegistered then
    if fromSa = (s.connections c).testerSA then assign cfg confirm s c fromSa oemReserved
    else refuseActivation cfg s c fromSa .saDifferentActivatedSocket
  else
    match s.findConnectionByLogicalAddr fromSa with
    | some other =>
      if other = c then
        if s.getRegisteredConnectionNum = cfg.maxSockNum then performAllAliveCheck s c
        else assign cfg confirm s c fromSa oemReserved
      else if (s.connections other).singleAliveCheckFlag then s
      else startSingleAliveCheck s other c
    | none =>
      if s.getRegisteredConnectionNum = cfg.maxSockNum then performAllAliveCheck s c
      else assign cfg confirm s c fromSa oemReserved

def raMandLen : Nat := 7
def raAllLen : Nat := 11

def routingActiveReqHandler (data : Memory) (pos payloadLen : Nat) : Stack :=
  if payloadLen ≠ raMandLen ∧ payloadLen ≠ raAllLen then
    respondHeaderNegativeAck cfg s c .invalidPayloadLength 0 else
  let fromSa := data.read16 pos
  if fromSa < 0x0E00 ∨ fromSa > 0x0FFF then
    refuseActivation cfg s c fromSa .unknownSourceAddress else
  let s := s.modify c fun conn => { conn with raTesterSa := fromSa }
  let type := data (pos + 2)
  if 0x02 ≤ type ∧ type ≤ 0xDF then refuseActivation cfg s c fromSa .unsupportedRaType else
  let oemReserved := if payloadLen = raAllLen then data.read32 (pos + 7) else 0
  requestActivation cfg confirm
    (s.modify c fun conn => { conn with initialTimer := false, authInfo := oemReserved })
    c fromSa oemReserved

/-- The connection that waits for an alive check is refused, unless it is registered by now. -/
def refuseWaiting (code : RaResCode) : Stack :=
  match (s.connections c).routingConnectionPtr with
  | none => s
  | some waiting =>
    if (s.connections waiting).isConnectionRegistered then s
    else refuseActivation cfg s waiting (s.connections waiting).raTesterSa code

def aliveCheckResHandler (data : Memory) (pos payloadLen : Nat) : Stack :=
  if payloadLen ≠ logicalAddressLength then
    respondHeaderNegativeAck cfg s c .invalidPayloadLength 0 else
  if data.read16 pos ≠ (s.connections c).testerSA then s else
  let s := s.modify c fun conn => { conn with aliveCheckTimer := false }
  if !(s.connections c).allAliveCheckFlag && !(s.connections c).singleAliveCheckFlag then s else
  let s :=
    if (s.connections c).allAliveCheckFlag then
      let s := s.modify c fun conn => { conn with allAliveCheckFlag := false }
      if s.aliveCheckNcts + 1 = cfg.maxSockNum then
        { refuseWaiting cfg s c .allSocketRegistedAndActive with aliveCheckNcts := 0 }
      else { s with aliveCheckNcts := s.aliveCheckNcts + 1 }
    else s
  if (s.connections c).singleAliveCheckFlag then
    refuseWaiting cfg (s.modify c fun conn => { conn with singleAliveCheckFlag := false }) c
      .saRegistedDifferentSocket
  else s

/-- The results of the diagnostic handlers that their caller tells apart. -/
inductive DiagResult where
  | ok
  | outOfMemory
  | failed

/-- The results of `ProcessDoipMessage`. -/
inductive DoipResult where
  | ok
  | noSocket
  | messageTooShort
  | outOfMemory
deriving DecidableEq

def udsPoolObjectSize : Nat := max cfg.maxDataSize.toNat maxBufferSize

/-- Drop the diagnostic message, its buffer with it. -/
def dropDiag : Stack := s.modify c fun conn => { conn with
  udsTotalLen := 0
  udsReceived := 0
  udsBuf := none }

def diagRefused (logicalTargetAddr logicalSourceAddr : LogicalAddress)
    (code : DiagNackCode) : Stack :=
  let s := s.send c (.diagNegativeAck logicalTargetAddr logicalSourceAddr code)
  dropDiag (if code = .invalidSA then finalize cfg s c else s) c

/-- `InformUdsMessage`: the message goes to the functional group or to the entity itself. -/
def informUdsMessage (sa ta : LogicalAddress) (data : List UInt8) : Option Stack :=
  if cfg.isFunctionalAddress ta then some (s.indicate c (.uds sa cfg.entitySA .functional data))
  else if ta ≠ cfg.entitySA then none
  else some (s.indicate c (.uds sa ta .physical data))

def diagnosticMsgSecondHandler : Stack × DiagResult :=
  let conn := s.connections c
  let data := conn.udsBuf.getD Memory.zero
  if conn.udsTotalLen ≤ logicalAddressLength * 2 then
    (dropDiag (respondHeaderNegativeAck cfg s c .invalidPayloadLength 0) c, .failed) else
  let logicalSourceAddr := data.read16 0
  let logicalTargetAddr := data.read16 2
  if conn.connState ≠ .registeredRoutingActive then
    (diagRefused cfg s c logicalTargetAddr logicalSourceAddr .invalidSA, .failed) else
  if logicalSourceAddr ≠ conn.testerSA then
    (diagRefused cfg s c logicalTargetAddr logicalSourceAddr .invalidSA, .failed) else
  if conn.udsTotalLen > cfg.maxDataSize.toNat then
    (diagRefused cfg s c logicalTargetAddr logicalSourceAddr .diagMsgTooLarge, .failed) else
  if conn.udsTotalLen > udsPoolObjectSize cfg then
    (diagRefused cfg s c logicalTargetAddr logicalSourceAddr .outOfMemory, .failed) else
  match informUdsMessage cfg s c logicalSourceAddr logicalTargetAddr
      (data.read 0 conn.udsTotalLen) with
  | none => (diagRefused cfg s c logicalTargetAddr logicalSourceAddr .unknownTA, .failed)
  | some s => ((dropDiag s c).send c (.diagPositiveAck logicalTargetAddr logicalSourceAddr), .ok)

/-- `allocated` says whether the pool of the UDS buffers has one left. -/
def diagnosticMsgFirstHandler (allocated : Bool) (data : Memory) (pos payloadLen receivedLen : Nat) :
    Stack × DiagResult :=
  if (s.connections c).udsBuf.isNone && !allocated then (s, .outOfMemory) else
  let s := s.modify c fun conn => { conn with
    udsBuf := some ((conn.udsBuf.getD Memory.zero).write 0
      (data.read pos (min payloadLen receivedLen)))
    udsTotalLen := payloadLen
    udsReceived := receivedLen }
  if payloadLen ≤ receivedLen ∨ receivedLen = udsPoolObjectSize cfg then
    diagnosticMsgSecondHandler cfg s c
  else (s, .ok)

/-! ## Reception -/

/-- The header check of a server; the code of the negative response if it fails. -/
def headerError (hdr : Header) : Option HeaderNackCode :=
  if hdr.protocolVer ≠ 0x01 ∧ hdr.protocolVer ≠ 0x02 ∧ hdr.protocolVer ≠ 0x03 ∧
      hdr.protocolVer ≠ 0xFF then some .incorrectPatternFormat
  else if hdr.protocolVer ≠ ~~~hdr.invProtocolVer then some .incorrectPatternFormat
  else if hdr.payloadType ≠ .routingActiveRequest ∧ hdr.payloadType ≠ .aliveCheckRequest ∧
      hdr.payloadType ≠ .aliveCheckResponse ∧ hdr.payloadType ≠ .diagnosticMessage then
    some .unknownPayloadType
  else if hdr.payloadLen > (cfg.maxDataSize - 8).toNat then some .messageTooLarge
  else if hdr.payloadType ≠ .diagnosticMessage ∧
      hdr.payloadLen > maxBufferSize - headerGenericLength then some .outOfMemory
  else none

/-- The bytes of the message that are not in the buffer yet. -/
def bytesLeft (hdr : Header) (buf : Buffer) : Nat :=
  u32 (hdr.payloadLen + headerGenericLength) - buf.dataSize

def Buffer.reset (buf : Buffer) : Buffer := { buf with dataSize := 0, dataPos := 0 }

/-- Go past a message; of one that is longer than the buffer all is taken. -/
def Buffer.advance (buf : Buffer) (payloadLen : Nat) : Buffer :=
  let len := u32 (payloadLen + headerGenericLength)
  if len > buf.dataSize then buf.reset
  else if buf.dataSize - len = 0 then buf.reset
  else { buf with dataSize := buf.dataSize - len, dataPos := buf.dataPos + len }

def setBuffer (buf : Buffer) : Stack := s.modify c fun conn => { conn with inBuf := some buf }

/-- The end of `ProcessDoipMessage`; its buffer may have been released by the handler. -/
def finishMessage (buf : Buffer) (payloadLen : Nat) : Stack × DoipResult :=
  if (s.connections c).inBuf.isNone then ({ s with released := s.released ++ [c] }, .ok)
  else (setBuffer s c (buf.advance payloadLen), .ok)

def processDoipMessage (allocated : Bool) (payloadType : PayloadType) (buf : Buffer)
    (payloadLen : Nat) : Stack × DoipResult :=
  let payloadPos := buf.dataPos + headerGenericLength
  match payloadType with
  | .routingActiveRequest =>
    let s := routingActiveReqHandler cfg confirm s c buf.data payloadPos payloadLen
    if (s.connections c).connState = .finalize then (s, .noSocket)
    else if buf.dataSize ≠ u32 (payloadLen + headerGenericLength) then
      (setBuffer s c buf.reset, .ok)
    else finishMessage s c buf payloadLen
  | .aliveCheckRequest =>
    finishMessage (s.send c (.aliveCheckRes (s.connections c).testerSA)) c buf payloadLen
  | .aliveCheckResponse =>
    finishMessage (aliveCheckResHandler cfg s c buf.data payloadPos payloadLen) c buf payloadLen
  | .diagnosticMessage =>
    if buf.dataSize < headerGenericLength + 2 * logicalAddressLength then (s, .messageTooShort) else
    match diagnosticMsgFirstHandler cfg s c allocated buf.data payloadPos payloadLen
        (buf.dataSize - headerGenericLength) with
    | (s, .outOfMemory) => (s, .outOfMemory)
    | (s, .ok) => finishMessage s c buf payloadLen
    | (s, _) =>
      if (s.connections c).connState = .finalize then (s, .noSocket)
      else finishMessage s c buf payloadLen
  | _ => finishMessage s c buf payloadLen

/-- Leave `ConsumeTCPData`; another call is queued at the next reception. -/
def stopConsuming : Stack :=
  { s.modify c fun conn => { conn with isConsuming := false } with consuming := none }

/-- Leave the loop of `ConsumeTCPData`, to go on later if there is a header. -/
def leaveLoop (buf : Buffer) : Stack :=
  if buf.dataSize ≥ headerGenericLength then
    { s with queue := s.queue ++ [c], consuming := none }
  else stopConsuming s c

/-- The answer to a message whose header is not accepted. -/
def rejectMessage (buf : Buffer) (hdr : Header) (code : HeaderNackCode) : Stack :=
  let s := respondHeaderNegativeAck cfg s c code (bytesLeft hdr buf)
  if (s.connections c).connState = .finalize then { s with consuming := none }
  else stopConsuming (setBuffer s c buf.reset) c

def consumeMessage (allocated : Bool) (count : Nat) (buf : Buffer) (hdr : Header) : Stack :=
  match processDoipMessage cfg confirm s c allocated hdr.payloadType buf hdr.payloadLen with
  | (s, .ok) => { s with consuming := some (c, count + 1) }
  | (s, .outOfMemory) => leaveLoop s c buf
  | (s, .noSocket) | (s, .messageTooShort) => stopConsuming s c

/-- One round of the loop of `ConsumeTCPData` with the check of its condition. A buffer that
is empty after a diagnostic message is left at once by the source, here by the next check. -/
def consumeRound (allocated : Bool) (count : Nat) : Stack :=
  match (s.connections c).inBuf with
  | none => { s with crashed := true }
  | some buf =>
    if ¬ (buf.dataSize ≥ headerGenericLength ∧ count < batchSize) then leaveLoop s c buf else
    if (s.connections c).connState = .finalize then { s with consuming := none } else
    let hdr := unpackHeaderStruct buf.data buf.dataPos
    match headerError cfg hdr with
    | some code => rejectMessage cfg s c buf hdr code
    | none => consumeMessage cfg confirm s c allocated count buf hdr

/-- `ReceiveTCPData` with what the socket gives; without room for a short message the
buffer starts anew. -/
def receiveTCPData (buf : Buffer) (read : Option (List UInt8)) : Stack :=
  let buf :=
    if maxBufferSize - (buf.dataPos + buf.dataSize) ≤ maxMsgLenExceptUds then buf.reset else buf
  let s := s.modify c fun conn => { conn with generalTimer := true, inBuf := some buf }
  match read with
  | none => s
  | some bytes =>
    let wrPos := buf.dataPos + buf.dataSize
    let bytes := bytes.take (maxBufferSize - wrPos)
    let s := setBuffer s c
      { buf with data := buf.data.write wrPos bytes, dataSize := buf.dataSize + bytes.length }
    if (s.connections c).isConsuming then s else
    { s.modify c fun conn => { conn with isConsuming := true } with queue := s.queue ++ [c] }

/-- `ReceiveDiagMessage` with what the socket gives; without a buffer the read fails. -/
def receiveDiagMessage (read : Option (List UInt8)) : Stack :=
  let s := s.modify c fun conn => { conn with generalTimer := true }
  let conn := s.connections c
  match read, conn.udsBuf with
  | some bytes, some udsBuf =>
    let bytes := bytes.take (min conn.udsTotalLen (udsPoolObjectSize cfg) - conn.udsReceived)
    let received := conn.udsReceived + bytes.length
    let s := s.modify c fun conn => { conn with
      udsBuf := some (udsBuf.write conn.udsReceived bytes)
      udsReceived := received }
    if conn.udsTotalLen ≤ received ∨ received = udsPoolObjectSize cfg then
      (diagnosticMsgSecondHandler cfg s c).1
    else s
  | _, _ => s

/-- `SocketEventCallback` for incoming data. -/
def readable (read : Option (List UInt8)) : Stack :=
  if (s.connections c).udsTotalLen > (s.connections c).udsReceived then receiveDiagMessage cfg s c read
  else
    match (s.connections c).inBuf with
    | none => s
    | some buf => receiveTCPData s c buf read

/-- `RequestUdsMessage`: the response goes to the connection of the address, if its routing
is active. -/
def requestUdsMessage (ta : LogicalAddress) (data : List UInt8) : Stack :=
  match s.findConnectionByLogicalAddr ta with
  | none => s
  | some c =>
    if (s.connections c).connState ≠ .registeredRoutingActive then s
    else s.send c (.diagnosticMessage data)

/-! ## Timers -/

/-- The connection that waits takes over the address it asked for last. -/
def takeOver (waiting : ConnId) : Stack :=
  if (s.connections waiting).isConnectionRegistered then s
  else assign cfg confirm s waiting (s.connections waiting).raTesterSa
    (s.connections waiting).authInfo

def aliveCheckTimerHandler : Stack :=
  let s := s.modify c fun conn => { conn with aliveCheckTimer := false }
  if !(s.connections c).allAliveCheckFlag && !(s.connections c).singleAliveCheckFlag then s else
  let s :=
    if (s.connections c).allAliveCheckFlag then
      { s with aliveCheckNcts :=
          if s.aliveCheckNcts + 1 = cfg.maxSockNum then 0 else s.aliveCheckNcts + 1 }
    else s
  match (s.connections c).routingConnectionPtr with
  | none => finalize cfg s c
  | some waiting => finalize cfg (takeOver cfg confirm s waiting) c

/-! ## The stack as a transition system -/

/-- `Shutdown` of a connection, which stays in the box. -/
def shutdown : Stack := s.modify c fun conn => { conn with
  connState := .finalize
  initialTimer := false
  generalTimer := false
  aliveCheckTimer := false
  inBuf := none
  udsBuf := none }

def newConnection (testerSA : LogicalAddress) : Connection where
  connState := .initialized
  testerSA := testerSA
  raTesterSa := 0
  authInfo := 0
  allAliveCheckFlag := false
  singleAliveCheckFlag := false
  routingConnectionPtr := none
  initialTimer := true
  generalTimer := false
  aliveCheckTimer := false
  isConsuming := false
  inBuf := some ⟨Memory.zero, 0, 0⟩
  udsBuf := none
  udsTotalLen := 0
  udsReceived := 0

/-- `ServerCreateConnection` for an accepted socket. The address of the tester is not
initialized by the source. -/
def serverCreateConnection (testerSA : LogicalAddress) : Stack :=
  if s.connectionBox.length ≥ cfg.maxSockNum then s else
  { s with
    connections := Function.update s.connections s.created (newConnection testerSA)
    created := s.created + 1
    connectionBox := s.connectionBox ++ [s.created] }

inductive Action where
  | accept (testerSA : LogicalAddress)
  | hangUp (c : ConnId)
  | receive (c : ConnId) (read : Option (List UInt8))
  | consume
  | round (confirm : UserConfirmResult) (allocated : Bool)
  | initialTimeout (c : ConnId)
  | generalTimeout (c : ConnId)
  | aliveCheckTimeout (c : ConnId) (confirm : UserConfirmResult)
  | respond (ta : LogicalAddress) (data : List UInt8)
  | sessionDeInit
  | shutdownTimeout
deriving DecidableEq

/-- Events of the thread while no call of `ConsumeTCPData` is under way. Handlers look
their connection up in the box. -/
def dispatch : Action → Option Stack
  | .accept testerSA => some (serverCreateConnection cfg s testerSA)
  | .hangUp c => if c ∈ s.connectionBox then some (finalize cfg s c) else none
  | .receive c read => if c ∈ s.connectionBox then some (readable cfg s c read) else none
  | .consume =>
    match s.queue with
    | [] => none
    | c :: rest =>
      some (if c ∈ s.connectionBox ∧ (s.connections c).inBuf.isSome then
        { s with queue := rest, consuming := some (c, 0) } else { s with queue := rest })
  | .round .. => none
  | .initialTimeout c =>
    if c ∈ s.connectionBox ∧ (s.connections c).initialTimer then
      some (finalize cfg (s.modify c fun conn => { conn with initialTimer := false }) c) else none
  | .generalTimeout c =>
    if c ∈ s.connectionBox ∧ (s.connections c).generalTimer then
      some (finalize cfg (s.modify c fun conn => { conn with generalTimer := false }) c) else none
  | .aliveCheckTimeout c confirm =>
    if c ∈ s.connectionBox ∧ (s.connections c).aliveCheckTimer then
      some (aliveCheckTimerHandler cfg confirm s c) else none
  | .respond ta data => some (requestUdsMessage s ta data)
  | .sessionDeInit => some { s.connectionBox.foldl shutdown s with shutdownTimer := true }
  | .shutdownTimeout =>
    if s.shutdownTimer then
      some { s.connectionBox.foldl stop s with shutdownTimer := false, connectionBox := [] }
    else none

def step (a : Action) : Option Stack :=
  if s.crashed then none else
  match s.consuming, a with
  | some (c, count), .round confirm allocated => some (consumeRound cfg confirm s c allocated count)
  | some _, _ => none
  | none, a => dispatch cfg s a

def initStack : Stack where
  connections := fun _ => { newConnection 0 with initialTimer := false, inBuf := none }
  created := 0
  connectionBox := []
  aliveCheckNcts := 0
  shutdownTimer := false
  queue := []
  consuming := none
  crashed := false
  sent := []
  indications := []
  discarded := []
  deleted := []
  released := []

end TelAF.DoipConnection
