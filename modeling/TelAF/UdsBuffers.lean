import TelAF.DoipChanges
import TelAF.PoolLedger

/-!
# The buffers of diagnostic messages

`udsMsgPool` gives the buffers in which diagnostic messages are received and responses are
sent. A connection keeps the one it receives into in `udsBuf`; a complete message goes to
the UDS thread with its buffer, a response comes back to the main thread in one. The
connections and their messages are those of `DoipConnection`; beside them `Pool` follows the
buffers themselves: who takes, keeps, passes on and releases which of them, and what is
copied to where in them. A connection that is stopped releases its buffer; the calls of
`Stop` are read off the deletions of the stack.
-/

namespace TelAF.UdsBuffers
open DoipMessages DoipConnection DoipChanges

abbrev BufId := Nat

/-- A call of `RequestUdsMessage` queued to the main thread. -/
structure Request where
  ta : LogicalAddress
  message : List UInt8
  data : BufId

/-- The buffers of `udsMsgPool` by their holders, and the copies into them by position and
length. `indicating` holds the buffers of the calls of `IndicateUdsMessage` queued to the
UDS thread. -/
structure Pool where
  taken : Nat
  released : List BufId
  udsBuf : ConnId → Option BufId
  indicating : List BufId
  requesting : List Request
  copies : List (Nat × Nat)

/-- The results of `InformUdsMessage`. -/
inductive InformResult where
  | ok
  | paramError
  | unknownTA

namespace Pool

variable (p : Pool) (c : ConnId)

def release (b : BufId) : Pool := { p with released := p.released ++ [b] }

def copy (pos len : Nat) : Pool := { p with copies := p.copies ++ [(pos, len)] }

/-- A connection takes a buffer from the pool. -/
def take : Pool := { p with
  taken := p.taken + 1
  udsBuf := Function.update p.udsBuf c (some p.taken) }

def forget : Pool := { p with udsBuf := Function.update p.udsBuf c none }

/-- Release `udsBuf` unless it is `NULL`, as `Stop`, `Shutdown` and a discarded message do. -/
def drop : Pool :=
  match p.udsBuf c with
  | none => p
  | some b => (p.release b).forget c

def stops (l : List ConnId) : Pool := l.foldl drop p

end Pool

variable (cfg : DoipConf) (s : Stack) (p : Pool) (c : ConnId)

/-- `InformUdsMessage` hands the buffer on, or releases it if its target is unknown. -/
def informUdsMessage (ta : LogicalAddress) (dataPtr : Option BufId) (length : Nat) :
    Pool × InformResult :=
  match dataPtr with
  | none => (p, .paramError)
  | some data =>
    if length = 0 then (p, .paramError)
    else if !cfg.isFunctionalAddress ta && decide (ta ≠ cfg.entitySA) then
      (p.release data, .unknownTA)
    else ({ p with indicating := p.indicating ++ [data] }, .ok)

/-- The end of `DiagnosticMsgSvrSecondHandler` at `errOut1`; an invalid source address stops
the connection first. -/
def refuse (code : DiagNackCode) : Pool := (if code = .invalidSA then p.drop c else p).drop c

/-- `DiagnosticMsgSvrSecondHandler`. The header response to a short message stops the
connection. -/
def diagnosticMsgSvrSecondHandler : Pool :=
  let conn := s.connections c
  let data := conn.udsBuf.getD Memory.zero
  if conn.udsTotalLen ≤ logicalAddressLength * 2 then (p.drop c).drop c else
  let logicalSourceAddr := data.read16 0
  let logicalTargetAddr := data.read16 2
  if conn.connState ≠ .registeredRoutingActive then refuse p c .invalidSA else
  if logicalSourceAddr ≠ conn.testerSA then refuse p c .invalidSA else
  if conn.udsTotalLen > cfg.maxDataSize.toNat then refuse p c .diagMsgTooLarge else
  if conn.udsTotalLen > udsPoolObjectSize cfg then refuse p c .outOfMemory else
  match informUdsMessage cfg p logicalTargetAddr (p.udsBuf c) conn.udsTotalLen with
  | (p, .ok) => p.forget c
  | (p, _) => refuse p c .unknownTA

/-- The connection once `DiagnosticMsgFirstHandler` has copied a message. -/
def copied (data : Memory) (pos payloadLen receivedLen : Nat) : Stack :=
  s.modify c fun conn => { conn with
    udsBuf := some ((conn.udsBuf.getD Memory.zero).write 0
      (data.read pos (min payloadLen receivedLen)))
    udsTotalLen := payloadLen
    udsReceived := receivedLen }

def diagnosticMsgFirstHandler (allocated : Bool) (data : Memory) (pos payloadLen receivedLen : Nat) :
    Pool :=
  if (p.udsBuf c).isNone && !allocated then p else
  let p := (if (p.udsBuf c).isNone then p.take c else p).copy 0 (min payloadLen receivedLen)
  if payloadLen ≤ receivedLen ∨ receivedLen = udsPoolObjectSize cfg then
    diagnosticMsgSvrSecondHandler cfg (copied s c data pos payloadLen receivedLen) p c
  else p

/-- Subtraction of `size_t`. -/
def sizeSub (m n : Nat) : Nat := (m + 2 ^ 64 - n) % 2 ^ 64

/-- The number of bytes that `ReceiveDiagMessage` asks the socket for. -/
def askedLen (conn : Connection) : Nat :=
  if conn.udsTotalLen > udsPoolObjectSize cfg then sizeSub (udsPoolObjectSize cfg) conn.udsReceived
  else sizeSub conn.udsTotalLen conn.udsReceived

/-- The bytes that the socket gives of those asked for. -/
def receivedBytes (conn : Connection) (bytes : List UInt8) : List UInt8 :=
  bytes.take (min conn.udsTotalLen (udsPoolObjectSize cfg) - conn.udsReceived)

/-- The connection once `ReceiveDiagMessage` has read from the socket. -/
def readInto (bytes : List UInt8) (udsBuf : Memory) : Stack :=
  let conn := s.connections c
  let bytes := receivedBytes cfg conn bytes
  (s.modify c fun conn => { conn with generalTimer := true }).modify c fun timed => { timed with
    udsBuf := some (udsBuf.write timed.udsReceived bytes)
    udsReceived := conn.udsReceived + bytes.length }

/-- `ReceiveDiagMessage`; the read fails without a buffer. -/
def receiveDiagMessage (read : Option (List UInt8)) : Pool :=
  let conn := s.connections c
  match read, conn.udsBuf with
  | some bytes, some udsBuf =>
    let p := p.copy conn.udsReceived (askedLen cfg conn)
    let received := conn.udsReceived + (receivedBytes cfg conn bytes).length
    if conn.udsTotalLen ≤ received ∨ received = udsPoolObjectSize cfg then
      diagnosticMsgSvrSecondHandler cfg (readInto cfg s c bytes udsBuf) p c
    else p
  | _, _ => p

/-- The diagnostic message that the next round of `ConsumeTCPData` handles. -/
def nextDiagnostic : Option (ConnId × Buffer × Header) :=
  (nextMessage cfg s).filter fun (_, buf, hdr) =>
    decide (hdr.payloadType = .diagnosticMessage ∧
      ¬ buf.dataSize < headerGenericLength + 2 * logicalAddressLength)

/-- The pool over an event of the main thread from `s` to `t`. -/
def poolStep (t : Stack) : Action → Pool
  | .round _ allocated =>
    match nextDiagnostic cfg s with
    | some (c, buf, hdr) => diagnosticMsgFirstHandler cfg s p c allocated buf.data
        (buf.dataPos + headerGenericLength) hdr.payloadLen (buf.dataSize - headerGenericLength)
    | none => p.stops (t.deleted.drop s.deleted.length)
  | .receive c read =>
    if (s.connections c).udsTotalLen > (s.connections c).udsReceived then
      receiveDiagMessage cfg s p c read
    else p
  | .sessionDeInit => p.stops s.connectionBox
  | _ => p.stops (t.deleted.drop s.deleted.length)

/-- `TransUdsMessage`, called by the UDS layer: the header and both addresses, then the
message. `known` says whether there is a session of the address `sa`. -/
def transUdsMessage (ta : LogicalAddress) (known allocated : Bool) (data : List UInt8) : Pool :=
  if data = [] then p else
  if !known then p else
  if !allocated then p else
  let addrPos := headerGenericLength + logicalAddressLength
  { p with
    taken := p.taken + 1
    requesting := p.requesting ++ [⟨ta, data, p.taken⟩]
    copies := p.copies ++ [(0, headerGenericLength), (headerGenericLength, logicalAddressLength),
      (addrPos, logicalAddressLength), (addrPos + logicalAddressLength, data.length)] }

structure Device where
  stack : Stack
  pool : Pool

inductive Event where
  | main (a : Action)
  | transUdsMessage (ta : LogicalAddress) (known allocated : Bool) (data : List UInt8)
  | indicateUdsMessage
  | requestUdsMessage

/-- One event of the main thread or of the UDS thread. A response reaches the main thread
by the queue alone. -/
def step (d : Device) : Event → Option Device
  | .main (.respond ..) => none
  | .main a => (DoipConnection.step cfg d.stack a).map fun t =>
    ⟨t, poolStep cfg d.stack d.pool t a⟩
  | .transUdsMessage ta known allocated data =>
    some { d with pool := transUdsMessage d.pool ta known allocated data }
  | .indicateUdsMessage =>
    match d.pool.indicating with
    | [] => none
    | b :: rest => some { d with pool := { d.pool.release b with indicating := rest } }
  | .requestUdsMessage =>
    match d.pool.requesting with
    | [] => none
    | r :: rest => (DoipConnection.step cfg d.stack (.respond r.ta r.message)).map fun t =>
        ⟨t, { d.pool.release r.data with requesting := rest }⟩

def initDevice : Device where
  stack := initStack
  pool :=
    { taken := 0
      released := []
      udsBuf := fun _ => none
      indicating := []
      requesting := []
      copies := [] }

/-- The buffers held by the connections of the box and by the queued calls. -/
def Pool.held (box : List ConnId) : List BufId :=
  PoolLedger.inSlots box p.udsBuf ++ (p.indicating ++ p.requesting.map Request.data)

def InBounds : Prop := ∀ copy ∈ p.copies, copy.1 + copy.2 ≤ udsPoolObjectSize cfg

/-- Every buffer taken is held or has been released once, and no copy leaves its buffer. -/
structure UsedWell (d : Device) : Prop where
  once : PoolLedger.Balanced d.pool.taken d.pool.released (d.pool.held d.stack.connectionBox)
  inBounds : InBounds cfg d.pool

/-- The message in the buffer of a connection passes every check of the second handler, and
is neither for a functional group nor for the entity. -/
def UnknownTarget : Prop :=
  let conn := s.connections c
  let data := conn.udsBuf.getD Memory.zero
  ¬ conn.udsTotalLen ≤ logicalAddressLength * 2 ∧ conn.connState = .registeredRoutingActive ∧
    data.read16 0 = conn.testerSA ∧ ¬ conn.udsTotalLen > cfg.maxDataSize.toNat ∧
    ¬ conn.udsTotalLen > udsPoolObjectSize cfg ∧
    cfg.isFunctionalAddress (data.read16 2) = false ∧ data.read16 2 ≠ cfg.entitySA
deriving Decidable

/-- The connection with a complete message in its buffer, where an event of the main thread
completes one. -/
def completed : Action → Option (Stack × ConnId)
  | .round _ allocated =>
    match nextDiagnostic cfg s with
    | some (c, buf, hdr) =>
      let receivedLen := buf.dataSize - headerGenericLength
      if ¬ ((s.connections c).udsBuf.isNone && !allocated) ∧
          (hdr.payloadLen ≤ receivedLen ∨ receivedLen = udsPoolObjectSize cfg) then
        some (copied s c buf.data (buf.dataPos + headerGenericLength) hdr.payloadLen receivedLen, c)
      else none
    | none => none
  | .receive c (some bytes) =>
    let conn := s.connections c
    let received := conn.udsReceived + (receivedBytes cfg conn bytes).length
    if conn.udsTotalLen > conn.udsReceived ∧
        (conn.udsTotalLen ≤ received ∨ received = udsPoolObjectSize cfg) then
      conn.udsBuf.map fun udsBuf => (readInto cfg s c bytes udsBuf, c)
    else none
  | _ => none

/-- An event completes no message for an unknown target and sends no response that is longer
than a buffer takes. -/
def Allowed (d : Device) : Event → Prop
  | .main a => ∀ m ∈ completed cfg d.stack a, ¬ UnknownTarget cfg m.1 m.2
  | .transUdsMessage _ known allocated data => data = [] ∨ known = false ∨ allocated = false ∨
      headerGenericLength + 2 * logicalAddressLength + data.length ≤ udsPoolObjectSize cfg
  | _ => True

end TelAF.UdsBuffers
