import Mathlib.Logic.Function.Basic
import Mathlib.Data.List.Basic

/-!
# The DID store

Calls of `Read` and `Write` run on the service thread, one at a time. A call prepares a
request, enters its counter in a hash map, queues it to the thread of the plugin and waits on
a semaphore. That thread passes the request to the plugin, which calls back from a thread of
its own, at any time and as often as it likes. A callback looks the counter up, then stores
its result where every call reads it, then posts the semaphore.

The two directions have the same shape, and each has its own copy of everything. One
transition is a stretch of one thread between two accesses that another thread can observe.
Objects of requests are taken from a pool and given back to it; one that has been given back
keeps its contents until it is taken again. Calls are numbered for the records at the end of
the state, which no thread reads. Sizes of records are limited by a constant of the interface.
-/

namespace TelAF.DidStore

inductive Kind where
  | read
  | write
deriving DecidableEq

abbrev Ptr := Nat

/-- The object of a request, with the number of the call that has filled it. What its pointers
lead to is `data`. -/
structure Request where
  call : Nat
  dataId : UInt16
  data : List UInt8
  cnt : UInt32

/-- What a callback, or a failed call of the plugin, is about to store. -/
structure Answer where
  call : Nat
  result : UInt8
  record : Option (List UInt8)

/-- One direction. Beside the shared fields stand the requests that the plugin has taken, and
the answers that are found and not stored, and stored and not posted. -/
structure Side where
  semaphore : Option Nat
  result : UInt8
  didData : List UInt8
  callPluginCnt : UInt32
  reqCntRef : List (UInt32 × Ptr)
  lock : Bool
  objects : Ptr → Request
  live : List Ptr
  queue : List (Ptr × Nat)
  taken : List Request
  found : List Answer
  stored : List Answer

structure Call where
  kind : Kind
  number : Nat
  dataId : UInt16
  ptr : Ptr
deriving DecidableEq

inductive Service where
  | idle
  | waiting (c : Call)
  | woken (c : Call) (ok : Bool)
  | cleaned (c : Call)

/-- A request passed to the plugin for a call: whether its object was in use then, and whether
the call had timed out. -/
structure Execution where
  kind : Kind
  call : Nat
  request : Request
  live : Bool
  late : Bool

/-- A callback of the plugin with what it has delivered. -/
structure Delivery where
  kind : Kind
  call : Nat
  dataId : UInt16
  record : Option (List UInt8)
  result : UInt8

/-- A call that has returned, with its record if it was successful. -/
structure Return where
  call : Call
  record : Option (List UInt8)
deriving DecidableEq

structure Store where
  sides : Kind → Side
  service : Service
  calls : Nat
  timedOut : List Nat
  executed : List Execution
  delivered : List Delivery
  returned : List Return

/-- The plugin, if it was found, and the limit on the size of a record. -/
structure Setup where
  didStorInf : Bool
  maxRecordSize : Nat

def initSide : Side where
  semaphore := none
  result := 0
  didData := []
  callPluginCnt := 1
  reqCntRef := []
  lock := false
  objects := fun _ => ⟨0, 0, [], 0⟩
  live := []
  queue := []
  taken := []
  found := []
  stored := []

def init : Store where
  sides := fun _ => initSide
  service := .idle
  calls := 0
  timedOut := []
  executed := []
  delivered := []
  returned := []

def positiveResponse : UInt8 := 0x00
def conditionNotCorrect : UInt8 := 0x22
def reqOutOfRange : UInt8 := 0x31
def generalProgrammingFailure : UInt8 := 0x72

/-- `LE_FAULT` in a byte. -/
def faultByte : UInt8 := 0xFA

namespace Side

variable (side : Side)

/-- The first counter from here on that is not in use; the map cannot hold more counters than
it has entries. -/
def freeCnt (used : List UInt32) : Nat → UInt32 → UInt32
  | 0, cnt => cnt
  | n + 1, cnt => if cnt ∈ used then freeCnt used n (if cnt + 1 = 0 then 1 else cnt + 1) else cnt

def nextCnt : UInt32 :=
  freeCnt (side.reqCntRef.map Prod.fst) (side.reqCntRef.length + 1) side.callPluginCnt

/-- The first part of `Read` and of `Write`, up to the wait. -/
def prepare (call : Nat) (dataId : UInt16) (data : List UInt8) (ptr : Ptr) : Side :=
  { side with
    semaphore := some (side.semaphore.getD 0)
    callPluginCnt := side.nextCnt
    reqCntRef := side.reqCntRef ++ [(side.nextCnt, ptr)]
    objects := Function.update side.objects ptr ⟨call, dataId, data, side.nextCnt⟩
    live := side.live ++ [ptr]
    queue := side.queue ++ [(ptr, call)] }

/-- The request leaves the map and gives its object back. -/
def release (ptr : Ptr) : Side :=
  { side with
    reqCntRef := side.reqCntRef.filter fun entry => decide (entry.1 ≠ side.callPluginCnt)
    live := side.live.erase ptr
    callPluginCnt := side.callPluginCnt + 1 }

/-- The part of `Read` and of `Write` that follows a timeout. -/
def abandon (ptr : Ptr) : Side :=
  { side.release ptr with semaphore := none, lock := false, result := conditionNotCorrect }

/-- Store an answer; a negative one leaves the data alone. -/
def store (a : Answer) : Side :=
  { side with result := a.result, didData := a.record.getD side.didData }

end Side

/-- What `didReadCb` makes of its arguments. -/
def didReadCb (maxRecordSize : Nat) (dataRec : Option (List UInt8)) (result : UInt8) :
    UInt8 × Option (List UInt8) :=
  match dataRec with
  | none => (conditionNotCorrect, none)
  | some bytes =>
    if bytes.length = 0 ∨ bytes.length > maxRecordSize then (conditionNotCorrect, none)
    else if result ≠ positiveResponse ∧ result ≠ conditionNotCorrect ∧
      result ≠ reqOutOfRange then
      (conditionNotCorrect, none)
    else (result, if result = positiveResponse then some bytes else none)

/-- What `didWriteCb` makes of its arguments. -/
def didWriteCb (result : UInt8) : UInt8 × Option (List UInt8) :=
  if result ≠ positiveResponse ∧ result ≠ conditionNotCorrect ∧ result ≠ reqOutOfRange ∧
      result ≠ generalProgrammingFailure then (conditionNotCorrect, none)
  else (result, none)

def outcome (setup : Setup) (kind : Kind) (dataRec : Option (List UInt8)) (result : UInt8) :
    UInt8 × Option (List UInt8) :=
  match kind with
  | .read => didReadCb setup.maxRecordSize dataRec result
  | .write => didWriteCb result

/-- `call` starts a call with an object from the pool; the service thread is then woken or times
out, cleans up and returns. `handleReadWriteReq` is done by the thread of the plugin, which may
refuse the request. A callback is made for any request that was taken; what it has found is
stored and posted later. -/
inductive Action where
  | call (kind : Kind) (dataId : UInt16) (data : List UInt8) (ptr : Ptr)
  | wake
  | timeout
  | cleanup
  | finish
  | handleReadWriteReq (kind : Kind) (accepts : Bool)
  | callback (kind : Kind) (i : Nat) (dataRec : Option (List UInt8)) (result : UInt8)
  | store (kind : Kind) (i : Nat)
  | post (kind : Kind) (i : Nat)

variable (setup : Setup) (s : Store)

def Store.setSide (kind : Kind) (side : Side) : Store :=
  { s with sides := Function.update s.sides kind side }

/-- The request at the head of the queue is passed to the plugin, unless a call is just cleaning
up; a refusal is stored and posted without a lookup. -/
def handleReadWriteReq (kind : Kind) (accepts : Bool) (ptr : Ptr) (call : Nat) (side : Side) :
    Store :=
  if !setup.didStorInf then s.setSide kind { side with result := faultByte }
  else if side.lock then s.setSide kind side
  else
    let request := side.objects ptr
    let execution : Execution :=
      ⟨kind, call, request, decide (ptr ∈ side.live), decide (call ∈ s.timedOut)⟩
    let refusal : Answer := ⟨request.call, conditionNotCorrect, none⟩
    { s.setSide kind (if accepts then { side with taken := side.taken ++ [request] }
        else { side with found := side.found ++ [refusal] }) with
      executed := s.executed ++ [execution] }

/-- The first part of `didReadCb` and of `didWriteCb`: the context is the counter. -/
def callback (kind : Kind) (request : Request) (dataRec : Option (List UInt8)) (result : UInt8) :
    Store :=
  let side := s.sides kind
  let delivery : Delivery := ⟨kind, request.call, request.dataId, dataRec, result⟩
  let stored := outcome setup kind dataRec result
  let answer : Answer := ⟨request.call, stored.1, stored.2⟩
  { (if request.cnt = 0 ∨ (side.reqCntRef.lookup request.cnt).isNone then s
      else s.setSide kind { side with found := side.found ++ [answer] }) with
    delivered := s.delivered ++ [delivery] }

def step (a : Action) : Option Store :=
  match a, s.service with
  | .call kind dataId data ptr, .idle =>
    let side := s.sides kind
    if ptr ∈ side.live then none
    else some { s.setSide kind (side.prepare s.calls dataId data ptr) with
      service := .waiting ⟨kind, s.calls, dataId, ptr⟩
      calls := s.calls + 1 }
  | .wake, .waiting c =>
    let side := s.sides c.kind
    match side.semaphore with
    | some (n + 1) => some { s.setSide c.kind { side with semaphore := some n, lock := true } with
        service := .woken c true }
    | _ => none
  | .timeout, .waiting c =>
    let side := s.sides c.kind
    if side.semaphore = some 0 then
      some { s.setSide c.kind { side with lock := true } with
        service := .woken c false
        timedOut := s.timedOut ++ [c.number] }
    else none
  | .cleanup, .woken c true =>
    some { s.setSide c.kind ((s.sides c.kind).release c.ptr) with service := .cleaned c }
  | .cleanup, .woken c false =>
    some { s.setSide c.kind ((s.sides c.kind).abandon c.ptr) with
      service := .idle
      returned := s.returned ++ [⟨c, none⟩] }
  | .finish, .cleaned c =>
    let side := s.sides c.kind
    some { s.setSide c.kind { side with lock := false } with
      service := .idle
      returned := s.returned ++
        [⟨c, if side.result = positiveResponse then some side.didData else none⟩] }
  | .handleReadWriteReq kind accepts, _ =>
    let side := s.sides kind
    match side.queue with
    | [] => none
    | (ptr, call) :: rest =>
      some (handleReadWriteReq setup s kind accepts ptr call { side with queue := rest })
  | .callback kind i dataRec result, _ =>
    ((s.sides kind).taken[i]?).map fun request => callback setup s kind request dataRec result
  | .store kind i, _ =>
    let side := s.sides kind
    (side.found[i]?).map fun a => s.setSide kind
      { side.store a with found := side.found.eraseIdx i, stored := side.stored ++ [a] }
  | .post kind i, _ =>
    let side := s.sides kind
    (side.stored[i]?).map fun _ => s.setSide kind
      { side with stored := side.stored.eraseIdx i, semaphore := side.semaphore.map (· + 1) }
  | _, _ => none

end TelAF.DidStore
