import Mathlib.Tactic.Simps.Basic
import TelAF.RefMap
import TelAF.TransitionRuns

/-!
# The secure data storage

Apps create data items, open references to them, read and write them and share them with other
apps. The contents are encrypted with keys of the key store. The key of an item and the nonce of
its encryption are derived from the names of the item and of its owner.
-/

namespace TelAF.SecDataStorage

open TransitionRuns

/-- A C string. -/
abbrev Name := List Char

scoped instance : LawfulBEq Name := inferInstance

/-- A data item is known by its owner and its name. -/
structure Item where
  owner : Name
  name : Name
deriving DecidableEq

inductive Usage where
  | unknown
  | readWrite
  | read
  | write
deriving DecidableEq

inductive Purpose where
  | reading
  | writing

def Usage.allows : Usage → Purpose → Bool
  | .readWrite, _ => true
  | .read, .reading => true
  | .write, .writing => true
  | _, _ => false

/-- The values of `le_result_t` that the service returns. -/
inductive Result where
  | ok
  | fault
  | notFound
  | badParameter
  | duplicate
  | busy
  | unavailable
  | notPermitted
  | outOfRange
  | overflow
  | noMemory
deriving DecidableEq

/-- The constants of the key store and of the framework, the digest function, and the names of the
apps behind the client sessions, which are names of directories. -/
structure Platform where
  maxKeyIdSize : Nat
  maxAppNameLen : Nat
  maxDataChunkSize : Nat
  secDataStorage : Name
  md5 : List Char → List Nat
  appName : Nat → Name
  appName_directory : ∀ c, '/' ∉ appName c

namespace Platform

variable (P : Platform)

/-- `snprintf(keyId, keySize, "%s%s", …)`. -/
def getDataKeyId (i : Item) : Name := (i.owner ++ i.name).take (P.maxKeyIdSize - 1)

/-- The owner's name in a buffer of 256 bytes. -/
def nonceData (owner : Name) : List Char := (owner ++ List.replicate 256 (Char.ofNat 0)).take 256

def nonce (owner : Name) : List Nat := (P.md5 (nonceData owner)).take 12

def getDataPath (i : Item) : Name := P.secDataStorage ++ i.owner ++ '/' :: i.name

end Platform

def tempExtension : Name := ".temp".toList

def tempFile (path : Name) : Name := path ++ tempExtension

def checkValidPosixFileName (fileName : Name) : Bool :=
  !fileName.isEmpty && fileName.all fun ch => ch.isAlphanum || ch = '-' || ch = '_' || ch = '.'

/-- The names of the directories that every directory has. -/
def isDirectory (name : Name) : Bool := name = ".".toList || name = "..".toList

/-- The parts before and after the first `::`. -/
def splitLabel : Name → Option (Name × Name)
  | ':' :: ':' :: rest => some ([], rest)
  | ch :: rest => (splitLabel rest).map fun parts => (ch :: parts.1, parts.2)
  | [] => none

/-- `tafMngdStorage_SecData_t`; `writer` and `reader` are the client sessions of the operations. -/
structure SecData where
  dataName : Name
  ownerAppName : Name
  keyRef : Nat
  isInWritingProcess : Bool
  isInReadingProcess : Bool
  path : Name
  writer : Option Nat
  reader : Option Nat
  sharedAppList : List (Name × Usage)

namespace SecData

def item (d : SecData) : Item := ⟨d.ownerAppName, d.dataName⟩

def isInSharedAppList (d : SecData) (app : Name) : Bool := d.sharedAppList.any fun e => e.1 = app

def getSharedAppUsage (d : SecData) (app : Name) : Usage :=
  ((d.sharedAppList.find? fun e => e.1 = app).map Prod.snd).getD .unknown

/-- What the end of a session does to a record that it has a reference to. -/
def release (c : Nat) (d : SecData) : SecData :=
  let d := if d.isInWritingProcess ∧ d.writer = some c then
    { d with isInWritingProcess := false, writer := none } else d
  if d.isInReadingProcess ∧ d.reader = some c then
    { d with isInReadingProcess := false, reader := none } else d

end SecData

structure ClientData where
  secDataRef : Option Nat
  clientSessionRef : Nat
  sharedClient : Bool
  dataLabel : Name

/-- A provisioned key of the key store, with the number of its running crypto sessions. -/
structure Key where
  id : Name
  sharedApps : List (Name × Usage)
  running : Nat

inductive Resource where
  | key (id : Name)
  | file (path : Name)

/-- The service with its files and keys. The rest is kept for reasoning: what the owners share, the
items that references were returned for, the items with a record so far and those written so far,
the keys and files used for them, and the encryptions with their items. -/
structure State where
  secData : RefMap SecData
  clientData : RefMap ClientData
  keys : RefMap Key
  files : List Name
  shares : List (Item × Name × Usage)
  requested : List (Nat × Item)
  items : List Item
  written : List Item
  uses : List (Item × Resource)
  encryptions : List (Item × Name × List Nat)

namespace State

variable (P : Platform) (s : State)

def getKey (id : Name) : Option Nat := s.keys.search fun k => k.id = id

@[simps encryptions]
def setKey (ref : Nat) (f : Key → Key) : State := { s with keys := s.keys.modify ref f }

@[simps! encryptions]
def cryptoSessionStart (ref : Nat) : State :=
  s.setKey ref fun k => { k with running := k.running + 1 }

@[simps! encryptions]
def cryptoSessionEnd (ref : Nat) : State := s.setKey ref fun k => { k with running := k.running - 1 }

def shareKey (ref : Nat) (app : Name) (usage : Usage) : State :=
  s.setKey ref fun k =>
    { k with sharedApps := (k.sharedApps.filter fun e => e.1 ≠ app) ++ [(app, usage)] }

def cancelKeySharing (ref : Nat) (app : Name) : State :=
  s.setKey ref fun k => { k with sharedApps := k.sharedApps.filter fun e => e.1 ≠ app }

@[simps encryptions]
def setData (ref : Nat) (f : SecData → SecData) : State :=
  { s with secData := s.secData.modify ref f }

@[simps encryptions]
def setClient (ref : Nat) (f : ClientData → ClientData) : State :=
  { s with clientData := s.clientData.modify ref f }

@[simps encryptions]
def createFile (path : Name) : State :=
  { s with files := if path ∈ s.files then s.files else path :: s.files }

@[simps encryptions]
def deleteFile (path : Name) : State := { s with files := s.files.filter fun p => p ≠ path }

def findClientDataRef (c : Nat) (dataLabel : Name) : Option Nat :=
  s.clientData.search fun d => d.dataLabel = dataLabel && d.clientSessionRef = c

def findSecDataRef (i : Item) : Option Nat := s.secData.search fun d => d.item = i

/-- At most twelve apps are read from the key store. -/
@[simps! encryptions]
def refreshSharedAppInfo (ref : Nat) : State :=
  s.setData ref fun d =>
    { d with sharedAppList := (((s.keys.lookup d.keyRef).map Key.sharedApps).getD []).take 12 }

/-- The key of the id, which is created if there is none. -/
def provideKey (id : Name) : State :=
  { s with keys := if (s.getKey id).isSome then s.keys else s.keys.create ⟨id, [], 0⟩ }

/-- The reference of the record is the next one. -/
def createSecDataRef (i : Item) : State :=
  let id := P.getDataKeyId i
  let keyRef := (s.getKey id).getD s.keys.next
  let s := s.provideKey id
  { s with
    secData := s.secData.create
      { dataName := i.name, ownerAppName := i.owner, keyRef := keyRef, isInWritingProcess := false,
        isInReadingProcess := false, path := P.getDataPath i, writer := none, reader := none,
        sharedAppList := [] }
    items := i :: s.items
    uses := (i, .key id) :: (i, .file (P.getDataPath i)) :: s.uses }

/-- The client's reference and the record that it points to. -/
def dataOf (ref : Nat) : Option (ClientData × Nat × SecData) :=
  (s.clientData.lookup ref).bind fun d =>
    d.secDataRef.bind fun r => (s.secData.lookup r).map fun data => (d, r, data)

end State

namespace Platform

variable (P : Platform)

/-- The other app that a label names, if it names one, and the name of the data. -/
def parseLabel (c : Nat) (dataLabel : Name) : Option (Option Name × Name) :=
  match splitLabel dataLabel with
  | none => some (none, dataLabel)
  | some (owner, name) =>
    let owner := owner.take P.maxAppNameLen
    if name = [] ∨ owner = [] then none
    else if P.appName c = owner then some (none, name)
    else if ¬ checkValidPosixFileName owner then none
    else some (some owner, name)

end Platform

namespace State

variable (P : Platform) (s : State) (c : Nat)

/-- `created`: the file could be created. -/
def createData (dataName : Name) (created : Bool) : State × Result :=
  let i : Item := ⟨P.appName c, dataName⟩
  if ¬ checkValidPosixFileName dataName then (s, .badParameter)
  else if P.getDataPath i ∈ s.files ∨ isDirectory dataName then (s, .duplicate)
  else if (s.findSecDataRef i).isSome then (s, .duplicate)
  else
    let ref := s.secData.next
    let s := s.createSecDataRef P i
    if created then (s.createFile (P.getDataPath i), .ok)
    else ({ s with secData := s.secData.erase ref }, .fault)

/-- What a request of a reference asks for, if its label is valid and the file is there. -/
def requestedData (dataLabel : Name) : Option (Option Name × Item) :=
  (P.parseLabel c dataLabel).bind fun (owner, name) =>
    let i : Item := ⟨owner.getD (P.appName c), name⟩
    if checkValidPosixFileName name ∧ P.getDataPath i ∈ s.files then some (owner, i) else none

/-- The client's reference that has the plain name for its label, or a new one with the label. -/
@[simps encryptions]
def provideClient (name dataLabel : Name) : State :=
  { s with clientData :=
      if (s.findClientDataRef c name).isSome then s.clientData
      else s.clientData.create ⟨none, c, false, dataLabel⟩ }

def provideData (i : Item) : State :=
  if (s.findSecDataRef i).isSome then s else s.createSecDataRef P i

def getDataRef (dataLabel : Name) : State × Option Nat :=
  match s.requestedData P c dataLabel with
  | none => (s, none)
  | some (owner, i) =>
    let ref := (s.findClientDataRef c i.name).getD s.clientData.next
    let s := s.provideClient c i.name dataLabel
    let r := (s.findSecDataRef i).getD s.secData.next
    let s := s.provideData P i
    let s := s.setClient ref fun d => { d with secDataRef := some r }
    let s := s.refreshSharedAppInfo r
    if owner.isSome then
      if (s.secData.lookup r).any fun d => d.isInSharedAppList (P.appName c) then
        let s := s.setClient ref fun d => { d with sharedClient := true }
        ({ s with requested := (ref, i) :: s.requested }, some ref)
      else
        -- the record is freed even where the owner has references to it
        ({ s with secData := s.secData.erase r, clientData := s.clientData.erase ref }, none)
    else ({ s with requested := (ref, i) :: s.requested }, some ref)

/-- What happens when the session of the client is closed. -/
def releaseDataRef : State :=
  let held := s.clientData.values.filter fun d => d.clientSessionRef = c
  let secData := held.foldl (fun m d => d.secDataRef.elim m fun r => m.modify r (SecData.release c))
    s.secData
  { s with
    secData := secData
    clientData := s.clientData.filterRefs fun _ d => d.clientSessionRef ≠ c }

/-- How far the crypto session and the temporary file get: it is started, takes the additional
data, and the file is opened. -/
structure WriteStart where
  started : Bool
  aead : Bool
  opened : Bool

/-- The checks before a crypto session is started. -/
def mayUse (p : Purpose) (d : ClientData) (data : SecData) : Bool :=
  !d.sharedClient || (data.getSharedAppUsage (P.appName c)).allows p

/-- The crypto session of the item is started with the key and the nonce of the item. -/
def startEncryption (data : SecData) : State :=
  let s := s.cryptoSessionStart data.keyRef
  { s with encryptions :=
      s.encryptions ++ [(data.item, P.getDataKeyId data.item, P.nonce data.ownerAppName)] }

def useTempFile (data : SecData) : State :=
  { s with
    written := data.item :: s.written
    uses := (data.item, .file (tempFile data.path)) :: s.uses }

/-- The second part of `WriteDataStart`, when the crypto session has been started. -/
def openWriting (r : Nat) (data : SecData) (env : WriteStart) : State × Result :=
  if ¬ env.aead then (s.cryptoSessionEnd data.keyRef, .fault)
  else
    let s := s.useTempFile data
    if ¬ env.opened then
      let s := s.setData r fun e => { e with isInWritingProcess := false, writer := none }
      ((s.cryptoSessionEnd data.keyRef).deleteFile (tempFile data.path), .fault)
    else
      let s := s.setData r fun e => { e with isInWritingProcess := true }
      (s.createFile (tempFile data.path), .ok)

def writeDataStart (ref : Nat) (env : WriteStart) : State × Result :=
  match s.dataOf ref with
  | none => (s, .notFound)
  | some (d, r, data) =>
    if data.isInWritingProcess then (s, .busy)
    else if data.isInReadingProcess then (s, .busy)
    else if ¬ mayUse P c .writing d data then
      (s.setData r fun e => { e with writer := none }, .notPermitted)
    else
      let s' := s.setData r fun e => { e with writer := some c }
      if data.path ∉ s.files then (s', .unavailable)
      else if (s.keys.lookup data.keyRef).isNone ∨ ¬ env.started then (s', .fault)
      else (s'.startEncryption P data).openWriting r data env

/-- The item that starting to write would encrypt. -/
def encryptedItem (ref : Nat) (env : WriteStart) : Option Item :=
  (s.dataOf ref).bind fun (d, _, data) =>
    if data.isInWritingProcess = false ∧ data.isInReadingProcess = false ∧
        mayUse P c .writing d data = true ∧ data.path ∈ s.files ∧
        (s.keys.lookup data.keyRef).isSome = true ∧ env.started = true then
      some data.item
    else none

def endWriting (r : Nat) (data : SecData) (writer : Option Nat) : State :=
  (s.setData r fun e => { e with isInWritingProcess := false, writer := writer }).cryptoSessionEnd
    data.keyRef

/-- `fits`: the storage has room; `processed`: the data is encrypted and in the file. -/
def writeDataChunk (ref bufferSize : Nat) (fits processed : Bool) : State × Result :=
  match s.dataOf ref with
  | none => (s, .notFound)
  | some (_, r, data) =>
    if ¬ data.isInWritingProcess then (s, .unavailable)
    else if data.writer ≠ some c then (s, .busy)
    else if P.maxDataChunkSize < bufferSize then (s, .overflow)
    else if ¬ fits then ((s.endWriting r data none).deleteFile (tempFile data.path), .noMemory)
    else if ¬ processed then ((s.endWriting r data none).deleteFile (tempFile data.path), .fault)
    else (s, .ok)

/-- `ended`: the crypto session ends and its output is in the file. -/
def writeDataEnd (ref : Nat) (ended renamed : Bool) : State × Result :=
  match s.dataOf ref with
  | none => (s, .notFound)
  | some (_, r, data) =>
    if ¬ data.isInWritingProcess then (s, .unavailable)
    else if data.writer ≠ some c then (s, .busy)
    else if ¬ ended then ((s.endWriting r data data.writer).deleteFile (tempFile data.path), .fault)
    else
      let s := (s.endWriting r data none).deleteFile (tempFile data.path)
      if ¬ renamed then (s, .fault) else (s.createFile data.path, .ok)

/-- How far a read gets: it fails, there is nothing more to read, or there is. -/
inductive ReadOutcome where
  | failed
  | last
  | more

structure ReadStart where
  started : Bool
  aead : Bool
  outcome : ReadOutcome

/-- The second part of `ReadDataFirstChunk`, when the crypto session has been started. -/
def openReading (r keyRef : Nat) (data : SecData) (env : ReadStart) : State × Result :=
  if ¬ env.aead then (s.cryptoSessionEnd keyRef, .fault)
  else if data.path ∉ s.files then (s.cryptoSessionEnd keyRef, .fault)
  else
    match env.outcome with
    | .failed => (s.cryptoSessionEnd keyRef, .fault)
    | .last => (s.cryptoSessionEnd keyRef, .ok)
    | .more => (s.setData r fun e => { e with isInReadingProcess := true }, .ok)

def readDataFirstChunk (ref : Nat) (env : ReadStart) : State × Result :=
  match s.dataOf ref with
  | none => (s, .notFound)
  | some (d, r, data) =>
    if data.isInWritingProcess then (s, .busy)
    else if data.isInReadingProcess then (s, .busy)
    else if ¬ mayUse P c .reading d data then
      (s.setData r fun e => { e with reader := none }, .notPermitted)
    else
      match s.getKey (P.getDataKeyId data.item) with
      | none => (s.setData r fun e => { e with reader := some c }, .fault)
      | some keyRef =>
        let s := s.setData r fun e => { e with reader := some c, keyRef := keyRef }
        if ¬ env.started then (s, .fault)
        else (s.cryptoSessionStart keyRef).openReading r keyRef data env

def endReading (r : Nat) (data : SecData) (reader : Option Nat) : State :=
  (s.setData r fun e => { e with isInReadingProcess := false, reader := reader }).cryptoSessionEnd
    data.keyRef

def readDataNextChunk (ref : Nat) (outcome : ReadOutcome) : State × Result :=
  match s.dataOf ref with
  | none => (s, .notFound)
  | some (_, r, data) =>
    if data.isInWritingProcess then (s, .busy)
    else if ¬ data.isInReadingProcess then (s, .unavailable)
    else if data.reader ≠ some c then (s, .busy)
    else
      match outcome with
      | .failed => (s.endReading r data data.reader, .fault)
      | .last => (s.endReading r data none, .ok)
      | .more => (s, .ok)

def deleteData (ref : Nat) : State × Result :=
  match s.dataOf ref with
  | none => (s, .notFound)
  | some (d, r, data) =>
    if data.isInWritingProcess then (s, .busy)
    else if data.isInReadingProcess then (s, .busy)
    else if data.path ∉ s.files then (s, .badParameter)
    else if d.sharedClient then (s, .notPermitted)
    else
      -- a key with a running crypto session stays
      let idle := (s.keys.lookup data.keyRef).any fun k => k.running = 0
      let s := (s.deleteFile (tempFile data.path)).deleteFile data.path
      let s := if idle then { s with keys := s.keys.erase data.keyRef } else s
      ({ s with
        secData := s.secData.erase r
        shares := s.shares.filter fun e => e.1 ≠ data.item }, .ok)

/-- `shared`: the key store shares the key. -/
def shareData (ref : Nat) (app : Name) (usage : Usage) (shared : Bool) : State × Result :=
  match s.dataOf ref with
  | none => (s, .notFound)
  | some (d, r, data) =>
    if d.sharedClient then (s, .notPermitted)
    else if 12 ≤ data.sharedAppList.length then (s, .outOfRange)
    else if P.appName c = app then (s, .fault)
    else if data.isInSharedAppList app then (s, .duplicate)
    else if usage = .unknown then (s, .badParameter)
    else if (s.keys.lookup data.keyRef).isNone then (s, .notFound)
    else if ¬ shared then (s, .fault)
    else
      let s := (s.shareKey data.keyRef app usage).refreshSharedAppInfo r
      ({ s with shares := (data.item, app, usage) :: s.shares }, .ok)

/-- `canceled`: the key store cancels the sharing of the key. -/
def cancelDataSharing (ref : Nat) (app : Name) (canceled : Bool) : State × Result :=
  match s.dataOf ref with
  | none => (s, .notFound)
  | some (d, r, data) =>
    if d.sharedClient then (s, .notPermitted)
    else if ¬ data.isInSharedAppList app then (s, .badParameter)
    else
      match s.keys.lookup data.keyRef with
      | none => (s, .notFound)
      | some k =>
        if 0 < k.running then (s, .notPermitted)
        else if ¬ canceled then (s, .fault)
        else
          let s := (s.cancelKeySharing data.keyRef app).refreshSharedAppInfo r
          ({ s with shares := s.shares.filter fun e => ¬ (e.1 = data.item ∧ e.2.1 = app) }, .ok)

end State

/-- The calls of the clients and the ends of their sessions. -/
inductive Action where
  | createData (c : Nat) (dataName : Name) (created : Bool)
  | getDataRef (c : Nat) (dataLabel : Name)
  | writeDataStart (c ref : Nat) (env : State.WriteStart)
  | writeDataChunk (c ref bufferSize : Nat) (fits processed : Bool)
  | writeDataEnd (c ref : Nat) (ended renamed : Bool)
  | readDataFirstChunk (c ref : Nat) (env : State.ReadStart)
  | readDataNextChunk (c ref : Nat) (outcome : State.ReadOutcome)
  | deleteData (c ref : Nat)
  | shareData (c ref : Nat) (app : Name) (usage : Usage) (shared : Bool)
  | cancelDataSharing (c ref : Nat) (app : Name) (canceled : Bool)
  | disconnect (c : Nat)

inductive Reply where
  | result (r : Result)
  | dataRef (ref : Option Nat)
  | nothing
deriving DecidableEq

section
variable (P : Platform) (s : State)

def perform : Action → State × Reply
  | .createData c dataName created => (s.createData P c dataName created).map id .result
  | .getDataRef c dataLabel => (s.getDataRef P c dataLabel).map id .dataRef
  | .writeDataStart c ref env => (s.writeDataStart P c ref env).map id .result
  | .writeDataChunk c ref bufferSize fits processed =>
    (s.writeDataChunk P c ref bufferSize fits processed).map id .result
  | .writeDataEnd c ref ended renamed => (s.writeDataEnd c ref ended renamed).map id .result
  | .readDataFirstChunk c ref env => (s.readDataFirstChunk P c ref env).map id .result
  | .readDataNextChunk c ref outcome => (s.readDataNextChunk c ref outcome).map id .result
  | .deleteData _ ref => (s.deleteData ref).map id .result
  | .shareData c ref app usage shared => (s.shareData P c ref app usage shared).map id .result
  | .cancelDataSharing _ ref app canceled => (s.cancelDataSharing ref app canceled).map id .result
  | .disconnect c => (s.releaseDataRef c, .nothing)

def step (a : Action) : Option State := some (perform P s a).1

end

def start : State where
  secData := .empty
  clientData := .empty
  keys := .empty
  files := []
  shares := []
  requested := []
  items := []
  written := []
  uses := []
  encryptions := []

end TelAF.SecDataStorage
