import Mathlib.Tactic.Simps.Basic
import TelAF.RefSums
import TelAF.TransitionRuns

/-!
# The key store

Apps create keys, give them attributes, provision them and use them in crypto sessions. A key is
the new key of one client session until it is provisioned; then its value is in a key file of the
platform, and every client that the platform allows may use it.
-/

namespace TelAF.KeyStore

open TransitionRuns

/-- A C string. -/
abbrev Name := List Char

/-- The values of `le_result_t` that the platform's results are mapped to. -/
inductive Result where
  | ok
  | notFound
  | notPossible
  | outOfRange
  | noMemory
  | notPermitted
  | fault
  | commError
  | timeout
  | overflow
  | underflow
  | wouldBlock
  | deadlock
  | formatError
  | duplicate
  | badParameter
  | closed
  | busy
  | unsupported
  | ioError
  | notImplemented
  | unavailable
  | terminated
  | inProgress
  | suspended
deriving DecidableEq

inductive KeyKind where
  | rsaEnc
  | rsaSig
  | ecdsa
  | aes
  | hmac
deriving DecidableEq

/-- Encryption and decryption, or signing and verification; the first alone; the second alone. -/
inductive Purpose where
  | both
  | originateOnly
  | useOnly
deriving DecidableEq

/-- The values of `taf_ks_KeyUsage_t` below its maximum. -/
structure KeyUsage where
  kind : KeyKind
  purpose : Purpose
deriving DecidableEq

structure Limits where
  rsaSizeMax : Nat
  rsaEncPadMax : Nat
  rsaSigPadMax : Nat
  eccSizeMax : Nat
  aesSizeMax : Nat
  aesModeMax : Nat
  digestMax : Nat
  minHmacKeySize : Nat
  maxHmacKeySize : Nat
  cryptoMax : Nat
  maxAppNameSize : Nat

/-! ## Tags and parameters -/

/-- `taf_pa_ks_Tag_t`: an attribute of a key. -/
inductive Tag where
  | maxUsesPerBoot (value : BitVec 32)
  | minSecondsBetweenOps (value : BitVec 32)
  | applicationData (data : List UInt8)
  | activeDateTime (value : BitVec 64)
  | originationExpireDateTime (value : BitVec 64)
  | usageExpireDateTime (value : BitVec 64)
deriving DecidableEq

def Tag.id : Tag → Nat
  | .maxUsesPerBoot _ => 0
  | .minSecondsBetweenOps _ => 1
  | .applicationData _ => 2
  | .activeDateTime _ => 3
  | .originationExpireDateTime _ => 4
  | .usageExpireDateTime _ => 5

/-- The data of the tag is in a buffer of its own. -/
def Tag.buffered : Tag → Bool
  | .applicationData _ => true
  | _ => false

inductive RsaPaddingType where
  | pkcs1V15
  | pss
  | other
deriving DecidableEq

/-- `taf_pa_ks_Param_t`: a parameter of a crypto session. -/
inductive Param where
  | nonce (data : List UInt8)
  | applicationData (data : List UInt8)
  | rsaPaddingType (type : RsaPaddingType)

def Param.id : Param → Nat
  | .nonce _ => 0
  | .applicationData _ => 1
  | .rsaPaddingType _ => 2

def Param.buffered : Param → Bool
  | .rsaPaddingType _ => false
  | _ => true

/-- `KeyTag_t` and `KeyParam_t`: an object in the list of a key or a session, and the buffer of
its data. -/
structure Entry (α : Type) where
  object : Nat
  buffer : Option Nat
  value : α

section Entries

variable {α : Type} (id : α → Nat)

def Entry.objects (e : Entry α) : List Nat := e.buffer.toList ++ [e.object]

/-- An entry with new objects, the first of them with the given number. -/
def Entry.alloc (first : Nat) (buffered : Bool) (value : α) : Entry α :=
  ⟨first, if buffered then some (first + 1) else none, value⟩

/-- The entry goes to the end of the list; an older one of its identifier is removed. -/
def setEntry (entries : List (Entry α)) (new : Entry α) : List (Entry α) :=
  (entries.eraseP fun e => id e.value = id new.value) ++ [new]

def replacedEntry (entries : List (Entry α)) (new : Entry α) : Option (Entry α) :=
  entries.find? fun e => id e.value = id new.value

end Entries

/-! ## Objects -/

structure SharedAppInfo where
  appName : Name
  keyCap : KeyUsage
  appCap : Nat
deriving DecidableEq

structure SharedApp where
  object : Nat
  appInfo : SharedAppInfo

/-- `SharedAppList_t`; `currPtr` is the position in the list. -/
structure SharedAppList where
  object : Nat
  clientSessionRef : Nat
  appList : List SharedApp
  currPtr : Nat

def SharedAppList.objects (l : SharedAppList) : List Nat :=
  l.appList.map SharedApp.object ++ [l.object]

structure NewKey where
  keyId : Name
  clientSessionRef : Nat
  keyUsage : KeyUsage
  tagList : List (Entry Tag)

structure ProKey where
  keyFileRef : Option Nat
  cryptoSessionList : List Nat
  sharedAppList : List SharedAppList

inductive KeyType where
  | newCreated (k : NewKey)
  | provisioned (k : ProKey)

structure Key where
  object : Nat
  keyType : KeyType

def KeyType.objects : KeyType → List Nat
  | .newCreated k => k.tagList.flatMap Entry.objects
  | .provisioned k => k.sharedAppList.flatMap SharedAppList.objects

def Key.objects (k : Key) : List Nat := k.keyType.objects ++ [k.object]

structure CryptoSession where
  object : Nat
  handle : Nat
  started : Bool
  paramList : List (Entry Param)
  clientSessionRef : Nat
  keyRef : Nat

def CryptoSession.objects (x : CryptoSession) : List Nat :=
  x.paramList.flatMap Entry.objects ++ [x.object]

structure Generation where
  kind : KeyKind
  keyId : Name
  keySize : Nat
  purpose : Purpose
  variety : Nat
  tags : List Tag
  impData : List UInt8

/-- What is done with a new key or a crypto session. -/
inductive Request where
  | readUsage (keyRef : Nat)
  | generate (keyRef : Nat) (g : Generation)
  | start (sessionRef : Nat) (keyFileRef : Option Nat) (cryptoPurpose : Nat) (params : List Param)
  | processAead (sessionRef handle : Nat) (input : List UInt8)
  | process (sessionRef handle : Nat) (input : List UInt8)
  | finish (sessionRef handle : Nat) (input : List UInt8)
  | abort (sessionRef handle : Nat)

/-- A request with the client it is made for and the one that created the key or the session. -/
structure Use where
  caller : Nat
  creator : Nat
  request : Request

inductive Answer where
  | result (r : Result)
  | key (keyRef : Nat)
  | session (sessionRef : Nat)
  | keyUsage (usage : KeyUsage)
  | sharedApp (app : SharedAppInfo)
deriving DecidableEq

/-- The keys and the crypto sessions of the service. The rest is kept for reasoning: the number of
objects allocated so far, those given back, and what was done with new keys and sessions. -/
structure State where
  keys : RefMap Key
  cryptoSessions : RefMap CryptoSession
  allocated : Nat
  released : List Nat
  uses : List Use

def start : State := ⟨.empty, .empty, 0, [], []⟩

namespace State

variable (s : State)

@[simps -fullyApplied]
def release (objects : List Nat) : State := { s with released := s.released ++ objects }

@[simps -fullyApplied]
def use (caller creator : Nat) (request : Request) : State :=
  { s with uses := s.uses ++ [⟨caller, creator, request⟩] }

@[simps -fullyApplied cryptoSessions allocated released uses]
def setKeyType (ref : Nat) (keyType : KeyType) : State :=
  { s with keys := s.keys.modify ref fun k => { k with keyType := keyType } }

@[simps -fullyApplied keys allocated released uses]
def setSession (r : Nat) (x : CryptoSession) : State :=
  { s with cryptoSessions := s.cryptoSessions.modify r fun _ => x }

def searchProvisionedKey (keyFileRef : Option Nat) : Option Nat :=
  s.keys.search fun k =>
    match k.keyType with
    | .provisioned p => p.keyFileRef = keyFileRef
    | .newCreated _ => false

def searchNewKey (c : Nat) (keyId : Name) : Option Nat :=
  s.keys.search fun k =>
    match k.keyType with
    | .provisioned _ => false
    | .newCreated k => k.clientSessionRef = c && k.keyId = keyId

@[simps -fullyApplied cryptoSessions uses]
def createKeyObject (keyType : KeyType) : State :=
  { s with keys := s.keys.create ⟨s.allocated, keyType⟩, allocated := s.allocated + 1 }

/-- The key object and what its lists still hold are given back. -/
@[simps! -fullyApplied cryptoSessions uses]
def releaseKey (ref : Nat) (k : Key) : State :=
  { s with keys := s.keys.erase ref }.release k.objects

/-! ## Crypto sessions of a key -/

/-- The list holds pointers: a session that is not there any more is no session to remove. -/
def removeCryptoSession (c r : Nat) : Option State :=
  (s.cryptoSessions.lookup r).map fun x =>
    let s := if x.started then s.use c x.clientSessionRef (.abort r x.handle) else s
    { s with cryptoSessions := s.cryptoSessions.erase r }.release x.objects

/-- The session is taken from the list of the key and removed. -/
def dropSession (c ref r : Nat) : Option State :=
  match s.keys.lookup ref with
  | some ⟨_, .provisioned p⟩ =>
    (s.setKeyType ref (.provisioned { p with
      cryptoSessionList := p.cryptoSessionList.erase r })).removeCryptoSession c r
  | _ => none

def clearCryptoSessionList (c ref : Nat) (p : ProKey) : Option State :=
  exec (fun s r => s.dropSession c ref r) s p.cryptoSessionList

def hasRunningCryptoSession (p : ProKey) : Bool :=
  p.cryptoSessionList.any fun r => (s.cryptoSessions.lookup r).any CryptoSession.started

/-- The sessions of a provisioned key are removed, and then the key with its lists. -/
def deleteProvisionedKey (c ref : Nat) (p : ProKey) : Option State :=
  (s.clearCryptoSessionList c ref p).map fun t =>
    ((t.keys.lookup ref).map (t.releaseKey ref)).getD t

/-- The key of a key file that the platform does not have any more. -/
def deleteObsoleteKey (c : Nat) (keyFileRef : Option Nat) : Option State :=
  if keyFileRef = none then some s
  else
    match s.searchProvisionedKey keyFileRef with
    | none => some s
    | some ref =>
      match s.keys.lookup ref with
      | some ⟨_, .provisioned p⟩ => s.deleteProvisionedKey c ref p
      | _ => some s

/-! ## Keys -/

/-- `CreateAppProKey`, by the handler of the platform's key files. -/
def keyCreationPAHandler (keyFileRef : Option Nat) : State :=
  if keyFileRef = none then s else s.createKeyObject (.provisioned ⟨keyFileRef, [], []⟩)

end State

/-- Letters, digits, `_`, `.` and `-` only. -/
def isPosixFileNameFormat (str : Name) : Bool :=
  str.all fun ch => ch.isAlphanum || ch = '_' || ch = '.' || ch = '-'

/-- The parts before and after the first `::`. -/
def splitKeyName : Name → Option (Name × Name)
  | ':' :: ':' :: rest => some ([], rest)
  | ch :: rest => (splitKeyName rest).map fun parts => (ch :: parts.1, parts.2)
  | [] => none

namespace State

variable (L : Limits) (s : State) (c : Nat)

/-- `appName`: the name of the app, if it is found; `keyUsage`: unless it is not below its maximum;
`found` and `keyFileRef`: what the platform knows of a key of that identifier. -/
def createKey (appName : Option Name) (keyId : Name) (keyUsage : Option KeyUsage) (found : Result)
    (keyFileRef : Option Nat) : Option (State × Answer) :=
  match keyUsage with
  | none => some (s, .result .badParameter)
  | some usage =>
    if appName = none then some (s, .result .fault)
    else if ¬ isPosixFileNameFormat keyId then some (s, .result .badParameter)
    else if (s.searchNewKey c keyId).isSome then some (s, .result .notPermitted)
    else if found = .ok then some (s, .result .notPermitted)
    else if found ≠ .notFound then some (s, .result .fault)
    else (s.deleteObsoleteKey c keyFileRef).map fun t =>
      (t.createKeyObject (.newCreated ⟨keyId, c, usage, []⟩), .key t.keys.next)

/-- The app that the platform is asked for, if not the caller's own, and the identifier. -/
def keyNameParts (myAppName keyName : Name) : Option (Option Name × Name) :=
  match splitKeyName keyName with
  | none => some (none, keyName)
  | some (owner, keyId) =>
    let ownerAppName := owner.take L.maxAppNameSize
    if keyId = [] ∨ ownerAppName = [] then none
    else some (if myAppName = ownerAppName then none else some ownerAppName, keyId)

/-- `found` and `keyFileRef` answer for a key of the owner in the name. -/
def getKey (appName : Option Name) (keyName : Name) (found : Result) (keyFileRef : Option Nat) :
    Option (State × Answer) :=
  match appName with
  | none => some (s, .result .fault)
  | some myAppName =>
    match keyNameParts L myAppName keyName with
    | none => some (s, .result .badParameter)
    | some (_, keyId) =>
      if ¬ isPosixFileNameFormat keyId then some (s, .result .badParameter)
      else if found = .ok then
        match s.searchProvisionedKey keyFileRef with
        | some ref => some (s, .key ref)
        | none => some (s.createKeyObject (.provisioned ⟨keyFileRef, [], []⟩), .key s.keys.next)
      else if found = .notFound then
        (s.deleteObsoleteKey c keyFileRef).map fun t => (t, .result found)
      else some (s, .result found)

/-- `deleted`: the platform's answer. The session of the caller is not compared. -/
def deleteKey (ref : Nat) (deleted : Result) : Option (State × Answer) :=
  match s.keys.lookup ref with
  | none => some (s, .result .notFound)
  | some ⟨_, .provisioned p⟩ =>
    if s.hasRunningCryptoSession p then some (s, .result .notPermitted)
    else if deleted ≠ .ok then some (s, .result deleted)
    else (s.deleteProvisionedKey c ref p).map fun t => (t, .result .ok)
  | some ⟨object, .newCreated k⟩ =>
    some (s.releaseKey ref ⟨object, .newCreated k⟩, .result .ok)

def getKeyUsage (ref : Nat) (answer : Result) (paKeyUsage : KeyUsage) : State × Answer :=
  match s.keys.lookup ref with
  | none => (s, .result .notFound)
  | some ⟨_, .newCreated k⟩ =>
    if k.clientSessionRef ≠ c then (s, .result .notPermitted)
    else (s.use c k.clientSessionRef (.readUsage ref), .keyUsage k.keyUsage)
  | some ⟨_, .provisioned _⟩ =>
    if answer = .ok then (s, .keyUsage paKeyUsage) else (s, .result answer)

/-- What the six setters do with their tags. The session of the caller is not compared. -/
def setTag (ref : Nat) (tag : Tag) : State × Answer :=
  match s.keys.lookup ref with
  | none => (s, .result .notFound)
  | some ⟨_, .provisioned _⟩ => (s, .result .notPermitted)
  | some ⟨_, .newCreated k⟩ =>
    let new := Entry.alloc s.allocated tag.buffered tag
    let t := s.setKeyType ref (.newCreated { k with tagList := setEntry Tag.id k.tagList new })
    let t := { t with allocated := s.allocated + new.objects.length }
    (t.release ((replacedEntry Tag.id k.tagList new).toList.flatMap Entry.objects), .result .ok)

def setKeyMaxUsesPerBoot (ref : Nat) (value : BitVec 32) : State × Answer :=
  s.setTag ref (.maxUsesPerBoot value)

def setKeyMinSecondsBetweenOps (ref : Nat) (value : BitVec 32) : State × Answer :=
  s.setTag ref (.minSecondsBetweenOps value)

def setKeyAppData (ref : Nat) (data : List UInt8) : State × Answer :=
  if data = [] then (s, .result .badParameter) else s.setTag ref (.applicationData data)

def setKeyActiveDateTime (ref : Nat) (value : BitVec 64) : State × Answer :=
  s.setTag ref (.activeDateTime value)

def setKeyOriginationExpireDateTime (ref : Nat) (value : BitVec 64) : State × Answer :=
  s.setTag ref (.originationExpireDateTime value)

def setKeyUsageExpireDateTime (ref : Nat) (value : BitVec 64) : State × Answer :=
  s.setTag ref (.usageExpireDateTime value)

def setKeyAttribute (ref : Nat) : Tag → State × Answer
  | .maxUsesPerBoot value => s.setKeyMaxUsesPerBoot ref value
  | .minSecondsBetweenOps value => s.setKeyMinSecondsBetweenOps ref value
  | .applicationData data => s.setKeyAppData ref data
  | .activeDateTime value => s.setKeyActiveDateTime ref value
  | .originationExpireDateTime value => s.setKeyOriginationExpireDateTime ref value
  | .usageExpireDateTime value => s.setKeyUsageExpireDateTime ref value

end State

/-- `TagPtrList`, which nothing writes to. -/
def tagPtrList : List (Option Tag) := List.replicate 32 none

/-- What the platform finds in the first entries of an array of pointers. -/
def passed {α : Type} (ptrList : List (Option α)) (count : Nat) : List α :=
  (ptrList.take count).filterMap fun ptr => ptr

/-- The key size and the padding, digest or mode are in their ranges. -/
def KeyKind.allows (L : Limits) (keySize variety : Nat) : KeyKind → Bool
  | .rsaEnc => keySize < L.rsaSizeMax && variety < L.rsaEncPadMax
  | .rsaSig => keySize < L.rsaSizeMax && variety < L.rsaSigPadMax
  | .ecdsa => keySize < L.eccSizeMax && variety < L.digestMax
  | .aes => keySize < L.aesSizeMax && variety < L.aesModeMax
  | .hmac => L.minHmacKeySize ≤ keySize && keySize ≤ L.maxHmacKeySize && variety < L.digestMax

/-- What the client passes to provision a key and how the platform answers. -/
structure Provisioning where
  keySize : Nat
  variety : Nat
  impData : List UInt8
  generated : Result
  keyFileRef : Option Nat

namespace State

variable (L : Limits) (s : State) (c ref : Nat)

/-- What the five provisioning functions do with keys of their kinds. -/
def provision (kind : KeyKind) (p : Provisioning) : State × Answer :=
  if ¬ kind.allows L p.keySize p.variety then (s, .result .badParameter)
  else
    match s.keys.lookup ref with
    | none => (s, .result .notFound)
    | some ⟨_, .provisioned _⟩ => (s, .result .notPermitted)
    | some ⟨_, .newCreated k⟩ =>
      if k.clientSessionRef ≠ c ∨ k.keyUsage.kind ≠ kind then (s, .result .notPermitted)
      else
        let s := s.use c k.clientSessionRef (.generate ref
          { kind := kind, keyId := k.keyId, keySize := p.keySize, purpose := k.keyUsage.purpose,
            variety := p.variety, tags := passed tagPtrList 0, impData := p.impData })
        if p.generated = .ok then
          let s := s.setKeyType ref (.provisioned ⟨p.keyFileRef, [], []⟩)
          (s.release (k.tagList.flatMap Entry.objects), .result .ok)
        else (s, .result p.generated)

def provisionRsaEncKeyValue (p : Provisioning) : State × Answer := s.provision L c ref .rsaEnc p

def provisionRsaSigKeyValue (p : Provisioning) : State × Answer := s.provision L c ref .rsaSig p

def provisionEcdsaKeyValue (p : Provisioning) : State × Answer := s.provision L c ref .ecdsa p

def provisionAesKeyValue (p : Provisioning) : State × Answer := s.provision L c ref .aes p

def provisionHmacKeyValue (p : Provisioning) : State × Answer := s.provision L c ref .hmac p

def provisionKeyValue (p : Provisioning) : KeyKind → State × Answer
  | .rsaEnc => s.provisionRsaEncKeyValue L c ref p
  | .rsaSig => s.provisionRsaSigKeyValue L c ref p
  | .ecdsa => s.provisionEcdsaKeyValue L c ref p
  | .aes => s.provisionAesKeyValue L c ref p
  | .hmac => s.provisionHmacKeyValue L c ref p

/-! ## Shared keys -/

/-- What the platform answers about a provisioned key. -/
def provisionedAnswer (allowed : ProKey → Bool) (answer : Result) : Result :=
  match s.keys.lookup ref with
  | none => .notFound
  | some ⟨_, .newCreated _⟩ => .notPermitted
  | some ⟨_, .provisioned p⟩ => if allowed p then answer else .notPermitted

def exportKey (answer : Result) : Result := s.provisionedAnswer ref (fun _ => true) answer

def shareKey (myAppName : Option Name) (appName : Name) (answer : Result) : Result :=
  if myAppName = none ∨ myAppName = some appName then .fault
  else s.provisionedAnswer ref (fun _ => true) answer

def cancelKeySharing (answer : Result) : Result :=
  s.provisionedAnswer ref (fun p => !s.hasRunningCryptoSession p) answer

/-- The objects for the apps whose names have an allowed length. -/
def sharedApps (first : Nat) (apps : List SharedAppInfo) : List SharedApp :=
  let named := (apps.take 12).filter fun a => a.appName ≠ [] &&
    a.appName.length ≤ L.maxAppNameSize
  named.zipIdx.map fun e => ⟨first + e.2, e.1⟩

/-- The client's list of a key is replaced; a list without apps is given back at once. -/
def updateAppListForClient (p : ProKey) (apps : List SharedAppInfo) : State :=
  let old := p.sharedAppList.find? fun l => l.clientSessionRef = c
  let rest := p.sharedAppList.eraseP fun l => l.clientSessionRef = c
  let new : SharedAppList := ⟨s.allocated, c, sharedApps L (s.allocated + 1) apps, 0⟩
  let t := { s with allocated := s.allocated + 1 + new.appList.length }
  let t := t.release (old.toList.flatMap SharedAppList.objects)
  if new.appList = [] then
    (t.setKeyType ref (.provisioned { p with sharedAppList := rest })).release new.objects
  else t.setKeyType ref (.provisioned { p with sharedAppList := rest ++ [new] })

/-- `answer`, `apps`: what the platform knows of the sharing of the key. -/
def getFirstSharedApp (answer : Result) (apps : List SharedAppInfo) : State × Answer :=
  match s.keys.lookup ref with
  | none => (s, .result .notFound)
  | some ⟨_, .newCreated _⟩ => (s, .result .notPermitted)
  | some ⟨_, .provisioned p⟩ =>
    if answer ≠ .ok then (s, .result .notFound)
    else
      match sharedApps L (s.allocated + 1) apps with
      | [] => (s.updateAppListForClient L c ref p apps, .result .notFound)
      | app :: _ => (s.updateAppListForClient L c ref p apps, .sharedApp app.appInfo)

end State

/-- Change the first element with a property. -/
def updateFirst {α : Type} (p : α → Bool) (f : α → α) : List α → List α
  | [] => []
  | a :: rest => if p a then f a :: rest else a :: updateFirst p f rest

namespace State

variable (s : State) (c ref : Nat)

def getNextSharedApp : State × Answer :=
  match s.keys.lookup ref with
  | none => (s, .result .notFound)
  | some ⟨_, .newCreated _⟩ => (s, .result .notPermitted)
  | some ⟨_, .provisioned p⟩ =>
    match p.sharedAppList.find? fun l => l.clientSessionRef = c with
    | none => (s, .result .notFound)
    | some l =>
      match l.appList[l.currPtr + 1]? with
      | some app =>
        (s.setKeyType ref (.provisioned { p with
          sharedAppList := updateFirst (fun l => l.clientSessionRef = c)
            (fun l => { l with currPtr := l.currPtr + 1 }) p.sharedAppList }), .sharedApp app.appInfo)
      | none =>
        ((s.setKeyType ref (.provisioned { p with
          sharedAppList := p.sharedAppList.eraseP fun l => l.clientSessionRef = c })).release
            l.objects, .result .notFound)

/-! ## Crypto sessions -/

def cryptoSessionCreate : State × Answer :=
  match s.keys.lookup ref with
  | none => (s, .result .notFound)
  | some ⟨_, .newCreated _⟩ => (s, .result .notPermitted)
  | some ⟨_, .provisioned p⟩ =>
    let r := s.cryptoSessions.next
    let t := s.setKeyType ref (.provisioned { p with
      cryptoSessionList := p.cryptoSessionList ++ [r] })
    ({ t with
      cryptoSessions := s.cryptoSessions.create ⟨s.allocated, 0, false, [], c, ref⟩
      allocated := s.allocated + 1 }, .session r)

variable (r : Nat)

/-- The session, if it is the caller's and one of a provisioned key, with the key. -/
def sessionFor : Except Result (CryptoSession × ProKey) :=
  match s.cryptoSessions.lookup r with
  | none => .error .notFound
  | some x =>
    match s.keys.lookup x.keyRef with
    | none => .error .notFound
    | some ⟨_, .newCreated _⟩ => .error .notPermitted
    | some ⟨_, .provisioned p⟩ =>
      if x.clientSessionRef ≠ c then .error .notPermitted else .ok (x, p)

/-- The session as in `sessionFor`, if it is started. -/
def startedSessionFor : Except Result CryptoSession :=
  (s.sessionFor c r).bind fun (x, _) => if x.started then .ok x else .error .notPermitted

/-- What the three setters do with their parameters. -/
def setParam (param : Param) : State × Answer :=
  match s.sessionFor c r with
  | .error e => (s, .result e)
  | .ok (x, _) =>
    let new := Entry.alloc s.allocated param.buffered param
    let t := s.setSession r { x with paramList := setEntry Param.id x.paramList new }
    let t := { t with allocated := s.allocated + new.objects.length }
    (t.release ((replacedEntry Param.id x.paramList new).toList.flatMap Entry.objects), .result .ok)

def cryptoSessionSetAesNonce (data : List UInt8) : State × Answer :=
  if data.length ≠ 12 ∧ data.length ≠ 16 then (s, .result .badParameter)
  else s.setParam c r (.nonce data)

def cryptoSessionSetRsaPadding (paddingType : RsaPaddingType) : State × Answer :=
  if paddingType = .other then (s, .result .badParameter)
  else s.setParam c r (.rsaPaddingType paddingType)

def cryptoSessionSetAppData (data : List UInt8) : State × Answer :=
  if data = [] then (s, .result .badParameter) else s.setParam c r (.applicationData data)

def setSessionParam : Param → State × Answer
  | .nonce data => s.cryptoSessionSetAesNonce c r data
  | .applicationData data => s.cryptoSessionSetAppData c r data
  | .rsaPaddingType paddingType => s.cryptoSessionSetRsaPadding c r paddingType

/-- `answer` and `handle` come from the platform. A session that cannot be started is removed. -/
def cryptoSessionStart (L : Limits) (cryptoPurpose : Nat) (answer : Result) (handle : Nat) :
    Option (State × Answer) :=
  if L.cryptoMax ≤ cryptoPurpose then some (s, .result .badParameter)
  else
    match s.sessionFor c r with
    | .error e => some (s, .result e)
    | .ok (x, p) =>
      if x.started then some (s, .result .duplicate)
      else
        let params := (x.paramList.take 32).map Entry.value
        let t := s.use c x.clientSessionRef (.start r p.keyFileRef cryptoPurpose params)
        if answer = .ok then
          let t := t.setSession r { x with started := true, handle := handle, paramList := [] }
          some (t.release (x.paramList.flatMap Entry.objects), .result .ok)
        else (t.dropSession c x.keyRef r).map fun t => (t, .result answer)

def endSession (x : CryptoSession) (answer : Result) : Option (State × Answer) :=
  ((s.setSession r { x with started := false, handle := 0 }).dropSession c x.keyRef r).map fun t =>
    (t, .result answer)

/-- The two functions that process data: the session is removed when the platform fails. -/
def processData (request : Nat → Nat → List UInt8 → Request) (input : List UInt8)
    (answer : Result) : Option (State × Answer) :=
  if input = [] then some (s, .result .badParameter)
  else
    match s.startedSessionFor c r with
    | .error e => some (s, .result e)
    | .ok x =>
      let t := s.use c x.clientSessionRef (request r x.handle input)
      if answer = .ok then some (t, .result answer) else t.endSession c r x answer

def cryptoSessionProcessAead (input : List UInt8) (answer : Result) : Option (State × Answer) :=
  s.processData c r .processAead input answer

def cryptoSessionProcess (input : List UInt8) (answer : Result) : Option (State × Answer) :=
  s.processData c r .process input answer

def cryptoSessionEnd (input : List UInt8) (answer : Result) : Option (State × Answer) :=
  match s.startedSessionFor c r with
  | .error e => some (s, .result e)
  | .ok x => (s.use c x.clientSessionRef (.finish r x.handle input)).endSession c r x answer

def cryptoSessionAbort (answer : Result) : Option (State × Answer) :=
  match s.startedSessionFor c r with
  | .error e => some (s, .result e)
  | .ok x => (s.use c x.clientSessionRef (.abort r x.handle)).endSession c r x answer

/-! ## Disconnected clients -/

end State

def Key.isNewOf (c : Nat) (k : Key) : Bool :=
  match k.keyType with
  | .newCreated k => k.clientSessionRef = c
  | .provisioned _ => false

/-- The first list of the client, if the key is provisioned. -/
def KeyType.appListFor (c : Nat) : KeyType → Option SharedAppList
  | .newCreated _ => none
  | .provisioned p => p.sharedAppList.find? fun l => l.clientSessionRef = c

def KeyType.removeAppListFor (c : Nat) : KeyType → KeyType
  | .newCreated k => .newCreated k
  | .provisioned p =>
    .provisioned { p with sharedAppList := p.sharedAppList.eraseP fun l => l.clientSessionRef = c }

namespace State

variable (s : State) (c : Nat)

def removeNewKeysForClient : State :=
  { s with keys := s.keys.filterRefs fun _ k => !k.isNewOf c }.release
    ((s.keys.values.filter (Key.isNewOf c)).flatMap Key.objects)

def sessionRefsOf : List Nat :=
  (s.cryptoSessions.entries.filter fun e => e.2.clientSessionRef = c).map Prod.fst

/-- A session that the loop comes to; without its key there is no list to take it from. -/
def removeSessionOfClient (r : Nat) : Option State :=
  (s.cryptoSessions.lookup r).bind fun x => s.dropSession c x.keyRef r

def removeCryptoSessionsForClient : Option State :=
  exec (fun s r => s.removeSessionOfClient c r) s (s.sessionRefsOf c)

def removeAppListsForClient : State :=
  { s with
    keys := s.keys.mapRefs fun _ k => { k with keyType := k.keyType.removeAppListFor c } }.release
    (s.keys.values.flatMap fun k : Key =>
      (k.keyType.appListFor c).toList.flatMap SharedAppList.objects)

/-- The three handlers in the order in which they are registered. -/
def sessionClosed : Option State :=
  ((s.removeNewKeysForClient c).removeCryptoSessionsForClient c).map fun t =>
    t.removeAppListsForClient c

end State

/-! ## Runs -/

inductive Call where
  | createKey (appName : Option Name) (keyId : Name) (keyUsage : Option KeyUsage) (found : Result)
      (keyFileRef : Option Nat)
  | getKey (appName : Option Name) (keyName : Name) (found : Result) (keyFileRef : Option Nat)
  | deleteKey (ref : Nat) (deleted : Result)
  | getKeyUsage (ref : Nat) (answer : Result) (paKeyUsage : KeyUsage)
  | setKeyAttribute (ref : Nat) (tag : Tag)
  | provision (ref : Nat) (kind : KeyKind) (p : Provisioning)
  | exportKey (ref : Nat) (answer : Result)
  | shareKey (ref : Nat) (myAppName : Option Name) (appName : Name) (answer : Result)
  | cancelKeySharing (ref : Nat) (answer : Result)
  | getFirstSharedApp (ref : Nat) (answer : Result) (apps : List SharedAppInfo)
  | getNextSharedApp (ref : Nat)
  | cryptoSessionCreate (ref : Nat)
  | setSessionParam (r : Nat) (param : Param)
  | cryptoSessionStart (r cryptoPurpose : Nat) (answer : Result) (handle : Nat)
  | cryptoSessionProcessAead (r : Nat) (input : List UInt8) (answer : Result)
  | cryptoSessionProcess (r : Nat) (input : List UInt8) (answer : Result)
  | cryptoSessionEnd (r : Nat) (input : List UInt8) (answer : Result)
  | cryptoSessionAbort (r : Nat) (answer : Result)

inductive Action where
  | call (c : Nat) (call : Call)
  | keyFile (keyFileRef : Option Nat)
  | closed (c : Nat)

variable (L : Limits)

/-- The state after a call and what it returns; nothing where the service dies. -/
def perform (s : State) (c : Nat) : Call → Option (State × Answer)
  | .createKey appName keyId keyUsage found keyFileRef =>
    s.createKey c appName keyId keyUsage found keyFileRef
  | .getKey appName keyName found keyFileRef => s.getKey L c appName keyName found keyFileRef
  | .deleteKey ref deleted => s.deleteKey c ref deleted
  | .getKeyUsage ref answer paKeyUsage => some (s.getKeyUsage c ref answer paKeyUsage)
  | .setKeyAttribute ref tag => some (s.setKeyAttribute ref tag)
  | .provision ref kind p => some (s.provisionKeyValue L c ref p kind)
  | .exportKey ref answer => some (s, .result (s.exportKey ref answer))
  | .shareKey ref myAppName appName answer =>
    some (s, .result (s.shareKey ref myAppName appName answer))
  | .cancelKeySharing ref answer => some (s, .result (s.cancelKeySharing ref answer))
  | .getFirstSharedApp ref answer apps => some (s.getFirstSharedApp L c ref answer apps)
  | .getNextSharedApp ref => some (s.getNextSharedApp c ref)
  | .cryptoSessionCreate ref => some (s.cryptoSessionCreate c ref)
  | .setSessionParam r param => some (s.setSessionParam c r param)
  | .cryptoSessionStart r cryptoPurpose answer handle =>
    s.cryptoSessionStart c r L cryptoPurpose answer handle
  | .cryptoSessionProcessAead r input answer => s.cryptoSessionProcessAead c r input answer
  | .cryptoSessionProcess r input answer => s.cryptoSessionProcess c r input answer
  | .cryptoSessionEnd r input answer => s.cryptoSessionEnd c r input answer
  | .cryptoSessionAbort r answer => s.cryptoSessionAbort c r answer

def step (s : State) : Action → Option State
  | .call c call => (perform L s c call).map Prod.fst
  | .keyFile keyFileRef => some (s.keyCreationPAHandler keyFileRef)
  | .closed c => s.sessionClosed c

end TelAF.KeyStore
