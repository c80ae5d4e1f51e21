import TelAF.KeyStore

/-!
# Encrypted storage

The service gives apps directories that the kernel encrypts. The platform keeps a key file for each
directory; the key itself is put into the keyring of the kernel to unlock the directory and taken
out of it to lock the directory. A client holds a storage object for a directory it asked for.
-/

namespace TelAF.FsCrypt

open TransitionRuns KeyStore Function

def fsKeyDescriptorSize : Nat := 8

/-- `snprintf(…, "%02x", b)`. -/
def hexByte (b : UInt8) : List Char := [Nat.digitChar (b.toNat / 16), Nat.digitChar (b.toNat % 16)]

def keyDescriptorToHex (bytes : List UInt8) : List Char :=
  (bytes.take fsKeyDescriptorSize).flatMap hexByte

def computeDescriptor (sha512 : List UInt8 → List UInt8) (key : List UInt8) : List Char :=
  keyDescriptorToHex (sha512 (sha512 key))

/-- The kernel is given the first bytes of a descriptor. -/
def keySpecifier (descriptor : List Char) : List Char := descriptor.take fsKeyDescriptorSize

structure Policy where
  masterKeyDescriptor : List Char
  /-- The key file of the key that the policy was set with. -/
  keyFile : Option Nat

/-- A directory that is missing is `none`, one without a policy is `some none`. A directory below an
encrypted one has the policy of that one and none of its own. -/
structure Device where
  dirs : Name → Option (Option Policy)
  /-- The directories that the key files are for. -/
  keyFiles : Nat → Option Name
  keyring : List Char → Bool

/-- `taf_fsc_Storage_t`, without its own reference. -/
structure Storage where
  keyFileRef : Option Nat
  clientSessionRef : Option Nat
  dirpath : Name
  descriptor : List Char
  keyIsAddedToKernel : Bool

/-- A key with the client and the directory it is for. -/
structure Provision where
  client : Nat
  dirpath : Name
  key : List UInt8

structure State where
  storages : RefMap Storage
  device : Device
  /-- The keys that the platform returned with success in this step. -/
  provided : List Provision
  /-- The keys that were added to the keyring in this step. -/
  added : List Provision

/-- What a key function of the platform leaves: its result, which `ConvertPaToLeRet` maps value by
value, and the contents of its output arguments. -/
structure KeyReply where
  result : Result
  keyFileRef : Option Nat
  key : List UInt8

/-- The replies to one call of a client: for each operation whether it is performed. -/
structure Replies where
  stat : Bool
  getKey : KeyReply
  isDirectoryEmpty : Bool
  getPolicy : Bool
  makePath : Bool
  generateAesKey : KeyReply
  addKey : Bool
  setPolicy : Bool
  removeKey : Bool
  removeRecursive : Result
  deleteKey : Result

namespace Device

variable (d : Device)

def isDir (dirPath : Name) (stat : Bool) : Bool := stat && (d.dirs dirPath).isSome

def makePath (dirPath : Name) : Device :=
  { d with dirs := Function.update d.dirs dirPath (some ((d.dirs dirPath).getD none)) }

/-- `le_dir_RemoveRecursive` where it succeeds. -/
def removeRecursive (dirPath : Name) : Device :=
  { d with dirs := Function.update d.dirs dirPath none }

@[simp] theorem dirs_removeRecursive_self (dirPath : Name) :
    (d.removeRecursive dirPath).dirs dirPath = none := update_self ..

theorem dirs_removeRecursive_of_ne {path dirPath : Name} (h : path ≠ dirPath) :
    (d.removeRecursive dirPath).dirs path = d.dirs path := update_of_ne h ..

def ioControlGetPolicy (dirPath : Name) (performed : Bool) : Result :=
  match performed, d.dirs dirPath with
  | true, some (some _) => .ok
  | true, some none => .unavailable
  | _, _ => .fault

/-- A directory keeps the policy it has; setting another one fails with `EEXIST`. -/
def ioControlSetPolicy (descriptor : List Char) (keyFile : Option Nat) (dirPath : Name)
    (performed : Bool) : Result × Device :=
  match performed, d.dirs dirPath with
  | true, some none =>
    (.ok, { d with
      dirs := Function.update d.dirs dirPath (some (some ⟨keySpecifier descriptor, keyFile⟩)) })
  | true, some (some policy) =>
    (if policy.masterKeyDescriptor = keySpecifier descriptor then .ok else .duplicate, d)
  | _, _ => (.fault, d)

def deleteKey (keyFileRef : Option Nat) (result : Result) : Device :=
  match keyFileRef, result with
  | some r, .ok => { d with keyFiles := Function.update d.keyFiles r none }
  | _, _ => d

/-- The key file is the one of a directory that carries a policy set with it. -/
def guards (r : Nat) : Bool :=
  match d.keyFiles r with
  | none => false
  | some path =>
    match d.dirs path with
    | some (some policy) => decide (policy.keyFile = some r)
    | _ => false

end Device

namespace State

variable (sha512 : List UInt8 → List UInt8) (s : State) (client : Nat) (r : Replies)

def provide (dirPath : Name) (reply : KeyReply) : State :=
  match reply.result with
  | .ok => { s with provided := ⟨client, dirPath, reply.key⟩ :: s.provided }
  | _ => s

def getKey (dirPath : Name) : State := s.provide client dirPath r.getKey

/-- `taf_pa_fsc_GenerateAesKey` creates a key file. -/
def generateAesKey (dirPath : Name) : State :=
  match r.generateAesKey.result, r.generateAesKey.keyFileRef with
  | .ok, some ref =>
    { s.provide client dirPath r.generateAesKey with
      device := { s.device with keyFiles := Function.update s.device.keyFiles ref (some dirPath) } }
  | _, _ => s.provide client dirPath r.generateAesKey

/-- The directory can be opened, and the kernel takes the key. -/
def canAddKey (dirPath : Name) : Bool := (s.device.dirs dirPath).isSome && r.addKey

def ioControlAddKey (key : List UInt8) (descriptor : List Char) (dirPath : Name) : Result × State :=
  if s.canAddKey r dirPath then
    (.ok, { s with
      device := { s.device with
        keyring := Function.update s.device.keyring (keySpecifier descriptor) true }
      added := ⟨client, dirPath, key⟩ :: s.added })
  else (.fault, s)

/-- The directory can be opened, and the kernel removes the key. -/
def canRemoveKey (dirPath : Name) : Bool := (s.device.dirs dirPath).isSome && r.removeKey

def ioControlRemoveKey (descriptor : List Char) (dirPath : Name) : Result × State :=
  if s.canRemoveKey r dirPath then
    (.ok, { s with
      device := { s.device with
        keyring := Function.update s.device.keyring (keySpecifier descriptor) false } })
  else (.fault, s)

def withDevice (device : Device) : State := { s with device := device }

def setFlag (ref : Nat) (flag : Bool) : State :=
  { s with storages := s.storages.modify ref fun p => { p with keyIsAddedToKernel := flag } }

def lockStorage (ref : Option Nat) : Result × State :=
  match ref with
  | none => (.badParameter, s)
  | some ref =>
    match s.storages.lookup ref with
    | none => (.fault, s)
    | some storage =>
      if storage.keyIsAddedToKernel then
        match s.ioControlRemoveKey r storage.descriptor storage.dirpath with
        | (.ok, s) => (.ok, s.setFlag ref false)
        | (res, s) => (res, s)
      else (.ok, s.setFlag ref false)

/-- The result of the platform is overwritten. -/
def unlockStorage (ref : Option Nat) : Result × State :=
  match ref with
  | none => (.badParameter, s)
  | some ref =>
    match s.storages.lookup ref with
    | none => (.fault, s)
    | some storage =>
      let s := s.getKey client r storage.dirpath
      if r.getKey.keyFileRef ≠ storage.keyFileRef then (.fault, s)
      else
        match s.ioControlAddKey client r r.getKey.key storage.descriptor storage.dirpath with
        | (.ok, s) => (.ok, s.setFlag ref true)
        | (res, s) => (res, s)

/-- The second half of `taf_fsc_DeleteStorage`: the key is not in the keyring. -/
def deleteLocked (ref : Nat) (storage : Storage) : Result × State :=
  let s := s.setFlag ref false
  match r.removeRecursive with
  | .ok =>
    let s := s.withDevice (s.device.removeRecursive storage.dirpath)
    let s := s.withDevice (s.device.deleteKey storage.keyFileRef r.deleteKey)
    match r.deleteKey with
    | .ok => (.ok, { s with storages := s.storages.erase ref })
    | res => (res, s)
  | res => (res, s)

def deleteStorage (ref : Option Nat) : Result × State :=
  match ref with
  | none => (.badParameter, s)
  | some ref =>
    match s.storages.lookup ref with
    | none => (.fault, s)
    | some storage =>
      if storage.keyIsAddedToKernel then
        match s.ioControlRemoveKey r storage.descriptor storage.dirpath with
        | (.ok, s) => s.deleteLocked r ref storage
        | (res, s) => (res, s)
      else s.deleteLocked r ref storage

/-- The object of a closed session for the same storage. -/
def isClosed (keyFileRef : Option Nat) (dirPath : Name) (descriptor : List Char)
    (p : Storage) : Bool :=
  p.keyFileRef = keyFileRef && p.dirpath = dirPath && p.descriptor = descriptor &&
    p.clientSessionRef.isNone

/-- `FindAppStorageRef`, or a new object. -/
def takeStorage (keyFileRef : Option Nat) (dirPath : Name) (descriptor : List Char) : Nat × State :=
  match s.storages.search (isClosed keyFileRef dirPath descriptor) with
  | some ref =>
    (ref, { s with storages := s.storages.modify ref fun p =>
      { p with clientSessionRef := some client, keyIsAddedToKernel := true } })
  | none =>
    (s.storages.next, { s with
      storages := s.storages.create ⟨keyFileRef, some client, dirPath, descriptor, true⟩ })

/-- The label `exception`. -/
def exception (storageAlreadyExist : Bool) (keyFileRef : Option Nat) (result : Result) :
    (Result × Option Nat) × State :=
  ((result, none),
    if storageAlreadyExist then s
    else s.withDevice (s.device.deleteKey keyFileRef r.deleteKey))

/-- `taf_fsc_GetStorageRef` from where it has a key. -/
def useKey (dirPath : Name) (reply : KeyReply) (storageAlreadyExist : Bool) :
    (Result × Option Nat) × State :=
  let descriptor := computeDescriptor sha512 reply.key
  match s.ioControlAddKey client r reply.key descriptor dirPath with
  | (.ok, s) =>
    if storageAlreadyExist then
      let (ref, s) := s.takeStorage client reply.keyFileRef dirPath descriptor
      ((.ok, some ref), s)
    else
      match s.device.ioControlSetPolicy descriptor reply.keyFileRef dirPath r.setPolicy with
      | (.ok, device) =>
        let (ref, s) := (s.withDevice device).takeStorage client reply.keyFileRef dirPath descriptor
        ((.ok, some ref), s)
      | (res, device) => (s.withDevice device).exception r storageAlreadyExist reply.keyFileRef res
  | (res, s) => s.exception r storageAlreadyExist reply.keyFileRef res

/-- `taf_fsc_GetStorageRef` from where a new key is needed. -/
def useNewKey (dirPath : Name) : (Result × Option Nat) × State :=
  let s := s.generateAesKey client r dirPath
  match r.generateAesKey.result with
  | .ok => s.useKey sha512 client r dirPath r.generateAesKey false
  | res => s.exception r false r.generateAesKey.keyFileRef res

def getStorageRef (dirPath : Name) : (Result × Option Nat) × State :=
  if s.device.isDir dirPath r.stat then
    let s := s.getKey client r dirPath
    match r.getKey.result with
    | .notFound =>
      if r.isDirectoryEmpty = false then s.exception r false r.getKey.keyFileRef .notPermitted
      else if s.device.ioControlGetPolicy dirPath r.getPolicy = .ok then
        s.exception r false r.getKey.keyFileRef .notPermitted
      else s.useNewKey sha512 client r dirPath
    | .ok =>
      match s.device.ioControlGetPolicy dirPath r.getPolicy with
      | .ok => s.useKey sha512 client r dirPath r.getKey true
      | .unavailable =>
        if r.isDirectoryEmpty then s.useKey sha512 client r dirPath r.getKey false
        else ((.notPermitted, none), s)
      | _ => ((.fault, none), s)
    | res => s.exception r false r.getKey.keyFileRef res
  else if r.makePath then
    (s.withDevice (s.device.makePath dirPath)).useNewKey sha512 client r dirPath
  else ((.fault, none), s)

def removeSessionFromStorage (session : Nat) : State :=
  { s with storages := s.storages.mapRefs fun _ p =>
      if p.keyFileRef ≠ none ∧ p.clientSessionRef = some session then
        { p with clientSessionRef := none }
      else p }

end State

inductive Event where
  | getStorageRef (client : Nat) (dirPath : Name) (r : Replies)
  | lockStorage (ref : Option Nat) (r : Replies)
  | unlockStorage (client : Nat) (ref : Option Nat) (r : Replies)
  | deleteStorage (ref : Option Nat) (r : Replies)
  | sessionClosed (session : Nat)
  /-- Another program removes a directory, or makes one without a policy. -/
  | otherProgram (dirPath : Name) (present : Bool)

namespace State

variable (sha512 : List UInt8 → List UInt8) (s : State)

def begin : State := { s with provided := [], added := [] }

def handle : Event → State
  | .getStorageRef client dirPath r => (s.getStorageRef sha512 client r dirPath).2
  | .lockStorage ref r => (s.lockStorage r ref).2
  | .unlockStorage client ref r => (s.unlockStorage client r ref).2
  | .deleteStorage ref r => (s.deleteStorage r ref).2
  | .sessionClosed session => s.removeSessionFromStorage session
  | .otherProgram dirPath present =>
    s.withDevice { s.device with
      dirs := Function.update s.device.dirs dirPath (if present then some none else none) }

def step (e : Event) : State := s.begin.handle sha512 e

def boot (device : Device) : State := ⟨.empty, device, [], []⟩

end State

end TelAF.FsCrypt
