import Mathlib.Data.UInt

/-!
# Configuration of RPC proxies

Every system loads the same JSON file and takes from it its own link, the links of the remote
systems, the services it offers and the services it requests. Ids, ports and event ids are
not in the file: they follow from positions in its arrays and from two base values. The
library that reads the file is outside, and so is the routing manager that knows the client
id of the system. The pools hold as many objects as the arrays may have entries, so that no
allocation fails.
-/

namespace TelAF.RpcConfig

/-- The values of `le_result_t` that occur; `fatal` ends the process. -/
inductive Result where
  | fault
  | badParameter
  | duplicate
  | overflow
  | notFound
  | notPermitted
  | fatal
deriving DecidableEq

/-- What the file has to say. Numbers, booleans and null are all refused or ignored alike. -/
inductive Json where
  | other
  | string (s : String)
  | array (items : List Json)
  | object (fields : List (String × Json))

namespace Json

/-- `json_object_get`; of several fields with one key the last one stays. -/
def objectGet (js : Json) (key : String) : Option Json :=
  match js with
  | .object fields => fields.reverse.lookup key
  | _ => none

def stringValue : Json → Option String
  | .string s => some s
  | _ => none

def arrayItems : Json → Option (List Json)
  | .array items => some items
  | _ => none

end Json

/-- The limits of the framework and the width of `unsigned long`. -/
structure Limits where
  systemNameLen : Nat
  userNameLen : Nat
  ipcInterfaceNameBytes : Nat
  protocolIdBytes : Nat
  ulongBits : Nat

def rpcMaxSystems : Nat := 4

def rpcMaxServices : Nat := 32

def defaultServiceVer : String := "ANY_VERSION"

def rpcEventIdBase : Nat := 0x8001

/-- The value of a 16-bit variable after the assignment of `n`. -/
def uint16 (n : Nat) : Nat := n % 65536

def isSpace (c : Char) : Bool := c.toNat == 32 || (9 ≤ c.toNat && c.toNat ≤ 13)

def digitValue (base : Nat) (c : Char) : Option Nat :=
  let value :=
    if '0' ≤ c ∧ c ≤ '9' then some (c.toNat - 48)
    else if 'a' ≤ c ∧ c ≤ 'f' then some (c.toNat - 87)
    else if 'A' ≤ c ∧ c ≤ 'F' then some (c.toNat - 55)
    else none
  value.filter (· < base)

/-- The value of the leading digits, behind those that make `value`. -/
def leadingDigits (base : Nat) : List Char → Nat → Nat
  | [], value => value
  | c :: rest, value =>
    match digitValue base c with
    | none => value
    | some digit => leadingDigits base rest (value * base + digit)

/-- The marker `0x` counts for nothing, also when no digit follows. -/
def dropMarker : List Char → List Char
  | '0' :: 'x' :: rest => rest
  | '0' :: 'X' :: rest => rest
  | cs => cs

/-- A value that does not fit is the largest one, and a sign is taken modulo the width. -/
def unsignedLong (bits : Nat) (negative : Bool) (value : Nat) : Nat :=
  if 2 ^ bits ≤ value then 2 ^ bits - 1
  else if negative then (2 ^ bits - value) % 2 ^ bits
  else value

def strtoul (bits base : Nat) (s : String) : Nat :=
  let digits (cs : List Char) := leadingDigits base (if base = 16 then dropMarker cs else cs) 0
  match s.toList.dropWhile isSpace with
  | '-' :: rest => unsignedLong bits true (digits rest)
  | '+' :: rest => unsignedLong bits false (digits rest)
  | cs => unsignedLong bits false (digits cs)

/-- `sscanf(idStr, "%lx", &idValue)` where `idValue` is 0 before. -/
def scanHex (bits : Nat) (idStr : String) : Nat := strtoul bits 16 idStr

def require (c : Prop) [Decidable c] (error : Result) : Except Result Unit :=
  if c then .ok () else .error error

/-- A caller that returns an error of its own whatever the callee said. -/
def failWith {α : Type} (error : Result) : Except Result α → Except Result α
  | .ok a => .ok a
  | .error _ => .error error

def orFault {α : Type} : Option α → Except Result α
  | some a => .ok a
  | none => .error .fault

/-- A field that may be missing, but is a string where it is there. -/
def optionalString : Option Json → Except Result (Option String)
  | none => .ok none
  | some js => (orFault js.stringValue).map some

def strlen (s : String) : Nat := s.utf8ByteSize

def isValidSystemNameString (str : String) : Bool :=
  str.toList.all fun c => c.isAlphanum || c == '_'

section Validation

variable (limits : Limits)

def validateSystemLinkInfo (idStr nameStr : String) : Except Result Nat := do
  let idValue := scanHex limits.ulongBits idStr
  require (1 ≤ idValue ∧ idValue ≤ 65535) .overflow
  require (strlen nameStr ≤ limits.systemNameLen) .overflow
  require (isValidSystemNameString nameStr) .fault
  pure (uint16 idValue)

/-- The base leaves room for the largest number of services below `0xFF00`. -/
def validateBaseServiceId (idStr : String) : Except Result Nat := do
  let value := scanHex limits.ulongBits idStr
  require (value ≤ 0xFF00 - rpcMaxServices ∧ 0x0001 ≤ value) .overflow
  pure (uint16 value)

def validateBasePortNumber (numStr : String) : Except Result Nat := do
  let num := strtoul limits.ulongBits 10 numStr % 2 ^ 32
  require (1024 ≤ num ∧ num ≤ 65535) .overflow
  pure (uint16 num)

def validateResponseTimeout (secStr : String) : Except Result Nat := do
  let secs := strtoul limits.ulongBits 10 secStr % 2 ^ 32
  require (1 ≤ secs ∧ secs ≤ 300) .overflow
  pure (uint16 secs)

/-- User and name of the services that no system may offer to another one. -/
def banedServiceList : List (String × String) :=
  [("root", "sdirTool"), ("root", "logFd"), ("root", "logDaemonWdog"), ("root", "LogClient"),
    ("root", "LogControl"), ("root", "le_cfg"), ("root", "le_cfgAdmin"),
    ("root", "configTreeWdog"), ("root", "le_update"), ("root", "le_appRemove"),
    ("root", "le_instStat"), ("root", "le_updateCtrl"), ("root", "updateDaemonWdog"),
    ("root", "DeviceManager"), ("root", "DeviceManagerTool"), ("root", "le_appCtrl"),
    ("root", "le_framework"), ("root", "wdog"), ("root", "supervisorWdog"),
    ("root", "le_appInfo"), ("root", "le_appProc"), ("root", "le_ima"),
    ("root", "le_kernelModule"), ("root", "le_wdog"), ("telaf", "taf_someipSvr"),
    ("telaf", "taf_someipClnt"), ("telaf", "taf_ks"), ("telaf", "taf_fsc")]

def validateServiceLinkInfo (nameStr userStr versionStr : String) : Except Result Unit := do
  require (strlen nameStr ≤ limits.ipcInterfaceNameBytes - 1) .overflow
  require (strlen userStr ≤ limits.userNameLen) .overflow
  require (strlen versionStr ≤ limits.protocolIdBytes - 1) .overflow
  require ((userStr, nameStr) ∉ banedServiceList) .notPermitted

def isReliableType : Option String → Except Result Bool
  | none => .ok true
  | some connectionTypeStr =>
    if connectionTypeStr = "TCP" ∨ connectionTypeStr = "tcp" then .ok true
    else if connectionTypeStr = "UDP" ∨ connectionTypeStr = "udp" then .ok false
    else .error .fault

def validateServiceOptInfo (responseTimeoutSecs : Nat)
    (connectionTypeStr responseTimeoutStr : Option String) : Except Result (Bool × Nat) := do
  let isReliable ← isReliableType connectionTypeStr
  match responseTimeoutStr with
  | none => pure (isReliable, responseTimeoutSecs)
  | some secStr => pure (isReliable, ← validateResponseTimeout limits secStr)

end Validation

structure SystemLink where
  index : Nat
  id : Nat
  name : String
deriving DecidableEq

/-- `ConfigSystemList` with the parts of `MyConfiguration` about systems; `mySystem` is zero
until it is found. -/
structure SystemTable where
  configSystems : List SystemLink
  mySystem : SystemLink
  remoteSystems : List SystemLink
  mySystemFound : Bool
  remoteSystemFound : Bool

namespace SystemTable

def initial : SystemTable := ⟨[], ⟨0, 0, ""⟩, [], false, false⟩

variable (t : SystemTable)

def setMySystemLinkInfo (link : SystemLink) : Except Result SystemTable := do
  require (link.index ≠ 0 ∧ link.id ≠ 0) .badParameter
  require (t.mySystem.id = 0 ∧ t.mySystem.index = 0) .duplicate
  pure { t with mySystem := link }

def setRemoteSystemLinkInfo (link : SystemLink) : Except Result SystemTable := do
  require (link.index ≠ 0 ∧ link.id ≠ 0) .badParameter
  require (t.remoteSystems.length < rpcMaxSystems) .overflow
  pure { t with remoteSystems := t.remoteSystems ++ [link] }

end SystemTable

def isConfigSystemInList (list : List SystemLink) (link : SystemLink) : Bool :=
  list.any fun other => other.index == link.index || other.id == link.id || other.name == link.name

section Systems

variable (limits : Limits)

def systemLink (index : Nat) (js : Json) : Except Result SystemLink := do
  let idStr ← orFault ((js.objectGet "id").bind Json.stringValue)
  let nameStr ← orFault ((js.objectGet "name").bind Json.stringValue)
  let systemId ← failWith .fault (validateSystemLinkInfo limits idStr nameStr)
  pure ⟨uint16 (index + 1), systemId, nameStr⟩

def addSystemLink (mySystemId : Nat) (t : SystemTable) (link : SystemLink) :
    Except Result SystemTable := do
  require (¬ isConfigSystemInList t.configSystems link) .duplicate
  let t := { t with configSystems := t.configSystems ++ [link] }
  if link.id = mySystemId then
    let t ← failWith .fault (t.setMySystemLinkInfo link)
    pure { t with mySystemFound := true }
  else
    let t ← failWith .fault (t.setRemoteSystemLinkInfo link)
    pure { t with remoteSystemFound := true }

def parseSystems (mySystemId : Nat) : Nat → List Json → SystemTable → Except Result SystemTable
  | _, [], t => pure t
  | index, js :: rest, t => do
    let link ← systemLink limits index js
    let t ← addSystemLink mySystemId t link
    parseSystems mySystemId (index + 1) rest t

def parseSystemLinkInfo (mySystemId : Nat) (root : Json) : Except Result SystemTable := do
  let items ← orFault ((root.objectGet "systems").bind Json.arrayItems)
  require (items.length ≤ rpcMaxSystems ∧ items.length ≠ 0) .fault
  let t ← parseSystems limits mySystemId 0 items SystemTable.initial
  require t.mySystemFound .notFound
  require t.remoteSystemFound .notFound
  pure t

end Systems

structure OptInfo where
  baseServiceId : Nat
  basePortNumber : Nat
  responseTimeoutSecs : Nat

/-- A field that is missing or no string leaves the default. -/
def optInfo (validate : String → Except Result Nat) (root : Json) (key : String)
    (default : Nat) : Except Result Nat :=
  match (root.objectGet key).bind Json.stringValue with
  | none => pure default
  | some str => failWith .fault (validate str)

def parseOptInfo (limits : Limits) (root : Json) : Except Result OptInfo := do
  let baseServiceId ← optInfo (validateBaseServiceId limits) root "base_service_id" 0xED00
  let basePortNumber ← optInfo (validateBasePortNumber limits) root "base_port_number" 40000
  let secs ← optInfo (validateResponseTimeout limits) root "response_timeout" 30
  pure ⟨baseServiceId, basePortNumber, secs⟩

structure ServiceLink where
  id : Nat
  user : String
  name : String
  protocolId : String
deriving DecidableEq

structure ConfigService where
  service : ServiceLink
  portNum : Nat
  responseTimeout : Nat
  isReliable : Bool
  offerSystemList : List Nat
deriving DecidableEq

def isConfigServiceInList (list : List ConfigService) (s : ConfigService) : Bool :=
  list.any fun other =>
    other.service.id == s.service.id ||
      (other.service.name == s.service.name && other.service.user == s.service.user) ||
      (other.isReliable == s.isReliable && other.portNum == s.portNum)

section Services

variable (limits : Limits) (systems : List SystemLink) (opt : OptInfo)

/-- The id of the first system that satisfies `p`, 0 if there is none. -/
def findSystemId (p : SystemLink → Bool) : Nat := (systems.find? p).elim 0 SystemLink.id

/-- A string that is no name of a system is read as a number, of which 16 bits count. -/
def validateOfferSystemId (idStr : String) : Except Result Nat := do
  require (strlen idStr ≤ limits.systemNameLen) .overflow
  let systemId := findSystemId systems fun link => link.name == idStr
  if systemId ≠ 0 then
    pure systemId
  else
    let idValue := uint16 (scanHex limits.ulongBits idStr)
    require (findSystemId systems (fun link => link.id == idValue) ≠ 0) .notFound
    pure idValue

def parseOfferSystems : List Json → List Nat → Except Result (List Nat)
  | [], ids => pure ids
  | js :: rest, ids => do
    let idStr ← orFault js.stringValue
    let systemId ← failWith .fault (validateOfferSystemId limits systems idStr)
    require (systemId ∉ ids) .fault
    parseOfferSystems rest (ids ++ [systemId])

/-- The entry without the systems that offer it. -/
def serviceLink (index : Nat) (js : Json) : Except Result ConfigService := do
  let name ← orFault ((js.objectGet "name").bind Json.stringValue)
  let user ← orFault ((js.objectGet "user").bind Json.stringValue)
  let version ← optionalString (js.objectGet "version")
  let connectionType ← optionalString (js.objectGet "connection_type")
  let responseTimeout ← optionalString (js.objectGet "response_timeout")
  let versionStr := version.getD defaultServiceVer
  failWith .fault (validateServiceLinkInfo limits name user versionStr)
  let net ← failWith .fault
    (validateServiceOptInfo limits opt.responseTimeoutSecs connectionType responseTimeout)
  pure {
    service := ⟨uint16 (opt.baseServiceId + index + 1), user, name, versionStr⟩
    portNum := uint16 (opt.basePortNumber + index + 1)
    responseTimeout := net.2
    isReliable := net.1
    offerSystemList := [] }

def parseService (index : Nat) (js : Json) (services : List ConfigService) :
    Except Result ConfigService := do
  let s ← serviceLink limits opt index js
  require (¬ isConfigServiceInList services s) .duplicate
  let items ← orFault ((js.objectGet "offer_systems").bind Json.arrayItems)
  require (items.length ≤ rpcMaxSystems ∧ items.length ≠ 0) .fault
  let ids ← parseOfferSystems limits systems items []
  pure { s with offerSystemList := ids }

def parseServices : Nat → List Json → List ConfigService → Except Result (List ConfigService)
  | _, [], services => pure services
  | index, js :: rest, services => do
    let s ← parseService limits systems opt index js services
    parseServices (index + 1) rest (services ++ [s])

/-- The loop of `ParseServiceLinkInfo` that fills `ConfigServiceList`. -/
def parseServiceLinkInfo (root : Json) : Except Result (List ConfigService) := do
  let items ← orFault ((root.objectGet "rpc_services").bind Json.arrayItems)
  require (items.length ≤ rpcMaxServices ∧ items.length ≠ 0) .fault
  parseServices limits systems opt 0 items []

end Services

/-- `OfferServiceConfigEntry_t`. -/
structure OfferServiceEntry where
  service : ServiceLink
  isReliable : Bool
  number : Nat
  clientSystems : List Nat
deriving DecidableEq

/-- `RequestServiceConfigEntry_t`. -/
structure RequestServiceEntry where
  service : ServiceLink
  isReliable : Bool
  responseTimeout : Nat
  serverSystems : List Nat
deriving DecidableEq

/-- A service that is offered here is for all remote systems. -/
def offerServiceEntry (mySystemId : Nat) (remoteSystems : List SystemLink)
    (s : ConfigService) : Option OfferServiceEntry :=
  if mySystemId ∈ s.offerSystemList then
    some ⟨s.service, s.isReliable, s.portNum, remoteSystems.map SystemLink.id⟩
  else none

def requestServiceEntry (mySystemId : Nat) (s : ConfigService) : Option RequestServiceEntry :=
  let serverSystems := s.offerSystemList.filter (· ≠ mySystemId)
  if serverSystems ≠ [] then
    some ⟨s.service, s.isReliable, s.responseTimeout, serverSystems⟩
  else none

/-- `RpcConfigData_t` with the two lists that it is made from. -/
structure RpcConfigData where
  configSystems : List SystemLink
  configServices : List ConfigService
  mySystem : SystemLink
  remoteSystems : List SystemLink
  offerServices : List OfferServiceEntry
  requestServices : List RequestServiceEntry
deriving DecidableEq

/-- `clientId` is the answer of the routing manager for the name in the configuration. -/
def getVsomeipClientId (clientId : Option String → Option Nat) (routingName : Option String) :
    Except Result Nat :=
  match clientId routingName with
  | some id => .ok (uint16 id)
  | none => .error .fatal

/-- `file` is what the file holds, `none` if it cannot be read as JSON. -/
def parseJsonFile (limits : Limits) (clientId : Option String → Option Nat)
    (file : Option Json) : Except Result RpcConfigData :=
  match file with
  | some root@(.object _) => do
    let routingName := (root.objectGet "routing_name").bind Json.stringValue
    let mySystemId ← getVsomeipClientId clientId routingName
    let t ← failWith .fault (parseSystemLinkInfo limits mySystemId root)
    let opt ← failWith .fault (parseOptInfo limits root)
    let services ← failWith .fault (parseServiceLinkInfo limits t.configSystems opt root)
    pure {
      configSystems := t.configSystems
      configServices := services
      mySystem := t.mySystem
      remoteSystems := t.remoteSystems
      offerServices := services.filterMap (offerServiceEntry t.mySystem.id t.remoteSystems)
      requestServices := services.filterMap (requestServiceEntry t.mySystem.id) }
  | some _ => .error .fault
  | none => .error .notFound

namespace RpcConfigData

variable (c : RpcConfigData)

/-- The event of the node that a client proxy has for the remote system. -/
def nodeEventId (systemId : Nat) : Option Nat :=
  (c.remoteSystems.find? fun link => link.id == systemId).map fun link =>
    uint16 (rpcEventIdBase + link.index)

/-- The event that the server proxies of this system subscribe. -/
def sysEventId : Nat := uint16 (rpcEventIdBase + c.mySystem.index)

end RpcConfigData

end TelAF.RpcConfig
