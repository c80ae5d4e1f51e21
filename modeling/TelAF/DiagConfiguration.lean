import Mathlib.Data.List.Basic
import Mathlib.Data.UInt

/-!
# The generated diagnostic configuration

`tafDiagGen` turns the YAML description of an ECU into a serialized tree that
the diagnostic components read through the functions of `tafsvc::cfg`. This file
models the part of the tree that the UDS manager and the security-access state
machine read. The maps of the tree that are keyed by the decimal text of a number
are keyed by the number here, the other maps keep their string keys, and all of
them are association lists in iteration order. Times are whole milliseconds; the
source keeps seconds in floating point and multiplies them by one thousand. A
lookup that throws returns `none`, so that each caller shows what it does with the
exception.

Entries that no modelled function reads (DTCs, events, debouncing, data records)
are left out. The generated byte-range checkers `is_forbidden` and
`validate_base_record` are functions of the configuration.
-/

namespace TelAF.DiagConfiguration

structure Access where
  session : List String
  securityType : UInt8
  securityLevel : List String

structure SubFunction where
  supported : Bool
  authentication : Bool
  access : Access

structure ServiceEntry where
  supported : Bool
  functionalAddressed : Bool
  authentication : Bool
  access : Access
  subFunctions : List (Nat × SubFunction)

/-- Security demanded for one direction of a data identifier in one session. -/
structure SecurityLevelRule where
  security : Bool
  securityLevel : List String

structure DiagnosticSession where
  R : List (String × SecurityLevelRule)
  W : List (String × SecurityLevelRule)

structure DidEntry where
  didSize : Nat
  writeDid : Bool
  readDid : Bool
  diagnosticSession : List (String × DiagnosticSession)
  readRole : List String
  writeRole : List String
  functionalAddressed : Bool

structure IOEntry where
  access : Access
  ioControlParameter : List Nat
  didSize : Nat
  ioRole : List String
  diagnosticSession : List (String × SecurityLevelRule)

structure RoutineRequest where
  subFunction : List Nat
  start : String
  stop : String
  result : String

structure RoutineEntry where
  identifier : Nat
  request : RoutineRequest
  access : Access
  routineRole : List String

structure DiagSessionEntry where
  shortName : String
  id : Nat
  p2ServerMax : Nat
  p2StarServerMax : Nat
  executionAuthorizationPattern : String

structure SessionSecurLvlEntry where
  requestSeedId : Nat
  keySize : Nat
  numFailedSecurityAccess : Nat
  securityDelayTime : Nat
  seedSize : Nat
  staticSeed : Bool
  levelId : Nat

structure SecurBindingEntry where
  sessionId : Nat
  securityLevel : List (String × SessionSecurLvlEntry)

structure CommonProps where
  maxNumberOfRcrrp : Nat
  ignoreRequestForHardreset : Bool

/-- One execution-authorization pattern after the generator resolved its names. The
generated initializer stores both lengths in one byte each. -/
structure PatternNode where
  sessions : List UInt8
  levels : List UInt8
  sessions_fit : sessions.length < 256
  levels_fit : levels.length < 256

structure DiagConf where
  servicesAll : List (Nat × ServiceEntry)
  diagSession : List (String × DiagSessionEntry)
  sessionSecurLevel : List (String × SessionSecurLvlEntry)
  securBinding : List (String × SecurBindingEntry)
  didAll : List (Nat × DidEntry)
  ioAll : List (Nat × IOEntry)
  routinesAll : List (Nat × RoutineEntry)
  routineParametersAll : List (String × Nat)
  authRoles : List (String × UInt64)
  commonProps : CommonProps
  finalPattern : List (String × PatternNode)
  isForbidden : UInt16 → List UInt8 → Option Bool
  validateBaseRecord : List UInt8 → String → Option Bool
  /-- The build option `LE_CONFIG_DIAG_FEATURE_A`. -/
  diagFeatureA : Bool

namespace DiagConf
variable (c : DiagConf)

def getServiceEntry (sid : UInt8) : Option ServiceEntry := c.servicesAll.lookup sid.toNat

def isServiceFunctionalAddressed (sid : UInt8) : Bool :=
  match c.getServiceEntry sid with
  | some svc => svc.functionalAddressed
  | none => false

def getServiceAccess (sid : UInt8) : Option Access :=
  (c.getServiceEntry sid).map ServiceEntry.access

def getSubfunction (sid subFunc : UInt8) : Option SubFunction := do
  let svc ← c.getServiceEntry sid
  svc.subFunctions.lookup subFunc.toNat

def getSubfunctionAccess (sid subFunc : UInt8) : Option Access :=
  (c.getSubfunction sid subFunc).map SubFunction.access

def getSubfunctionSessionList (sid subFunc : UInt8) : Option (List String) :=
  (c.getSubfunction sid subFunc).map fun sub => sub.access.session

/-- The session map that the UDS manager caches: identifiers by short name. -/
def getDiagnosticSessionMap : List (String × UInt8) :=
  c.diagSession.map fun pair => (pair.2.shortName, UInt8.ofNat pair.2.id)

/-- The first entry with the identifier, in iteration order. -/
def getDiagnosticSession (sid : UInt8) : Option DiagSessionEntry :=
  (c.diagSession.find? fun pair => pair.2.id == sid.toNat).map Prod.snd

def getSecurityLevelId (levelName : String) : Option UInt8 :=
  (c.sessionSecurLevel.lookup levelName).map fun e => UInt8.ofNat e.levelId

def getDidEntry (did : UInt16) : Option DidEntry := c.didAll.lookup did.toNat

def isDidFunctionalAddressed (did : UInt16) : Bool :=
  match c.getDidEntry did with
  | some entry => entry.functionalAddressed
  | none => false

def getIoEntry (did : UInt16) : Option IOEntry := c.ioAll.lookup did.toNat

def getRoutineEntry (rid : UInt16) : Option RoutineEntry := c.routinesAll.lookup rid.toNat

def getIoctrlEnMaskRecordSize (_ : UInt16) : Nat := 0

/-- The configured record name of a routine sub-function, `"null"` without one. -/
def getRoutineRecord (rid : UInt16) (subFunc : UInt8) : String :=
  match c.getRoutineEntry rid with
  | none => "null"
  | some routine =>
    if subFunc = 0x01 then
      if routine.request.start = "" then "null" else routine.request.start
    else if subFunc = 0x02 then
      if routine.request.stop = "" then "null" else routine.request.stop
    else if subFunc = 0x03 then
      if routine.request.result = "" then "null" else routine.request.result
    else "null"

def getRoutineRecordSize (recordName : String) : Nat :=
  (c.routineParametersAll.lookup recordName).getD 0

end DiagConf

end TelAF.DiagConfiguration
