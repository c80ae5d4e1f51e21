import Mathlib.Data.UInt
import TelAF.TransitionRuns
import Mathlib.Data.List.Sort

/-!
# The time service

The system time is set from the configured time sources: by a polling round, by an application
through `SetTrustTime`, or by the first time the RTC returns. What is set is marked valid or not,
and the RTC follows the system time: its value is written through the vehicle HAL, its validity is
kept in memory and in secure storage.

The clocks, the HAL and the storage answer through `Replies`, one for each call the service makes.
-/

namespace TelAF.TimeService

inductive Result where
  | ok | fault | badParameter | notFound | notPermitted | timeout | unavailable | unsupported
deriving DecidableEq

/-- `taf_time_TimeSources_t`; a name in the configuration stands for its index. -/
inductive TimeSource where
  | rtc | gnss | exApp | network | network2 | system | unknown
deriving DecidableEq

/-! ## Time values -/

structure TimeSpec where
  sec : Nat
  nanosec : Nat
deriving DecidableEq

def uint64 (n : Int) : Nat := (n % 2 ^ 64).toNat

def int64 (n : Int) : Int := Int.bmod n (2 ^ 64)

def nsecPerSec : Nat := 1000000000

namespace TimeSpec

def zero : TimeSpec := ⟨0, 0⟩

def sub (timeA timeB : TimeSpec) : TimeSpec :=
  if timeA.nanosec < timeB.nanosec then
    ⟨uint64 ((timeA.sec : Int) - timeB.sec - 1),
      uint64 ((timeA.nanosec : Int) + nsecPerSec - timeB.nanosec)⟩
  else ⟨uint64 ((timeA.sec : Int) - timeB.sec), uint64 ((timeA.nanosec : Int) - timeB.nanosec)⟩

def add (timeA timeB : TimeSpec) : TimeSpec :=
  let nanosec := uint64 (timeA.nanosec + timeB.nanosec)
  if nsecPerSec ≤ nanosec then
    ⟨uint64 (timeA.sec + timeB.sec + 1), nanosec - nsecPerSec⟩
  else ⟨uint64 (timeA.sec + timeB.sec), nanosec⟩

def greaterThan (timeA timeB : TimeSpec) : Bool :=
  if timeA.sec = timeB.sec then timeB.nanosec < timeA.nanosec else timeB.sec < timeA.sec

/-- The distance of two times in milliseconds. -/
def deltaMilliSec (timeA timeB : TimeSpec) : Nat :=
  let larger := if timeA.greaterThan timeB then timeA.sub timeB else timeB.sub timeA
  uint64 (larger.sec * 1000 + larger.nanosec / 1000 / 1000)

def deltaBootTime (timeVal : TimeSpec) : Option TimeSpec → Int
  | none => 0
  | some bootTime =>
    int64 (((timeVal.sec * 1000 + timeVal.nanosec / 1000000 : Nat) : Int) -
      (bootTime.sec * 1000 + bootTime.nanosec / 1000000 : Nat))

/-- The time of the RTC, from the time since boot and the distance found by the last reading. -/
def ofBootTime (bootTime : TimeSpec) (rtcDeltaMsec : Int) : TimeSpec :=
  let rtcMsec := int64 ((bootTime.sec * 1000 + bootTime.nanosec / 1000000 : Nat) + rtcDeltaMsec)
  ⟨uint64 (rtcMsec.tdiv 1000), uint64 ((rtcMsec.tmod 1000) * 1000000)⟩

end TimeSpec

/-! ## Configuration -/

structure Source where
  priority : Int
  setSystemTime : Bool
  sourceName : TimeSource
  toleranceMillsec : Int
  setTimeCounter : Int

def Source.threshold (c : Source) : Nat :=
  if c.toleranceMillsec ≤ 0 then 2000 else c.toleranceMillsec.toNat

/-- The configuration as `LoadJsonConfiguration` leaves it, and whether it returned `LE_OK`. -/
structure Configuration where
  source : List Source
  loaded : Bool
  /-- `TimeSourceConf.allowOverrideAfterFail`. -/
  confAllowOverride : Int
  /-- `AllowOverrideAfterFail` as the configuration sets it. -/
  allowOverrideAfterFail : Int

/-- `DeleteNotSupportedSource` and `sortSourceByPriority`, where the file was read. -/
def Configuration.timeSources (conf : Configuration) : List Source :=
  if conf.loaded then
    (conf.source.filter fun c => c.sourceName ≠ .unknown).insertionSort fun a b => a.priority ≤ b.priority
  else conf.source

structure Vhal where
  isDrvPresent : Bool
  getRtcTimeReqAsync : Bool
  setRtcTimeReqAsync : Bool
  getRtcTimeHAL : Bool
  setRtcTimeHAL : Bool

/-! ## State -/

/-- What is kept of a source, and of the system time. -/
structure SourceInf where
  sourceValidity : Bool
  isSyncedWithStorage : Bool
  isSyncedWithSetCmd : Bool

def SourceInf.fresh : SourceInf := ⟨false, false, false⟩

/-- A value on its way into the RTC, with the validity the system time had when the write was
requested. -/
structure Request where
  time : TimeSpec
  validity : Bool
deriving DecidableEq

structure Response where
  request : Request
  status : Result

/-- The RTC and the secure storage: what a reboot leaves. -/
structure Device where
  /-- The value last written. -/
  rtc : Option Request
  /-- The validity of the RTC in secure storage. -/
  stored : Option Bool

structure State where
  /-- `TimeSourceConf.source`. -/
  source : List Source
  confAllowOverride : Int
  allowOverrideAfterFail : Int
  vhal : Vhal
  /-- `LatestTimeSourceInfo`: the source of the system time, and what is kept of it. -/
  systemSourceId : TimeSource
  latest : SourceInf
  /-- The base structures of `SrcRefMap`. -/
  info : TimeSource → SourceInf
  externalSetTime : Bool
  /-- The caches of the sources; none where the buffer was not initialized. -/
  deltaTime : TimeSource → Option TimeSpec
  rtcDeltaMsec : Int
  /-- No time was received from the RTC yet. -/
  initFlag : Bool
  mssConnected : Bool
  /-- Set requests the RTC has not performed, and the responses on the event queue. -/
  requests : List Request
  responses : List Response
  device : Device
  /-- The calls of `SetRealTime` in this step, the last one first. -/
  attempts : List (TimeSource × Result)
  /-- The validity of the system time where this step found the RTC within the tolerance of it. -/
  rtcFound : Option Bool
  /-- The RTC took a value in this step. -/
  rtcWritten : Bool

/-! ## Answers from outside -/

structure StorageReplies where
  connect : Bool
  label : Bool
  dataRef : Bool
  start : Result
  chunk : Result
  finish : Result
  read : Result

structure Replies where
  bootTime : Option TimeSpec
  systemTime : Option TimeSpec
  clockSettime : Result
  getRtcTimeHAL : Result × TimeSpec
  /-- The clocks again, for the comparison with the RTC. -/
  systemTimeAfter : Option TimeSpec
  bootTimeAfter : Option TimeSpec
  setRtcTime : Result
  storage : StorageReplies

namespace State

variable (s : State)

/-- `findSourcePosition`: the first source of that name. -/
def conf (id : TimeSource) : Option Source := s.source.find? fun c => c.sourceName = id

/-- `RtcVhalInitStatus`. -/
def rtcVhalInt : Bool :=
  (s.conf .rtc).isSome && s.vhal.isDrvPresent &&
    ((s.vhal.setRtcTimeHAL && s.vhal.getRtcTimeHAL) ||
      (s.vhal.setRtcTimeReqAsync && s.vhal.getRtcTimeReqAsync))

/-- `RtcAsyncBaseDataIntStatus`. -/
def rtcAsyncInt : Bool := s.rtcVhalInt && s.vhal.getRtcTimeReqAsync && s.vhal.setRtcTimeReqAsync

/-! ## Setting the system time -/

def isThresholdSetTimeAllow (newTime oldTime : TimeSpec) (id : TimeSource) : Bool :=
  match s.conf id with
  | none => false
  | some c => c.threshold ≤ newTime.deltaMilliSec oldTime

/-- The clock is left alone within the tolerance. -/
def setRealTime (r : Replies) (timeVal : TimeSpec) (id : TimeSource) : Result :=
  match r.systemTime with
  | none => .fault
  | some systemTime =>
    if s.isThresholdSetTimeAllow timeVal systemTime id then r.clockSettime else .ok

end State

/-- `setTimeCounter--` of the first source of that name. -/
def countDown (id : TimeSource) : List Source → List Source
  | [] => []
  | c :: rest =>
    if c.sourceName = id then
      { c with setTimeCounter := if 0 < c.setTimeCounter then c.setTimeCounter - 1 else c.setTimeCounter }
        :: rest
    else c :: countDown id rest

namespace State

variable (s : State)

def updateSystemTimeRefInfo (id : TimeSource) : State :=
  { s with systemSourceId := id, allowOverrideAfterFail := s.confAllowOverride }

def setSystemTime (r : Replies) (timeVal : TimeSpec) (id : TimeSource) : Result × State :=
  match s.conf id with
  | none => (.notFound, s)
  | some _ =>
    let result := s.setRealTime r timeVal id
    let s := { s with attempts := (id, result) :: s.attempts }
    if result = .ok then
      let s := { s with source := countDown id s.source }
      let s := if id = .exApp then { s with externalSetTime := true } else s
      (.ok, s.updateSystemTimeRefInfo id)
    else (result, s)

/-! ## The validity of the RTC -/

def isSecStorageConnected (r : StorageReplies) : Bool × State :=
  if s.mssConnected then (true, s) else (r.connect, { s with mssConnected := r.connect })

def writeValidtyToSecStorage (r : StorageReplies) (newvalidity : Bool) : Result × State :=
  if !r.label then (.fault, s)
  else if !r.dataRef then (.notFound, s)
  else if r.start ≠ .ok then (r.start, s)
  else if r.chunk ≠ .ok then (r.chunk, s)
  else if r.finish ≠ .ok then (r.finish, s)
  else (.ok, { s with device := { s.device with stored := some newvalidity } })

/-- `ReadValidityFromSecStorage`: nothing is found before the first write. -/
def readValidityFromSecStorage (r : StorageReplies) : Option Bool :=
  if r.dataRef then
    match s.device.stored with
    | none => none
    | some validity => if r.read = .ok then some validity else none
  else none

def setInfo (id : TimeSource) (inf : SourceInf) : State :=
  { s with info := fun i => if i = id then inf else s.info i }

/-- `syncValidityToMSS` from the system time to the RTC. -/
def syncValidityToMSS (r : StorageReplies) : Result × State :=
  let (connected, s) := s.isSecStorageConnected r
  if !connected then (.fault, s)
  else
    let (result, s) := s.writeValidtyToSecStorage r s.latest.sourceValidity
    if result ≠ .ok then (.fault, s)
    else (.ok, s.setInfo .rtc { s.info .rtc with isSyncedWithStorage := true })

/-- `SyncValidityInRam`, for a source that exists. -/
def syncValidityInRam (id : TimeSource) (newValidity : Bool) : State :=
  let s := s.setInfo id { s.info id with sourceValidity := newValidity }
  if s.systemSourceId = id then { s with latest := { s.latest with sourceValidity := newValidity } }
  else s

def setRtcTrustTimeValidityHandler (r : StorageReplies) (response : Result) : State :=
  if response ≠ .ok then s
  else if (s.conf .rtc).isNone then s
  else
    let s := s.syncValidityInRam .rtc s.latest.sourceValidity
    if (s.info .rtc).isSyncedWithStorage then s else (s.syncValidityToMSS r).2

/-- `SetTimeToRtc`. The RTC performs an asynchronous request later. -/
def setTimeToRtc (r : Replies) (timeVal : TimeSpec) : Result × State :=
  if !s.rtcVhalInt then (.unsupported, s)
  else if s.vhal.setRtcTimeReqAsync then
    if !s.rtcAsyncInt then (.unsupported, s)
    else if r.setRtcTime = .ok then
      (.ok, { s with requests := s.requests ++ [⟨timeVal, s.latest.sourceValidity⟩] })
    else (r.setRtcTime, s)
  else if s.vhal.setRtcTimeHAL then
    let s := if r.setRtcTime = .ok then
        { s with
          device := { s.device with rtc := some ⟨timeVal, s.latest.sourceValidity⟩ }
          rtcWritten := true }
      else s
    (r.setRtcTime, s.setRtcTrustTimeValidityHandler r.storage r.setRtcTime)
  else (.fault, s)

/-- The RTC is not within the tolerance of the system time. -/
def needSetTime (systemTime bootTime : TimeSpec) : Bool :=
  s.isThresholdSetTimeAllow systemTime (.ofBootTime bootTime s.rtcDeltaMsec) .rtc

/-- The validity of the RTC is stored, and so is its value: there is nothing new. -/
def nothingNew (systemTime bootTime : TimeSpec) : Bool :=
  (s.info .rtc).sourceValidity = s.latest.sourceValidity && (s.info .rtc).isSyncedWithStorage &&
    !s.needSetTime systemTime bootTime

/-- The RTC is set, or what its validity needs is done. -/
def setTimeOrValidity (r : Replies) (systemTime bootTime : TimeSpec) : State :=
  if s.needSetTime systemTime bootTime then (s.setTimeToRtc r systemTime).2
  else
    { s with rtcFound := some s.latest.sourceValidity }.setRtcTrustTimeValidityHandler r.storage .ok

/-- The validity of the RTC is no longer stored where it differs from that of the system time. -/
def markUnsynced : State :=
  if s.latest.sourceValidity ≠ (s.info .rtc).sourceValidity then
    s.setInfo .rtc { s.info .rtc with isSyncedWithStorage := false }
  else s

def rtcTrustTimeUpdateHandler (r : Replies) : State :=
  if (s.conf .rtc).isNone then s
  else match r.systemTimeAfter, r.bootTimeAfter with
  | some systemTime, some bootTime =>
    if s.nothingNew systemTime bootTime then s
    else
      let s := s.markUnsynced
      if s.latest.sourceValidity then s.setTimeOrValidity r systemTime bootTime
      -- an invalid time is stored as such before the RTC has it
      else if (s.info .rtc).isSyncedWithStorage then s.setTimeOrValidity r systemTime bootTime
      else
        let (result, s) := s.syncValidityToMSS r.storage
        if result = .ok then s.setTimeOrValidity r systemTime bootTime else s
  | _, _ => s

def updateTimeAndValidity (r : Replies) (id : TimeSource) (timeVal : TimeSpec)
    (validity external : Bool) : Result × State :=
  let (result, s) := s.setSystemTime r timeVal id
  if result ≠ .ok then (result, s)
  else
    let s := s.syncValidityInRam id validity
    let s := if external then s.setInfo id { s.info id with isSyncedWithSetCmd := true } else s
    (.ok, if id ≠ .rtc ∧ s.rtcVhalInt then s.rtcTrustTimeUpdateHandler r else s)

def updateSystemTime (r : Replies) (timeVal : TimeSpec) (id : TimeSource) : Result × State :=
  if (s.conf id).isNone then (.notFound, s)
  else s.updateTimeAndValidity r id timeVal (s.info id).sourceValidity false

/-! ## Which source may set the time -/

def isNewTimeSrcSetTimeAllowed (id : TimeSource) : Bool :=
  match s.conf id with
  | none => false
  | some new =>
    if new.setTimeCounter = 0 then false
    else if !new.setSystemTime then false
    else if s.systemSourceId = .unknown then true
    else match s.conf s.systemSourceId with
    | none => false
    | some curr =>
      if new.priority ≤ curr.priority then true
      else if curr.priority < new.priority ∧ s.allowOverrideAfterFail = 0 then true
      else false

/-- `SetTrustTime`, with the source of the reference and what `CheckSetValidityPermission`
returned. -/
def setTrustTime (r : Replies) (sourceRef : Option TimeSource) (timeVal : TimeSpec) (validity : Bool)
    (permission : Result) : Result × State :=
  match sourceRef with
  | none => (.fault, s)
  | some id =>
    if id ≠ .exApp then (.badParameter, s)
    else if timeVal.sec = 0 then (.badParameter, s)
    else if permission ≠ .ok then (.notPermitted, s)
    else if !s.isNewTimeSrcSetTimeAllowed id then (.notPermitted, s)
    else s.updateTimeAndValidity r id timeVal validity true

/-! ## A polling round -/

def getTimeFromLocalCache (r : Replies) (id : TimeSource) : Result × TimeSpec :=
  match s.deltaTime id with
  | none => (.unavailable, .zero)
  | some deltaTime =>
    match r.bootTime with
    | none => (.fault, .zero)
    | some bootTime =>
      if deltaTime.sec = 0 then (.unavailable, .zero) else (.ok, bootTime.add deltaTime)

/-- `GetRtcTime`, without the internal RTC. -/
def getRtcTime (r : Replies) : (Result × TimeSpec) × State :=
  if s.vhal.isDrvPresent then
    if !s.rtcVhalInt then ((.fault, .zero), s)
    else if s.vhal.getRtcTimeReqAsync then (s.getTimeFromLocalCache r .rtc, s)
    else if s.vhal.getRtcTimeHAL then
      if r.getRtcTimeHAL.1 ≠ .ok ∨ r.getRtcTimeHAL.2.sec = 0 then ((.fault, .zero), s)
      else ((.ok, r.getRtcTimeHAL.2),
        { s with rtcDeltaMsec := r.getRtcTimeHAL.2.deltaBootTime r.bootTime })
    else ((.fault, .zero), s)
  else ((.fault, .zero), s)

def getExSetTimeStatus : Result × State :=
  if s.externalSetTime then (.ok, { s with externalSetTime := false }) else (.timeout, s)

/-- `CheckSourceTime`. The application's source returns no time of its own. -/
def checkSourceTime (r : Replies) (id : TimeSource) : (Result × TimeSpec) × State :=
  match id with
  | .rtc => s.getRtcTime r
  | .gnss => (s.getTimeFromLocalCache r .gnss, s)
  | .exApp => ((s.getExSetTimeStatus.1, .zero), s.getExSetTimeStatus.2)
  | .network => (s.getTimeFromLocalCache r .network, s)
  | .network2 => (s.getTimeFromLocalCache r .network2, s)
  | _ => ((.notFound, .zero), s)

/-- One source of the round: whether the time is set now. -/
def checkAndSet (r : Replies) (id : TimeSource) (setStatus : Bool) : Bool × State :=
  let ((result, time), s) := s.checkSourceTime r id
  if result ≠ .ok ∨ time.sec = 0 then (setStatus, s)
  else if id = .exApp then (true, s)
  else if !setStatus && s.isNewTimeSrcSetTimeAllowed id then
    let (result, s) := s.updateSystemTime r time id
    (decide (result = .ok), s)
  else (setStatus, s)

/-- The loop of `SetTimeBaseOnConfig` over its copy of the configuration, each source with the
replies it meets. -/
def setTimeLoop (replies : Nat → Replies) : State → Bool → List Source → Bool × State
  | s, setStatus, [] => (setStatus, s)
  | s, setStatus, c :: rest =>
    let (setStatus, t) := s.checkAndSet (replies 0) c.sourceName setStatus
    setTimeLoop (fun n => replies (n + 1)) t setStatus rest

def setTimeBaseOnConfig (replies : Nat → Replies) : State :=
  if s.source = [] then s
  else
    let (setStatus, s) := setTimeLoop replies s false s.source
    if setStatus then s
    else if 0 < s.allowOverrideAfterFail then
      { s with allowOverrideAfterFail := s.allowOverrideAfterFail - 1 }
    else s

/-! ## The sources' own events -/

def updateLocalTimeCache (newTime : TimeSpec) (id : TimeSource)
    (bootTime : Option TimeSpec) : State :=
  match s.deltaTime id, bootTime, s.conf id with
  | some oldDeltaTime, some bootTime, some c =>
    let newDeltaTime := newTime.sub bootTime
    if newTime.sec = 0 then s
    else if c.threshold < newDeltaTime.deltaMilliSec oldDeltaTime then
      { s with deltaTime := fun i => if i = id then some newDeltaTime else s.deltaTime i }
    else s
  | _, _, _ => s

def sourceValidityUpdate (validity : Bool) (id : TimeSource) : State :=
  if (s.conf id).isNone then s else s.setInfo id { s.info id with sourceValidity := validity }

/-- `GnssUtcTimeUpdateHandler`. -/
def gnssUtcTimeUpdate (utc : Nat) (bootTime : Option TimeSpec) : State :=
  if 0 < utc then
    (s.updateLocalTimeCache ⟨utc / 1000, utc % 1000 * 1000 * 1000⟩ .gnss bootTime).sourceValidityUpdate
      true .gnss
  else s

/-- `NetworkTimeResponseUpdate`, with the time the answer converts to. -/
def networkTimeResponseUpdate (second : Bool) (error : Result) (converted : Option TimeSpec)
    (bootTime : Option TimeSpec) : State :=
  let id := if second then TimeSource.network2 else .network
  if error ≠ .ok then s
  else match converted with
  | none => s
  | some timeVal => (s.updateLocalTimeCache timeVal id bootTime).sourceValidityUpdate true id

/-- `NetworkTimeChangeHandlerInfoUpdate`. -/
def networkTimeChange (second : Bool) (converted : Option TimeSpec) (bootTime : Option TimeSpec) :
    State :=
  match converted with
  | none => s
  | some timeVal => s.updateLocalTimeCache timeVal (if second then .network2 else .network) bootTime

/-- `getRtcTimeRespCbEvtHandler`. -/
def getRtcTimeResp (r : Replies) (rtcTime : TimeSpec) (response : Result) : State :=
  let s := { s with rtcDeltaMsec := rtcTime.deltaBootTime r.bootTime }
  if response ≠ .ok ∨ rtcTime.sec = 0 then s
  else
    let s := s.updateLocalTimeCache rtcTime .rtc r.bootTime
    if s.initFlag then
      let s := { s with initFlag := false }
      if s.isNewTimeSrcSetTimeAllowed .rtc then (s.updateSystemTime r rtcTime .rtc).2 else s
    else s

/-! ## Responses, storage and reboot -/

/-- The RTC performs a request, or fails to; the response goes to the event queue. -/
def rtcPerforms (n : Nat) (status : Result) : State :=
  match s.requests[n]? with
  | none => s
  | some request =>
    { s with
      requests := s.requests.eraseIdx n
      responses := s.responses ++ [⟨request, status⟩]
      device := if status = .ok then { s.device with rtc := some request } else s.device
      rtcWritten := decide (status = .ok) }

/-- The event handler of the main thread takes the first response. -/
def rtcSetResponse (r : StorageReplies) : State :=
  match s.responses with
  | [] => s
  | response :: rest => { s with responses := rest }.setRtcTrustTimeValidityHandler r response.status

/-- `SyncRtcTrustInfoWithMSSHandler`, as `StartupRetryHandler` calls it. -/
def syncRtcTrustInfoWithMSS (r : Replies) : State :=
  if !s.rtcVhalInt then s
  else
    let (connected, s) := s.isSecStorageConnected r.storage
    if !connected then s
    else if (s.info .rtc).isSyncedWithStorage then s
    else match s.readValidityFromSecStorage r.storage with
    | none => s
    | some validity =>
      if s.systemSourceId = .rtc ∨ s.systemSourceId = .unknown then
        let s := s.syncValidityInRam .rtc validity
        s.setInfo .rtc { s.info .rtc with isSyncedWithStorage := true }
      else s.rtcTrustTimeUpdateHandler r

def isSourceValid (r : StorageReplies) (id : TimeSource) : Bool × State :=
  if id ≠ .rtc ∨ !s.rtcVhalInt ∨ (s.info .rtc).isSyncedWithSetCmd ∨
    (s.info .rtc).isSyncedWithStorage
  then ((s.info id).sourceValidity, s)
  else
    let (connected, s) := s.isSecStorageConnected r
    if !connected then ((s.info .rtc).sourceValidity, s)
    else match s.readValidityFromSecStorage r with
    | none => ((s.info .rtc).sourceValidity, s)
    | some validity =>
      (validity,
        s.setInfo .rtc { s.info .rtc with isSyncedWithStorage := true, sourceValidity := validity })

end State

/-- `Init`: nothing but the device is left of the time before. A cache is there where its base data
were initialized. -/
def init (conf : Configuration) (vhal : Vhal) (ready : TimeSource → Bool)
    (device : Device) : State where
  source := conf.timeSources
  confAllowOverride := conf.confAllowOverride
  allowOverrideAfterFail := conf.allowOverrideAfterFail
  vhal := vhal
  systemSourceId := .unknown
  latest := .fresh
  info := fun _ => .fresh
  externalSetTime := false
  deltaTime := fun id => if ready id then some .zero else none
  rtcDeltaMsec := 0
  initFlag := true
  mssConnected := false
  requests := []
  responses := []
  device := device
  attempts := []
  rtcFound := none
  rtcWritten := false

/-! ## Runs -/

inductive Event where
  | poll (replies : Nat → Replies)
  | setTrustTime (replies : Replies) (sourceRef : Option TimeSource) (timeVal : TimeSpec)
      (validity : Bool) (permission : Result)
  | gnssUtcTime (utc : Nat) (bootTime : Option TimeSpec)
  | networkTimeResponse (second : Bool) (error : Result) (converted bootTime : Option TimeSpec)
  | networkTimeChange (second : Bool) (converted bootTime : Option TimeSpec)
  | getRtcTimeResp (replies : Replies) (rtcTime : TimeSpec) (response : Result)
  | rtcPerforms (n : Nat) (status : Result)
  | rtcSetResponse (replies : StorageReplies)
  | syncRtcTrustInfo (replies : Replies)
  | isSourceValid (replies : StorageReplies) (id : TimeSource)
  | mssDisconnect
  | reboot (conf : Configuration) (vhal : Vhal) (ready : TimeSource → Bool)

def Event.reboots : Event → Bool
  | .reboot .. => true
  | _ => false

namespace State

def handle (s : State) : Event → State
  | .poll replies => s.setTimeBaseOnConfig replies
  | .setTrustTime replies sourceRef timeVal validity permission =>
    (s.setTrustTime replies sourceRef timeVal validity permission).2
  | .gnssUtcTime utc bootTime => s.gnssUtcTimeUpdate utc bootTime
  | .networkTimeResponse second error converted bootTime =>
    s.networkTimeResponseUpdate second error converted bootTime
  | .networkTimeChange second converted bootTime => s.networkTimeChange second converted bootTime
  | .getRtcTimeResp replies rtcTime response => s.getRtcTimeResp replies rtcTime response
  | .rtcPerforms n status => s.rtcPerforms n status
  | .rtcSetResponse replies => s.rtcSetResponse replies
  | .syncRtcTrustInfo replies => s.syncRtcTrustInfoWithMSS replies
  | .isSourceValid replies id => (s.isSourceValid replies id).2
  | .mssDisconnect => { s with mssConnected := false }
  | .reboot conf vhal ready => init conf vhal ready s.device

def begin (s : State) : State := { s with attempts := [], rtcFound := none, rtcWritten := false }

def step (s : State) (e : Event) : State := s.begin.handle e

end State

end TelAF.TimeService
