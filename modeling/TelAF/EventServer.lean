import TelAF.DemDatabase
import Mathlib.Logic.Function.Basic
import Mathlib.Tactic.Simps.Basic

/-!
# The event server

`taf_EventSvr` keeps a context for every event and every DTC of the configuration
and writes their statuses through to the database. Applications report test
results, set operation cycles and enable conditions; the tester clears DTCs; the
debounce and fault detection timers of time based events expire. Every change is
made in the memory first, so that a failing write leaves the two apart.

Notifications to the applications are left out, and so are the supplier fault code
and the request client type, which are only passed on with them; the requests for
snapshots are kept, in their order.
-/

namespace TelAF.EventServer
open DemConfiguration EventStatus DemDatabase

inductive StatusType where
  | unknown
  | passed
  | failed
  | prepassed
  | prefailed
  | confirmed
  | testNotCompleted
deriving DecidableEq

inductive RunningTimerType where
  | prefailed
  | prepassed
  | unknown
deriving DecidableEq

/-- The states an application can ask for; a cycle is only ever in one of the first two. -/
inductive OperationCycleState where
  | start
  | stop
  | restart
deriving DecidableEq

inductive TriggerType where
  | everyTestFailed
  | fdcThreshold
  | confirmed
  | pending
  | testFailed
  | testFailedThisOperationCycle
deriving DecidableEq

structure EventCtx where
  eventEnableStatus : Bool
  eventUdsStatus : UdsStatus
  failureCounter : UInt8
  eventFaultStatus : StatusType
  debounceCounter : Int
  fdcTriggerFlag : Bool
  debounceBehavior : DebounceResetStatus
  timerRunning : Bool
  fdcTimerRunning : Bool
  timerType : RunningTimerType
deriving DecidableEq

structure DtcCtx where
  dtcStatus : UdsStatus
  occurrenceCounter : UInt8
  activationStatus : Bool
  suppressionStatus : Bool
deriving DecidableEq

/-- What the server holds in memory. Only the contexts of configured events and DTCs exist;
`triggered` are the snapshots asked for. -/
structure Memory where
  event : EventId → EventCtx
  dtc : DtcCode → DtcCtx
  operCycle : CycleId → OperationCycleState
  enableCond : UInt8 → Bool
  triggered : List (DtcCode × TriggerType)

structure Dem extends Memory where
  db : Database

@[simps -fullyApplied event dtc operCycle db]
def Dem.setEvent (s : Dem) (e : EventId) (ctx : EventCtx) : Dem :=
  { s with event := Function.update s.event e ctx }

@[simps -fullyApplied event dtc operCycle db]
def Dem.setDtc (s : Dem) (d : DtcCode) (ctx : DtcCtx) : Dem :=
  { s with dtc := Function.update s.dtc d ctx }

@[simps -fullyApplied event dtc operCycle db]
def Dem.trigger (s : Dem) (d : DtcCode) (types : List TriggerType) : Dem :=
  { s with triggered := s.triggered ++ types.map (Prod.mk d) }

def Dem.store (s : Dem) (call : Database → Database × LeResult) : Dem × LeResult :=
  ({ s with db := (call s.db).1 }, (call s.db).2)

def maxFaultDetectionCounter : Int := 127
def minFaultDetectionCounter : Int := -128

def resetDebounceCounter (debounce : Debounce) (ctx : EventCtx) : EventCtx :=
  match debounce with
  | .timeBased => { ctx with
      debounceCounter := 0
      timerRunning := false
      timerType := if ctx.timerRunning then .unknown else ctx.timerType
      fdcTimerRunning := false }
  | _ => { ctx with debounceCounter := 0 }

/-- The counter after a `prepassed` report. -/
def countDown (config : CounterBasedConfig) (counter : Int) : Int :=
  if counter > config.passedThreshold then
    let counter :=
      if config.jumpDown = true ∧ counter > config.jumpDownValue then config.jumpDownValue
      else counter
    if counter ≥ config.passedThreshold + config.decrementStepSize then
      counter - config.decrementStepSize
    else config.passedThreshold
  else counter

/-- The counter after a `prefailed` report below the threshold. -/
def countUp (config : CounterBasedConfig) (counter : Int) : Int :=
  let counter :=
    if config.jumpUp = true ∧ counter < config.jumpUpValue then config.jumpUpValue else counter
  if counter ≤ config.failedThreshold - config.incrementStepSize then
    counter + config.incrementStepSize
  else config.failedThreshold

/-- The fault status that the counter stands for after a report. -/
def counterFaultStatus (config : CounterBasedConfig) (counter : Int) (eventStatus : StatusType) :
    StatusType :=
  if counter ≤ config.passedThreshold then .passed
  else if counter ≥ config.failedThreshold then .failed
  else eventStatus

def debounceCounterBased (config : CounterBasedConfig) (ctx : EventCtx) (eventStatus : StatusType) :
    Option (EventCtx × List TriggerType) :=
  let settle (ctx : EventCtx) (triggers : List TriggerType) : EventCtx × List TriggerType :=
    ({ ctx with
      eventFaultStatus := counterFaultStatus config ctx.debounceCounter eventStatus }, triggers)
  match eventStatus with
  | .passed => some (settle { ctx with debounceCounter := config.passedThreshold } [])
  | .failed => some (settle { ctx with debounceCounter := config.failedThreshold } [])
  | .prepassed =>
    some (settle { ctx with debounceCounter := countDown config ctx.debounceCounter } [])
  | .prefailed =>
    if ctx.debounceCounter < config.failedThreshold then
      let counter := countUp config ctx.debounceCounter
      if ctx.fdcTriggerFlag = false ∧ counter ≥ config.fdcThreshold then
        some (settle { ctx with debounceCounter := counter, fdcTriggerFlag := true } [.fdcThreshold])
      else some (settle { ctx with debounceCounter := counter } [])
    else some (settle ctx [])
  | _ => none

/-- Start the debounce timer, unless it runs with this type or the result stands already. -/
def runTimer (type : RunningTimerType) (limit : Int) (ctx : EventCtx) : EventCtx :=
  if (if ctx.timerRunning then ctx.timerType = type else ctx.debounceCounter = limit) then ctx
  else { ctx with timerRunning := true, timerType := type, debounceCounter := 0 }

def timeFaultStatus (counter : Int) (eventStatus : StatusType) : StatusType :=
  if counter = minFaultDetectionCounter then .passed
  else if counter = maxFaultDetectionCounter then .failed
  else eventStatus

def debounceTimeBased (ctx : EventCtx) (eventStatus : StatusType) : Option EventCtx :=
  let settle (ctx : EventCtx) : EventCtx :=
    { ctx with eventFaultStatus := timeFaultStatus ctx.debounceCounter eventStatus }
  match eventStatus with
  | .passed => some (settle { ctx with
      debounceCounter := minFaultDetectionCounter, timerRunning := false, fdcTimerRunning := false })
  | .failed => some (settle { ctx with
      debounceCounter := maxFaultDetectionCounter, timerRunning := false, fdcTimerRunning := false })
  | .prepassed =>
    some (settle { runTimer .prepassed minFaultDetectionCounter ctx with fdcTimerRunning := false })
  | .prefailed =>
    some (settle { runTimer .prefailed maxFaultDetectionCounter ctx with fdcTimerRunning := true })
  | _ => none

def debounceEvent (debounce : Debounce) (ctx : EventCtx) (eventStatus : StatusType) :
    Option (EventCtx × List TriggerType) :=
  match debounce with
  | .monitorInternal =>
    if eventStatus = .passed ∨ eventStatus = .failed then
      some ({ ctx with eventFaultStatus := eventStatus }, [])
    else none
  | .counterBased config => debounceCounterBased config ctx eventStatus
  | .timeBased => (debounceTimeBased ctx eventStatus).map fun ctx => (ctx, [])

open StatusBit

def failedStatus (status : UdsStatus) : UdsStatus :=
  reset (reset (set (set (set (set status tf) tftoc) pdtc) tfslc) tncslc) tnctoc

def passedStatus (status : UdsStatus) : UdsStatus := reset (reset (reset status tf) tncslc) tnctoc

def startedStatus (status : UdsStatus) : UdsStatus := set (reset status tftoc) tnctoc

/-- Only a cycle with a test and without a failure takes the pending bit away. -/
def stoppedStatus (status : UdsStatus) : UdsStatus :=
  if has status tnctoc = false ∧ has status tftoc = false then reset status pdtc else status

def maxTestFailureCounter : UInt8 := 255

/-- The event after a failed result; the first one of a cycle advances the failure counter. -/
def onFailed (confirmationThreshold : UInt8) (ctx : EventCtx) : EventCtx :=
  let counter :=
    if has ctx.eventUdsStatus tftoc = false ∧ ctx.failureCounter < maxTestFailureCounter then
      ctx.failureCounter + 1
    else ctx.failureCounter
  if confirmationThreshold ≤ counter then
    { ctx with eventUdsStatus := set (failedStatus ctx.eventUdsStatus) cdtc, failureCounter := 0 }
  else { ctx with eventUdsStatus := failedStatus ctx.eventUdsStatus, failureCounter := counter }

def onPassed (ctx : EventCtx) : EventCtx :=
  { ctx with eventUdsStatus := passedStatus ctx.eventUdsStatus }

/-- The snapshots to take where a bit of the event has been set. -/
def triggerSnapshotData (oldStatus status : UdsStatus) : List TriggerType :=
  ([(cdtc, .confirmed), (pdtc, .pending), (tf, .testFailed),
    (tftoc, .testFailedThisOperationCycle)].filter fun (bit, _) =>
      !has oldStatus bit && has status bit).map Prod.snd

variable (c : DemConf)

def storeAndReportEventUdsStatus (s : Dem) (e : EventId) : Dem × LeResult :=
  s.store (·.setEventStatusByName (c.event e).mnemonic (s.event e).eventUdsStatus)

def storeAndReportDtcStatus (s : Dem) (d : DtcCode) : Dem × LeResult :=
  s.store (·.setDtcStatus d (s.dtc d).dtcStatus (s.dtc d).occurrenceCounter)

def storeEventIfChanged (s : Dem) (e : EventId) (oldStatus : UdsStatus) : Dem × LeResult :=
  if oldStatus ≠ (s.event e).eventUdsStatus then storeAndReportEventUdsStatus c s e else (s, .ok)

def storeDtcIfChanged (s : Dem) (d : DtcCode) (old : DtcCtx) : Dem × LeResult :=
  if old.occurrenceCounter ≠ (s.dtc d).occurrenceCounter ∨
    (s.dtc d).dtcStatus ≠ old.dtcStatus then
    storeAndReportDtcStatus s d
  else (s, .ok)

/-- The status of a DTC by the statuses of its events. -/
def statusOfEvents (s : Dem) (d : DtcCode) : UdsStatus :=
  combine ((getEventNodes c d).map fun e => (s.event e).eventUdsStatus)

def maxOccurrenceCounter : UInt8 := 255

/-- An occurrence is counted where the test failed bit of the DTC is set anew. -/
def countOccurrence (processing : OccurrenceCounterProcessing) (old : DtcCtx) (status : UdsStatus) :
    UInt8 :=
  let counts := match processing with
    | .testFailedBit => !has old.dtcStatus tf && has status tf
    | .confirmedDtc => !has old.dtcStatus tf && has status tf && has status cdtc
  if counts = true ∧ old.occurrenceCounter < maxOccurrenceCounter then old.occurrenceCounter + 1
  else old.occurrenceCounter

def updateDtcOnFailed (s : Dem) (d : DtcCode) : Dem × LeResult :=
  let old := s.dtc d
  let status := statusOfEvents c s d
  storeDtcIfChanged (s.setDtc d { old with
    dtcStatus := status
    occurrenceCounter := countOccurrence c.occurrenceCounterProcessing old status }) d old

def updateDtcOnPassed (s : Dem) (d : DtcCode) : Dem × LeResult :=
  let old := s.dtc d
  storeDtcIfChanged (s.setDtc d { old with dtcStatus := statusOfEvents c s d }) d old

def updateEventOnFailed (s : Dem) (e : EventId) : Dem × LeResult :=
  let old := s.event e
  let ctx := onFailed (c.event e).confirmationThreshold old
  thenDo (storeEventIfChanged c (s.setEvent e ctx) e old.eventUdsStatus) fun s =>
  updateDtcOnFailed c
    (s.trigger (dtcCode c e) (triggerSnapshotData old.eventUdsStatus ctx.eventUdsStatus))
    (dtcCode c e)

def updateEventOnPassed (s : Dem) (e : EventId) : Dem × LeResult :=
  let old := s.event e
  thenDo (storeEventIfChanged c (s.setEvent e (onPassed old)) e old.eventUdsStatus) fun s =>
  updateDtcOnPassed c s (dtcCode c e)

/-- A report is accepted while the cycle of the event is started, its enable condition
holds and its DTC is active. -/
def checkEventCondition (s : Dem) (e : EventId) : LeResult :=
  if ¬ (c.event e).operationCycle < maxNumOfOperCycle c then .fault
  else if s.operCycle (c.event e).operationCycle ≠ .start then .notPossible
  else if (s.event e).eventEnableStatus = false then .notPermitted
  else if (s.dtc (dtcCode c e)).activationStatus = false then .unsupported
  else .ok

/-- What a new fault status does to the event and its DTC. -/
def updateOnFaultStatus (s : Dem) (e : EventId) (oldEventFaultStatus : StatusType) :
    Dem × LeResult :=
  if oldEventFaultStatus = (s.event e).eventFaultStatus then (s, .ok) else
  match (s.event e).eventFaultStatus with
  | .failed => updateEventOnFailed c s e
  | .passed => updateEventOnPassed c s e
  | .prefailed | .prepassed => (s, .ok)
  | _ => (s, .fault)

def setStatusWithSupplierFaultCode (s : Dem) (e : EventId) (eventStatus : StatusType) :
    Dem × LeResult :=
  if e ∉ eventCtxList c ∨ eventStatus = .unknown then (s, .fault) else
  if checkEventCondition c s e ≠ .ok then (s, checkEventCondition c s e) else
  let old := s.event e
  let s := s.trigger (dtcCode c e) [.everyTestFailed]
  match debounceEvent (c.event e).debounce old eventStatus with
  | none => (s, .fault)
  | some (ctx, triggers) =>
    updateOnFaultStatus c ((s.setEvent e ctx).trigger (dtcCode c e) triggers) e old.eventFaultStatus

/-- The debounce timer fires once; the result is taken without another look at the
conditions for a report. -/
def timeBasedDebounceTimerHandler (s : Dem) (e : EventId) : Dem :=
  let old := s.event e
  match old.timerType with
  | .prefailed =>
    (updateOnFaultStatus c (s.setEvent e { old with
      timerRunning := false
      debounceCounter := maxFaultDetectionCounter
      eventFaultStatus := .failed }) e old.eventFaultStatus).1
  | .prepassed =>
    (updateOnFaultStatus c (s.setEvent e { old with
      timerRunning := false
      debounceCounter := minFaultDetectionCounter
      eventFaultStatus := .passed }) e old.eventFaultStatus).1
  | .unknown => s.setEvent e { old with timerRunning := false }

def fdcTimerHandler (s : Dem) (e : EventId) : Dem :=
  (s.setEvent e { s.event e with fdcTimerRunning := false }).trigger (dtcCode c e) [.fdcThreshold]

def startedEvent (debounce : Debounce) (ctx : EventCtx) : EventCtx :=
  { resetDebounceCounter debounce { ctx with eventFaultStatus := .unknown } with
    fdcTriggerFlag := false
    eventUdsStatus := startedStatus ctx.eventUdsStatus }

def stoppedEvent (ctx : EventCtx) : EventCtx :=
  { ctx with eventUdsStatus := stoppedStatus ctx.eventUdsStatus }

/-- One round of a loop over the events of a cycle: the event, then the bits of its DTC. -/
def updateEventAndDtc (onEvent : EventCtx → EventCtx)
    (onStatus : UdsStatus → UdsStatus) (s : Dem)
    (e : EventId) : Dem × LeResult :=
  let old := s.event e
  thenDo (storeEventIfChanged c (s.setEvent e (onEvent old)) e old.eventUdsStatus) fun s =>
  let d := dtcCode c e
  let old := s.dtc d
  storeDtcIfChanged (s.setDtc d { old with dtcStatus := onStatus old.dtcStatus }) d old

def startEvent (s : Dem) (e : EventId) : Dem × LeResult :=
  updateEventAndDtc c (startedEvent (c.event e).debounce) startedStatus s e

def stopEvent (s : Dem) (e : EventId) : Dem × LeResult :=
  updateEventAndDtc c stoppedEvent stoppedStatus s e

/-- The contexts of the events of a cycle, in their order. -/
def cycleEvents (cycle : CycleId) : List EventId :=
  (eventCtxList c).filter fun e => (c.event e).operationCycle = cycle

def startOperationCycle (s : Dem) (cycle : CycleId) : Dem × LeResult :=
  forEach (startEvent c) (cycleEvents c cycle) s

def stopOperationCycle (s : Dem) (cycle : CycleId) : Dem × LeResult :=
  forEach (stopEvent c) (cycleEvents c cycle) s

@[simps -fullyApplied event dtc db]
def Dem.setOperCycle (s : Dem) (cycle : CycleId) (state : OperationCycleState) : Dem :=
  { s with operCycle := Function.update s.operCycle cycle state }

def setOperCycleState (s : Dem) (cycle : CycleId) (state : OperationCycleState) : Dem × LeResult :=
  if ¬ cycle < maxNumOfOperCycle c then (s, .fault) else
  match state with
  | .restart =>
    if s.operCycle cycle = .start then
      thenDo (stopOperationCycle c s cycle) fun s => startOperationCycle c s cycle
    else (s, .fault)
  | .start =>
    if s.operCycle cycle ≠ .start then
      thenDo (startOperationCycle c s cycle) fun s => (s.setOperCycle cycle .start, .ok)
    else (s, .ok)
  | .stop =>
    if s.operCycle cycle ≠ .stop then
      thenDo (stopOperationCycle c s cycle) fun s => (s.setOperCycle cycle .stop, .ok)
    else (s, .ok)

/-- The enable status after a condition has changed, where the event depends on it; the
conditions joined by or are looked at last. -/
def newEnableStatus (conditions : EnableConditionData) (enableCond : UInt8 → Bool)
    (enableConditionId : UInt8) : Option Bool :=
  if enableConditionId ∈ conditions.orConditions then some (conditions.orConditions.any enableCond)
  else if enableConditionId ∈ conditions.andConditions then
    some (conditions.andConditions.all enableCond)
  else none

def enableEvent (entry : EventEntry) (enableCond : UInt8 → Bool) (enableConditionId : UInt8)
    (ctx : EventCtx) : EventCtx :=
  match newEnableStatus entry.enableCondition enableCond enableConditionId with
  | none => ctx
  | some status =>
    let ctx := { ctx with eventEnableStatus := status }
    if status = false ∧ ctx.debounceBehavior = .reset then resetDebounceCounter entry.debounce ctx
    else ctx

def setEventEnableStatus (s : Dem) (enableConditionId : UInt8) : Dem :=
  (eventCtxList c).foldl (fun t e =>
    t.setEvent e (enableEvent (c.event e) s.enableCond enableConditionId (t.event e))) s

def setEnableCondition (s : Dem) (enableConditionId : UInt8) (conditionFulfilled : Bool) : Dem :=
  setEventEnableStatus c
    { s with enableCond := Function.update s.enableCond enableConditionId conditionFulfilled }
    enableConditionId

def resetDebounceStatus (s : Dem) (e : EventId) (status : DebounceResetStatus) : Dem × LeResult :=
  if e ∉ eventCtxList c then (s, .fault) else
  let ctx := { s.event e with debounceBehavior := status }
  if status = .reset ∧ ctx.eventEnableStatus = false then
    (s.setEvent e (resetDebounceCounter (c.event e).debounce ctx), .ok)
  else (s.setEvent e ctx, .ok)

def clearedEvent (debounce : Debounce) (ctx : EventCtx) : EventCtx :=
  resetDebounceCounter debounce { ctx with
    eventUdsStatus := clearedStatus
    failureCounter := 0
    eventFaultStatus := .unknown }

def clearEvent (s : Dem) (e : EventId) : Dem :=
  (storeAndReportEventUdsStatus c
    (s.setEvent e (clearedEvent (c.event e).debounce (s.event e))) e).1

def clearDtcAndEventData (s : Dem) (d : DtcCode) : Dem :=
  (getEventNodes c d).foldl (clearEvent c)
    (storeAndReportDtcStatus
      (s.setDtc d { s.dtc d with dtcStatus := clearedStatus, occurrenceCounter := 0 }) d).1

/-- The database leaves suppressed DTCs alone, the loop over the contexts does not. -/
def clearAllDtc (s : Dem) : Dem × LeResult :=
  thenDo (s.store (·.deleteAllData c)) fun s =>
  ((dtcCtxList c).foldl (clearDtcAndEventData c) s, .ok)

def clearSingleDtc (s : Dem) (d : DtcCode) : Dem × LeResult :=
  if d ∉ dtcCtxList c then (s, .unsupported) else
  if (s.dtc d).suppressionStatus then (s, .unavailable) else
  thenDo (s.store (·.deleteData c d)) fun s =>
  (clearDtcAndEventData c s d, .ok)

def allDtcGroup : DtcCode := 0xFFFFFF

def clearDtc (s : Dem) (d : DtcCode) : Dem × LeResult :=
  if d = allDtcGroup then clearAllDtc c s else clearSingleDtc c s d

/-- The activation of a DTC in the database, then in the memory. -/
def setDtcSetting (s : Dem) (d : DtcCode) (activation : Bool) : Dem × LeResult :=
  if d ∉ dtcCtxList c then (s, .unsupported) else
  thenDo (s.store (·.writeActivationByDtc d activation)) fun s =>
  (s.setDtc d { s.dtc d with activationStatus := activation }, .ok)

def disableDtcSetting (s : Dem) (d : DtcCode) : Dem × LeResult := setDtcSetting c s d false
def enableDtcSetting (s : Dem) (d : DtcCode) : Dem × LeResult := setDtcSetting c s d true

def setDtcSuppression (s : Dem) (d : DtcCode) (suppressionStatus : Bool) : Dem × LeResult :=
  if d ∉ dtcCtxList c then (s, .unsupported) else
  thenDo (s.store (·.writeSuppressionByDtc d suppressionStatus)) fun s =>
  (s.setDtc d { s.dtc d with suppressionStatus := suppressionStatus }, .ok)

def updateAllDtcSuppressionStatus (s : Dem) (suppressionStatus : Bool) : Dem :=
  (dtcCtxList c).foldl
    (fun s d => s.setDtc d { s.dtc d with suppressionStatus := suppressionStatus }) s

def setAllDtcSuppression (s : Dem) (suppressionStatus : Bool) : Dem × LeResult :=
  thenDo (s.store (·.writeAllSuppression suppressionStatus)) fun s =>
  (updateAllDtcSuppressionStatus c s suppressionStatus, .ok)

/-- The contexts as initialised from the database. -/
def initDem (db : Database) : Dem where
  event := fun e =>
    { eventEnableStatus := false
      eventUdsStatus := db.getEventStatusByName (c.event e).mnemonic
      failureCounter := 0
      eventFaultStatus := .unknown
      debounceCounter := 0
      fdcTriggerFlag := false
      debounceBehavior := (c.event e).debounceBehavior
      timerRunning := false
      fdcTimerRunning := false
      timerType := .unknown }
  dtc := fun d =>
    { dtcStatus := db.readStatusByDtc d
      occurrenceCounter := db.readOccurrenceCounterByDtc d
      activationStatus := db.readActivationByDtc d
      suppressionStatus := db.readSuppressionByDtc d }
  operCycle := fun _ => .stop
  enableCond := fun _ => false
  db := db
  triggered := []

inductive Action where
  | setStatus (e : EventId) (eventStatus : StatusType)
  | debounceTimerExpires (e : EventId)
  | fdcTimerExpires (e : EventId)
  | setOperCycleState (cycle : CycleId) (state : OperationCycleState)
  | setEnableCondition (enableConditionId : UInt8) (conditionFulfilled : Bool)
  | resetDebounceStatus (e : EventId) (status : DebounceResetStatus)
  | clearDtc (d : DtcCode)
  | disableDtcSetting (d : DtcCode)
  | enableDtcSetting (d : DtcCode)
  | setDtcSuppression (d : DtcCode) (suppressionStatus : Bool)
  | setAllDtcSuppression (suppressionStatus : Bool)

def step (s : Dem) : Action → Option Dem
  | .setStatus e eventStatus => some (setStatusWithSupplierFaultCode c s e eventStatus).1
  | .debounceTimerExpires e =>
    if e ∈ eventCtxList c ∧ (s.event e).timerRunning then some (timeBasedDebounceTimerHandler c s e)
    else none
  | .fdcTimerExpires e =>
    if e ∈ eventCtxList c ∧ (s.event e).fdcTimerRunning then some (fdcTimerHandler c s e) else none
  | .setOperCycleState cycle state => some (setOperCycleState c s cycle state).1
  | .setEnableCondition id fulfilled => some (setEnableCondition c s id fulfilled)
  | .resetDebounceStatus e status => some (resetDebounceStatus c s e status).1
  | .clearDtc d => some (clearDtc c s d).1
  | .disableDtcSetting d => some (disableDtcSetting c s d).1
  | .enableDtcSetting d => some (enableDtcSetting c s d).1
  | .setDtcSuppression d suppressed => some (setDtcSuppression c s d suppressed).1
  | .setAllDtcSuppression suppressed => some (setAllDtcSuppression c s suppressed).1

end TelAF.EventServer
