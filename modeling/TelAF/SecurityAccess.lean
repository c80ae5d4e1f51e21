import TelAF.UdsIndications
import Mathlib.Logic.Function.Basic

/-!
# The security-access state machine

Each UDS manager owns one active object, whose four states are those of the
security-access annex of the UDS standard. It runs in a thread of its own and
processes one signal after the other: requests and responses that the main thread
hands over, session changes, and the expiry of the delay timer. A handler reads the
manager at the time of dispatch, not at the time of the report.

Sessions and levels are records that carry their position in the list of the
source, so that comparing two records is comparing two pointers. The attempt
counters are kept beside the levels, and `Tree` is the part of the configuration
tree in which they are persisted, by session and level identifier.

A failed assertion and the use of a missing active level end the process. Such a
dispatch is `aborted`; counters that it saved before stay saved.
-/

namespace TelAF.SecurityAccess

open DiagConfiguration UdsState UdsIndications

structure SecurityLevel where
  session : Nat
  position : Nat
  securityLevel : Nat
  attCntLimit : Nat
  staticSeed : Bool
  delayTimer : Nat
  keySize : Nat
  seedSize : Nat
deriving DecidableEq

structure SecuritySession where
  position : Nat
  sessionId : Nat
  levelList : List SecurityLevel
deriving DecidableEq

/-- The default session has an identifier of its own in the state machine. -/
abbrev secAccDefaultSessionId : Nat := 0xFF

/-- The sessions of one active object: those with a binding, then the default session.
Positions identify sessions, and every level lies in the session of its position. -/
structure SessionTable where
  bound : List SecuritySession
  positions : ∀ sess ∈ bound, sess.position < bound.length
  distinct : ∀ sess ∈ bound, ∀ other ∈ bound, sess.position = other.position → sess = other
  owned : ∀ sess ∈ bound, ∀ level ∈ sess.levelList, level.session = sess.position

namespace SessionTable
variable (T : SessionTable)

def defaultSession : SecuritySession := ⟨T.bound.length, secAccDefaultSessionId, []⟩

def sessionList : List SecuritySession := T.bound ++ [T.defaultSession]

/-- The first session of the list with the identifier. -/
def findSession (sessionId : Nat) : Option SecuritySession :=
  T.sessionList.find? fun sess => sess.sessionId == sessionId

end SessionTable

def bindingLevel (session position : Nat) (entry : SessionSecurLvlEntry) : SecurityLevel where
  session := session
  position := position
  securityLevel := entry.levelId % 2 ^ 16
  attCntLimit := entry.numFailedSecurityAccess
  staticSeed := entry.staticSeed
  delayTimer := entry.securityDelayTime % 2 ^ 16
  keySize := entry.keySize
  seedSize := entry.seedSize

def bindingSession (entry : SecurBindingEntry) (position : Nat) : SecuritySession where
  position := position
  sessionId := entry.sessionId % 2 ^ 8
  levelList := entry.securityLevel.mapIdx fun i level => bindingLevel position i level.2

def boundSessions (c : DiagConf) : List SecuritySession :=
  c.securBinding.mapIdx fun i binding => bindingSession binding.2 i

theorem mem_boundSessions {c : DiagConf} {sess : SecuritySession} :
    sess ∈ boundSessions c ↔
      ∃ (i : Nat) (h : i < c.securBinding.length), bindingSession c.securBinding[i].2 i = sess := by
  exact List.mem_mapIdx

/-- The sessions that the constructor of the active object creates. -/
def sessionTable (c : DiagConf) : SessionTable where
  bound := boundSessions c
  positions := by
    intro sess hsess
    obtain ⟨i, hi, rfl⟩ := mem_boundSessions.1 hsess
    simpa [boundSessions, bindingSession] using hi
  distinct := by
    intro sess hsess other hoth hpos
    obtain ⟨i, hi, rfl⟩ := mem_boundSessions.1 hsess
    obtain ⟨j, hj, rfl⟩ := mem_boundSessions.1 hoth
    have hij : i = j := hpos
    subst hij
    rfl
  owned := by
    intro sess hsess level hlvl
    obtain ⟨i, hi, rfl⟩ := mem_boundSessions.1 hsess
    obtain ⟨j, hj, rfl⟩ := List.mem_mapIdx.1 hlvl
    rfl

inductive SecAccState where
  | lockedNoActiveSeed
  | lockedWaitingForKey
  | unlockedNoActiveSeed
  | unlockedWaitingForKey

/-- Persisted attempt counters by session and level identifier. -/
abbrev Tree := Nat × Nat → Nat

structure ActiveObject where
  state : SecAccState
  currentSession : SecuritySession
  activeLevel : Nat → Option SecurityLevel
  unlockedLevel : Nat → Option SecurityLevel
  attCnt : SecurityLevel → Nat
  lastPendingSessionId : Nat
  lastPendingSignal : Option SecAccSignal
  /-- The interval of the delay timer in milliseconds, while it runs. -/
  delayTimer : Option Nat

/-- How a handler answers the thread that reported the signal. -/
inductive Reply where
  | responseNRC (nrc : UInt8)
  | allZeroSeed (seedByteSize : Nat)
  | setResponseNRC (nrc : UInt8)
  | posted
  | ignored
deriving DecidableEq

inductive AbortReason where
  | assertion
  | missingActiveLevel
deriving DecidableEq

inductive DispatchResult where
  | done (ao : ActiveObject) (tree : Tree) (reply : Reply)
  | aborted (tree : Tree) (reason : AbortReason)

namespace ActiveObject
variable (ao : ActiveObject)

def active : Option SecurityLevel := ao.activeLevel ao.currentSession.position

def unlocked : Option SecurityLevel := ao.unlockedLevel ao.currentSession.position

def setActive (level : Option SecurityLevel) : ActiveObject :=
  { ao with activeLevel := Function.update ao.activeLevel ao.currentSession.position level }

def setUnlocked (level : Option SecurityLevel) : ActiveObject :=
  { ao with unlockedLevel := Function.update ao.unlockedLevel ao.currentSession.position level }

def setAttCnt (level : SecurityLevel) (n : Nat) : ActiveObject :=
  { ao with attCnt := Function.update ao.attCnt level n }

def translate (state : SecAccState) : ActiveObject := { ao with state := state }

def lockCurrentSession : ActiveObject := ao.setUnlocked none

def deactivateAndLock : ActiveObject := (ao.setActive none).lockCurrentSession

def triggerDelayTimer (level : SecurityLevel) : ActiveObject :=
  { ao with delayTimer := some (level.delayTimer * 1000) }

/-- `SaveAttCntToTree` for the active level. -/
def saveAttCntToTree (level : SecurityLevel) (tree : Tree) : Tree :=
  Function.update tree (ao.currentSession.sessionId, level.securityLevel) (ao.attCnt level)

end ActiveObject

variable (T : SessionTable) (ao : ActiveObject) (tree : Tree) (m : UdsManager)

/-- The requested sub-function without the suppress bit. -/
def secAccType : Nat := (m.recvSubFunc &&& 0x7F).toNat

/-- The counters of all levels are loaded from the tree. -/
def loadAttCnt (level : SecurityLevel) : Nat :=
  match T.bound.find? fun sess => sess.position == level.session with
  | some sess => tree (sess.sessionId, level.securityLevel)
  | none => 0

/-- The active object after its creation in a process that finds the tree. -/
def stateInitial : ActiveObject where
  state := .lockedNoActiveSeed
  currentSession := T.defaultSession
  activeLevel := fun _ => none
  unlockedLevel := fun _ => none
  attCnt := loadAttCnt T tree
  lastPendingSessionId := secAccDefaultSessionId
  lastPendingSignal := none
  delayTimer := none

/-- The session is configured and lists the requested sub-function. -/
def preConditionIsNotFulfilled : Bool :=
  if m.sessionType = defaultSession then true
  else
    match T.findSession m.sessionType.toNat with
    | some sess => !sess.levelList.any fun level => level.securityLevel == secAccType m
    | none => true

/-- The first level in list order whose counter stands at its limit. -/
def levelAtLimit : Option (SecuritySession × SecurityLevel) :=
  (T.sessionList.flatMap fun sess => sess.levelList.map fun level => (sess, level)).find?
    fun pair => ao.attCnt pair.2 == pair.2.attCntLimit

/-- `none` where the delay timer has expired. A timer that was lost in a restart is
started again for the level at its limit, which becomes active for this purpose. -/
def delayTimerIsNotExpired : Option ActiveObject :=
  if ao.delayTimer.isSome then some ao
  else
    match levelAtLimit T ao with
    | some (sess, level) =>
      some ((({ ao with currentSession := sess } : ActiveObject).setActive
        (some level)).triggerDelayTimer level)
    | none => none

/-- `none` where the assertions behind the search fail. A level that is found becomes
active in the session that was current before. -/
def activateSubfunction : Option ActiveObject :=
  let activated :=
    match T.findSession m.sessionType.toNat with
    | none => ao
    | some sess =>
      let found :=
        match sess.levelList.find? fun level => level.securityLevel == secAccType m with
        | some level => ao.setActive (some level)
        | none => ao
      { found with currentSession := sess }
  if activated.active.isSome then some activated else none

def requestedSubFunctionIsStaticSeed (sig : SecAccSignal) : Bool :=
  let subFunction :=
    match sig with
    | .requestSeedResponse => m.recvSubFunc &&& 0x7F
    | .sendKeyResponse => (m.recvSubFunc &&& 0x7F) - 1
    | _ => 0
  match ao.currentSession.levelList.find? fun level => level.securityLevel == subFunction.toNat with
  | some level => level.staticSeed
  | none => false

def requestedLevelIsUnlocked : Bool :=
  match ao.unlocked with
  | some level => level.securityLevel == secAccType m
  | none => false

/-- The session that a session-change signal switches to; `none` fails an assertion. -/
def eventSession (sig : SecAccSignal) : Option SecuritySession :=
  if sig = .sessionTimeout ∨ m.sessionType = defaultSession then some T.defaultSession
  else T.findSession m.sessionType.toNat

def pendingSession : Option SecuritySession :=
  if ao.lastPendingSessionId = defaultSession.toNat then some T.defaultSession
  else T.findSession ao.lastPendingSessionId

def markLastPendingSession (sig : SecAccSignal) : ActiveObject :=
  { ao with
    lastPendingSignal := some sig
    lastPendingSessionId :=
      if sig = .sessionControl then m.sessionType.toNat else secAccDefaultSessionId }

def seedByteSize (seedBitSize : Nat) : Nat :=
  if seedBitSize % 8 ≠ 0 then seedBitSize / 8 + 1 else seedBitSize / 8

/-- The answer to a seed request for the level that is unlocked; its size is read from
the active level. -/
def responseAllZeroSeed (next : SecAccState) : DispatchResult :=
  match ao.active with
  | some level => .done (ao.translate next) tree (.allZeroSeed (seedByteSize level.seedSize))
  | none => .aborted tree .missingActiveLevel

/-- A positive answer to a seed request, in a state that waits for the key afterwards. -/
def activateSeed (next : SecAccState) : DispatchResult :=
  match activateSubfunction T ao m with
  | some activated => .done (activated.translate next) tree (.setResponseNRC positiveResponse)
  | none => .aborted tree .assertion

/-- A positive answer to a seed request while a seed is active. -/
def renewSeed (next : SecAccState) : DispatchResult :=
  if requestedSubFunctionIsStaticSeed ao m .requestSeedResponse then
    match ao.active with
    | none => .aborted tree .missingActiveLevel
    | some level =>
      if level.securityLevel = secAccType m then
        .done (ao.translate next) tree (.setResponseNRC positiveResponse)
      else activateSeed T ao tree m next
  else activateSeed T ao tree m next

/-- A key while a seed is active; `rejected` is the state after a refusal. -/
def sendKeyWaiting (waiting rejected : SecAccState) : DispatchResult :=
  if m.recvDataLen < 3 then
    .done (ao.translate rejected) tree (.responseNRC incorrectMsgLenOrInvalidFormat)
  else
    match ao.active with
    | none => .aborted tree .assertion
    | some level =>
      if secAccType m ≠ level.securityLevel + 1 then
        .done (ao.translate rejected) tree (.responseNRC reqSequenceError)
      else .done (ao.translate waiting) tree (.responseNRC positiveResponse)

/-- An invalid key counts; the attempt that reaches the limit starts the delay timer. -/
def keyIsNok (rejected : SecAccState) : DispatchResult :=
  match ao.active with
  | none => .aborted tree .missingActiveLevel
  | some level =>
    if ao.attCnt level + 1 ≥ level.attCntLimit then
      let limited := ao.setAttCnt level level.attCntLimit
      .done ((limited.triggerDelayTimer level).translate rejected)
        (limited.saveAttCntToTree level tree) (.setResponseNRC exceededNumberOfAttempts)
    else
      let counted := ao.setAttCnt level (ao.attCnt level + 1)
      .done (counted.translate rejected) (counted.saveAttCntToTree level tree)
        (.setResponseNRC invalidKey)

/-- The counter of a level whose key was right, and the tree after it. -/
def clearAttempts (level : SecurityLevel) : ActiveObject × Tree :=
  if ao.attCnt level ≠ 0 then
    let cleared := ao.setAttCnt level 0
    (cleared, cleared.saveAttCntToTree level tree)
  else (ao, tree)

def unlockCurrentSecLevel : DispatchResult :=
  match ao.active with
  | none => .aborted tree .missingActiveLevel
  | some level =>
    let (cleared, saved) := clearAttempts ao tree level
    .done ((cleared.setUnlocked (some level)).translate .unlockedNoActiveSeed) saved
      (.setResponseNRC positiveResponse)

def unlockRequestedSecLevelAndLockOthers : DispatchResult :=
  match ao.active with
  | none => .aborted tree .missingActiveLevel
  | some level =>
    let (cleared, saved) := clearAttempts ao tree level
    match cleared.unlocked with
    | none => .aborted saved .assertion
    | some old =>
      let switched :=
        if level ≠ old then (cleared.setUnlocked (some level)).setActive none else cleared
      .done (switched.translate .unlockedNoActiveSeed) saved (.setResponseNRC positiveResponse)

/-- The application answered a key; `accepted` handles a right one. -/
def sendKeyAnswered (rejected : SecAccState) (accepted : DispatchResult) : DispatchResult :=
  if m.nrcCode = invalidKey then keyIsNok ao tree rejected
  else if m.nrcCode ≠ positiveResponse then
    .done (ao.translate rejected) tree (.setResponseNRC m.nrcCode)
  else accepted

/-- Expiry of the delay timer without an active seed. -/
def delayTimerExpired : DispatchResult :=
  match ao.active with
  | none => .aborted tree .missingActiveLevel
  | some level =>
    let cleared := ao.setAttCnt level 0
    let saved := cleared.saveAttCntToTree level tree
    if ao.lastPendingSignal.isSome then
      match pendingSession T ao with
      | none => .aborted saved .assertion
      | some sess =>
        .done { cleared.deactivateAndLock with
            currentSession := sess
            state := .lockedNoActiveSeed
            lastPendingSignal := none
            lastPendingSessionId := secAccDefaultSessionId } saved .ignored
    else .done cleared saved .ignored

/-- Leave the current session for the one of a session-change signal. -/
def switchSession (sig : SecAccSignal) : DispatchResult :=
  match eventSession T m sig with
  | none => .aborted tree .assertion
  | some sess =>
    .done { ao.deactivateAndLock with
        currentSession := sess
        state := .lockedNoActiveSeed } tree .posted

/-- A session-change signal without an active seed waits for the delay timer; `lock` is
what the unlocked state does with its level meanwhile. -/
def changeSessionNoActiveSeed (sig : SecAccSignal) (lock : ActiveObject → ActiveObject) :
    DispatchResult :=
  match delayTimerIsNotExpired T ao with
  | some delayed => .done (lock (markLastPendingSession delayed m sig)) tree .posted
  | none => switchSession T ao tree m sig

def stateLockedNoActiveSeed (sig : SecAccSignal) : DispatchResult :=
  match sig with
  | .requestSeed =>
    if m.recvDataLen < 2 then .done ao tree (.responseNRC incorrectMsgLenOrInvalidFormat)
    else
      match delayTimerIsNotExpired T ao with
      | some delayed => .done delayed tree (.responseNRC requiredTimeDelayNotExpired)
      | none =>
        if preConditionIsNotFulfilled T m then .done ao tree (.responseNRC conditionsNotCorrect)
        else .done ao tree (.responseNRC positiveResponse)
  | .requestSeedResponse =>
    if m.nrcCode = positiveResponse then activateSeed T ao tree m .lockedWaitingForKey
    else .done ao tree (.setResponseNRC m.nrcCode)
  | .sendKey => .done ao tree (.responseNRC reqSequenceError)
  | .sendKeyResponse => .done ao tree .ignored
  | .delayTimerExpired => delayTimerExpired T ao tree
  | .sessionControl => changeSessionNoActiveSeed T ao tree m sig id
  | .sessionTimeout => changeSessionNoActiveSeed T ao tree m sig id

def stateLockedWaitingForKey (sig : SecAccSignal) : DispatchResult :=
  match sig with
  | .requestSeed =>
    if m.recvDataLen < 2 then
      .done (ao.translate .lockedNoActiveSeed) tree (.responseNRC incorrectMsgLenOrInvalidFormat)
    else .done ao tree (.responseNRC positiveResponse)
  | .requestSeedResponse =>
    if m.nrcCode = positiveResponse then renewSeed T ao tree m .lockedWaitingForKey
    else .done (ao.translate .lockedNoActiveSeed) tree (.setResponseNRC m.nrcCode)
  | .sendKey => sendKeyWaiting ao tree m .lockedWaitingForKey .lockedNoActiveSeed
  | .sendKeyResponse =>
    sendKeyAnswered ao tree m .lockedNoActiveSeed (unlockCurrentSecLevel ao tree)
  | .delayTimerExpired => .done ao tree .ignored
  | .sessionControl => switchSession T ao tree m sig
  | .sessionTimeout => switchSession T ao tree m sig

def stateUnlockedNoActiveSeed (sig : SecAccSignal) : DispatchResult :=
  match sig with
  | .requestSeed =>
    if m.recvDataLen < 2 then .done ao tree (.responseNRC incorrectMsgLenOrInvalidFormat)
    else if preConditionIsNotFulfilled T m then .done ao tree (.responseNRC conditionsNotCorrect)
    else
      match delayTimerIsNotExpired T ao with
      | some delayed => .done delayed tree (.responseNRC requiredTimeDelayNotExpired)
      | none =>
        if requestedLevelIsUnlocked ao m then responseAllZeroSeed ao tree .unlockedNoActiveSeed
        else .done ao tree (.responseNRC positiveResponse)
  | .requestSeedResponse =>
    if m.nrcCode = positiveResponse then activateSeed T ao tree m .unlockedWaitingForKey
    else .done ao tree (.setResponseNRC m.nrcCode)
  | .sendKey => .done ao tree (.responseNRC reqSequenceError)
  | .sendKeyResponse => .done ao tree .ignored
  | .delayTimerExpired => delayTimerExpired T ao tree
  | .sessionControl => changeSessionNoActiveSeed T ao tree m sig ActiveObject.lockCurrentSession
  | .sessionTimeout => changeSessionNoActiveSeed T ao tree m sig ActiveObject.lockCurrentSession

def stateUnlockedWaitingForKey (sig : SecAccSignal) : DispatchResult :=
  match sig with
  | .requestSeed =>
    if m.recvDataLen < 2 then
      .done (ao.translate .unlockedNoActiveSeed) tree
        (.responseNRC incorrectMsgLenOrInvalidFormat)
    else if requestedLevelIsUnlocked ao m then responseAllZeroSeed ao tree .unlockedNoActiveSeed
    else .done ao tree (.responseNRC positiveResponse)
  | .requestSeedResponse =>
    if m.nrcCode = positiveResponse then renewSeed T ao tree m .unlockedWaitingForKey
    else .done (ao.translate .unlockedNoActiveSeed) tree (.setResponseNRC m.nrcCode)
  | .sendKey => sendKeyWaiting ao tree m .unlockedWaitingForKey .unlockedNoActiveSeed
  | .sendKeyResponse =>
    sendKeyAnswered ao tree m .unlockedNoActiveSeed (unlockRequestedSecLevelAndLockOthers ao tree)
  | .delayTimerExpired => .done ao tree .ignored
  | .sessionControl => switchSession T ao tree m sig
  | .sessionTimeout => switchSession T ao tree m sig

def dispatch (sig : SecAccSignal) : DispatchResult :=
  match ao.state with
  | .lockedNoActiveSeed => stateLockedNoActiveSeed T ao tree m sig
  | .lockedWaitingForKey => stateLockedWaitingForKey T ao tree m sig
  | .unlockedNoActiveSeed => stateUnlockedNoActiveSeed T ao tree m sig
  | .unlockedWaitingForKey => stateUnlockedWaitingForKey T ao tree m sig

end TelAF.SecurityAccess
