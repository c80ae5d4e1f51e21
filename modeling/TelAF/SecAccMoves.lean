import TelAF.SecurityAccess

/-!
# What one dispatch of the security-access state machine can do

`Move` lists the effects of a dispatch that ends, with the conditions under which
each of them occurs, and `Abort` lists the ways in which a dispatch ends the process.
`dispatch_move` and `dispatch_abort` are the only results that unfold the handlers;
every invariant of the state machine is a case analysis of these relations.
-/

namespace TelAF.SecAccMoves

open DiagConfiguration UdsState UdsIndications SecurityAccess

end TelAF.SecAccMoves

namespace TelAF.SecurityAccess.SecAccState

def isWaiting : SecAccState → Bool
  | .lockedNoActiveSeed => false
  | .lockedWaitingForKey => true
  | .unlockedNoActiveSeed => false
  | .unlockedWaitingForKey => true

/-- The state of the same lock without a seed. -/
def withoutSeed : SecAccState → SecAccState
  | .lockedNoActiveSeed => .lockedNoActiveSeed
  | .lockedWaitingForKey => .lockedNoActiveSeed
  | .unlockedNoActiveSeed => .unlockedNoActiveSeed
  | .unlockedWaitingForKey => .unlockedNoActiveSeed

/-- The state of the same lock that waits for a key. -/
def withSeed : SecAccState → SecAccState
  | .lockedNoActiveSeed => .lockedWaitingForKey
  | .lockedWaitingForKey => .lockedWaitingForKey
  | .unlockedNoActiveSeed => .unlockedWaitingForKey
  | .unlockedWaitingForKey => .unlockedWaitingForKey

@[simp] theorem isWaiting_withoutSeed (s : SecAccState) : s.withoutSeed.isWaiting = false := by
  cases s <;> rfl

end TelAF.SecurityAccess.SecAccState

namespace TelAF.SecAccMoves

open DiagConfiguration UdsState UdsIndications SecurityAccess

section
variable (T : SessionTable) (ao : ActiveObject) (tree : Tree) (m : UdsManager)

inductive Move : SecAccSignal → ActiveObject → Tree → Reply → Prop
  | refused (sig : SecAccSignal) (next : SecAccState) (nrc : UInt8)
      (hsig : sig = .requestSeed ∨ sig = .sendKey)
      (hnext : next = ao.state ∨ next = ao.state.withoutSeed) (hnrc : nrc ≠ positiveResponse) :
      Move sig (ao.translate next) tree (.responseNRC nrc)
  | delayed (after : ActiveObject) (hst : ao.state.isWaiting = false)
      (hdly : delayTimerIsNotExpired T ao = some after) :
      Move .requestSeed after tree (.responseNRC requiredTimeDelayNotExpired)
  | zeroSeed (level open_ : SecurityLevel) (hact : ao.active = some level)
      (hopen : ao.unlocked = some open_) (htype : open_.securityLevel = secAccType m)
      (hnext : ao.state.withoutSeed = .unlockedNoActiveSeed) :
      Move .requestSeed (ao.translate .unlockedNoActiveSeed) tree
        (.allZeroSeed (seedByteSize level.seedSize))
  | seedForwarded (hadmitted : ao.state.isWaiting = true ∨
        delayTimerIsNotExpired T ao = none ∧ preConditionIsNotFulfilled T m = false) :
      Move .requestSeed ao tree (.responseNRC positiveResponse)
  | keyForwarded (level : SecurityLevel) (hst : ao.state.isWaiting = true)
      (hact : ao.active = some level) (htype : secAccType m = level.securityLevel + 1) :
      Move .sendKey ao tree (.responseNRC positiveResponse)
  | answerRefused (sig : SecAccSignal) (next : SecAccState)
      (hsig : sig = .requestSeedResponse ∨ sig = .sendKeyResponse)
      (hnext : next = ao.state.withoutSeed) (hnrc : m.nrcCode ≠ positiveResponse) :
      Move sig (ao.translate next) tree (.setResponseNRC m.nrcCode)
  | seedActivated (activated : ActiveObject) (hnrc : m.nrcCode = positiveResponse)
      (hactv : activateSubfunction T ao m = some activated) :
      Move .requestSeedResponse (activated.translate ao.state.withSeed) tree
        (.setResponseNRC positiveResponse)
  | seedRenewed (level : SecurityLevel) (hnrc : m.nrcCode = positiveResponse)
      (hst : ao.state.isWaiting = true) (hact : ao.active = some level)
      (htype : level.securityLevel = secAccType m) :
      Move .requestSeedResponse ao tree (.setResponseNRC positiveResponse)
  | keyCounted (level : SecurityLevel) (hnrc : m.nrcCode = invalidKey)
      (hst : ao.state.isWaiting = true) (hact : ao.active = some level)
      (hcnt : ao.attCnt level + 1 < level.attCntLimit) :
      Move .sendKeyResponse
        ((ao.setAttCnt level (ao.attCnt level + 1)).translate ao.state.withoutSeed)
        ((ao.setAttCnt level (ao.attCnt level + 1)).saveAttCntToTree level tree)
        (.setResponseNRC invalidKey)
  | keyLimited (level : SecurityLevel) (hnrc : m.nrcCode = invalidKey)
      (hst : ao.state.isWaiting = true) (hact : ao.active = some level)
      (hcnt : ao.attCnt level + 1 ≥ level.attCntLimit) :
      Move .sendKeyResponse
        (((ao.setAttCnt level level.attCntLimit).triggerDelayTimer level).translate
          ao.state.withoutSeed)
        ((ao.setAttCnt level level.attCntLimit).saveAttCntToTree level tree)
        (.setResponseNRC exceededNumberOfAttempts)
  | keyAccepted (level : SecurityLevel) (hnrc : m.nrcCode = positiveResponse)
      (hst : ao.state = .lockedWaitingForKey) (hact : ao.active = some level) :
      Move .sendKeyResponse
        (((clearAttempts ao tree level).1.setUnlocked (some level)).translate
          .unlockedNoActiveSeed)
        (clearAttempts ao tree level).2 (.setResponseNRC positiveResponse)
  | keyAcceptedAgain (level old : SecurityLevel) (hnrc : m.nrcCode = positiveResponse)
      (hst : ao.state = .unlockedWaitingForKey) (hact : ao.active = some level)
      (hopen : (clearAttempts ao tree level).1.unlocked = some old) :
      Move .sendKeyResponse
        ((if level ≠ old then
            ((clearAttempts ao tree level).1.setUnlocked (some level)).setActive none
          else (clearAttempts ao tree level).1).translate .unlockedNoActiveSeed)
        (clearAttempts ao tree level).2 (.setResponseNRC positiveResponse)
  | ignored (sig : SecAccSignal)
      (hsig : sig = .sendKeyResponse ∧ ao.state.isWaiting = false ∨
        sig = .delayTimerExpired ∧ ao.state.isWaiting = true) :
      Move sig ao tree .ignored
  | delayReset (level : SecurityLevel) (hst : ao.state.isWaiting = false)
      (hact : ao.active = some level) (hpend : ao.lastPendingSignal = none) :
      Move .delayTimerExpired (ao.setAttCnt level 0)
        ((ao.setAttCnt level 0).saveAttCntToTree level tree) .ignored
  | delaySwitched (level : SecurityLevel) (sess : SecuritySession)
      (hst : ao.state.isWaiting = false) (hact : ao.active = some level)
      (hpend : ao.lastPendingSignal.isSome = true)
      (hsess : pendingSession T ao = some sess) :
      Move .delayTimerExpired
        { (ao.setAttCnt level 0).deactivateAndLock with
          currentSession := sess
          state := .lockedNoActiveSeed
          lastPendingSignal := none
          lastPendingSessionId := secAccDefaultSessionId }
        ((ao.setAttCnt level 0).saveAttCntToTree level tree) .ignored
  | sessionMarked (sig : SecAccSignal) (after : ActiveObject)
      (hsig : sig = .sessionControl ∨ sig = .sessionTimeout)
      (hdly : delayTimerIsNotExpired T ao = some after) :
      ao.state = .lockedNoActiveSeed →
      Move sig (markLastPendingSession after m sig) tree .posted
  | sessionMarkedLocked (sig : SecAccSignal) (after : ActiveObject)
      (hsig : sig = .sessionControl ∨ sig = .sessionTimeout)
      (hdly : delayTimerIsNotExpired T ao = some after) :
      ao.state = .unlockedNoActiveSeed →
      Move sig (markLastPendingSession after m sig).lockCurrentSession tree .posted
  | sessionSwitched (sig : SecAccSignal) (sess : SecuritySession)
      (hsig : sig = .sessionControl ∨ sig = .sessionTimeout)
      (hdly : ao.state.isWaiting = true ∨ delayTimerIsNotExpired T ao = none)
      (hsess : eventSession T m sig = some sess) :
      Move sig { ao.deactivateAndLock with
          currentSession := sess
          state := .lockedNoActiveSeed } tree .posted

inductive Abort : SecAccSignal → Tree → AbortReason → Prop
  | seedNotActivated (hnrc : m.nrcCode = positiveResponse)
      (hactv : activateSubfunction T ao m = none) :
      Abort .requestSeedResponse tree .assertion
  | renewedNoLevel (hnrc : m.nrcCode = positiveResponse) (hst : ao.state.isWaiting = true)
      (hact : ao.active = none) :
      Abort .requestSeedResponse tree .missingActiveLevel
  | keyNoLevel (hst : ao.state.isWaiting = true) (hact : ao.active = none) :
      Abort .sendKey tree .assertion
  | keyAnsweredNoLevel (hst : ao.state.isWaiting = true) (hact : ao.active = none) :
      Abort .sendKeyResponse tree .missingActiveLevel
  | keyAnsweredLocked (level : SecurityLevel) (hst : ao.state = .unlockedWaitingForKey)
      (hact : ao.active = some level) (hopen : (clearAttempts ao tree level).1.unlocked = none) :
      Abort .sendKeyResponse (clearAttempts ao tree level).2 .assertion
  | zeroSeedNoLevel (open_ : SecurityLevel) (hnext : ao.state.withoutSeed = .unlockedNoActiveSeed)
      (hopen : ao.unlocked = some open_) (htype : open_.securityLevel = secAccType m)
      (hact : ao.active = none) :
      Abort .requestSeed tree .missingActiveLevel
  | delayNoLevel (hst : ao.state.isWaiting = false) (hact : ao.active = none) :
      Abort .delayTimerExpired tree .missingActiveLevel
  | delayNoSession (level : SecurityLevel) (hst : ao.state.isWaiting = false)
      (hact : ao.active = some level) (hpend : ao.lastPendingSignal.isSome = true)
      (hsess : pendingSession T ao = none) :
      Abort .delayTimerExpired ((ao.setAttCnt level 0).saveAttCntToTree level tree) .assertion
  | noSession (sig : SecAccSignal) (hsig : sig = .sessionControl ∨ sig = .sessionTimeout)
      (hdly : ao.state.isWaiting = true ∨ delayTimerIsNotExpired T ao = none)
      (hsess : eventSession T m sig = none) :
      Abort sig tree .assertion

end

/-- A dispatch ends with a move, or the process ends with an abort. -/
def Outcome (T : SessionTable) (ao : ActiveObject) (tree : Tree) (m : UdsManager)
    (sig : SecAccSignal) : DispatchResult → Prop
  | .done ao' tree' reply => Move T ao tree m sig ao' tree' reply
  | .aborted tree' reason => Abort T ao tree m sig tree' reason

variable {T : SessionTable} {ao : ActiveObject} {tree : Tree} {m : UdsManager} {next : SecAccState}

theorem activateSeed_outcome (hnrc : m.nrcCode = positiveResponse)
    (hnext : next = ao.state.withSeed) :
    Outcome T ao tree m .requestSeedResponse (activateSeed T ao tree m next) := by
  subst hnext
  unfold activateSeed
  cases hactv : activateSubfunction T ao m with
  | none => exact .seedNotActivated hnrc hactv
  | some activated => exact .seedActivated activated hnrc hactv

theorem renewSeed_outcome (hnrc : m.nrcCode = positiveResponse)
    (hst : ao.state.isWaiting = true) (hnext : next = ao.state) :
    Outcome T ao tree m .requestSeedResponse (renewSeed T ao tree m next) := by
  subst hnext
  have hkeep : ao.state = ao.state.withSeed := by
    cases hs : ao.state <;> rw [hs] at hst <;> first | rfl | cases hst
  unfold renewSeed
  split_ifs with hstatic
  · rcases hact : ao.active with _ | level
    · exact .renewedNoLevel hnrc hst hact
    dsimp only
    split_ifs with htype
    · exact .seedRenewed level hnrc hst hact htype
    · exact activateSeed_outcome hnrc hkeep
  · exact activateSeed_outcome hnrc hkeep

variable {rejected : SecAccState}

theorem sendKeyWaiting_outcome (hst : ao.state.isWaiting = true) {waiting : SecAccState}
    (hwait : waiting = ao.state) (hrej : rejected = ao.state.withoutSeed) :
    Outcome T ao tree m .sendKey (sendKeyWaiting ao tree m waiting rejected) := by
  subst hwait hrej
  unfold sendKeyWaiting
  split_ifs with hlen
  · exact .refused .sendKey _ _ (.inr rfl) (.inr rfl) (by decide)
  rcases hact : ao.active with _ | level
  · exact .keyNoLevel hst hact
  dsimp only
  split_ifs with htype
  · exact .refused .sendKey _ _ (.inr rfl) (.inr rfl) (by decide)
  · exact .keyForwarded level hst hact (not_not.1 htype)

theorem sendKeyAnswered_outcome (hst : ao.state.isWaiting = true)
    (hrej : rejected = ao.state.withoutSeed) {accepted : DispatchResult}
    (haccd : m.nrcCode = positiveResponse → Outcome T ao tree m .sendKeyResponse accepted) :
    Outcome T ao tree m .sendKeyResponse (sendKeyAnswered ao tree m rejected accepted) := by
  subst hrej
  unfold sendKeyAnswered
  split_ifs with hinv hrefu
  · unfold keyIsNok
    rcases hact : ao.active with _ | level
    · exact .keyAnsweredNoLevel hst hact
    dsimp only
    split_ifs with hcnt
    · exact .keyLimited level hinv hst hact hcnt
    · exact .keyCounted level hinv hst hact (by omega)
  · exact .answerRefused .sendKeyResponse _ (.inr rfl) rfl hrefu
  · exact haccd (not_not.1 hrefu)

theorem delayTimerExpired_outcome (hst : ao.state.isWaiting = false) :
    Outcome T ao tree m .delayTimerExpired (delayTimerExpired T ao tree) := by
  unfold delayTimerExpired
  rcases hact : ao.active with _ | level
  · exact .delayNoLevel hst hact
  split_ifs with hpend
  · cases hsess : pendingSession T ao with
    | none => exact .delayNoSession level hst hact hpend hsess
    | some sess => exact .delaySwitched level sess hst hact hpend hsess
  · exact .delayReset level hst hact (by simpa using hpend)

variable {sig : SecAccSignal}

section

variable (hsig : sig = .sessionControl ∨ sig = .sessionTimeout)
include hsig

theorem switchSession_outcome
    (hdly : ao.state.isWaiting = true ∨ delayTimerIsNotExpired T ao = none) :
    Outcome T ao tree m sig (switchSession T ao tree m sig) := by
  unfold switchSession
  cases hsess : eventSession T m sig with
  | none => exact .noSession sig hsig hdly hsess
  | some sess => exact .sessionSwitched sig sess hsig hdly hsess

theorem changeSession_outcome {lock : ActiveObject → ActiveObject}
    (hmrk : ∀ after, delayTimerIsNotExpired T ao = some after →
      Move T ao tree m sig (lock (markLastPendingSession after m sig)) tree .posted) :
    Outcome T ao tree m sig (changeSessionNoActiveSeed T ao tree m sig lock) := by
  unfold changeSessionNoActiveSeed
  cases hdly : delayTimerIsNotExpired T ao with
  | some after => exact hmrk after hdly
  | none => exact switchSession_outcome hsig (.inr hdly)

end

theorem responseAllZeroSeed_outcome {open_ : SecurityLevel} (hopen : ao.unlocked = some open_)
    (htype : open_.securityLevel = secAccType m)
    (hnext : ao.state.withoutSeed = .unlockedNoActiveSeed) :
    Outcome T ao tree m .requestSeed (responseAllZeroSeed ao tree .unlockedNoActiveSeed) := by
  unfold responseAllZeroSeed
  cases hact : ao.active with
  | none => exact .zeroSeedNoLevel open_ hnext hopen htype hact
  | some level => exact .zeroSeed level open_ hact hopen htype hnext

theorem requestedLevelIsUnlocked_iff :
    requestedLevelIsUnlocked ao m = true ↔
      ∃ level, ao.unlocked = some level ∧ level.securityLevel = secAccType m := by
  unfold requestedLevelIsUnlocked
  cases ao.unlocked <;> simp

theorem refused_same (sig : SecAccSignal)
    (hsig : sig = .requestSeed ∨ sig = .sendKey) {nrc : UInt8}
    (hnrc : nrc ≠ positiveResponse) : Move T ao tree m sig ao tree (.responseNRC nrc) :=
  .refused sig ao.state nrc hsig (.inl rfl) hnrc

theorem stateLockedNoActiveSeed_outcome (hst : ao.state = .lockedNoActiveSeed)
    (sig : SecAccSignal) : Outcome T ao tree m sig (stateLockedNoActiveSeed T ao tree m sig) := by
  have hidle : ao.state.isWaiting = false := by rw [hst]; rfl
  cases sig with
  | requestSeed =>
    unfold stateLockedNoActiveSeed
    by_cases hlen : m.recvDataLen < 2
    · rw [if_pos hlen]
      exact refused_same .requestSeed (.inl rfl) (by decide)
    rw [if_neg hlen]
    cases hdly : delayTimerIsNotExpired T ao with
    | some after => exact .delayed after hidle hdly
    | none =>
      dsimp only
      split_ifs with hpre
      · exact refused_same .requestSeed (.inl rfl) (by decide)
      · exact .seedForwarded (.inr ⟨hdly, by simpa using hpre⟩)
  | requestSeedResponse =>
    unfold stateLockedNoActiveSeed
    dsimp only
    split_ifs with hnrc
    · exact activateSeed_outcome hnrc (by rw [hst]; rfl)
    · exact .answerRefused .requestSeedResponse ao.state (.inl rfl) (by rw [hst]; rfl) hnrc
  | sendKey => exact refused_same .sendKey (.inr rfl) (by decide)
  | sendKeyResponse => exact .ignored _ (.inl ⟨rfl, hidle⟩)
  | delayTimerExpired => exact delayTimerExpired_outcome hidle
  | sessionControl =>
    exact changeSession_outcome (.inl rfl) fun after hdly =>
      .sessionMarked _ after (.inl rfl) hdly hst
  | sessionTimeout =>
    exact changeSession_outcome (.inr rfl) fun after hdly =>
      .sessionMarked _ after (.inr rfl) hdly hst

theorem stateLockedWaitingForKey_outcome (hst : ao.state = .lockedWaitingForKey)
    (sig : SecAccSignal) : Outcome T ao tree m sig (stateLockedWaitingForKey T ao tree m sig) := by
  have hwait : ao.state.isWaiting = true := by rw [hst]; rfl
  have hwo : SecAccState.lockedNoActiveSeed = ao.state.withoutSeed := by rw [hst]; rfl
  cases sig with
  | requestSeed =>
    unfold stateLockedWaitingForKey
    dsimp only
    split_ifs with hlen
    · exact .refused .requestSeed _ _ (.inl rfl) (.inr hwo) (by decide)
    · exact .seedForwarded (.inl hwait)
  | requestSeedResponse =>
    unfold stateLockedWaitingForKey
    dsimp only
    split_ifs with hnrc
    · exact renewSeed_outcome hnrc hwait hst.symm
    · exact .answerRefused .requestSeedResponse _ (.inl rfl) hwo hnrc
  | sendKey => exact sendKeyWaiting_outcome hwait hst.symm hwo
  | sendKeyResponse =>
    refine sendKeyAnswered_outcome hwait hwo fun hnrc => ?_
    unfold unlockCurrentSecLevel
    cases hact : ao.active with
    | none => exact .keyAnsweredNoLevel hwait hact
    | some level => exact .keyAccepted level hnrc hst hact
  | delayTimerExpired => exact .ignored _ (.inr ⟨rfl, hwait⟩)
  | sessionControl => exact switchSession_outcome (.inl rfl) (.inl hwait)
  | sessionTimeout => exact switchSession_outcome (.inr rfl) (.inl hwait)

theorem stateUnlockedNoActiveSeed_outcome (hst : ao.state = .unlockedNoActiveSeed)
    (sig : SecAccSignal) : Outcome T ao tree m sig (stateUnlockedNoActiveSeed T ao tree m sig) := by
  have hidle : ao.state.isWaiting = false := by rw [hst]; rfl
  cases sig with
  | requestSeed =>
    unfold stateUnlockedNoActiveSeed
    by_cases hlen : m.recvDataLen < 2
    · rw [if_pos hlen]
      exact refused_same .requestSeed (.inl rfl) (by decide)
    rw [if_neg hlen]
    by_cases hpre : preConditionIsNotFulfilled T m = true
    · rw [if_pos hpre]
      exact refused_same .requestSeed (.inl rfl) (by decide)
    rw [if_neg hpre]
    cases hdly : delayTimerIsNotExpired T ao with
    | some after => exact .delayed after hidle hdly
    | none =>
      dsimp only
      split_ifs with hopen
      · obtain ⟨level, hlvl, htype⟩ := requestedLevelIsUnlocked_iff.1 hopen
        exact responseAllZeroSeed_outcome hlvl htype (by rw [hst]; rfl)
      · exact .seedForwarded (.inr ⟨hdly, by simpa using hpre⟩)
  | requestSeedResponse =>
    unfold stateUnlockedNoActiveSeed
    dsimp only
    split_ifs with hnrc
    · exact activateSeed_outcome hnrc (by rw [hst]; rfl)
    · exact .answerRefused .requestSeedResponse ao.state (.inl rfl) (by rw [hst]; rfl) hnrc
  | sendKey => exact refused_same .sendKey (.inr rfl) (by decide)
  | sendKeyResponse => exact .ignored _ (.inl ⟨rfl, hidle⟩)
  | delayTimerExpired => exact delayTimerExpired_outcome hidle
  | sessionControl =>
    exact changeSession_outcome (.inl rfl) fun after hdly =>
      .sessionMarkedLocked _ after (.inl rfl) hdly hst
  | sessionTimeout =>
    exact changeSession_outcome (.inr rfl) fun after hdly =>
      .sessionMarkedLocked _ after (.inr rfl) hdly hst

theorem stateUnlockedWaitingForKey_outcome (hst : ao.state = .unlockedWaitingForKey)
    (sig : SecAccSignal) :
    Outcome T ao tree m sig (stateUnlockedWaitingForKey T ao tree m sig) := by
  have hwait : ao.state.isWaiting = true := by rw [hst]; rfl
  have hwo : SecAccState.unlockedNoActiveSeed = ao.state.withoutSeed := by rw [hst]; rfl
  cases sig with
  | requestSeed =>
    unfold stateUnlockedWaitingForKey
    dsimp only
    split_ifs with hlen hopen
    · exact .refused .requestSeed _ _ (.inl rfl) (.inr hwo) (by decide)
    · obtain ⟨level, hlvl, htype⟩ := requestedLevelIsUnlocked_iff.1 hopen
      exact responseAllZeroSeed_outcome hlvl htype hwo.symm
    · exact .seedForwarded (.inl hwait)
  | requestSeedResponse =>
    unfold stateUnlockedWaitingForKey
    dsimp only
    split_ifs with hnrc
    · exact renewSeed_outcome hnrc hwait hst.symm
    · exact .answerRefused .requestSeedResponse _ (.inl rfl) hwo hnrc
  | sendKey => exact sendKeyWaiting_outcome hwait hst.symm hwo
  | sendKeyResponse =>
    refine sendKeyAnswered_outcome hwait hwo fun hnrc => ?_
    unfold unlockRequestedSecLevelAndLockOthers
    rcases hact : ao.active with _ | level
    · exact .keyAnsweredNoLevel hwait hact
    dsimp only
    cases hopen : (clearAttempts ao tree level).1.unlocked with
    | none => exact .keyAnsweredLocked level hst hact hopen
    | some old => exact .keyAcceptedAgain level old hnrc hst hact hopen
  | delayTimerExpired => exact .ignored _ (.inr ⟨rfl, hwait⟩)
  | sessionControl => exact switchSession_outcome (.inl rfl) (.inl hwait)
  | sessionTimeout => exact switchSession_outcome (.inr rfl) (.inl hwait)

/-- Every dispatch ends with one of the moves or one of the aborts. -/
theorem dispatch_outcome (sig : SecAccSignal) :
    Outcome T ao tree m sig (dispatch T ao tree m sig) := by
  unfold dispatch
  cases hst : ao.state with
  | lockedNoActiveSeed => exact stateLockedNoActiveSeed_outcome hst sig
  | lockedWaitingForKey => exact stateLockedWaitingForKey_outcome hst sig
  | unlockedNoActiveSeed => exact stateUnlockedNoActiveSeed_outcome hst sig
  | unlockedWaitingForKey => exact stateUnlockedWaitingForKey_outcome hst sig

theorem dispatch_move {ao' : ActiveObject} {tree' : Tree} {reply : Reply}
    (h : dispatch T ao tree m sig = .done ao' tree' reply) :
    Move T ao tree m sig ao' tree' reply := by
  have hout : Outcome T ao tree m sig (dispatch T ao tree m sig) := dispatch_outcome sig
  rw [h] at hout
  exact hout

theorem dispatch_abort {tree' : Tree} {reason : AbortReason}
    (h : dispatch T ao tree m sig = .aborted tree' reason) :
    Abort T ao tree m sig tree' reason := by
  have hout : Outcome T ao tree m sig (dispatch T ao tree m sig) := dispatch_outcome sig
  rw [h] at hout
  exact hout

end TelAF.SecAccMoves
