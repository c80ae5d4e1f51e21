import TelAF.UdsResponses

/-!
# Session control is authorized by the pattern of the target session

Each diagnostic session names an execution-authorization pattern, and the pattern
lists the sessions from which, and the security levels with which, the session may
be entered. `EntryPermitted` states this on the patterns themselves. The code works
on the byte sequences that the generator emits for them, so the first results decode
these bytes and show what the gate of the request handler decides.

`sessionControlExchange` is one request for a session together with the answer of
the diagnostic service. An empty white list lets every session pass, as the gate of
the source notes; for all other patterns a request without the suppress bit changes
the session only where entry is permitted.
-/

namespace TelAF.SessionControl

open DiagConfiguration UdsState UdsIndications UdsDiagIndication UdsResponses

/-- The pattern that the configuration names for a session. -/
def sessionPattern (c : DiagConf) (sessionId : UInt8) : Option PatternNode :=
  c.finalPattern.lookup (getPattern c sessionId)

/-- The pattern of the target lists the current session and, where it lists levels,
one that is unlocked. -/
def EntryPermitted (c : DiagConf) (unlocked : Option Nat) (current target : UInt8) : Prop :=
  ∃ node, sessionPattern c target = some node ∧ current ∈ node.sessions ∧
    (node.levels ≠ [] →
      ∃ lvl ∈ node.levels, securityAccessIsLevelUnlocked unlocked lvl = true)

/-- No session is on the white list of the target, or it has none. -/
def WhiteListEmpty (c : DiagConf) (target : UInt8) : Prop :=
  ∀ node, sessionPattern c target = some node → node.sessions = []

section
variable {c : DiagConf} {target : UInt8}

theorem getPatternSessions_of_pattern {node : PatternNode}
    (h : sessionPattern c target = some node) :
    getPatternSessionsBySessionId c target = node.sessions := by
  unfold getPatternSessionsBySessionId patternBytes
  rw [show c.finalPattern.lookup (getPattern c target) = some node from h]
  exact patternSessions_encode node

theorem getPatternLevels_of_pattern {node : PatternNode} (h : sessionPattern c target = some node) :
    getPatternLevelsBySessionId c target = node.levels := by
  unfold getPatternLevelsBySessionId patternBytes
  rw [show c.finalPattern.lookup (getPattern c target) = some node from h]
  exact patternLevels_encode node

theorem getPatternSessions_of_none (h : sessionPattern c target = none) :
    getPatternSessionsBySessionId c target = [] := by
  unfold getPatternSessionsBySessionId patternBytes
  rw [show c.finalPattern.lookup (getPattern c target) = none from h]
  rfl

/-- The gate passes exactly where entry is permitted or nothing is on the white list. -/
theorem precheckForSwitchingSession_iff (unlocked : Option Nat) (current : UInt8) :
    precheckForSwitchingSession c unlocked current target = true ↔
      WhiteListEmpty c target ∨ EntryPermitted c unlocked current target := by
  unfold precheckForSwitchingSession WhiteListEmpty EntryPermitted
  rcases hpatt : sessionPattern c target with _ | node
  · simp [getPatternSessions_of_none hpatt]
  rw [getPatternSessions_of_pattern hpatt, getPatternLevels_of_pattern hpatt]
  by_cases hemp : node.sessions = []
  · simp [hemp]
  by_cases hlstd : current ∈ node.sessions
  · by_cases hlvls : node.levels = []
    all_goals simp [hlvls]
  · simp [hlstd]

end

/-- Session control (0x50): a negative answer is packed, a positive one changes the session. -/
def sessionCtrlResp (c : DiagConf) (m : UdsManager) (serviceId err : UInt8) : UdsManager :=
  if err ≠ positiveResponse then m.setNRC serviceId err
  else sessionCtrlRespEnd c (sessionCtrlRespBegin c m).1

def sessionControlRequest (subByte : UInt8) : DiagMsg :=
  ⟨[sessionControlRequestId, subByte], by simp⟩

/-- One session-control request and, if it is forwarded, the answer to it. -/
def sessionControlExchange (c : DiagConf) (unlocked : Option Nat) (authDelayRunning : Bool)
    (handoff : SecAccSignal → UdsManager → SecAccAnswer) (m : UdsManager) (addr : AddrInfo)
    (subByte err : UInt8) : UdsManager :=
  match diagIndicationHandler c unlocked authDelayRunning handoff m addr
    (sessionControlRequest subByte) with
  | (taken, true) => sessionCtrlResp c taken sessionControlRequestId err
  | (refused, false) => refused

theorem sessionCtrlResp_sessionType (c : DiagConf) (m : UdsManager) (serviceId err : UInt8) :
    (sessionCtrlResp c m serviceId err).sessionType =
      if err ≠ positiveResponse then m.sessionType else requestedSession m := by
  unfold sessionCtrlResp
  split_ifs with herr
  · rfl
  · rw [sessionCtrlRespBegin]
    split_ifs <;> rfl

/-- Masking the suppress bit away changes nothing in a byte without it. -/
theorem subFunction_of_bit_clear {b : UInt8} (h : b &&& 0x80 = 0) : b &&& 0x7F = b := by
  have hb : b.toBitVec &&& 0x80 = 0 := congrArg UInt8.toBitVec h
  apply UInt8.eq_of_toBitVec_eq
  calc b.toBitVec &&& 0x7F = (b.toBitVec &&& 0x80) ||| (b.toBitVec &&& 0x7F) := by
        rw [hb]
        simp
    _ = b.toBitVec &&& (0x80 ||| 0x7F) := by rw [BitVec.and_or_distrib_left]
    _ = b.toBitVec := BitVec.and_allOnes

section
variable (c : DiagConf) (unlocked : Option Nat) (authDelayRunning : Bool)
  (handoff : SecAccSignal → UdsManager → SecAccAnswer) (m : UdsManager) (addr : AddrInfo)

theorem takeIndication_sessionType (sid : UInt8) (data : List UInt8) :
    (takeIndication c unlocked authDelayRunning m addr sid data).1.sessionType
      = m.sessionType := by
  unfold takeIndication
  dsimp only
  split
  · rfl
  · rw [(indicate_frame sid).sessionType, takeRequest_sessionType]

/-- The indication handler never changes the session by itself. -/
theorem diagIndicationHandler_sessionType (msg : DiagMsg) :
    (diagIndicationHandler c unlocked authDelayRunning handoff m addr msg).1.sessionType
      = m.sessionType := by
  unfold diagIndicationHandler
  cases hout : receiveIndication c unlocked authDelayRunning m addr msg with
  | dropped | testerPresent suppressed => rfl
  | rejected sid errorCode => exact sendNRC_sessionType m sid errorCode
  | taken mgr verdict =>
    obtain ⟨sid, rest, _, htake⟩ :=
      receive_taken c unlocked authDelayRunning m addr msg hout
    have hmgr : mgr.sessionType = m.sessionType := by
      rw [show mgr = _ from (congrArg Prod.fst htake).symm]
      exact takeIndication_sessionType c unlocked authDelayRunning m addr sid msg.data
    cases verdict with
    | nrc errorCode => exact (sendNRC_sessionType mgr _ errorCode).trans hmgr
    | silent | indicate => exact hmgr
    | secAcc sig =>
      dsimp only
      cases handoff sig mgr with
      | toApplication | allZeroSeed seedByteSize => exact hmgr
      | nrc errorCode => exact (sendNRC_sessionType mgr _ errorCode).trans hmgr

/-- A session-control request is forwarded only past the gate, and then stands in the
reception buffer. -/
theorem sessionControl_forwarded (subByte : UInt8) {taken : UdsManager}
    (h : diagIndicationHandler c unlocked authDelayRunning handoff m addr
      (sessionControlRequest subByte) = (taken, true)) :
    taken.recv 1 = subByte ∧
      precheckForSwitchingSession c unlocked m.sessionType subByte = true := by
  unfold diagIndicationHandler at h
  cases hout : receiveIndication c unlocked authDelayRunning m addr
      (sessionControlRequest subByte) with
  | dropped | rejected sid errorCode | testerPresent suppressed => simp [hout] at h
  | taken mgr verdict =>
    obtain ⟨sid, rest, hdata, htake⟩ :=
      receive_taken c unlocked authDelayRunning m addr _ hout
    obtain ⟨rfl, rfl⟩ := List.cons.inj hdata
    have hlen : 2 ≤ (sessionControlRequest subByte).data.length := le_rfl
    have hhead := takeRequest_header m addr hlen
    unfold takeIndication at htake
    dsimp only at htake
    split at htake
    · obtain ⟨rfl, rfl⟩ := Prod.mk.inj htake
      simp [hout] at h
    obtain ⟨rfl, hverd⟩ := Prod.mk.inj htake
    cases verdict with
    | nrc errorCode | silent => simp [hout] at h
    | secAcc sig => exact absurd hverd (sessionCtrlReq_ne_secAcc c unlocked _ sig)
    | indicate =>
      obtain ⟨_, _, _, hgate⟩ := (sessionCtrlReq_eq_indicate c unlocked _).1 hverd
      rw [hout] at h
      rw [← (Prod.mk.inj h).1]
      exact ⟨hhead.2, hgate⟩

/-- A request without the suppress bit changes the session only to the requested one,
and only where entry is permitted or the white list is empty. -/
theorem session_change_permitted (subByte err : UInt8) (hbit : subByte &&& 0x80 = 0)
    (hchange : (sessionControlExchange c unlocked authDelayRunning handoff m addr subByte
      err).sessionType ≠ m.sessionType) :
    (sessionControlExchange c unlocked authDelayRunning handoff m addr subByte
        err).sessionType = subByte &&& 0x7F ∧
      (WhiteListEmpty c (subByte &&& 0x7F) ∨
        EntryPermitted c unlocked m.sessionType (subByte &&& 0x7F)) := by
  unfold sessionControlExchange at hchange ⊢
  have hkept := diagIndicationHandler_sessionType c unlocked authDelayRunning handoff m addr
    (sessionControlRequest subByte)
  cases hrequest : diagIndicationHandler c unlocked authDelayRunning handoff m addr
      (sessionControlRequest subByte) with
  | mk after forwarded =>
    rw [hrequest] at hkept hchange
    rcases forwarded with _ | _
    · exact absurd hkept hchange
    obtain ⟨hbyte, hgate⟩ :=
      sessionControl_forwarded c unlocked authDelayRunning handoff m addr subByte hrequest
    dsimp only at hchange ⊢
    rw [sessionCtrlResp_sessionType] at hchange ⊢
    split_ifs at hchange ⊢ with herr
    · exact absurd hkept hchange
    rw [requestedSession, hbyte]
    refine ⟨rfl, ?_⟩
    rw [subFunction_of_bit_clear hbit]
    exact (precheckForSwitchingSession_iff unlocked m.sessionType).1 hgate

end

/-- With level one unlocked the programming session is entered from the extended one. -/
theorem session_change_permitted_programming :
    WhiteListEmpty sampleConf 0x02 ∨ EntryPermitted sampleConf (some 1) 0x03 0x02 :=
  (session_change_permitted sampleConf (some 1) false (fun _ _ => .nrc 0x37)
    { initialManager with sessionType := 0x03 } ⟨0, 0, .physical⟩ 0x02 0x00 (by decide)
    (by decide)).2

/-- The pattern of the extended session lists no session. -/
def openConf : DiagConf :=
  { sampleConf with finalPattern := sampleConf.finalPattern.map fun e =>
      (e.1, if e.1 = "toExtended" then ⟨[], [], Nat.zero_lt_succ _, Nat.zero_lt_succ _⟩ else e.2) }

/-- From the default session an empty white list is passed, and so is the white list of
the programming session by a request with the suppress bit. -/
theorem session_change_not_permitted :
    ((sessionControlExchange openConf none false (fun _ _ => .nrc 0x37) initialManager
        ⟨0, 0, .physical⟩ 0x03 0x00).sessionType = 0x03 ∧
      ¬ EntryPermitted openConf none initialManager.sessionType 0x03) ∧
    (sessionControlExchange sampleConf none false (fun _ _ => .nrc 0x37) initialManager
        ⟨0, 0, .physical⟩ 0x82 0x00).sessionType = 0x02 ∧
      ¬ EntryPermitted sampleConf none initialManager.sessionType 0x02 ∧
      (sessionControlExchange sampleConf none false (fun _ _ => .nrc 0x37) initialManager
        ⟨0, 0, .physical⟩ 0x02 0x00).sessionType = 0x01 := by
  refine ⟨⟨by decide, ?_⟩, by decide, ?_, by decide⟩
  all_goals
    rintro ⟨node, hpattern, hlstd, _⟩
    cases hpattern
    exact absurd hlstd (by decide)

end TelAF.SessionControl
