import TelAF.UdsIndications

/-!
# The indication handler of the UDS manager

`DiagIndicationHandler` runs in the main thread for every message that the DoIP
stack delivers on an interface. `receiveIndication` is its part for requests up to
the verdict of the service handler. A security-access request is then decided by
the security-access thread while the main thread waits; `diagIndicationHandler`
takes the answer of this thread as a function, and ends as the source does: a
verdict in favour of the request sends response-pending, marks the interface busy
and queues the indication to the diagnostic service.

The main theorem is that nothing is queued without authorization: the service and
its sub-function are configured and pass their own predicates in the state in
which the request was received.
-/

namespace TelAF.UdsDiagIndication

open DiagConfiguration UdsState UdsIndications List

/-- A diagnostic message with the length bound of the DoIP stack: a payload of at
most 64 KiB, less the DoIP header and the two logical addresses. -/
structure DiagMsg where
  data : List UInt8
  fits : data.length ≤ 65524
deriving DecidableEq

inductive IndicationOutcome where
  | dropped
  | rejected (sid errorCode : UInt8)
  | testerPresent (suppressed : Bool)
  | taken (mgr : UdsManager) (verdict : Verdict)

section
variable (c : DiagConf) (unlocked : Option Nat) (authDelayRunning : Bool)

/-- Tester present (0x3E) is answered from a buffer of its own. -/
def testerPresentResp (m : UdsManager) (originSubFunc : UInt8) (recvTpDataLen : Nat) :
    IndicationOutcome :=
  let sid := testerPresentRequestId
  let subFunc := originSubFunc &&& 0x7F
  if recvTpDataLen < 2 then .rejected sid incorrectMsgLenOrInvalidFormat
  else if isSubFuncSupported c sid subFunc = false then .rejected sid subfunctionNotSupported
  else if recvTpDataLen ≠ 2 then .rejected sid incorrectMsgLenOrInvalidFormat
  else if isSubFuncAuthCheckOK c m sid subFunc = false then .rejected sid authenticationRequired
  else if isSubFuncSessTypeValid c m sid subFunc = false then
    .rejected sid subfunctionNotSupportedInActiveSession
  else if isSubFuncSecAccessMatched c m unlocked sid subFunc = false then
    .rejected sid securityAccessDeny
  else .testerPresent (originSubFunc &&& 0x80 == 0x80)

/-- The switch over the service identifier of a request that was taken. The source has
no case for ControlDTCSetting (0x85). -/
def indicateService (m : UdsManager) (addr : AddrInfo) (sid : UInt8) : UdsManager × Verdict :=
  if sid = sessionControlRequestId then (m, indicateSessionCtrlReq c unlocked m)
  else if sid = ecuResetRequestId then (m, indicateECUResetReq c unlocked m)
  else if sid = clearDiagInfoRequestId then (m, indicateClearDiagInfoReq m)
  else if sid = readDtcInfoRequestId then (m, indicateReadDTCInfoReq c unlocked m)
  else if sid = readDidRequestId then indicateReadDIDReq c unlocked m addr
  else if sid = securityAccessRequestId then indicateSecAccessReq c m
  else if sid = authenticationRequestId then (m, indicateAuthReq c unlocked m authDelayRunning)
  else if sid = writeDidRequestId then (m, indicateWriteDIDReq c unlocked m)
  else if sid = inputOutputControlRequestId then (m, indicateIOCBIDReq c unlocked m)
  else if sid = routineControlRequestId then (m, indicateRoutinrCtrlReq c unlocked m)
  else if sid = requestDownloadRequestId then (m, indicateRxReqDwnldReq m)
  else if sid = transferDataRequestId then indicateRxXferDataReq m
  else if sid = requestTransferExitRequestId then (m, indicateRxXferExitReq m)
  else if sid = requestFileTransferRequestId then (m, indicateRxFileXferReq c m)
  else if sid = responseOnEventRequestId then (m, indicateROEReq c unlocked m)
  else (m, .nrc serviceNotSupported)

/-- A request that is not refused as busy is copied into the reception buffer and
checked there. -/
def takeIndication (m : UdsManager) (addr : AddrInfo) (sid : UInt8) (data : List UInt8) :
    UdsManager × Verdict :=
  let taken := m.takeRequest addr data
  match generalServerResp c taken unlocked sid with
  | some errorCode => (taken, .nrc errorCode)
  | none => indicateService c unlocked authDelayRunning taken addr sid

def receiveIndication (m : UdsManager) (addr : AddrInfo) (msg : DiagMsg) : IndicationOutcome :=
  match msg.data with
  | [] => .dropped
  | sid :: _ =>
    if addr.taType = .functional ∧ c.isServiceFunctionalAddressed sid = false then .dropped
    else if m.isResetInProgress then .dropped
    else if sid = testerPresentRequestId then
      match generalServerResp c m unlocked sid with
      | some errorCode => .rejected sid errorCode
      | none => testerPresentResp c unlocked m (msg.data.getD 1 0) msg.data.length
    else if m.isPaused then .rejected sid conditionsNotCorrect
    else if m.readyToRecvData = false then .rejected sid busyRepeatReq
    else
      let (taken, verdict) := takeIndication c unlocked authDelayRunning m addr sid msg.data
      .taken taken verdict

/-- The manager after `SendNRC`. -/
def sendNRC (m : UdsManager) (sid errorCode : UInt8) : UdsManager :=
  if sid = testerPresentRequestId then m else m.setNRC sid errorCode

theorem sendNRC_sessionType (m : UdsManager) (sid errorCode : UInt8) :
    (sendNRC m sid errorCode).sessionType = m.sessionType := by
  unfold sendNRC
  split_ifs <;> rfl

/-- `CheckAndSendInd`: response pending is sent and the interface becomes busy. -/
def checkAndSendInd (m : UdsManager) : UdsManager :=
  { m with readyToRecvData := false, sendBuf := [] }

/-- The seed of zeros that the state machine sends for a level that is unlocked. -/
def responseAllZeroSeed (m : UdsManager) (seedByteSize : Nat) : UdsManager :=
  { m with sendBuf := [m.recvSid + 0x40, m.recvSubFunc &&& 0x7F] ++ List.replicate seedByteSize 0 }

/-- The whole handler with the answer of the security-access thread; the second
component tells whether the request went to the diagnostic service. -/
def diagIndicationHandler (handoff : SecAccSignal → UdsManager → SecAccAnswer) (m : UdsManager)
    (addr : AddrInfo) (msg : DiagMsg) : UdsManager × Bool :=
  match receiveIndication c unlocked authDelayRunning m addr msg with
  | .dropped => (m, false)
  | .rejected sid errorCode => (sendNRC m sid errorCode, false)
  | .testerPresent _ => (m, false)
  | .taken taken (.nrc errorCode) => (sendNRC taken (taken.recv 0) errorCode, false)
  | .taken taken .silent => (taken, false)
  | .taken taken .indicate => (checkAndSendInd taken, true)
  | .taken taken (.secAcc sig) =>
    match handoff sig taken with
    | .toApplication => (checkAndSendInd taken, true)
    | .nrc errorCode => (sendNRC taken taken.recvSid errorCode, false)
    | .allZeroSeed seedByteSize => (responseAllZeroSeed taken seedByteSize, false)

end

/-- Services whose sub-function is checked against its own configuration entry. -/
def checksSubFunction (sid : UInt8) : Bool :=
  sid == sessionControlRequestId || sid == ecuResetRequestId || sid == readDtcInfoRequestId ||
    sid == responseOnEventRequestId

/-- The sub-function number in a request; response on event uses six bits of the byte. -/
def requestedSubFunction (sid subByte : UInt8) : UInt8 :=
  if sid = responseOnEventRequestId then subByte &&& 0x3F else subByte &&& 0x7F

/-- The length that a service demands for one of its sub-functions. -/
def subFunctionLengthRule (sid subFunc : UInt8) (len : Nat) : Prop :=
  if sid = readDtcInfoRequestId then
    2 ≤ len ∧ len ≤ udsDataSize ∧ ∀ n ∈ readDtcInfoReqLen subFunc, len = n
  else if sid = responseOnEventRequestId then
    3 ≤ len ∧ len ≤ udsMaxDataSize ∧ (subFunc = 0x01 → 7 ≤ len)
  else len = 2

structure ServiceAuthorized (c : DiagConf) (m : UdsManager) (unlocked : Option Nat)
    (sid : UInt8) : Prop where
  configured : ∃ svc, c.getServiceEntry sid = some svc ∧ svc.supported = true
  authentication : isAuthCheckOK c m sid = true
  session : isValidSvcActiveSession c m sid = true
  security : isSvcSecAccessMatched c m unlocked sid = true

structure SubFunctionAuthorized (c : DiagConf) (m : UdsManager) (unlocked : Option Nat)
    (sid subFunc : UInt8) (len : Nat) : Prop where
  configured : ∃ sub, c.getSubfunction sid subFunc = some sub ∧ sub.supported = true
  length : subFunctionLengthRule sid subFunc len
  authentication : isSubFuncAuthCheckOK c m sid subFunc = true
  session : isSubFuncSessTypeValid c m sid subFunc = true
  security : isSubFuncSecAccessMatched c m unlocked sid subFunc = true

section
variable {c : DiagConf} {unlocked : Option Nat} {m : UdsManager} {addr : AddrInfo}

@[simp] theorem takeRequest_recvDataLen (data : List UInt8) :
    (m.takeRequest addr data).recvDataLen = data.length := rfl

@[simp] theorem takeRequest_sessionType (data : List UInt8) :
    (m.takeRequest addr data).sessionType = m.sessionType := rfl

variable (m addr) in
theorem takeRequest_recv (data : List UInt8) {i : Nat} (hi : i < data.length)
    (hmax : i < udsMaxDataSize) : (m.takeRequest addr data).recv i = data.getD i 0 := by
  have hcopd : i < (data.take udsMaxDataSize).length := by
    rw [length_take]
    omega
  simp only [UdsManager.recv, UdsManager.takeRequest, getD_eq_getElem?_getD]
  rw [getElem?_append_left hcopd, getElem?_take_of_lt hmax]

/-- The predicates read neither the buffers nor the address of the request. -/
theorem generalServerResp_takeRequest (data : List UInt8) (sid : UInt8) :
    generalServerResp c (m.takeRequest addr data) unlocked sid =
      generalServerResp c m unlocked sid := rfl

variable {data : List UInt8} {sid : UInt8}

/-- Passing the sub-function checks of a taken request authorizes the sub-function. -/
theorem subAuthorized_of_checks {subFunc : UInt8}
    (hsup : isSubFuncSupported c sid subFunc = true)
    (hleng : subFunctionLengthRule sid subFunc data.length)
    (hchks : subFuncChecks c unlocked (m.takeRequest addr data) sid subFunc .indicate
      = .indicate) : SubFunctionAuthorized c m unlocked sid subFunc data.length := by
  rw [subFuncChecks_eq_indicate] at hchks
  obtain ⟨hauth, hsess, hsec, _⟩ := hchks
  exact ⟨(isSubFuncSupported_iff c sid subFunc).1 hsup, hleng, hauth, hsess, hsec⟩

variable (m addr) in
/-- The first two bytes of a taken request, once it has two of them. -/
theorem takeRequest_header (h : 2 ≤ data.length) :
    (m.takeRequest addr data).recv 0 = data.getD 0 0 ∧
      (m.takeRequest addr data).recv 1 = data.getD 1 0 :=
  ⟨takeRequest_recv m addr data (by omega) (by decide),
    takeRequest_recv m addr data (by omega) (by decide)⟩

theorem sessionCtrl_authorized (hsid : data.getD 0 0 = sessionControlRequestId)
    (h : indicateSessionCtrlReq c unlocked (m.takeRequest addr data) = .indicate) :
    SubFunctionAuthorized c m unlocked sessionControlRequestId (data.getD 1 0 &&& 0x7F)
      data.length := by
  obtain ⟨hlen, hsup, hchks, _⟩ := (sessionCtrlReq_eq_indicate c unlocked _).1 h
  obtain ⟨h₀, h₁⟩ := takeRequest_header m addr hlen.ge
  rw [UdsManager.subFunction, h₀, h₁, hsid] at hsup hchks
  exact subAuthorized_of_checks hsup hlen hchks

theorem ecuReset_authorized (hsid : data.getD 0 0 = ecuResetRequestId)
    (h : indicateECUResetReq c unlocked (m.takeRequest addr data) = .indicate) :
    SubFunctionAuthorized c m unlocked ecuResetRequestId (data.getD 1 0 &&& 0x7F)
      data.length := by
  obtain ⟨hlen, hsup, hchks⟩ := (indicateECUResetReq_eq_indicate c unlocked _).1 h
  obtain ⟨h₀, h₁⟩ := takeRequest_header m addr hlen.ge
  rw [UdsManager.subFunction, h₀, h₁, hsid] at hsup hchks
  exact subAuthorized_of_checks hsup hlen hchks

theorem readDtcInfo_authorized (hsid : data.getD 0 0 = readDtcInfoRequestId)
    (h : indicateReadDTCInfoReq c unlocked (m.takeRequest addr data) = .indicate) :
    SubFunctionAuthorized c m unlocked readDtcInfoRequestId (data.getD 1 0 &&& 0x7F)
      data.length := by
  obtain ⟨hmax, hmin, hsup, hrule, hchks⟩ :=
    (readDtcInfoReq_eq_indicate c unlocked _).1 h
  obtain ⟨h₀, h₁⟩ := takeRequest_header m addr hmin
  rw [UdsManager.subFunction, h₁] at hsup hchks hrule
  rw [h₀, hsid] at hsup hchks
  refine subAuthorized_of_checks hsup ⟨hmin, hmax, fun n hn => ?_⟩ hchks
  unfold isReadDtcInfoReqLenCorrect at hrule
  rw [Option.mem_def.1 hn] at hrule
  simpa using hrule

theorem roe_authorized (hsid : data.getD 0 0 = responseOnEventRequestId)
    (h : indicateROEReq c unlocked (m.takeRequest addr data) = .indicate) :
    SubFunctionAuthorized c m unlocked responseOnEventRequestId (data.getD 1 0 &&& 0x3F)
      data.length := by
  obtain ⟨hmax, hmin, hrule, hsup, _, hchks, _⟩ :=
    (indicateROEReq_eq_indicate c unlocked _).1 h
  rw [takeRequest_recvDataLen] at hmax hmin
  obtain ⟨h₀, h₁⟩ := takeRequest_header m addr (by omega : 2 ≤ data.length)
  rw [h₀, h₁, hsid] at hsup hchks
  rw [h₁] at hrule
  refine subAuthorized_of_checks hsup ⟨hmin, hmax, fun hone => ?_⟩ hchks
  unfold isROEReqLenCorrect at hrule
  rw [if_pos hone] at hrule
  exact of_decide_eq_true hrule

variable {authDelayRunning : Bool}

/-- The service handlers of the four services refuse a request or authorize its
sub-function. -/
theorem indicate_authorized
    (hsid : data.getD 0 0 = sid) (hsub : checksSubFunction sid = true)
    (h : (indicateService c unlocked authDelayRunning (m.takeRequest addr data) addr sid).2
      = .indicate) :
    SubFunctionAuthorized c m unlocked sid (requestedSubFunction sid (data.getD 1 0))
      data.length := by
  have hcas : sid = sessionControlRequestId ∨ sid = ecuResetRequestId ∨
      sid = readDtcInfoRequestId ∨ sid = responseOnEventRequestId := by
    simpa [checksSubFunction, or_assoc] using hsub
  rcases hcas with rfl | rfl | rfl | rfl
  · exact sessionCtrl_authorized hsid h
  · exact ecuReset_authorized hsid h
  · exact readDtcInfo_authorized hsid h
  · exact roe_authorized hsid h

variable {a b : UdsManager × Verdict} {sig : SecAccSignal}

/-- One case of the switch over the services, for handlers that do not hand off. -/
theorem ne_secAcc_case {p : Prop} [Decidable p]
    (ha : p → a.2 ≠ .secAcc sig) (hb : ¬p → b.2 ≠ .secAcc sig) :
    (if p then a else b).2 ≠ .secAcc sig := by
  split_ifs with h
  · exact ha h
  · exact hb h

/-- Only a security-access request is handed to the state machine. -/
theorem indicate_secAcc {m : UdsManager}
    (h : (indicateService c unlocked authDelayRunning m addr sid).2 = .secAcc sig) :
    sid = securityAccessRequestId := by
  by_contra hsid
  revert h
  refine ne_secAcc_case (fun _ => sessionCtrlReq_ne_secAcc c unlocked m sig) fun _ => ?_
  refine ne_secAcc_case (fun _ => indicateECUResetReq_ne_secAcc c unlocked m sig) fun _ => ?_
  refine ne_secAcc_case (fun _ => indicateClearDiagInfoReq_ne_secAcc m sig) fun _ => ?_
  refine ne_secAcc_case (fun _ => readDtcInfoReq_ne_secAcc c unlocked m sig) fun _ => ?_
  refine ne_secAcc_case (fun _ => readDIDReq_ne_secAcc c unlocked m sig addr) fun _ => ?_
  refine ne_secAcc_case (fun h => absurd h hsid) fun _ => ?_
  refine ne_secAcc_case (fun _ => indicateAuthReq_ne_secAcc c unlocked m sig authDelayRunning)
    fun _ => ?_
  refine ne_secAcc_case (fun _ => indicateWriteDIDReq_ne_secAcc c unlocked m sig) fun _ => ?_
  refine ne_secAcc_case (fun _ => indicateIOCBIDReq_ne_secAcc c unlocked m sig) fun _ => ?_
  refine ne_secAcc_case (fun _ => indicateRoutinrCtrlReq_ne_secAcc c unlocked m sig) fun _ => ?_
  refine ne_secAcc_case (fun _ => indicateRxReqDwnldReq_ne_secAcc m sig) fun _ => ?_
  refine ne_secAcc_case (fun _ => xferDataReq_ne_secAcc m sig) fun _ => ?_
  refine ne_secAcc_case (fun _ => indicateRxXferExitReq_ne_secAcc m sig) fun _ => ?_
  refine ne_secAcc_case (fun _ => fileXferReq_ne_secAcc c m sig) fun _ => ?_
  refine ne_secAcc_case (fun _ => indicateROEReq_ne_secAcc c unlocked m sig) fun _ => ?_
  exact Verdict.noConfusion

structure HandlerFrame (m m' : UdsManager) : Prop where
  sendBuf : m'.sendBuf = m.sendBuf
  nrcCode : m'.nrcCode = m.nrcCode
  readyToRecvData : m'.readyToRecvData = m.readyToRecvData
  isPaused : m'.isPaused = m.isPaused
  isResetInProgress : m'.isResetInProgress = m.isResetInProgress
  sessionType : m'.sessionType = m.sessionType
  authState : m'.authState = m.authState
  authPreSucReq : m'.authPreSucReq = m.authPreSucReq

theorem HandlerFrame.refl (m : UdsManager) : HandlerFrame m m :=
  ⟨rfl, rfl, rfl, rfl, rfl, rfl, rfl, rfl⟩

theorem handlerFrame_case {p : Prop} [Decidable p]
    (ha : HandlerFrame m a.1) (hb : HandlerFrame m b.1) :
    HandlerFrame m (if p then a else b).1 := by
  split_ifs
  · exact ha
  · exact hb

theorem readDIDReq_frame : HandlerFrame m (indicateReadDIDReq c unlocked m addr).1 := by
  unfold indicateReadDIDReq
  dsimp only
  repeat' (first | exact ⟨rfl, rfl, rfl, rfl, rfl, rfl, rfl, rfl⟩ | split)

theorem secAccessReq_frame : HandlerFrame m (indicateSecAccessReq c m).1 := by
  unfold indicateSecAccessReq
  dsimp only
  split_ifs <;> exact ⟨rfl, rfl, rfl, rfl, rfl, rfl, rfl, rfl⟩

theorem xferDataReq_frame : HandlerFrame m (indicateRxXferDataReq m).1 := by
  unfold indicateRxXferDataReq
  split_ifs <;> exact ⟨rfl, rfl, rfl, rfl, rfl, rfl, rfl, rfl⟩

theorem indicate_frame (sid : UInt8) :
    HandlerFrame m (indicateService c unlocked authDelayRunning m addr sid).1 := by
  repeat' (first
    | exact HandlerFrame.refl m
    | exact readDIDReq_frame
    | exact secAccessReq_frame
    | exact xferDataReq_frame
    | apply handlerFrame_case)

theorem takeIndication_frame (sid : UInt8) (data : List UInt8) :
    HandlerFrame (m.takeRequest addr data)
      (takeIndication c unlocked authDelayRunning m addr sid data).1 := by
  unfold takeIndication
  dsimp only
  split
  · exact HandlerFrame.refl _
  · exact indicate_frame sid

/-- What a taken request that may reach the diagnostic service has passed. -/
theorem takeIndication_authorized (hsid : data.getD 0 0 = sid)
    (h : (takeIndication c unlocked authDelayRunning m addr sid data).2 = .indicate ∨
      ∃ sig, (takeIndication c unlocked authDelayRunning m addr sid data).2 = .secAcc sig) :
    ServiceAuthorized c m unlocked sid ∧
      (checksSubFunction sid = true →
        SubFunctionAuthorized c m unlocked sid (requestedSubFunction sid (data.getD 1 0))
          data.length) := by
  simp only [takeIndication, generalServerResp_takeRequest] at h
  cases hgene : generalServerResp c m unlocked sid with
  | some errorCode =>
    rw [hgene] at h
    rcases h with h | ⟨sig, h⟩ <;> cases h
  | none =>
    rw [hgene] at h
    obtain ⟨hconf, hauth, hsess, hsec⟩ := (generalServerResp_eq_none c m unlocked sid).1 hgene
    refine ⟨⟨(isServiceIDSupported_iff c sid).1 hconf, hauth, hsess, hsec⟩, fun hsub => ?_⟩
    rcases h with h | ⟨sig, h⟩
    · exact indicate_authorized hsid hsub h
    have hsa := indicate_secAcc h
    subst hsa
    cases hsub

end

section
variable (c : DiagConf) (unlocked : Option Nat) (authDelayRunning : Bool)
  (handoff : SecAccSignal →
      UdsManager → SecAccAnswer) (m : UdsManager) (addr : AddrInfo) (msg : DiagMsg)

/-- A request is rejected without being taken while another one is pending or the
interface is paused. -/
theorem receive_untaken (h : m.readyToRecvData = false ∨ m.isPaused = true)
    (taken : UdsManager) (verdict : Verdict) :
    receiveIndication c unlocked authDelayRunning m addr msg ≠ .taken taken verdict := by
  unfold receiveIndication testerPresentResp
  dsimp only
  rcases h with h | h <;> rw [h] <;> repeat' (first | exact IndicationOutcome.noConfusion | split)

variable {taken : UdsManager}

/-- A taken request is the delivered message, taken with its own service identifier. -/
theorem receive_taken {verdict : Verdict}
    (h : receiveIndication c unlocked authDelayRunning m addr msg = .taken taken verdict) :
    ∃ sid rest, msg.data = sid :: rest ∧
      takeIndication c unlocked authDelayRunning m addr sid msg.data = (taken, verdict) := by
  unfold receiveIndication testerPresentResp at h
  rcases hdata : msg.data with _ | ⟨sid, rest⟩
  · rw [hdata] at h
    cases h
  rw [hdata] at h
  refine ⟨sid, rest, rfl, ?_⟩
  dsimp only at h
  repeat' (first | exact IndicationOutcome.noConfusion h | split at h)
  obtain ⟨hm, hv⟩ := IndicationOutcome.taken.inj h
  exact Prod.ext hm hv

theorem receive_frame {verdict : Verdict}
    (h : receiveIndication c unlocked authDelayRunning m addr msg = .taken taken verdict) :
    HandlerFrame (m.takeRequest addr msg.data) taken := by
  obtain ⟨sid, rest, hdata, htake⟩ := receive_taken c unlocked authDelayRunning m addr msg h
  have hfram : HandlerFrame (m.takeRequest addr msg.data)
      (takeIndication c unlocked authDelayRunning m addr sid msg.data).1 :=
    takeIndication_frame sid msg.data
  rwa [htake] at hfram

/-- A request that is forwarded is authorized, service and sub-function, in the state in
which it was received; a request that meets a pending one or a paused interface is not
forwarded and leaves the pending request alone. -/
theorem forwarding_implies_authorization :
    ((diagIndicationHandler c unlocked authDelayRunning handoff m addr msg).2 = true →
      ∃ sid rest, msg.data = sid :: rest ∧ ServiceAuthorized c m unlocked sid ∧
        (checksSubFunction sid = true →
          SubFunctionAuthorized c m unlocked sid
            (requestedSubFunction sid (msg.data.getD 1 0)) msg.data.length)) ∧
    (m.readyToRecvData = false ∨ m.isPaused = true →
      (diagIndicationHandler c unlocked authDelayRunning handoff m addr msg).2 = false ∧
      (diagIndicationHandler c unlocked authDelayRunning handoff m addr msg).1.recvBuf = m.recvBuf ∧
      (diagIndicationHandler c unlocked authDelayRunning handoff m addr msg).1.recvDataLen
        = m.recvDataLen ∧
      (diagIndicationHandler c unlocked authDelayRunning handoff m addr msg).1.readyToRecvData
        = m.readyToRecvData ∧
      (diagIndicationHandler c unlocked authDelayRunning handoff m addr msg).1.isPaused
        = m.isPaused) := by
  unfold diagIndicationHandler
  constructor
  · intro hfwd
    cases houtcome : receiveIndication c unlocked authDelayRunning m addr msg with
    | dropped | rejected sid errorCode | testerPresent suppressed => simp [houtcome] at hfwd
    | taken taken verdict =>
      obtain ⟨sid, rest, hdata, htake⟩ :=
        receive_taken c unlocked authDelayRunning m addr msg houtcome
      have hsid : msg.data.getD 0 0 = sid := by rw [hdata]; rfl
      have hpass : verdict = .indicate ∨ ∃ sig, verdict = .secAcc sig := by
        cases verdict with
        | nrc errorCode | silent => simp [houtcome] at hfwd
        | indicate => exact .inl rfl
        | secAcc sig => exact .inr ⟨sig, rfl⟩
      have hverdict : (takeIndication c unlocked authDelayRunning m addr sid msg.data).2
          = verdict := congrArg Prod.snd htake
      rw [← hverdict] at hpass
      exact ⟨sid, rest, hdata, takeIndication_authorized hsid hpass⟩
  · intro hbusy
    cases houtcome : receiveIndication c unlocked authDelayRunning m addr msg with
    | dropped | testerPresent suppressed => exact ⟨rfl, rfl, rfl, rfl, rfl⟩
    | rejected sid errorCode =>
      refine ⟨rfl, ?_⟩
      dsimp only
      unfold sendNRC
      split_ifs <;> exact ⟨rfl, rfl, rfl, rfl⟩
    | taken taken verdict =>
      exact absurd houtcome
        (receive_untaken c unlocked authDelayRunning m addr msg hbusy taken verdict)

end

/-- An ECU with a default, an extended and a programming session, two security levels
bound to the extended session, and the services for sessions, resets, security access
and authentication. -/
def sampleConf : DiagConf where
  servicesAll := [
    (0x10, ⟨true, false, false, ⟨[], 0, []⟩,
      [(0x01, ⟨true, false, ⟨[], 0, []⟩⟩), (0x02, ⟨true, false, ⟨[], 0, []⟩⟩),
        (0x03, ⟨true, false, ⟨[], 0, []⟩⟩)]⟩),
    (0x11, ⟨true, false, false, ⟨["extended"], 0x27, ["L1"]⟩,
      [(0x01, ⟨true, false, ⟨["extended"], 0x27, ["L1"]⟩⟩)]⟩),
    (0x27, ⟨true, false, false, ⟨["extended"], 0, []⟩,
      [(0x01, ⟨true, false, ⟨[], 0, []⟩⟩), (0x02, ⟨true, false, ⟨[], 0, []⟩⟩),
        (0x03, ⟨true, false, ⟨[], 0, []⟩⟩), (0x04, ⟨true, false, ⟨[], 0, []⟩⟩)]⟩),
    (0x29, ⟨true, false, false, ⟨[], 0, []⟩,
      [(0x00, ⟨true, false, ⟨[], 0, []⟩⟩), (0x01, ⟨true, false, ⟨[], 0, []⟩⟩),
        (0x03, ⟨true, false, ⟨[], 0, []⟩⟩)]⟩)]
  diagSession := [("default_session", ⟨"default_session", 1, 50, 5000, "toDefault"⟩),
    ("extended", ⟨"extended", 3, 50, 5000, "toExtended"⟩),
    ("programming", ⟨"programming", 2, 50, 5000, "toProgramming"⟩)]
  sessionSecurLevel :=
    [("L1", ⟨1, 32, 2, 10, 32, false, 1⟩), ("L3", ⟨3, 32, 2, 10, 32, false, 3⟩)]
  securBinding := [
    ("extended", ⟨3, [("L1", ⟨1, 32, 2, 10, 32, false, 1⟩), ("L3", ⟨3, 32, 2, 10, 32, false, 3⟩)]⟩),
    ("programming", ⟨2, [("L1", ⟨1, 32, 2, 10, 32, false, 1⟩)]⟩)]
  didAll := []
  ioAll := []
  routinesAll := []
  routineParametersAll := []
  authRoles := []
  commonProps := ⟨2, false⟩
  finalPattern := [("toDefault", ⟨[0x01, 0x02, 0x03], [], by decide, by decide⟩),
    ("toExtended", ⟨[0x01, 0x03], [], by decide, by decide⟩),
    ("toProgramming", ⟨[0x03], [0x01], by decide, by decide⟩)]
  isForbidden := fun _ _ => none
  validateBaseRecord := fun _ _ => none
  diagFeatureA := false

/-- The request for the extended session. -/
def extendedRequest : DiagMsg := ⟨[0x10, 0x03], by decide⟩

/-- A certificate of one byte. -/
def certificateRequest : DiagMsg := ⟨[0x29, 0x01, 0x00, 0x00, 0x01, 0xAB, 0x00, 0x00], by decide⟩

def initialManager : UdsManager where
  recvBuf := []
  recvDataLen := 0
  sendBuf := []
  recvSid := 0
  recvSubFunc := 0
  nrcCode := 0
  readyToRecvData := true
  isPaused := false
  isResetInProgress := false
  isXferActive := false
  sessionType := defaultSession
  currentRoleVal := 0
  authState := .unknown
  authPreSucReq := authSubfuncUnknown
  authAttCnt := 0
  authDelayTime := 60
  addrInfo := ⟨0, 0, .physical⟩

/-- A reset in the extended session with level one unlocked is forwarded. -/
theorem forwarding_implies_authorization_reset :
    SubFunctionAuthorized sampleConf { initialManager with sessionType := 0x03 } (some 1)
      ecuResetRequestId 0x01 2 := by
  obtain ⟨sid, rest, hdata, _, hsub⟩ :=
    (forwarding_implies_authorization sampleConf (some 1) false (fun _ _ => .nrc 0x37)
      { initialManager with sessionType := 0x03 } ⟨0, 0, .physical⟩
      ⟨[0x11, 0x81], by decide⟩).1 (by decide)
  cases hdata
  exact hsub rfl

end TelAF.UdsDiagIndication
