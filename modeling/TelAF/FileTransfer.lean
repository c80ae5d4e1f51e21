import TelAF.UdsRequests

/-!
# The file-transfer flag

`isXferActive` says whether a file transfer runs. Positive answers to a download or
file-transfer request set it; the end of the transfer, a failing block, a disconnect and
a request to cancel clear it. The handlers of 0x36 and 0x37 read it before they forward a
request. The history of a run justifies a set flag if some answer opened a transfer and
nothing ended it since.

`ReqFileXferResp` stores the flag before it compares the size of the answer with the send
buffer. The property holds in the runs whose answers to 0x38 fit into the buffer where they
are to open a transfer, and an answer that does not fit leaves the flag set without one.
-/

namespace TelAF.FileTransfer

open DiagConfiguration UdsState UdsIndications UdsDiagIndication UdsResponses SecurityAccess Bool
  Option UdsSystem UdsTasks UdsRequests TransitionRuns
open SecAccThread hiding Action step

/-- Services whose answers open or end a transfer. -/
def isTransferService (sid : UInt8) : Bool :=
  sid == requestDownloadRequestId || sid == transferDataRequestId ||
    sid == requestTransferExitRequestId || sid == requestFileTransferRequestId

/-- How `SendUDSResp` ends for an answer to one of the transfer services. -/
def responseStatus (c : DiagConf) (s : System) (resp : Response) : RespStatus :=
  if acceptsResponse s.mgr resp.serviceId resp.data = false then .fault
  else (immediateResp c (noteCode s resp.err).mgr resp.serviceId resp.err resp.data
    s.timers.authDelay).2.1

/-- A positive answer to a download, or to a request for a file that is not deleted. -/
def opensTransfer (c : DiagConf) (s : System) : Action → Bool
  | .respond _ resp => resp.err == positiveResponse && responseStatus c s resp == .ok &&
      (resp.serviceId == requestDownloadRequestId ||
        resp.serviceId == requestFileTransferRequestId && s.mgr.recv 1 != 0x02)
  | _ => false

/-- A positive answer to a transfer exit, a negative one to a block, a request to cancel
that is executed, and the end of the connection or of the process. -/
def endsTransfer (c : DiagConf) (s : System) : Action → Bool
  | .respond _ resp => responseStatus c s resp == .ok &&
      (resp.serviceId == requestTransferExitRequestId && resp.err == positiveResponse ||
        resp.serviceId == transferDataRequestId && resp.err != positiveResponse)
  | .setData .fileXferState => !s.cancelRequested && s.mgr.readyToRecvData
  | .cancelFileXfer => s.cancelRequested && s.mgr.readyToRecvData
  | .disconnect _ => true
  | .reboot => true
  | _ => false

/-- A transfer was opened in the run and nothing ended it since. -/
def TransferOpen (c : DiagConf) : List Action → Prop :=
  Since (step c) (fun s a => opensTransfer c s a = true) (fun s a => endsTransfer c s a = true)
    (initialSystem c)

/-- The step forwards the request that it receives. -/
def forwardsRequest (s' : System) : Prop := s'.pending = some s'.received
deriving Decidable

/-- Blocks and transfer exits are forwarded only while a transfer runs, a transfer that runs
was opened, and an answer that fails changes nothing. -/
structure TransferSound (c : DiagConf) (as : List Action) (s : System) (a : Action)
    (s' : System) : Prop where
  forwarded : ∀ addr msg sid rest, a = .request addr msg → msg.data = sid :: rest →
    sid = transferDataRequestId ∨ sid = requestTransferExitRequestId → forwardsRequest s' →
      s.mgr.isXferActive = true ∧ s'.mgr.isXferActive = true
  opened : s'.mgr.isXferActive = true → TransferOpen c (as ++ [a])
  failed : ∀ origin resp, a = .respond origin resp → isTransferService resp.serviceId = true →
    responseStatus c s resp = .fault → s'.mgr.isXferActive = s.mgr.isXferActive

/-- Modes of operation in which a file or a directory is transferred. -/
def transfersFile (mode : UInt8) : Bool :=
  mode == 0x01 || mode == 0x03 || mode == 0x04 || mode == 0x05 || mode == 0x06

/-- A positive answer that is to open the transfer of a file has room in the send buffer. -/
def FitsBuffer (s : System) : Action → Prop
  | .respond _ resp => acceptsResponse s.mgr resp.serviceId resp.data = true →
      resp.serviceId = requestFileTransferRequestId → resp.err = positiveResponse →
        transfersFile (s.mgr.recv 1) = true → s.mgr.isXferActive = false →
          6 + dataSize resp.data ≤ udsMaxDataSize
  | _ => True

instance : DecidableRel FitsBuffer := fun _ => by
  rintro ⟨⟩ <;> unfold FitsBuffer <;> infer_instance

section
variable {c : DiagConf} {s s' : System} {m : UdsManager} {a : Action}

/-! What leaves the flag alone. -/

@[simp] theorem sendNRC_isXferActive (sid errorCode : UInt8) :
    (UdsDiagIndication.sendNRC m sid errorCode).isXferActive = m.isXferActive := by
  unfold UdsDiagIndication.sendNRC
  split_ifs <;> rfl

@[simp] theorem sendResponse_isXferActive (origin : Nat) (resp : Response) :
    (s.sendResponse origin resp).mgr.isXferActive = s.mgr.isXferActive := by
  unfold System.sendResponse
  split_ifs <;> rfl

@[simp] theorem applyReply_isXferActive (reply : Reply) :
    (applyReply s reply).mgr.isXferActive = s.mgr.isXferActive := by
  unfold applyReply
  cases reply with
  | responseNRC nrc =>
    dsimp only
    split_ifs
    · exact sendNRC_isXferActive _ _
    · rfl
  | _ => rfl

theorem respondSession_isXferActive (origin : Nat) (resp : Response) :
    (respondSession c s origin resp).mgr.isXferActive = s.mgr.isXferActive := by
  have hchgd : (changeSession c s).mgr.isXferActive = s.mgr.isXferActive := by
    change (sessionCtrlRespBegin c s.mgr).1.isXferActive = _
    unfold sessionCtrlRespBegin
    dsimp only
    split_ifs <;> rfl
  unfold respondSession
  split_ifs
  · exact sendResponse_isXferActive origin resp
  · exact hchgd
  · exact (sendResponse_isXferActive origin resp).trans hchgd

theorem resume_isXferActive (reply : Reply) :
    (resume c s reply).mgr.isXferActive = s.mgr.isXferActive := by
  cases hmain : s.main with
  | idle =>
    unfold resume
    rw [hmain]
  | indicating =>
    rw [resume_indicating hmain]
    split_ifs
    · change (System.keepSession _ _).mgr.isXferActive = _
      rw [keepSession_mgr]
      rfl
    · rw [keepSession_mgr]
      rfl
  | answering origin resp =>
    rw [resume_answering hmain]
    unfold finishResponse securityAccessRespEnd
    refine (sendResponse_isXferActive origin resp).trans ?_
    split_ifs <;> rfl
  | disconnecting =>
    rw [resume_disconnecting hmain]
    rfl

/-! A request may end a transfer, and does not open one. -/

def NotOpened (m m' : UdsManager) : Prop := m'.isXferActive = true → m.isXferActive = true

theorem NotOpened.of_eq {m' : UdsManager} (h : m'.isXferActive = m.isXferActive) : NotOpened m m' :=
  fun hact => h.symm.trans hact

theorem notOpened_case {p : Prop} [Decidable p] {β : Type} {a b : UdsManager × β}
    (ha : NotOpened m a.1) (hb : NotOpened m b.1) : NotOpened m (if p then a else b).1 := by
  split_ifs
  · exact ha
  · exact hb

variable {unlocked : Option Nat}
variable {addr : AddrInfo}

theorem readDIDReq_notOpened : NotOpened m (indicateReadDIDReq c unlocked m addr).1 := by
  unfold indicateReadDIDReq
  dsimp only
  repeat' (first | exact .of_eq rfl | split)

theorem xferDataReq_notOpened : NotOpened m (indicateRxXferDataReq m).1 := by
  unfold indicateRxXferDataReq NotOpened
  split_ifs <;> simp

theorem secAccessReq_notOpened : NotOpened m (indicateSecAccessReq c m).1 := by
  unfold indicateSecAccessReq
  dsimp only
  split_ifs <;> exact .of_eq rfl

variable {authDelayRunning : Bool}

theorem indicate_notOpened (sid : UInt8) :
    NotOpened m (indicateService c unlocked authDelayRunning m addr sid).1 := by
  repeat' (first
    | exact fun h => h
    | exact readDIDReq_notOpened
    | exact secAccessReq_notOpened
    | exact xferDataReq_notOpened
    | apply notOpened_case)

theorem takeIndication_notOpened (sid : UInt8) (data : List UInt8) :
    NotOpened (m.takeRequest addr data)
      (takeIndication c unlocked authDelayRunning m addr sid data).1 := by
  unfold takeIndication
  dsimp only
  split
  · exact fun h => h
  · exact indicate_notOpened sid

variable {err serviceId sid : UInt8}

/-- Blocks and transfer exits are indicated only while a transfer runs. -/
theorem takeIndication_transfer {data : List UInt8}
    (hsid : sid = transferDataRequestId ∨ sid = requestTransferExitRequestId)
    (h : (takeIndication c unlocked authDelayRunning m addr sid data).2 = .indicate) :
    (takeIndication c unlocked authDelayRunning m addr sid data).1.isXferActive = true := by
  unfold takeIndication at h ⊢
  dsimp only at h ⊢
  split at h
  · cases h
  rcases hsid with rfl | rfl
  · change (indicateRxXferDataReq _).2 = .indicate at h
    change (indicateRxXferDataReq _).1.isXferActive = true
    unfold indicateRxXferDataReq at h ⊢
    split_ifs at h ⊢ with _ _ hact
    simpa using hact
  · change indicateRxXferExitReq _ = .indicate at h
    change (m.takeRequest addr data).isXferActive = true
    unfold indicateRxXferExitReq at h
    split_ifs at h with _ _ hact
    simpa using hact

theorem takenRequest_isXferActive (sid : UInt8) (passed : Bool) (verdict : Verdict) :
    (takenRequest s sid passed verdict).mgr.isXferActive = s.mgr.isXferActive := by
  cases verdict with
  | nrc errorCode =>
    unfold takenRequest
    split_ifs
    · rw [keepSession_mgr]
      exact sendNRC_isXferActive _ _
    · exact sendNRC_isXferActive _ _
  | silent | indicate =>
    change (System.keepSession _ _).mgr.isXferActive = _
    rw [keepSession_mgr]
  | secAcc sig => rfl

theorem request_notOpened (addr : AddrInfo) (msg : DiagMsg) :
    NotOpened s.mgr (request c s addr msg).mgr := by
  unfold request
  cases hout : receiveIndication c s.unlocked s.timers.authDelay s.mgr addr msg with
  | dropped | testerPresent suppressed => exact .of_eq rfl
  | rejected sid errorCode => exact .of_eq (sendNRC_isXferActive sid errorCode)
  | taken m verdict =>
    obtain ⟨sid, rest, hdata, htake⟩ := receive_taken c _ _ s.mgr addr msg hout
    have htkn : NotOpened (s.mgr.takeRequest addr msg.data) m := by
      have hopn : NotOpened (s.mgr.takeRequest addr msg.data) (takeIndication c s.unlocked
          s.timers.authDelay s.mgr addr sid msg.data).1 := takeIndication_notOpened sid msg.data
      rwa [htake] at hopn
    intro hact
    rw [takenRequest_isXferActive] at hact
    exact htkn hact

/-- A forwarded block or transfer exit belongs to a transfer that runs. -/
theorem request_transfer (hreqs : Requests s) {msg : DiagMsg}
    {rest : List UInt8} (hdata : msg.data = sid :: rest)
    (hsid : sid = transferDataRequestId ∨ sid = requestTransferExitRequestId)
    (hfwds : forwardsRequest (request c s addr msg)) :
    (request c s addr msg).mgr.isXferActive = true := by
  have hold : s.pending ≠ some (s.received + 1) := by
    intro hpend
    have hcurrent := hreqs.current _ hpend
    have hcounted := hreqs.counted
    omega
  unfold forwardsRequest request at hfwds
  unfold request
  cases hout : receiveIndication c s.unlocked s.timers.authDelay s.mgr addr msg with
  | dropped | rejected sid errorCode | testerPresent suppressed =>
    rw [hout] at hfwds
    exact absurd hfwds hold
  | taken m verdict =>
    rw [hout] at hfwds
    obtain ⟨sid', rest', hdata', htake⟩ := receive_taken c _ _ s.mgr addr msg hout
    have hsame : sid' = sid := by
      rw [hdata] at hdata'
      exact (List.cons.inj hdata').1.symm
    rw [hsame] at htake
    dsimp only at hfwds ⊢
    rw [takenRequest_isXferActive]
    cases verdict with
    | indicate =>
      have hindi := takeIndication_transfer (c := c) (m := s.mgr) hsid (congrArg Prod.snd htake)
      rwa [htake] at hindi
    | nrc errorCode =>
      unfold takenRequest at hfwds
      dsimp only at hfwds
      split_ifs at hfwds
      · rw [keepSession_pending, keepSession_received] at hfwds
        exact absurd hfwds hold
      · exact absurd hfwds hold
    | silent =>
      change (System.keepSession _ _).pending = some (System.keepSession _ _).received at hfwds
      rw [keepSession_pending, keepSession_received] at hfwds
      exact absurd hfwds hold
    | secAcc sig => exact absurd hfwds hold

/-! Answers. -/

theorem xferKept_case {p : Prop} [Decidable p] {β : Type} {a b : UdsManager × β}
    (ha : a.1.isXferActive = m.isXferActive) (hb : b.1.isXferActive = m.isXferActive) :
    (if p then a else b).1.isXferActive = m.isXferActive := by
  split_ifs
  · exact ha
  · exact hb

theorem countAuthFailure_isXferActive (m : UdsManager) (serviceId : UInt8)
    (authDelayRunning : Bool) :
    (countAuthFailure m serviceId authDelayRunning).1.isXferActive = m.isXferActive := by
  repeat' (first
    | rfl
    | apply xferKept_case)

theorem authResp_isXferActive (serviceId err : UInt8) (data : Option (List UInt8))
    (authDelayRunning : Bool) :
    (authenticationResp m serviceId err data authDelayRunning).1.isXferActive
      = m.isXferActive := by
  have hcnt := countAuthFailure_isXferActive
    (({ m with authPreSucReq := authSubfuncUnknown } : UdsManager).setNRC serviceId err) serviceId
    authDelayRunning
  repeat' (first
    | rfl
    | exact hcnt
    | apply xferKept_case)

variable {data : Option (List UInt8)}

/-- An answer that is not for a transfer leaves the flag alone. -/
theorem immediateResp_isXferActive (hsid : isTransferService serviceId = false) :
    (immediateResp c m serviceId err data authDelayRunning).1.isXferActive = m.isXferActive := by
  simp only [isTransferService, or_eq_false_iff, beq_eq_false_iff_ne] at hsid
  obtain ⟨⟨⟨hdown, hbloc⟩, hexit⟩, hfile⟩ := hsid
  unfold immediateResp
  dsimp only
  rw [if_neg hdown, if_neg hbloc, if_neg hexit, if_neg hfile]
  repeat' (first
    | rfl
    | exact authResp_isXferActive _ _ _ _
    | apply xferKept_case)

/-- What an answer for a transfer does to the flag. -/
structure TransferAnswer (m : UdsManager) (serviceId err : UInt8)
    (answer : UdsManager × RespStatus) : Prop where
  active : answer.1.isXferActive = true →
    err = positiveResponse ∧ answer.2 = .ok ∧
        (serviceId = requestDownloadRequestId ∨
          serviceId = requestFileTransferRequestId ∧ m.recv 1 ≠ 0x02) ∨
      m.isXferActive = true ∧ ¬ (answer.2 = .ok ∧
        (serviceId = requestTransferExitRequestId ∧ err = positiveResponse ∨
          serviceId = transferDataRequestId ∧ err ≠ positiveResponse)) ∨
      answer.2 = .fatal
  failed : answer.2 = .fault → answer.1.isXferActive = m.isXferActive

theorem reqDwnldResp_answer (err : UInt8) (data : Option (List UInt8)) :
    TransferAnswer m requestDownloadRequestId err
      (reqDwnldResp m requestDownloadRequestId err data) := by
  have hexit : requestDownloadRequestId ≠ requestTransferExitRequestId := by decide
  have hbloc : requestDownloadRequestId ≠ transferDataRequestId := by decide
  unfold reqDwnldResp
  split_ifs with herr hsize
  · exact ⟨fun hact => .inr (.inl ⟨hact, by simp [hexit, hbloc]⟩), fun h => by cases h⟩
  · exact ⟨fun hact => .inr (.inl ⟨hact, fun h => by cases h.1⟩), fun _ => rfl⟩
  · exact ⟨fun _ => .inl ⟨not_not.1 herr, rfl, .inl rfl⟩, fun h => by cases h⟩

theorem xferDataResp_answer (err : UInt8) (data : Option (List UInt8)) :
    TransferAnswer m transferDataRequestId err (xferDataResp m transferDataRequestId err data) := by
  have hexit : transferDataRequestId ≠ requestTransferExitRequestId := by decide
  unfold xferDataResp
  split_ifs with hsize herr
  · exact ⟨fun hact => .inr (.inl ⟨hact, fun h => by cases h.1⟩), fun _ => rfl⟩
  · exact ⟨fun hact => (by cases hact), fun h => by cases h⟩
  · have hposi := not_not.1 herr
    exact ⟨fun hact => .inr (.inl ⟨hact, by simp [hexit, hposi]⟩), fun h => by cases h⟩

theorem reqXferExitResp_answer (err : UInt8) :
    TransferAnswer m requestTransferExitRequestId err
      (reqXferExitResp m requestTransferExitRequestId err) := by
  have hbloc : requestTransferExitRequestId ≠ transferDataRequestId := by decide
  unfold reqXferExitResp
  split_ifs with herr
  · exact ⟨fun hact => .inr (.inl ⟨hact, by simp [hbloc, herr]⟩), fun h => by cases h⟩
  · exact ⟨fun hact => (by cases hact), fun h => by cases h⟩

/-- The flag is stored before the size is checked, so the answer has to fit. -/
theorem reqFileXferResp_answer
    (hfits : err = positiveResponse → transfersFile (m.recv 1) = true → m.isXferActive = false →
      6 + dataSize data ≤ udsMaxDataSize) :
    TransferAnswer m requestFileTransferRequestId err
      (reqFileXferResp m requestFileTransferRequestId err data) := by
  have hexit : requestFileTransferRequestId ≠ requestTransferExitRequestId := by decide
  have hbloc : requestFileTransferRequestId ≠ transferDataRequestId := by decide
  -- an answer that does not fit finds a transfer that already runs
  have hrefu : err = positiveResponse → transfersFile (m.recv 1) = true →
      6 + dataSize data > udsMaxDataSize → TransferAnswer m requestFileTransferRequestId err
        ({ m with isXferActive := true }, .fault) := by
    intro herr hmode hsize
    have hact : m.isXferActive = true := by
      by_contra hinac
      have hroom := hfits herr hmode (by simpa using hinac)
      omega
    exact ⟨fun _ => .inr (.inl ⟨hact, fun h => by cases h.1⟩), fun _ => hact.symm⟩
  unfold reqFileXferResp
  dsimp only
  generalize [requestFileTransferRequestId + 0x40, m.recv 1, 0x02, 0x0F, 0xFB,
    if m.recv 1 = 0x05 then 0x00 else m.recv (4 + (m.recv16 2).toNat)] = header
  split_ifs with herr hdlt hwrit hsize hresume hread hinfo hsize
  iterate 2 exact ⟨fun hact => .inr (.inl ⟨hact, by simp [hexit, hbloc]⟩), fun h => by cases h⟩
  · have hmode : transfersFile (m.recv 1) = true := by
      rcases hwrit with h | h | h <;> rw [h] <;> rfl
    exact hrefu (not_not.1 herr) hmode hsize
  · exact ⟨fun _ => .inr (.inr rfl), fun h => by cases h⟩
  · exact ⟨fun _ => .inl ⟨not_not.1 herr, rfl, .inr ⟨rfl, hdlt⟩⟩, fun h => by cases h⟩
  · exact ⟨fun _ => .inr (.inr rfl), fun h => by cases h⟩
  · have hmode : transfersFile (m.recv 1) = true := by rcases hread with h | h <;> rw [h] <;> rfl
    exact hrefu (not_not.1 herr) hmode hsize
  · exact ⟨fun _ => .inl ⟨not_not.1 herr, rfl, .inr ⟨rfl, hdlt⟩⟩, fun h => by cases h⟩
  · exact ⟨fun hact => .inr (.inl ⟨hact, by simp [hexit, hbloc]⟩), fun h => by cases h⟩

theorem immediateResp_answer {b : Bool} (hsid : isTransferService serviceId = true)
    (hfits : serviceId = requestFileTransferRequestId → err = positiveResponse →
      transfersFile (m.recv 1) = true → m.isXferActive = false →
        6 + dataSize data ≤ udsMaxDataSize) :
    TransferAnswer m serviceId err
      ((immediateResp c m serviceId err data b).1, (immediateResp c m serviceId err data b).2.1) := by
  simp only [isTransferService, or_eq_true, beq_iff_eq] at hsid
  rcases hsid with ((rfl | rfl) | rfl) | rfl
  · exact reqDwnldResp_answer err data
  · exact xferDataResp_answer err data
  · exact reqXferExitResp_answer err
  · exact reqFileXferResp_answer (hfits rfl)

theorem respondImmediate_isXferActive (origin : Nat) (resp : Response) :
    (respondImmediate c s origin resp).mgr.isXferActive =
      ((immediateResp c s.mgr resp.serviceId resp.err resp.data s.timers.authDelay).1.isXferActive
        && (immediateResp c s.mgr resp.serviceId resp.err resp.data s.timers.authDelay).2.1
          != .fatal) := by
  unfold respondImmediate
  dsimp only
  cases hstat : (immediateResp c s.mgr resp.serviceId resp.err resp.data
    s.timers.authDelay).2.1 with
  | ok =>
    refine (sendResponse_isXferActive origin resp).trans ?_
    exact (Bool.and_true _).symm
  | fault => exact (Bool.and_true _).symm
  | fatal => exact (Bool.and_false _).symm

variable {resp : Response}
variable {origin : Nat}

theorem respond_notOpened (hsid : isTransferService resp.serviceId = false) :
    NotOpened s.mgr (respond c s origin resp).mgr := by
  unfold respond
  split_ifs
  · exact .of_eq rfl
  · exact .of_eq (respondSession_isXferActive origin resp)
  · unfold respondSecAcc
    split_ifs <;> exact .of_eq rfl
  intro hact
  rw [respondImmediate_isXferActive, immediateResp_isXferActive hsid, and_eq_true] at hact
  exact hact.1

/-- An answer sets the flag by opening a transfer, or leaves it set without ending one; one
that fails leaves it alone. -/
theorem respond_transfer (hfits : FitsBuffer s (.respond origin resp)) :
    ((respond c s origin resp).mgr.isXferActive = true →
      opensTransfer c s (.respond origin resp) = true ∨
        s.mgr.isXferActive = true ∧ endsTransfer c s (.respond origin resp) = false) ∧
    (isTransferService resp.serviceId = true → responseStatus c s resp = .fault →
      (respond c s origin resp).mgr.isXferActive = s.mgr.isXferActive) := by
  by_cases hacc : acceptsResponse s.mgr resp.serviceId resp.data = false
  · have hsame : respond c s origin resp = noteCode s resp.err := by
      unfold respond
      rw [if_pos hacc]
    have hstat : responseStatus c s resp = .fault := by
      unfold responseStatus
      rw [if_pos hacc]
    rw [hsame]
    exact ⟨fun hact => .inr ⟨hact, by simp [endsTransfer, hstat]⟩, fun _ _ => rfl⟩
  by_cases hsid : isTransferService resp.serviceId = true
  · have hacc' : acceptsResponse s.mgr resp.serviceId resp.data = true := by
      simpa using hacc
    have hres : respond c s origin resp
        = respondImmediate c (noteAnswer s origin resp) origin resp := by
      unfold respond
      rw [if_neg hacc, if_neg, if_neg] <;>
        · intro hoth
          rw [hoth] at hsid
          cases hsid
    have hstat : responseStatus c s resp = (immediateResp c (noteCode s resp.err).mgr
        resp.serviceId resp.err resp.data s.timers.authDelay).2.1 := by
      unfold responseStatus
      rw [if_neg hacc]
    have hansw := immediateResp_answer (c := c) (m := (noteCode s resp.err).mgr)
      (b := s.timers.authDelay) hsid (hfits hacc')
    have hflag : (respondImmediate c (noteAnswer s origin resp) origin resp).mgr.isXferActive =
        ((immediateResp c (noteCode s resp.err).mgr resp.serviceId resp.err resp.data
            s.timers.authDelay).1.isXferActive &&
          (immediateResp c (noteCode s resp.err).mgr resp.serviceId resp.err resp.data
            s.timers.authDelay).2.1 != .fatal) :=
      respondImmediate_isXferActive origin resp
    rw [hres, hflag]
    refine ⟨fun hact => ?_, fun _ hflt => ?_⟩
    · obtain ⟨hset, hlive⟩ := Bool.and_eq_true_iff.1 hact
      rcases hansw.active hset with ⟨herr, hok, hope⟩ | ⟨hset, hopen⟩ | hfata
      · left
        rw [← hstat] at hok
        simp only [opensTransfer, Bool.and_eq_true, Bool.or_eq_true, beq_iff_eq, bne_iff_ne]
        exact ⟨⟨herr, hok⟩, hope⟩
      · refine .inr ⟨hset, ?_⟩
        rw [← hstat] at hopen
        simpa [endsTransfer] using hopen
      · have hnot : (immediateResp c (noteCode s resp.err).mgr resp.serviceId resp.err resp.data
            s.timers.authDelay).2.1 ≠ .fatal := by simpa using hlive
        exact absurd hfata hnot
    · rw [hstat] at hflt
      have hsame := hansw.failed hflt
      rw [hflt]
      exact (Bool.and_true _).trans hsame
  · have hoth : isTransferService resp.serviceId = false := by simpa using hsid
    refine ⟨fun hact => .inr ⟨respond_notOpened hoth hact, ?_⟩, fun h => absurd h hsid⟩
    simp only [isTransferService, Bool.or_eq_false_iff] at hoth
    simp [endsTransfer, hoth]

/-! One step and a run. -/

theorem setData_isXferActive {data : UdsData} (hact : (setData s data).mgr.isXferActive = true) :
    s.mgr.isXferActive = true ∧ ¬ endsTransfer c s (.setData data) = true := by
  cases data with
  | fileXferState =>
    unfold setData at hact
    unfold endsTransfer
    dsimp only at hact
    split_ifs at hact with hcanc hrdy
    · exact ⟨hact, by simp [hcanc]⟩
    · cases hact
    · exact ⟨hact, by simp [hrdy]⟩
  | _ => exact ⟨hact, by simp [endsTransfer]⟩

theorem cancelFileXfer_isXferActive (hstep : cancelFileXfer s = some s')
    (hact : s'.mgr.isXferActive = true) :
    s.mgr.isXferActive = true ∧ ¬ endsTransfer c s .cancelFileXfer = true := by
  unfold cancelFileXfer at hstep
  split_ifs at hstep with hevs hcanc
  · cases hstep
    cases hact
  cases hstep
  refine ⟨hact, fun hends => hcanc ?_⟩
  simpa [endsTransfer] using hends

theorem secAccHandles_isXferActive (hstep : secAccHandles c s = some s')
    (hact : s'.mgr.isXferActive = true) : s.mgr.isXferActive = true := by
  obtain ⟨entry, rest, hqueue, hcas⟩ := secAccHandles_cases hstep
  rcases hcas with ⟨ao, tree, reply, move, rfl⟩ | ⟨tree, reason, _, rfl⟩
  · split_ifs at hact
    · rw [resume_isXferActive, applyReply_isXferActive] at hact
      exact hact
    · rw [applyReply_isXferActive] at hact
      exact hact
  · cases hact

/-- A step sets the flag by opening a transfer, or leaves it set without ending one. -/
theorem step_isXferActive (hgrd : FitsBuffer s a) (hstep : step c s a = some s')
    (hact : s'.mgr.isXferActive = true) :
    opensTransfer c s a = true ∨ s.mgr.isXferActive = true ∧ ¬ endsTransfer c s a = true := by
  have htran := step_transition hstep
  cases htran with
  | request addr msg => exact .inr ⟨request_notOpened addr msg hact, by simp [endsTransfer]⟩
  | disconnected addr | disconnecting addr | reboot => cases hact
  | respond origin resp =>
    refine ((respond_transfer hgrd).1 hact).imp_right ?_
    rintro ⟨hset, hopen⟩
    exact ⟨hset, by simp [hopen]⟩
  | setData data value active paused cancel hidle hkept =>
    change (if s.main = .idle then some (setData s data) else none) = _ at hstep
    rw [if_pos hidle] at hstep
    rw [← some.inj hstep] at hact
    exact .inr (setData_isXferActive hact)
  | cancelFileXfer active cancel hidle hevs hkept =>
    change (if s.main = .idle then cancelFileXfer s else none) = _ at hstep
    rw [if_pos hidle] at hstep
    exact .inr (cancelFileXfer_isXferActive hstep hact)
  | secAccHandles s' hstep =>
    exact .inr ⟨secAccHandles_isXferActive hstep hact, by simp [endsTransfer]⟩
  | p2StarPending nrc rest | p2StarFinal nrc rest =>
    have hset := (sendNRC_isXferActive nrc.sid nrc.errorCode).symm.trans hact
    exact .inr ⟨hset, by simp [endsTransfer]⟩
  | _ => exact .inr ⟨hact, by simp [endsTransfer]⟩

/-- The answer to a request to read a directory that is refused for its size sets the flag. -/
theorem respond_oversized {data : List UInt8} {sendable : Bool}
    (hlen : s.mgr.recvDataLen ≠ 0) (hsid : s.mgr.recv 0 = requestFileTransferRequestId)
    (hmode : s.mgr.recv 1 = 0x05) (hfits : data.length ≤ udsMaxDataSize)
    (hsize : udsMaxDataSize < 6 + data.length)
    (hresp : resp = ⟨requestFileTransferRequestId, positiveResponse, some data, sendable⟩) :
    responseStatus c s resp = .fault ∧ (respond c s origin resp).mgr.isXferActive = true := by
  have hacc : acceptsResponse s.mgr resp.serviceId resp.data = true := by
    rw [hresp]
    simp only [acceptsResponse, and_eq_true, bne_iff_ne, beq_iff_eq, decide_eq_true_eq]
    exact ⟨⟨hlen, hsid.symm⟩, hfits⟩
  have hansw : immediateResp c (noteCode s resp.err).mgr resp.serviceId resp.err resp.data
      s.timers.authDelay = ({ (noteCode s resp.err).mgr with isXferActive := true }, .fault, []) := by
    have hmode' : (noteCode s resp.err).mgr.recv 1 = 0x05 := hmode
    have hfull : 6 + dataSize (some data) > udsMaxDataSize := hsize
    have hflt : reqFileXferResp (noteCode s resp.err).mgr requestFileTransferRequestId
        positiveResponse (some data)
          = ({ (noteCode s resp.err).mgr with isXferActive := true }, .fault) := by
      unfold reqFileXferResp
      simp [hmode', hfull]
    rw [hresp] at hflt ⊢
    change ((reqFileXferResp _ _ _ _).1, (reqFileXferResp _ _ _ _).2, ([] : List TimerEvent)) = _
    rw [hflt]
  have hrefu : ¬ acceptsResponse s.mgr resp.serviceId resp.data = false := by
    rw [hacc]
    simp
  constructor
  · unfold responseStatus
    rw [if_neg hrefu, hansw]
  have hfile : resp.serviceId = requestFileTransferRequestId := by rw [hresp]
  have hsess : resp.serviceId ≠ sessionControlRequestId := by
    rw [hfile]
    decide
  have hsecA : resp.serviceId ≠ securityAccessRequestId := by
    rw [hfile]
    decide
  unfold respond
  rw [if_neg hrefu, if_neg hsess, if_neg hsecA]
  refine (respondImmediate_isXferActive origin resp).trans ?_
  change ((immediateResp c (noteCode s resp.err).mgr resp.serviceId resp.err resp.data
      s.timers.authDelay).1.isXferActive && (immediateResp c (noteCode s resp.err).mgr
        resp.serviceId resp.err resp.data s.timers.authDelay).2.1 != .fatal) = true
  rw [hansw]
  rfl

end

/-- In every run in which the answers that open the transfer of a file fit into the send
buffer, blocks and transfer exits are forwarded only while a transfer runs, a transfer that
runs was opened and not ended since, and an answer that fails changes nothing. -/
theorem transfer_sound (c : DiagConf) (as : List Action) (a : Action) (s s' : System)
    (hok : Meets (step c) FitsBuffer (initialSystem c) (as ++ [a]))
    (hrun : exec (step c) (initialSystem c) as = some s) (hstep : step c s a = some s') :
    TransferSound c as s a s' := by
  obtain ⟨hmeets, hlast⟩ := meets_append.1 hok
  have hguard : FitsBuffer s a := (hlast s hrun).1
  refine ⟨?_, fun hactive => ?_, ?_⟩
  · rintro addr msg sid rest rfl hdata hsid hforwards
    have hrequests : Requests s :=
      exec_invariant_of_step (fun _ _ _ h hstep => requests_step h hstep) requests_initial hrun
    cases step_transition hstep with
    | request =>
      have hactive := request_transfer hrequests hdata hsid hforwards
      exact ⟨request_notOpened addr msg hactive, hactive⟩
  · have hnext : exec (step c) (initialSystem c) (as ++ [a]) = some s' := by
      rw [exec_append, hrun, Option.bind_some, exec_cons, hstep]
      rfl
    have hinactive : ¬ (initialSystem c).mgr.isXferActive = true := Bool.false_ne_true
    have hflag : ∀ (s : System) (a : Action) (t : System), FitsBuffer s a →
        step c s a = some t → t.mgr.isXferActive = true → opensTransfer c s a = true ∨
          s.mgr.isXferActive = true ∧ ¬ endsTransfer c s a = true :=
      fun _ _ _ hguard hstep hactive => step_isXferActive hguard hstep hactive
    exact since_of_flag hflag hinactive hok hnext hactive
  · rintro origin resp rfl hsid hfault
    cases step_transition hstep with
    | respond => exact (respond_transfer hguard).2 hsid hfault

/-- Whatever comes in between, the request that waits for its response is the last one taken, no
other is taken while it waits, and the buffer still holds it. -/
theorem requests_run {c : DiagConf} {as : List Action} {s : System}
    (hrun : exec (step c) (initialSystem c) as = some s) : Requests s :=
  exec_invariant_of_step (fun _ _ _ h hstep => requests_step h hstep) requests_initial hrun

def transferConf : DiagConf :=
  { sampleConf with servicesAll := [
      (0x36, ⟨true, false, false, ⟨[], 0, []⟩, []⟩),
      (0x37, ⟨true, false, false, ⟨[], 0, []⟩, []⟩),
      (0x38, ⟨true, false, false, ⟨[], 0, []⟩, []⟩)] ++ sampleConf.servicesAll }

def physicalAddr : AddrInfo := ⟨0x0E80, 0x1001, .physical⟩

/-- The tester enters the extended session and asks to read the directory `/`. -/
def readDir : List Action :=
  [.request physicalAddr extendedRequest, .respond 1 ⟨0x10, 0, none, true⟩,
    .secAccHandles, .request physicalAddr ⟨[0x38, 0x05, 0x00, 0x01, 0x2F], by decide⟩]

theorem requests_run_readDir :
    ∃ s, exec (step transferConf) (initialSystem transferConf) readDir = some s ∧ Requests s := by
  obtain ⟨s, hrun⟩ := isSome_iff_exists.1
    (show (exec (step transferConf) (initialSystem transferConf) readDir).isSome = true by decide)
  exact ⟨s, hrun, requests_run hrun⟩

/-- A positive answer with as many bytes of information about the directory. -/
def announceDir (size : Nat) : Action := .respond 2 ⟨0x38, 0, some (List.replicate size 0), true⟩

def firstBlock : Action := .request physicalAddr ⟨[0x36, 0x01], by decide⟩

/-- The answer to the request opens a transfer, and the first block is forwarded. -/
theorem transfer_sound_readDir :
    ∃ s s', exec (step transferConf) (initialSystem transferConf) (readDir ++ [announceDir 8])
        = some s ∧
      step transferConf s firstBlock = some s' ∧ forwardsRequest s' ∧
      TransferSound transferConf (readDir ++ [announceDir 8]) s firstBlock s' := by
  have hforwards : (exec (step transferConf) (initialSystem transferConf)
      (readDir ++ [announceDir 8])).bind (fun s => (step transferConf s firstBlock).map fun s' =>
        decide (forwardsRequest s')) = some true := by decide
  obtain ⟨s, hrun, hnext⟩ := Option.bind_eq_some_iff.1 hforwards
  obtain ⟨s', hstep, hpend⟩ := Option.map_eq_some_iff.1 hnext
  exact ⟨s, s', hrun, hstep, of_decide_eq_true hpend,
    transfer_sound transferConf (readDir ++ [announceDir 8]) firstBlock s s' (by decide) hrun hstep⟩

/-- The answer to the request is refused for its size, and leaves the flag set. -/
theorem oversized_answer_unsound :
    ∃ s s', exec (step transferConf) (initialSystem transferConf) readDir = some s ∧
      step transferConf s (announceDir 16395) = some s' ∧
      ¬ TransferSound transferConf readDir s (announceDir 16395) s' := by
  have hwaiting : (exec (step transferConf) (initialSystem transferConf) readDir).map (fun s =>
      (s.main, s.mgr.recvDataLen, s.mgr.recv 0, s.mgr.recv 1, s.mgr.isXferActive))
        = some (.idle, 5, requestFileTransferRequestId, 0x05, false) := by decide
  obtain ⟨s, hrun, hres⟩ := Option.map_eq_some_iff.1 hwaiting
  simp only [Prod.mk.injEq] at hres
  obtain ⟨hidle, hlen, hsid, hmode, hinactive⟩ := hres
  obtain ⟨size, hsize⟩ : ∃ size, size = 16395 := ⟨_, rfl⟩
  have hlength : (List.replicate size (0 : UInt8)).length = 16395 := by
    rw [List.length_replicate, hsize]
  have hlen' : s.mgr.recvDataLen ≠ 0 := by
    rw [hlen]
    decide
  have hanswered : responseStatus transferConf s ⟨0x38, 0,
      some (List.replicate size 0), true⟩ = .fault ∧
      (respond transferConf s 2 ⟨0x38, 0, some (List.replicate size 0), true⟩).mgr.isXferActive
        = true :=
    respond_oversized hlen' hsid hmode (by rw [hlength]; decide) (by rw [hlength]; decide) rfl
  obtain ⟨hfault, hactive⟩ := hanswered
  rw [← hsize]
  refine ⟨s, _, hrun, if_pos hidle, fun hsound => ?_⟩
  have hkept := hsound.failed 2 _ rfl rfl hfault
  rw [hactive, hinactive] at hkept
  cases hkept

end TelAF.FileTransfer
