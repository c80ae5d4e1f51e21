import TelAF.UdsTasks

/-!
# The pending request and the reception buffer

In every run the manager is ready for a request exactly while none is pending, and while
one is pending, or a security-access request is being decided, the reception buffer still
holds it: its service identifier and its bytes, among them the sub-function that the later
response reads. Only the identifiers of a request to read data are filtered there.
`Requests` is this invariant.
-/

namespace TelAF.UdsRequests

open DiagConfiguration UdsState UdsIndications UdsDiagIndication UdsResponses SecurityAccess
  Function SecAccMoves UdsSystem UdsTasks
open SecAccThread hiding Action step

structure Buffered (m : UdsManager) (data : List UInt8) : Prop where
  service : m.recv 0 = data.getD 0 0
  bytes : data.getD 0 0 ≠ readDidRequestId →
    ∀ i, i < data.length → i < udsMaxDataSize → m.recv i = data.getD i 0
  /-- A transfer exit has no second byte. -/
  subFunction : data.getD 0 0 ≠ readDidRequestId →
    data.getD 0 0 ≠ requestTransferExitRequestId →
    m.recv 1 = data.getD 1 0
  secAccType : data.getD 0 0 = securityAccessRequestId → m.recvSubFunc = m.recv 1

structure Requests (s : System) : Prop where
  counted : s.current ≤ s.received
  current : ∀ r, s.pending = some r → r = s.current
  ready : s.mgr.readyToRecvData = s.pending.isNone
  indicating : s.main = .indicating →
    s.pending = none ∧ (s.requests s.current).getD 0 0 = securityAccessRequestId
  buffered : s.pending.isSome = true ∨ s.main = .indicating →
    Buffered s.mgr (s.requests s.current)

variable {c : DiagConf} {s s' : System}

variable {unlocked : Option Nat} {m : UdsManager} {addr : AddrInfo}

theorem readDidLoop_extends
    (is : List Nat) {acc acc' : ReadDidLoop} (h : readDidLoop c unlocked m addr is acc = .ok acc') :
    acc.updatedRecvBuf <+: acc'.updatedRecvBuf := by
  induction is generalizing acc with
  | nil =>
    cases h
    exact List.prefix_rfl
  | cons i rest ih =>
    unfold readDidLoop at h
    dsimp only at h
    split at h
    · exact ih h
    have hcntd : (if addr.taType = .functional then
        { acc with funcAddrDidNum := acc.funcAddrDidNum + 1 } else acc).updatedRecvBuf
          = acc.updatedRecvBuf := by
      split_ifs <;> rfl
    split at h
    · have hpref := ih h
      rwa [hcntd] at hpref
    · cases h
    have hpref := ih h
    rw [hcntd] at hpref
    exact (List.prefix_append _ _).trans hpref

theorem recv_zero_of_prefix {sid : UInt8} {buf rest : List UInt8}
    (h : [sid] <+: buf) (hbuf : m.recvBuf = buf ++ rest) : m.recv 0 = sid := by
  obtain ⟨more, rfl⟩ := h
  simp [UdsManager.recv, hbuf]

theorem readDIDReq_recv_zero :
    (indicateReadDIDReq c unlocked m addr).1.recv 0 = m.recv 0 := by
  unfold indicateReadDIDReq
  dsimp only
  split_ifs
  iterate 4 rfl
  cases hloop : readDidLoop c unlocked m addr (List.range ((m.recvDataLen - 1) / 2))
    ⟨[m.recv 0], 0⟩ with
  | error errorCode => rfl
  | ok acc =>
    dsimp only
    split_ifs
    iterate 3 rfl
    exact recv_zero_of_prefix (readDidLoop_extends _ hloop) rfl

theorem secAccessReq_ne_indicate (m : UdsManager) :
    (indicateSecAccessReq c m).2 ≠ .indicate := by
  unfold indicateSecAccessReq
  dsimp only
  split_ifs <;> exact Verdict.noConfusion

variable {authDelayRunning : Bool}

/-- A request of one byte is refused by every service but the transfer exit. -/
theorem indicate_short {sid : UInt8} (hsht : m.recvDataLen < 2)
    (hsid : sid ≠ requestTransferExitRequestId) :
    ∃ errorCode, (indicateService c unlocked authDelayRunning m addr sid).2 = .nrc errorCode := by
  have hcase : ∀ {p : Prop} [Decidable p] {a b : UdsManager × Verdict},
      (∃ errorCode, a.2 = .nrc errorCode) → (¬ p → ∃ errorCode, b.2 = .nrc errorCode) →
        ∃ errorCode, (if p then a else b).2 = .nrc errorCode := by
    intro p _ a b ha hb
    split_ifs with hp
    · exact ha
    · exact hb hp
  have hsht3 : m.recvDataLen < 3 := by omega
  have hsht4 : m.recvDataLen < 4 := by omega
  have hsht5 : m.recvDataLen < 5 := by omega
  have hclr : ∃ errorCode, indicateClearDiagInfoReq m = .nrc errorCode := by
    unfold indicateClearDiagInfoReq
    split_ifs <;> exact ⟨_, rfl⟩
  have hdtc : ∃ errorCode, indicateReadDTCInfoReq c unlocked m = .nrc errorCode := by
    unfold indicateReadDTCInfoReq
    split_ifs <;> exact ⟨_, rfl⟩
  have hiocb : ∃ errorCode, indicateIOCBIDReq c unlocked m = .nrc errorCode :=
    ⟨_, if_pos hsht4⟩
  have hauth : ∃ errorCode, indicateAuthReq c unlocked m authDelayRunning = .nrc errorCode := by
    unfold indicateAuthReq
    split_ifs <;> exact ⟨_, rfl⟩
  have hroe : ∃ errorCode, indicateROEReq c unlocked m = .nrc errorCode := by
    unfold indicateROEReq
    split_ifs <;> exact ⟨_, rfl⟩
  refine hcase ⟨_, if_pos hsht⟩ fun _ => ?_
  refine hcase ⟨_, if_pos hsht⟩ fun _ => ?_
  refine hcase hclr fun _ => ?_
  refine hcase hdtc fun _ => ?_
  refine hcase ⟨_, congrArg Prod.snd (if_pos hsht3)⟩ fun _ => ?_
  refine hcase ⟨_, congrArg Prod.snd (if_pos hsht)⟩ fun _ => ?_
  refine hcase hauth fun _ => ?_
  refine hcase ⟨_, if_pos hsht4⟩ fun _ => ?_
  refine hcase hiocb fun _ => ?_
  refine hcase ⟨_, if_pos hsht4⟩ fun _ => ?_
  refine hcase ⟨_, if_pos hsht3⟩ fun _ => ?_
  refine hcase ⟨_, congrArg Prod.snd (if_pos hsht)⟩ fun _ => ?_
  rw [if_neg hsid]
  refine hcase ⟨_, if_pos hsht5⟩ fun _ => ?_
  exact hcase hroe fun _ => ⟨_, rfl⟩

theorem indicateAuthReq_eq_indicate
    (h : indicateAuthReq c unlocked m authDelayRunning = .indicate) :
    2 ≤ m.recvDataLen ∧
      (m.subFunction = authSubfuncPown → m.authPreSucReq = authSubfuncVerifyCertUnidir) := by
  unfold indicateAuthReq at h
  dsimp only at h
  split_ifs at h with _ hlen _ _ _ _ _ _ hpown
  refine ⟨by omega, fun hsub => ?_⟩
  by_contra hne
  exact hpown ⟨hsub, hne⟩

/-- The handler for reading data filters the buffer; every other one leaves it alone. -/
theorem indicate_recvBuf {sid : UInt8} (hsid : sid ≠ readDidRequestId) :
    (indicateService c unlocked authDelayRunning m addr sid).1.recvBuf = m.recvBuf := by
  have hcase : ∀ {p : Prop} [Decidable p] {a b : UdsManager × Verdict}, a.1.recvBuf = m.recvBuf →
      b.1.recvBuf = m.recvBuf → (if p then a else b).1.recvBuf = m.recvBuf := by
    intro p _ a b ha hb
    split_ifs
    · exact ha
    · exact hb
  have hsecA : (indicateSecAccessReq c m).1.recvBuf = m.recvBuf := by
    unfold indicateSecAccessReq
    dsimp only
    split_ifs <;> rfl
  have hxfer : (indicateRxXferDataReq m).1.recvBuf = m.recvBuf := by
    unfold indicateRxXferDataReq
    split_ifs <;> rfl
  unfold indicateService
  rw [if_neg hsid]
  repeat' (first
    | rfl
    | exact hsecA
    | exact hxfer
    | apply hcase)

theorem indicate_recv_zero (sid : UInt8) :
    (indicateService c unlocked authDelayRunning m addr sid).1.recv 0 = m.recv 0 := by
  by_cases hsid : sid = readDidRequestId
  · subst hsid
    exact readDIDReq_recv_zero
  · exact congrArg (List.getD · 0 0) (indicate_recvBuf hsid)

theorem takeIndication_buffered
    {m' : UdsManager} {sid : UInt8} {rest : List UInt8} {verdict : Verdict}
    (h : takeIndication c unlocked authDelayRunning m addr sid (sid :: rest) = (m', verdict))
    (hpass : verdict = .indicate ∨ ∃ sig, verdict = .secAcc sig) :
    Buffered m' (sid :: rest) := by
  have hfst : (m.takeRequest addr (sid :: rest)).recv 0 = sid :=
    takeRequest_recv m addr (sid :: rest) (Nat.succ_pos _) (by decide)
  unfold takeIndication at h
  dsimp only at h
  split at h
  · obtain ⟨_, rfl⟩ := Prod.mk.inj h
    rcases hpass with hpass | ⟨sig, hpass⟩ <;> cases hpass
  obtain ⟨rfl, hverd⟩ := Prod.ext_iff.1 h
  have hbyt : sid ≠ readDidRequestId → ∀ i, i < (sid :: rest).length → i < udsMaxDataSize →
      (indicateService c unlocked authDelayRunning (m.takeRequest addr (sid :: rest)) addr
        sid).1.recv i = (sid :: rest).getD i 0 := by
    intro hsid i hi hsize
    exact (congrArg (List.getD · i 0) (indicate_recvBuf hsid)).trans
      (takeRequest_recv m addr (sid :: rest) hi hsize)
  refine ⟨(indicate_recv_zero sid).trans hfst, hbyt, fun hread hexit => ?_,
    fun hsid => ?_⟩
  · apply hbyt hread 1 ?_ (by decide)
    by_contra hsht
    have hrefu : ∃ errorCode, (indicateService c unlocked authDelayRunning
        (m.takeRequest addr (sid :: rest)) addr sid).2 = .nrc errorCode :=
      indicate_short (Nat.not_le.1 hsht) hexit
    obtain ⟨errorCode, hrefu⟩ := hrefu
    rw [hverd] at hrefu
    rcases hpass with rfl | ⟨sig, rfl⟩ <;> cases hrefu
  · have hsame : sid = securityAccessRequestId := hsid
    subst hsame
    rcases hpass with rfl | ⟨sig, rfl⟩
    · exact absurd hverd (secAccessReq_ne_indicate _)
    obtain ⟨_, hmgr, _⟩ := secAccessReq_secAcc hverd
    change (indicateSecAccessReq c _).1.recvSubFunc = (indicateSecAccessReq c _).1.recv 1
    rw [hmgr]
    rfl

structure BufferKept (m m' : UdsManager) : Prop where
  ready : m'.readyToRecvData = m.readyToRecvData
  recvBuf : m'.recvBuf = m.recvBuf
  recvSubFunc : m'.recvSubFunc = m.recvSubFunc

section

variable (m : UdsManager)

theorem BufferKept.refl : BufferKept m m := ⟨rfl, rfl, rfl⟩

theorem sendNRC_kept (sid errorCode : UInt8) :
    BufferKept m (UdsDiagIndication.sendNRC m sid errorCode) := by
  unfold UdsDiagIndication.sendNRC
  split_ifs <;> exact ⟨rfl, rfl, rfl⟩

theorem setNRC_kept (sid errorCode : UInt8) :
    BufferKept m (m.setNRC sid errorCode) := ⟨rfl, rfl, rfl⟩

theorem responseAllZeroSeed_kept (seedByteSize : Nat) :
    BufferKept m (UdsDiagIndication.responseAllZeroSeed m seedByteSize) := ⟨rfl, rfl, rfl⟩

theorem sessionCtrlRespEnd_kept : BufferKept m (sessionCtrlRespEnd c m) := ⟨rfl, rfl, rfl⟩

theorem sessionCtrlRespBegin_kept : BufferKept m (sessionCtrlRespBegin c m).1 := by
  unfold sessionCtrlRespBegin
  dsimp only
  split_ifs <;> exact ⟨rfl, rfl, rfl⟩

theorem immediateResp_kept (serviceId err : UInt8) (data : Option (List UInt8))
    (authDelayRunning : Bool) :
    BufferKept m (immediateResp c m serviceId err data authDelayRunning).1 :=
  have hfram := immediateResp_frame c m serviceId err data authDelayRunning
  ⟨hfram.readyToRecvData, hfram.recvBuf, hfram.recvSubFunc⟩

end

theorem Buffered.of_kept {m' : UdsManager} {data : List UInt8} (h : Buffered m data)
    (hkept : BufferKept m m') : Buffered m' data := by
  have hrecv : ∀ i, m'.recv i = m.recv i := by
    intro i
    rw [UdsManager.recv, hkept.recvBuf, UdsManager.recv]
  exact ⟨(hrecv 0).trans h.service,
    fun hread i hi hsize => (hrecv i).trans (h.bytes hread i hi hsize),
    fun hread hexit => (hrecv 1).trans (h.subFunction hread hexit),
    fun hsid => (hkept.recvSubFunc.trans (h.secAccType hsid)).trans (hrecv 1).symm⟩

section

variable (h : Requests s)
include h

theorem Requests.of_kept (hmain : s'.main = .indicating → s.main = .indicating)
    (hpend : s'.pending = s.pending) (hcur : s'.current = s.current)
    (hreqs : s'.requests = s.requests) (hrcvd : s.received ≤ s'.received)
    (hkept : BufferKept s.mgr s'.mgr) : Requests s' where
  counted := by
    rw [hcur]
    exact h.counted.trans hrcvd
  current := by
    rw [hpend, hcur]
    exact h.current
  ready := by
    rw [hkept.ready, hpend]
    exact h.ready
  indicating := by
    rw [hpend, hcur, hreqs]
    exact fun hind => h.indicating (hmain hind)
  buffered := by
    rw [hpend, hcur, hreqs]
    exact fun hopen => (h.buffered (hopen.imp_right hmain)).of_kept hkept

theorem Requests.setMgr (hkept : BufferKept s.mgr m) : Requests (s.setMgr m) :=
  h.of_kept (fun hmain => hmain) rfl rfl rfl le_rfl hkept

theorem Requests.schedule (events : List TimerEvent) : Requests (s.schedule events) :=
  h.of_kept (fun hmain => hmain) rfl rfl rfl le_rfl (BufferKept.refl _)

theorem Requests.observe (events : List Event) : Requests (s.observe events) :=
  h.of_kept (fun hmain => hmain) rfl rfl rfl le_rfl (BufferKept.refl _)

theorem Requests.keepSession (sid : UInt8) : Requests (s.keepSession sid) := by
  unfold System.keepSession
  split_ifs
  · exact h.schedule _
  · exact h

theorem Requests.sendNRC (origin target : Nat) (sid errorCode : UInt8) :
    Requests (s.sendNRC origin target sid errorCode) :=
  h.of_kept (fun hmain => hmain) rfl rfl rfl le_rfl (sendNRC_kept _ _ _)

/-- The main thread waits, but not for the decision about a request. -/
theorem Requests.handOver (sig : SecAccSignal) {task : MainTask}
    (htask : task ≠ .indicating) : Requests (s.handOver sig task) :=
  h.of_kept (fun hmain => absurd hmain htask) rfl rfl rfl le_rfl (BufferKept.refl _)

end

theorem requests_of_none (hcntd : s.current ≤ s.received) (hpend : s.pending = none)
    (hrdy : s.mgr.readyToRecvData = true) (hmain : s.main ≠ .indicating) : Requests s where
  counted := hcntd
  current := by
    intro r hr
    rw [hpend] at hr
    cases hr
  ready := by
    rw [hrdy, hpend]
    rfl
  indicating := fun hind => absurd hind hmain
  buffered := by
    rintro (hopen | hind)
    · rw [hpend] at hopen
      cases hopen
    · exact absurd hind hmain

theorem Requests.close (h : Requests s) (origin : Nat) (hmain : s.main ≠ .indicating) :
    Requests (s.close origin) :=
  requests_of_none h.counted rfl rfl hmain

theorem Requests.sendResponse (h : Requests s) (origin : Nat) (resp : Response)
    (hmain : s.main ≠ .indicating) : Requests (s.sendResponse origin resp) := by
  unfold System.sendResponse
  split_ifs
  · exact (Requests.close (h.observe _) origin hmain).schedule _
  · exact h

theorem requests_forward (hcntd : s.current ≤ s.received) (hmain : s.main ≠ .indicating)
    (hbufd : Buffered s.mgr (s.requests s.current)) : Requests s.forward where
  counted := hcntd
  current := fun _ hr => (Option.some.inj hr).symm
  ready := rfl
  indicating := fun hind => absurd hind hmain
  buffered := fun _ =>
    ⟨hbufd.service, hbufd.bytes, hbufd.subFunction, hbufd.secAccType⟩

section

variable (h : Requests s)
include h

theorem Requests.none_of_taken {msg : DiagMsg} {verdict : Verdict}
    (hout : receiveIndication c s.unlocked s.timers.authDelay s.mgr addr msg
      = .taken m verdict) : s.mgr.readyToRecvData = true ∧ s.pending = none := by
  have hrdy : s.mgr.readyToRecvData = true := by
    by_contra hbusy
    exact receive_untaken c _ _ s.mgr addr msg (.inl (by simpa using hbusy)) m verdict
      hout
  refine ⟨hrdy, ?_⟩
  rw [h.ready] at hrdy
  exact Option.isNone_iff_eq_none.1 hrdy

theorem requests_request (hidle : s.main = .idle) (addr : AddrInfo) (msg : DiagMsg) :
    Requests (request c s addr msg) := by
  have harr : Requests (arrive s msg) :=
    h.of_kept (fun hmain => hmain) rfl rfl rfl (Nat.le_succ _) (BufferKept.refl _)
  unfold request
  cases hout : receiveIndication c s.unlocked s.timers.authDelay s.mgr addr msg with
  | dropped => exact harr
  | rejected sid errorCode => exact (harr.schedule _).sendNRC _ _ _ _
  | testerPresent suppressed => exact (harr.schedule _).observe _
  | taken m verdict =>
    obtain ⟨hrdy, hnone⟩ := h.none_of_taken hout
    obtain ⟨sid, rest, hdata, htake⟩ := receive_taken c _ _ s.mgr addr msg hout
    have hmgr : m.readyToRecvData = true :=
      (receive_frame c _ _ s.mgr addr msg hout).readyToRecvData.trans hrdy
    have hbufd : verdict = .indicate ∨ (∃ sig, verdict = .secAcc sig) →
        Buffered m (update s.requests (s.received + 1) msg.data (s.received + 1)) := by
      rw [update_self, hdata]
      rw [hdata] at htake
      exact takeIndication_buffered htake
    have hidle' : s.main ≠ .indicating := by
      rw [hidle]
      exact MainTask.noConfusion
    have htkn : Requests ((taken (arrive s msg) (s.received + 1) msg.data m).schedule
        (authTimers c s msg)) :=
      requests_of_none le_rfl hnone hmgr hidle'
    cases verdict with
    | nrc errorCode =>
      unfold takenRequest
      dsimp only
      split_ifs
      · exact (htkn.sendNRC _ _ _ _).keepSession _
      · exact htkn.sendNRC _ _ _ _
    | silent => exact htkn.keepSession _
    | indicate =>
      have hkept := htkn.keepSession (msg.data.getD 0 0)
      refine requests_forward hkept.counted ?_ ?_
      · rw [keepSession_main]
        exact hidle'
      · rw [keepSession_mgr, keepSession_requests, keepSession_current]
        exact hbufd (.inl rfl)
    | secAcc sig =>
      obtain ⟨rfl, _⟩ := takeIndication_secAcc htake
      have hhead : (update s.requests (s.received + 1) msg.data (s.received + 1)).getD 0 0
          = securityAccessRequestId := by
        rw [update_self, hdata]
        rfl
      exact ⟨le_rfl, htkn.current, htkn.ready, fun _ => ⟨hnone, hhead⟩,
        fun _ => hbufd (.inr ⟨sig, rfl⟩)⟩

theorem requests_respond (hidle : s.main = .idle) (origin : Nat) (resp : Response) :
    Requests (respond c s origin resp) := by
  have hidle' : s.main ≠ .indicating := by
    rw [hidle]
    exact MainTask.noConfusion
  have hnote : Requests (noteCode s resp.err) := h.setMgr ⟨rfl, rfl, rfl⟩
  have hansd : Requests (noteAnswer s origin resp) := hnote.observe _
  have hchgd : Requests (changeSession c (noteAnswer s origin resp)) :=
    ((hansd.setMgr (sessionCtrlRespBegin_kept _)).schedule _).observe _
  unfold respond
  split_ifs with haccepts hsess hsecA
  · exact hnote
  · unfold respondSession
    split_ifs
    · exact (hansd.setMgr (setNRC_kept _ _ _)).sendResponse origin resp hidle'
    · exact hchgd.handOver _ MainTask.noConfusion
    · exact (hchgd.setMgr (sessionCtrlRespEnd_kept _)).sendResponse origin resp hidle'
  · unfold respondSecAcc
    split_ifs
    · exact hansd
    · exact hansd.handOver _ MainTask.noConfusion
  have hpkd := (hansd.setMgr (immediateResp_kept (c := c) (noteAnswer s origin resp).mgr
    resp.serviceId resp.err resp.data s.timers.authDelay)).schedule
    (immediateResp c (noteAnswer s origin resp).mgr resp.serviceId resp.err resp.data
      s.timers.authDelay).2.2
  unfold respondImmediate
  dsimp only
  split
  · exact hpkd.sendResponse origin resp hidle'
  · exact hpkd
  · exact requests_of_none hansd.counted rfl rfl MainTask.noConfusion

theorem requests_applyReply (reply : Reply) : Requests (applyReply s reply) := by
  unfold applyReply
  cases reply with
  | responseNRC nrc =>
    dsimp only
    split_ifs
    · exact h.sendNRC _ _ _ _
    · exact h
  | allZeroSeed seedByteSize => exact (h.setMgr (responseAllZeroSeed_kept _ _)).observe _
  | setResponseNRC nrc => exact h.setMgr ⟨rfl, rfl, rfl⟩
  | posted | ignored => exact h

theorem requests_finishResponse (hmain : s.main ≠ .indicating) (origin : Nat)
    (resp : Response) : Requests (finishResponse c s origin resp) := by
  have hkept : BufferKept s.mgr (if resp.serviceId = sessionControlRequestId then
      sessionCtrlRespEnd c s.mgr else securityAccessRespEnd s.mgr resp.serviceId resp.data) := by
    unfold securityAccessRespEnd
    split_ifs <;> exact ⟨rfl, rfl, rfl⟩
  exact (h.setMgr hkept).sendResponse origin resp hmain

theorem requests_resume (reply : Reply) : Requests (resume c s reply) := by
  have hawak : Requests s.awake :=
    h.of_kept (fun hmain => by cases hmain) rfl rfl rfl le_rfl (BufferKept.refl _)
  cases hmain : s.main with
  | idle =>
    unfold resume
    rw [hmain]
    exact h
  | indicating =>
    have hkept := hawak.keepSession securityAccessRequestId
    have hbufd := h.buffered (.inr hmain)
    rw [resume_indicating hmain]
    split_ifs
    · refine requests_forward hkept.counted ?_ ?_
      · rw [keepSession_main]
        exact MainTask.noConfusion
      · rw [keepSession_mgr, keepSession_requests, keepSession_current]
        exact hbufd
    · exact hkept
  | answering origin resp =>
    rw [resume_answering hmain]
    exact requests_finishResponse hawak MainTask.noConfusion origin resp
  | disconnecting =>
    rw [resume_disconnecting hmain]
    exact hawak.setMgr ⟨rfl, rfl, rfl⟩

theorem requests_secAccHandles (hstep : secAccHandles c s = some s') : Requests s' := by
  obtain ⟨entry, rest, _, hcas⟩ := secAccHandles_cases hstep
  rcases hcas with ⟨ao, tree, reply, _, rfl⟩ | ⟨tree, reason, _, rfl⟩
  · have hdspd : Requests (dispatched c s entry rest ao tree reply) :=
      h.of_kept (fun hmain => hmain) rfl rfl rfl le_rfl (BufferKept.refl _)
    split_ifs
    · exact requests_resume (requests_applyReply hdspd reply) reply
    · exact requests_applyReply hdspd reply
  · exact requests_of_none h.counted rfl rfl MainTask.noConfusion

theorem requests_step {a : Action} (hstep : step c s a = some s') : Requests s' := by
  have hidle : s.main = .idle → s.main ≠ .indicating := by
    intro hidle hmain
    rw [hidle] at hmain
    cases hmain
  have hrset : ∀ addr, s.main = .idle → Requests (resetConnection s addr) :=
    fun addr hmain => requests_of_none h.counted rfl rfl (hidle hmain)
  cases step_transition hstep with
  | request addr msg hmain => exact requests_request h hmain addr msg
  | disconnected addr hmain => exact hrset addr hmain
  | disconnecting addr hmain => exact (hrset addr hmain).handOver _ MainTask.noConfusion
  | respond origin resp hmain => exact requests_respond h hmain origin resp
  | secAccHandles s' hstep => exact requests_secAccHandles h hstep
  | waitTimesOut =>
    exact h.of_kept (fun hmain => by cases hmain) rfl rfl rfl le_rfl (BufferKept.refl _)
  | p2StarPending nrc rest =>
    have htkn : Requests ({ s with p2StarNrcs := rest } : System) :=
      h.of_kept (fun hmain => hmain) rfl rfl rfl le_rfl (BufferKept.refl _)
    exact htkn.sendNRC _ _ _ _
  | p2StarFinal nrc rest hmain => exact requests_of_none h.counted rfl rfl (hidle hmain)
  | reboot => exact requests_of_none h.counted rfl rfl MainTask.noConfusion
  | _ => exact h.of_kept (fun hmain => hmain) rfl rfl rfl le_rfl ⟨rfl, rfl, rfl⟩

end

theorem requests_initial : Requests (initialSystem c) :=
  requests_of_none le_rfl rfl rfl MainTask.noConfusion

end TelAF.UdsRequests
