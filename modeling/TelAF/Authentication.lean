import TelAF.UdsRequests

/-!
# Proof of ownership after a verified certificate

A tester is authenticated by two requests: its certificate is verified and then it
proves that it owns the key. The manager remembers the first of them in
`authPreSucReq`, which nothing but an answer to an authentication request writes. The
field therefore outlives the connection on which the certificate was verified, a
request that the manager refuses by itself, and a request that ends with a P2* timeout.

`AuthenticationSound` is what a step must not violate, and `InSequence` excludes the
steps that leave the field behind.
-/

namespace TelAF.Authentication

open DiagConfiguration UdsState UdsIndications UdsDiagIndication UdsResponses SecurityAccess List
  Bool Option SecAccMoves UdsSystem UdsTasks UdsRequests TransitionRuns
open SecAccThread hiding Action step

/-- A message for the authentication service. -/
def isAuth (data : List UInt8) : Bool := data.getD 0 0 == authenticationRequestId

def isVerifyCert (data : List UInt8) : Bool :=
  isAuth data && data.getD 1 0 &&& 0x7F == authSubfuncVerifyCertUnidir

def isPown (data : List UInt8) : Bool := isAuth data && data.getD 1 0 &&& 0x7F == authSubfuncPown

/-- The last authentication message on the open connection. -/
def lastAuthRequest : List Event → Option (Nat × List UInt8)
  | [] => none
  | .disconnected :: _ => none
  | .received request data :: older =>
    if isAuth data then some (request, data) else lastAuthRequest older
  | _ :: older => lastAuthRequest older

/-- The last authentication message asked for a certificate to be verified, and was
answered positively while it was pending. -/
def CertVerified (log : List Event) : Prop :=
  ∃ request data, lastAuthRequest log = some (request, data) ∧ isVerifyCert data = true ∧
    .answered request data positiveResponse true ∈ log

/-- The request came on the open connection, right after a certificate was verified. -/
def FollowsCert (request : Nat) : List Event → Prop
  | [] => False
  | .disconnected :: _ => False
  | .received number _ :: older =>
    if number = request then CertVerified older else FollowsCert request older
  | _ :: older => FollowsCert request older

/-- Only the positive answer to a proof of ownership authenticates the tester, and only
when the authentication message before the proof was a verified certificate on the same
connection. After a disconnect no proof of ownership is accepted. -/
structure AuthenticationSound (s : System) (a : Action) (s' : System) : Prop where
  authenticated : s.mgr.authState ≠ .authenticated → s'.mgr.authState = .authenticated →
    ∃ origin resp, a = .respond origin resp ∧ resp.serviceId = authenticationRequestId ∧
      resp.err = positiveResponse ∧ s.pending = some origin ∧
      isPown (s.requests origin) = true ∧ FollowsCert origin s.log
  forgotten : ∀ addr, a = .disconnect addr → s'.mgr.authPreSucReq ≠ authSubfuncVerifyCertUnidir

def authPending (s : System) : Bool := s.pending.any fun request => isAuth (s.requests request)

def certPending (s : System) : Bool :=
  s.pending.any fun request => isVerifyCert (s.requests request)

/-- A certificate is remembered, or will be when the pending request is answered. -/
def certAtStake (s : System) : Bool :=
  certPending s || s.mgr.authPreSucReq == authSubfuncVerifyCertUnidir && !authPending s

/-- The request passes every check of its service. -/
def forwards (c : DiagConf) (s : System) (addr : AddrInfo) (msg : DiagMsg) : Bool :=
  match receiveIndication c s.unlocked s.timers.authDelay s.mgr addr msg with
  | .taken _ .indicate => true
  | _ => false

/-- No disconnect, refused authentication message or final P2* timeout comes between a
verified certificate and the proof of ownership, and no answer to an authentication
request comes late. -/
def InSequence (c : DiagConf) (s : System) : Action → Prop
  | .request addr msg =>
    isAuth msg.data = true → forwards c s addr msg = true ∨ certAtStake s = false
  | .disconnect _ => s.mgr.authPreSucReq ≠ authSubfuncVerifyCertUnidir
  | .respond origin resp =>
    acceptsResponse s.mgr resp.serviceId resp.data = true →
      resp.serviceId = authenticationRequestId → resp.err = positiveResponse →
        s.pending = some origin
  | .p2StarSendNrc =>
    ∀ nrc ∈ s.p2StarNrcs.head?, nrc.errorCode ≠ requestCorrectlyReceivedResponsePending →
      authPending s = true → s.mgr.authPreSucReq ≠ authSubfuncVerifyCertUnidir
  | _ => True

instance (c : DiagConf) : DecidableRel (InSequence c) := fun _ => by
  rintro ⟨⟩ <;> unfold InSequence <;> infer_instance

/-- What the remembered certificate and the pending request say about the log. -/
structure Authenticating (s : System) : Prop where
  remembered : s.mgr.authPreSucReq = authSubfuncVerifyCertUnidir → authPending s = false →
    CertVerified s.log
  verifying : ∀ r, s.pending = some r → isVerifyCert (s.requests r) = true →
    lastAuthRequest s.log = some (r, s.requests r)
  owning : ∀ r, s.pending = some r → isPown (s.requests r) = true → FollowsCert r s.log
  waiting : s.main ≠ .idle → authPending s = false

structure AuthKept (m m' : UdsManager) : Prop where
  authState : m'.authState = m.authState
  authPreSucReq : m'.authPreSucReq = m.authPreSucReq

section
variable {c : DiagConf} {s s' : System} {log : List Event} {m m' : UdsManager}

/-! The log. -/

/-- Events that are neither messages nor disconnects. -/
def neutral : Event → Bool
  | .received .. => false
  | .disconnected => false
  | _ => true

variable {events : List Event}

section

variable (hneut : ∀ event ∈ events, neutral event = true)
include hneut

theorem lastAuthRequest_append : lastAuthRequest (events ++ log) = lastAuthRequest log := by
  induction events with
  | nil => rfl
  | cons event events ih =>
    have hrest := ih fun other hoth => hneut other (mem_cons_of_mem _ hoth)
    have hev := hneut event mem_cons_self
    cases event <;> first | exact hrest | cases hev

theorem followsCert_append {r : Nat} : FollowsCert r (events ++ log) ↔ FollowsCert r log := by
  induction events with
  | nil => rfl
  | cons event events ih =>
    have hrest := ih fun other hoth => hneut other (mem_cons_of_mem _ hoth)
    have hev := hneut event mem_cons_self
    cases event <;> first | exact hrest | cases hev

end

theorem CertVerified.append (h : CertVerified log) (events : List Event)
    (hneut : ∀ event ∈ events, neutral event = true) : CertVerified (events ++ log) := by
  obtain ⟨request, data, hlast, hcert, hansd⟩ := h
  refine ⟨request, data, ?_, hcert, mem_append_right _ hansd⟩
  rw [lastAuthRequest_append hneut, hlast]

variable {data : List UInt8}

theorem CertVerified.received (h : CertVerified log) (request : Nat)
    (hdata : isAuth data = false) : CertVerified (.received request data :: log) := by
  obtain ⟨cert, certData, hlast, hcert, hansd⟩ := h
  refine ⟨cert, certData, ?_, hcert, mem_cons_of_mem _ hansd⟩
  simp [lastAuthRequest, hdata, hlast]

theorem isAuth_of_isVerifyCert (h : isVerifyCert data = true) : isAuth data = true :=
  (and_eq_true_iff.1 h).1

theorem isAuth_of_isPown (h : isPown data = true) : isAuth data = true :=
  (and_eq_true_iff.1 h).1

theorem authPending_of_pending {r : Nat} (hpend : s.pending = some r)
    (hdata : isAuth (s.requests r) = true) : authPending s = true := by
  simp [authPending, hpend, hdata]

theorem authPending_of_none (hpend : s.pending = none) : authPending s = false := by
  simp [authPending, hpend]

/-! The invariant along the operations. -/

theorem Authenticating.of_neutral (h : Authenticating s) (events : List Event)
    (hlog : s'.log = events ++ s.log) (hneut : ∀ event ∈ events, neutral event = true)
    (hpred : s'.mgr.authPreSucReq = authSubfuncVerifyCertUnidir →
      s.mgr.authPreSucReq = authSubfuncVerifyCertUnidir)
    (hpend : s'.pending = s.pending) (hreqs : s'.requests = s.requests)
    (hmain : s'.main ≠ .idle → authPending s = false) : Authenticating s' := by
  have hauth : authPending s' = authPending s := by rw [authPending, hpend, hreqs, authPending]
  refine ⟨fun hcert hnot => ?_, fun r hr hdata => ?_, fun r hr hdata => ?_, fun hwts => ?_⟩
  · rw [hlog]
    exact (h.remembered (hpred hcert) (hauth.symm.trans hnot)).append events hneut
  · rw [hlog, lastAuthRequest_append hneut, hreqs]
    rw [hpend] at hr
    rw [hreqs] at hdata
    exact h.verifying r hr hdata
  · rw [hlog, followsCert_append hneut]
    rw [hpend] at hr
    rw [hreqs] at hdata
    exact h.owning r hr hdata
  · exact hauth.trans (hmain hwts)

theorem auth_of_none (hpend : s.pending = none)
    (hcert : s.mgr.authPreSucReq = authSubfuncVerifyCertUnidir → CertVerified s.log) :
    Authenticating s where
  remembered := fun hpred _ => hcert hpred
  verifying := by
    intro r hr
    rw [hpend] at hr
    cases hr
  owning := by
    intro r hr
    rw [hpend] at hr
    cases hr
  waiting := fun _ => authPending_of_none hpend

theorem Authenticating.of_same (h : Authenticating s) (hlog : s'.log = s.log)
    (hkept : AuthKept s.mgr s'.mgr) (hpend : s'.pending = s.pending)
    (hreqs : s'.requests = s.requests) (hmain : s'.main ≠ .idle → s.main ≠ .idle) :
    Authenticating s' := by
  have hnone : ∀ event ∈ ([] : List Event), neutral event = true := fun _ hmem => by cases hmem
  have hsame : s'.log = [] ++ s.log := hlog
  exact h.of_neutral [] hsame hnone (fun hcert => hkept.authPreSucReq.symm.trans hcert) hpend
    hreqs fun hwts => h.waiting (hmain hwts)

theorem AuthKept.refl (m : UdsManager) : AuthKept m m := ⟨rfl, rfl⟩

theorem AuthKept.trans {m'' : UdsManager} (h : AuthKept m m') (h' : AuthKept m' m'') :
    AuthKept m m'' :=
  ⟨h'.authState.trans h.authState, h'.authPreSucReq.trans h.authPreSucReq⟩

section

variable (h : Authenticating s)
include h

theorem Authenticating.setMgr (hkept : AuthKept s.mgr m) : Authenticating (s.setMgr m) :=
  h.of_same rfl hkept rfl rfl fun hmain => hmain

theorem Authenticating.schedule (events : List TimerEvent) : Authenticating (s.schedule events) :=
  h.of_same rfl (AuthKept.refl _) rfl rfl fun hmain => hmain

theorem Authenticating.keepSession (sid : UInt8) : Authenticating (s.keepSession sid) := by
  unfold System.keepSession
  split_ifs
  · exact h.schedule _
  · exact h

theorem Authenticating.observe
    (hneut : ∀ event ∈ events, neutral event = true) : Authenticating (s.observe events) :=
  h.of_neutral _ rfl hneut (fun hcert => hcert) rfl rfl h.waiting

theorem Authenticating.handOver (sig : SecAccSignal) (task : MainTask)
    (hnot : authPending s = false) : Authenticating (s.handOver sig task) :=
  ⟨h.remembered, h.verifying, h.owning, fun _ => hnot⟩

/-- The request in the buffer is forwarded; it is not for authentication. -/
theorem Authenticating.forward (hnone : s.pending = none)
    (hdata : isAuth (s.requests s.current) = false) : Authenticating s.forward := by
  have hoth : authPending s.forward = false := hdata
  refine ⟨fun hcert _ => ?_, fun r hr hcert => ?_, fun r hr hpown => ?_, fun _ => hoth⟩
  · exact (h.remembered hcert (authPending_of_none hnone)).append
      [.sent s.current s.current false] (by simp [neutral])
  · rw [authPending_of_pending hr (isAuth_of_isVerifyCert hcert)] at hoth
    cases hoth
  · rw [authPending_of_pending hr (isAuth_of_isPown hpown)] at hoth
    cases hoth

theorem Authenticating.sendResponse
    (hcert : s.mgr.authPreSucReq = authSubfuncVerifyCertUnidir → CertVerified s.log)
    (origin : Nat) (resp : Response) : Authenticating (s.sendResponse origin resp) := by
  unfold System.sendResponse
  split_ifs
  · refine auth_of_none rfl fun hpred => ?_
    exact (hcert hpred).append [.closed origin s.current, .sent origin s.current true]
      (by simp [neutral])
  · exact h

end

/-! What writes the authentication record. -/

theorem sendNRC_authKept (sid errorCode : UInt8) :
    AuthKept m (UdsDiagIndication.sendNRC m sid errorCode) := by
  unfold UdsDiagIndication.sendNRC
  split_ifs <;> exact ⟨rfl, rfl⟩

theorem setNRC_authKept (sid errorCode : UInt8) :
    AuthKept m (m.setNRC sid errorCode) := ⟨rfl, rfl⟩

theorem sessionCtrlRespEnd_authKept : AuthKept m (sessionCtrlRespEnd c m) := ⟨rfl, rfl⟩

theorem secAccRespEnd_authKept (serviceId : UInt8) (data : Option (List UInt8)) :
    AuthKept m (securityAccessRespEnd m serviceId data) := by
  unfold securityAccessRespEnd
  split_ifs <;> exact ⟨rfl, rfl⟩

theorem sessionCtrlRespBegin_authKept : AuthKept m (sessionCtrlRespBegin c m).1 := by
  unfold sessionCtrlRespBegin
  dsimp only
  split_ifs <;> exact ⟨rfl, rfl⟩

theorem authKept_case {p : Prop} [Decidable p] {β : Type} {a b : UdsManager × β}
    (ha : AuthKept m a.1) (hb : AuthKept m b.1) : AuthKept m (if p then a else b).1 := by
  split_ifs
  · exact ha
  · exact hb

theorem reqFileXferResp_authKept {serviceId err : UInt8} {data : Option (List UInt8)} :
    AuthKept m (reqFileXferResp m serviceId err data).1 := by
  repeat' (first
    | exact ⟨rfl, rfl⟩
    | apply authKept_case)

variable {authDelayRunning : Bool}

/-- Only the answer to an authentication request writes the record. -/
theorem immediateResp_authKept {serviceId err : UInt8} {data : Option (List UInt8)}
    (hsid : serviceId ≠ authenticationRequestId) :
    AuthKept m (immediateResp c m serviceId err data authDelayRunning).1 := by
  unfold immediateResp
  dsimp only
  rw [if_neg hsid]
  repeat' (first
    | exact ⟨rfl, rfl⟩
    | exact reqFileXferResp_authKept
    | apply authKept_case)

structure AuthAnswer (m : UdsManager) (err : UInt8)
    (answer : UdsManager × RespStatus × List TimerEvent) : Prop where
  remembered : answer.1.authPreSucReq = authSubfuncVerifyCertUnidir →
    answer.2.1 ≠ .ok ∧ answer.1.authPreSucReq = m.authPreSucReq ∨
      err = positiveResponse ∧ m.subFunction = authSubfuncVerifyCertUnidir
  authenticated : answer.1.authState = .authenticated → m.authState = .authenticated ∨
    err = positiveResponse ∧ m.subFunction = authSubfuncPown

theorem countAuthFailure_record (m : UdsManager) (serviceId : UInt8) (authDelayRunning : Bool) :
    (countAuthFailure m serviceId authDelayRunning).1.authPreSucReq = m.authPreSucReq ∧
      (countAuthFailure m serviceId authDelayRunning).1.authState = .deauthenticated := by
  unfold countAuthFailure
  dsimp only
  split_ifs <;> exact ⟨rfl, rfl⟩

theorem authResp_answer (serviceId err : UInt8) (data : Option (List UInt8))
    (authDelayRunning : Bool) :
    AuthAnswer m err (authenticationResp m serviceId err data authDelayRunning) := by
  have hunk : authSubfuncUnknown ≠ authSubfuncVerifyCertUnidir := by decide
  unfold authenticationResp
  by_cases herr : err = positiveResponse
  · rw [if_neg (not_not.2 herr)]
    split_ifs with hsize hdeauth hveri hpown
    · exact ⟨fun _ => .inl ⟨RespStatus.noConfusion, rfl⟩, fun hst => .inl hst⟩
    · exact ⟨fun hcert => absurd hcert hunk, fun hst => by cases hst⟩
    · exact ⟨fun _ => .inr ⟨herr, hveri⟩, fun hst => .inl hst⟩
    · exact ⟨fun hcert => absurd hcert hunk, fun _ => .inr ⟨herr, hpown⟩⟩
    · exact ⟨fun hcert => absurd hcert hunk, fun hst => .inl hst⟩
  rw [if_pos herr]
  split_ifs
  · obtain ⟨hpred, hfail⟩ := countAuthFailure_record
      (({ m with authPreSucReq := authSubfuncUnknown } : UdsManager).setNRC serviceId err)
      serviceId authDelayRunning
    refine ⟨fun hcert => absurd (hpred.symm.trans hcert) hunk, fun hst => ?_⟩
    rw [hfail] at hst
    cases hst
  · exact ⟨fun hcert => absurd hcert hunk, fun hst => .inl hst⟩

/-! One step. -/

theorem authPending_service (hreqs : Requests s) (hauth : authPending s = true) :
    s.mgr.recv 0 = authenticationRequestId := by
  rcases hpend : s.pending with _ | r
  · rw [authPending_of_none hpend] at hauth
    cases hauth
  have hcur := hreqs.current r hpend
  have hbufd := hreqs.buffered (.inl (by rw [hpend]; rfl))
  have hdata : isAuth (s.requests r) = true := by simpa [authPending, hpend] using hauth
  rw [hbufd.service, ← hcur]
  exact eq_of_beq hdata

variable {resp : Response}

theorem serviceId_of_accepts (hacc : acceptsResponse s.mgr resp.serviceId resp.data = true) :
    resp.serviceId = s.mgr.recv 0 := by
  exact eq_of_beq (and_eq_true_iff.1 (and_eq_true_iff.1 hacc).1).2

/-- A response for another service is not for an authentication request. -/
theorem not_authPending_of_accepts (hreqs : Requests s)
    (hacc : acceptsResponse s.mgr resp.serviceId resp.data = true)
    (hsid : resp.serviceId ≠ authenticationRequestId) : authPending s = false := by
  by_contra hauth
  apply hsid
  rw [serviceId_of_accepts hacc]
  exact authPending_service hreqs (by simpa using hauth)

variable {origin : Nat}

/-- The sub-function of the pending authentication request stands in the buffer. -/
theorem pending_subFunction (hreqs : Requests s)
    (hpend : s.pending = some origin) (hsvc : s.mgr.recv 0 = authenticationRequestId) :
    isAuth (s.requests origin) = true ∧
      (s.requests origin).getD 1 0 &&& 0x7F = s.mgr.subFunction := by
  have hcur := hreqs.current origin hpend
  have hbufd := hreqs.buffered (.inl (by rw [hpend]; rfl))
  have hhead : (s.requests s.current).getD 0 0 = authenticationRequestId :=
    hbufd.service.symm.trans hsvc
  have hsub := hbufd.subFunction (by rw [hhead]; decide) (by rw [hhead]; decide)
  rw [hcur]
  refine ⟨beq_iff_eq.2 hhead, ?_⟩
  rw [UdsManager.subFunction, hsub]

theorem lastAuthRequest_received {r : Nat} (hdata : isAuth data = true) :
    lastAuthRequest (.received r data :: log) = some (r, data) := by
  simp [lastAuthRequest, hdata]

variable {msg : DiagMsg}

theorem Authenticating.arrive (h : Authenticating s) (hreqs : Requests s)
    (hsafe : isAuth msg.data = true → certAtStake s = false) : Authenticating (arrive s msg) := by
  have hoth : ∀ r, s.pending = some r → s.received + 1 ≠ r := by
    intro r hr
    have hcur := hreqs.current r hr
    have hcounted := hreqs.counted
    omega
  refine ⟨fun hcert hnot => ?_, fun r hr hdata => ?_, fun r hr hpown => ?_, h.waiting⟩
  · by_cases hauth : isAuth msg.data = true
    · have hstak := hsafe hauth
      have hsame : s.mgr.authPreSucReq = authSubfuncVerifyCertUnidir := hcert
      have hidle : authPending s = false := hnot
      simp [certAtStake, hsame, hidle] at hstak
    · exact (h.remembered hcert hnot).received _ (by simpa using hauth)
  · by_cases hauth : isAuth msg.data = true
    · have hstak := hsafe hauth
      have hpend : s.pending = some r := hr
      have hcert : isVerifyCert (s.requests r) = true := hdata
      simp [certAtStake, certPending, hpend, hcert] at hstak
    have hnot : isAuth msg.data = false := by simpa using hauth
    have hlast := h.verifying r hr hdata
    change (if isAuth msg.data then _ else lastAuthRequest s.log) = _
    rw [hnot]
    exact hlast
  · change if s.received + 1 = r then _ else FollowsCert r s.log
    rw [if_neg (hoth r hr)]
    exact h.owning r hr hpown

/-- An authentication request is forwarded; a proof of ownership follows a certificate. -/
theorem auth_forwarded (h : Authenticating s) (hnone : s.pending = none)
    {number : Nat} (hdata : isAuth data = true)
    (hpown : isPown data = true → s.mgr.authPreSucReq = authSubfuncVerifyCertUnidir)
    (hlog : s'.log = .sent number number false :: .received number data :: s.log)
    (hpend : s'.pending = some number) (hreqs : s'.requests number = data)
    (hidle : s'.main = .idle) : Authenticating s' := by
  have hauth : authPending s' = true := authPending_of_pending hpend (hreqs ▸ hdata)
  refine ⟨fun _ hnot => ?_, fun r hr _ => ?_, fun r hr hown => ?_, fun hmain => absurd hidle hmain⟩
  · rw [hauth] at hnot
    cases hnot
  · have hnum : number = r := some.inj (hpend.symm.trans hr)
    rw [hlog, ← hnum, hreqs]
    exact lastAuthRequest_received hdata
  have hnum : number = r := some.inj (hpend.symm.trans hr)
  rw [← hnum, hreqs] at hown
  rw [hlog, ← hnum]
  change if number = number then CertVerified s.log else _
  rw [if_pos rfl]
  exact h.remembered (hpown hown) (authPending_of_none hnone)

/-- A forwarded proof of ownership finds the certificate remembered. -/
theorem takeIndication_pown {unlocked : Option Nat} {addr : AddrInfo}
    {sid : UInt8} {rest : List UInt8}
    (h : takeIndication c unlocked authDelayRunning m addr sid (sid :: rest) = (m', .indicate))
    (hpown : isPown (sid :: rest) = true) : m.authPreSucReq = authSubfuncVerifyCertUnidir := by
  obtain ⟨hauth, hsub⟩ := and_eq_true_iff.1 hpown
  have hsid : sid = authenticationRequestId := eq_of_beq hauth
  subst hsid
  unfold takeIndication at h
  dsimp only at h
  split at h
  · cases (Prod.mk.inj h).2
  have hverd : indicateAuthReq c unlocked
      (m.takeRequest addr (authenticationRequestId :: rest)) authDelayRunning = .indicate :=
    congrArg Prod.snd h
  obtain ⟨hlen, hpred⟩ := indicateAuthReq_eq_indicate hverd
  apply hpred
  rw [UdsManager.subFunction, (takeRequest_header m addr hlen).2]
  exact eq_of_beq hsub

section

variable (h : Authenticating s)
include h

theorem auth_takenForward (hreqs : Requests s)
    (hidle : s.main = .idle) (hnone : s.pending = none)
    (hpred : m.authPreSucReq = s.mgr.authPreSucReq)
    (hpown : isPown msg.data = true → s.mgr.authPreSucReq = authSubfuncVerifyCertUnidir)
    (events : List TimerEvent) (sid : UInt8) :
    Authenticating ((((taken (UdsSystem.arrive s msg) (s.received + 1) msg.data m).schedule
      events).keepSession sid).forward) := by
  have hbuf : ((((taken (UdsSystem.arrive s msg) (s.received + 1) msg.data m).schedule
      events).keepSession sid).requests (s.received + 1)) = msg.data := by
    rw [keepSession_requests]
    exact Function.update_self ..
  by_cases hauth : isAuth msg.data = true
  · have hlog : ((((taken (UdsSystem.arrive s msg) (s.received + 1) msg.data m).schedule
        events).keepSession sid).forward).log
          = .sent (s.received + 1) (s.received + 1) false ::
            .received (s.received + 1) msg.data :: s.log := by
      change .sent _ _ false :: (System.keepSession _ _).log = _
      rw [keepSession_log, keepSession_current]
      rfl
    have hpend : ((((taken (UdsSystem.arrive s msg) (s.received + 1) msg.data m).schedule
        events).keepSession sid).forward).pending = some (s.received + 1) := by
      change some (System.keepSession _ _).current = _
      rw [keepSession_current]
      rfl
    exact auth_forwarded h hnone hauth hpown hlog hpend hbuf
      ((keepSession_main sid).trans hidle)
  · have hnot : isAuth msg.data = false := by simpa using hauth
    have htkn : Authenticating ((taken (UdsSystem.arrive s msg) (s.received + 1) msg.data
        m).schedule events) := by
      refine auth_of_none hnone fun hcert => ?_
      exact (h.arrive hreqs fun hyes => absurd hyes hauth).remembered (hpred.symm.trans hcert)
        (authPending_of_none hnone)
    refine (htkn.keepSession sid).forward ((keepSession_pending sid).trans hnone) ?_
    rw [keepSession_current]
    change isAuth ((System.keepSession _ sid).requests (s.received + 1)) = false
    rw [hbuf]
    exact hnot

theorem auth_request (hreqs : Requests s) (hidle : s.main = .idle) {addr : AddrInfo}
    (hgrd : InSequence c s (.request addr msg)) : Authenticating (request c s addr msg) := by
  have hgrd' : isAuth msg.data = true → forwards c s addr msg = true ∨ certAtStake s = false :=
    hgrd
  unfold forwards at hgrd'
  unfold request
  cases hout : receiveIndication c s.unlocked s.timers.authDelay s.mgr addr msg with
  | dropped =>
    rw [hout] at hgrd'
    exact h.arrive hreqs fun hauth => (hgrd' hauth).resolve_left false_ne_true
  | rejected sid errorCode =>
    rw [hout] at hgrd'
    have harr := h.arrive hreqs fun hauth => (hgrd' hauth).resolve_left false_ne_true
    refine (harr.schedule _).of_neutral
      [.sent (s.received + 1) (s.received + 1) _] rfl (by simp [neutral]) (fun hcert => ?_) rfl
      rfl harr.waiting
    exact (sendNRC_authKept sid errorCode).authPreSucReq.symm.trans hcert
  | testerPresent suppressed =>
    rw [hout] at hgrd'
    have harr := h.arrive hreqs fun hauth => (hgrd' hauth).resolve_left false_ne_true
    refine (harr.schedule _).observe ?_
    split_ifs <;> simp [neutral]
  | taken m verdict =>
    rw [hout] at hgrd'
    obtain ⟨hready, hnone⟩ := hreqs.none_of_taken hout
    obtain ⟨sid, rest, hdata, htake⟩ := receive_taken c _ _ s.mgr addr msg hout
    have hfram := receive_frame c _ _ s.mgr addr msg hout
    have hpred : m.authPreSucReq = s.mgr.authPreSucReq := hfram.authPreSucReq
    have htkn : (isAuth msg.data = true → certAtStake s = false) →
        Authenticating ((taken (UdsSystem.arrive s msg) (s.received + 1) msg.data m).schedule
          (authTimers c s msg)) := by
      intro hsafe
      refine auth_of_none hnone fun hcert => ?_
      exact (h.arrive hreqs hsafe).remembered (hpred.symm.trans hcert)
        (authPending_of_none hnone)
    cases verdict with
    | nrc errorCode =>
      have hbef := htkn fun hauth => (hgrd' hauth).resolve_left false_ne_true
      have hrefu : Authenticating (((taken (UdsSystem.arrive s msg) (s.received + 1) msg.data
          m).schedule (authTimers c s msg)).sendNRC (s.received + 1) (s.received + 1) (m.recv 0)
            errorCode) := by
        refine hbef.of_neutral [.sent (s.received + 1) (s.received + 1) _] rfl
          (by simp [neutral]) (fun hcert => ?_) rfl rfl hbef.waiting
        exact (sendNRC_authKept (m.recv 0) errorCode).authPreSucReq.symm.trans hcert
      unfold takenRequest
      dsimp only
      split_ifs
      · exact hrefu.keepSession _
      · exact hrefu
    | silent =>
      exact (htkn fun hauth => (hgrd' hauth).resolve_left false_ne_true).keepSession _
    | indicate =>
      refine auth_takenForward h hreqs hidle hnone hpred (fun hpown => ?_) _
        (msg.data.getD 0 0)
      rw [hdata] at htake hpown
      exact takeIndication_pown htake hpown
    | secAcc sig =>
      obtain ⟨rfl, _⟩ := takeIndication_secAcc htake
      have hnot : isAuth msg.data = false := by
        rw [hdata]
        rfl
      have hbef := htkn fun hauth => absurd (hnot.symm.trans hauth) false_ne_true
      exact hbef.handOver sig _ (authPending_of_none hnone)

theorem auth_respondSession (hnot : authPending s = false)
    (origin : Nat) (resp : Response) : Authenticating (respondSession c s origin resp) := by
  have hchgd : Authenticating (changeSession c s) := by
    refine Authenticating.observe ((h.setMgr sessionCtrlRespBegin_authKept).schedule _) ?_
    split_ifs <;> simp [neutral]
  have hcert : (changeSession c s).mgr.authPreSucReq = authSubfuncVerifyCertUnidir →
      CertVerified (changeSession c s).log := fun hpred => hchgd.remembered hpred hnot
  unfold respondSession
  split_ifs
  · exact Authenticating.sendResponse (h.setMgr (setNRC_authKept _ _))
      (fun hpred => h.remembered hpred hnot) origin resp
  · exact hchgd.handOver _ _ hnot
  · exact Authenticating.sendResponse (hchgd.setMgr sessionCtrlRespEnd_authKept) hcert origin resp

end

theorem auth_start (hpend : s.pending = none)
    (hpred : s.mgr.authPreSucReq = authSubfuncUnknown) : Authenticating s := by
  refine auth_of_none hpend fun hcert => ?_
  rw [hpred] at hcert
  cases hcert

section

variable (h : Authenticating s)
include h

theorem auth_noteAnswer (origin : Nat) (resp : Response) :
    Authenticating (noteAnswer s origin resp) := by
  have hnote : Authenticating (noteCode s resp.err) :=
    h.of_same rfl ⟨rfl, rfl⟩ rfl rfl fun hmain => hmain
  refine hnote.observe fun event hev => ?_
  cases mem_singleton.1 hev
  rfl

theorem auth_respondAuth (hreqs : Requests s)
    (hsvc : s.mgr.recv 0 = authenticationRequestId)
    (hsid : resp.serviceId = authenticationRequestId)
    (howed : resp.err = positiveResponse → s.pending = some origin) :
    Authenticating (respondImmediate c (noteAnswer s origin resp) origin resp) := by
  have hansd := auth_noteAnswer h origin resp
  have hansw : AuthAnswer (noteAnswer s origin resp).mgr resp.err
      (immediateResp c (noteAnswer s origin resp).mgr resp.serviceId resp.err resp.data
        s.timers.authDelay) := by
    rw [hsid]
    exact authResp_answer authenticationRequestId resp.err resp.data s.timers.authDelay
  -- the certificate that is remembered from now on is the one of the pending request
  have hver : resp.err = positiveResponse →
      s.mgr.subFunction = authSubfuncVerifyCertUnidir →
        CertVerified (noteAnswer s origin resp).log := by
    intro herr hsub
    have hpend := howed herr
    obtain ⟨hauth, hsame⟩ := pending_subFunction hreqs hpend hsvc
    have hcert : isVerifyCert (s.requests origin) = true := by
      rw [isVerifyCert, hauth, hsame, hsub]
      rfl
    refine ⟨origin, s.requests origin, h.verifying origin hpend hcert, hcert, ?_⟩
    have hev : Event.answered origin (s.requests origin) resp.err (s.pending == some origin)
        = .answered origin (s.requests origin) positiveResponse true := by
      rw [herr, hpend, beq_self_eq_true]
    exact mem_cons.2 (.inl hev.symm)
  have hpkd : Authenticating (((noteAnswer s origin resp).setMgr (immediateResp c
      (noteAnswer s origin resp).mgr resp.serviceId resp.err resp.data
        s.timers.authDelay).1).schedule (immediateResp c (noteAnswer s origin resp).mgr
          resp.serviceId resp.err resp.data s.timers.authDelay).2.2) := by
    refine ⟨fun hcert hnot => ?_, hansd.verifying, hansd.owning, hansd.waiting⟩
    rcases hansw.remembered hcert with ⟨_, hsame⟩ | ⟨herr, hsub⟩
    · exact hansd.remembered (hsame.symm.trans hcert) hnot
    · exact hver herr hsub
  unfold respondImmediate
  dsimp only
  split
  next hok =>
    refine hpkd.sendResponse (fun hcert => ?_) origin resp
    rcases hansw.remembered hcert with ⟨hfail, _⟩ | ⟨herr, hsub⟩
    · exact absurd hok hfail
    · exact hver herr hsub
  · exact hpkd
  · exact auth_start rfl rfl

theorem auth_respond (hreqs : Requests s)
    (hgrd : InSequence c s (.respond origin resp)) : Authenticating (respond c s origin resp) := by
  have hansd := auth_noteAnswer h origin resp
  unfold respond
  split_ifs with hacc hsess hsecA
  · exact h.of_same rfl ⟨rfl, rfl⟩ rfl rfl fun hmain => hmain
  · have hacc' : acceptsResponse s.mgr resp.serviceId resp.data = true := by
      simpa using hacc
    have hnot := not_authPending_of_accepts hreqs hacc' (by rw [hsess]; decide)
    exact auth_respondSession hansd hnot origin resp
  · have hacc' : acceptsResponse s.mgr resp.serviceId resp.data = true := by
      simpa using hacc
    have hnot := not_authPending_of_accepts hreqs hacc' (by rw [hsecA]; decide)
    unfold respondSecAcc
    split_ifs
    · exact hansd
    · exact hansd.handOver _ _ hnot
  have hacc' : acceptsResponse s.mgr resp.serviceId resp.data = true := by
    simpa using hacc
  by_cases hsid : resp.serviceId = authenticationRequestId
  · have hsvc := (serviceId_of_accepts hacc').symm.trans hsid
    exact auth_respondAuth h hreqs hsvc hsid (hgrd hacc' hsid)
  have hnot := not_authPending_of_accepts hreqs hacc' hsid
  have hpkd : Authenticating (((noteAnswer s origin resp).setMgr (immediateResp c
      (noteAnswer s origin resp).mgr resp.serviceId resp.err resp.data
        s.timers.authDelay).1).schedule (immediateResp c (noteAnswer s origin resp).mgr
          resp.serviceId resp.err resp.data s.timers.authDelay).2.2) :=
    (hansd.setMgr (immediateResp_authKept hsid)).schedule _
  unfold respondImmediate
  dsimp only
  split
  · exact hpkd.sendResponse (fun hpred => hpkd.remembered hpred hnot) origin resp
  · exact hpkd
  · exact auth_start rfl rfl

theorem sendNRC_auth (origin target : Nat) (sid errorCode : UInt8) :
    Authenticating (s.sendNRC origin target sid errorCode) := by
  refine h.of_neutral [.sent origin target _] rfl (by simp [neutral]) (fun hcert => ?_)
    rfl rfl h.waiting
  exact (sendNRC_authKept sid errorCode).authPreSucReq.symm.trans hcert

theorem auth_applyReply (reply : Reply) : Authenticating (applyReply s reply) := by
  unfold applyReply
  cases reply with
  | responseNRC nrc =>
    dsimp only
    split_ifs
    · exact sendNRC_auth h _ _ _ _
    · exact h
  | allZeroSeed seedByteSize =>
    exact h.of_neutral [.sent s.current s.current true] rfl (by simp [neutral])
      (fun hcert => hcert) rfl rfl h.waiting
  | setResponseNRC nrc => exact h.of_same rfl ⟨rfl, rfl⟩ rfl rfl fun hmain => hmain
  | posted | ignored => exact h

theorem auth_resume (hreqs : Requests s) (reply : Reply) :
    Authenticating (resume c s reply) := by
  have hawak : Authenticating s.awake :=
    h.of_same rfl (AuthKept.refl _) rfl rfl fun hmain => absurd rfl hmain
  cases hmain : s.main with
  | idle =>
    unfold resume
    rw [hmain]
    exact h
  | indicating =>
    obtain ⟨hnone, hdata⟩ := hreqs.indicating hmain
    have hkept := hawak.keepSession securityAccessRequestId
    rw [resume_indicating hmain]
    split_ifs
    · refine hkept.forward ((keepSession_pending _).trans hnone) ?_
      rw [keepSession_requests, keepSession_current]
      change ((s.requests s.current).getD 0 0 == authenticationRequestId) = false
      rw [hdata]
      rfl
    · exact hkept
  | answering origin resp =>
    have hnot : authPending s = false := h.waiting (by rw [hmain]; exact MainTask.noConfusion)
    rw [resume_answering hmain]
    have hkept : AuthKept s.mgr (if resp.serviceId = sessionControlRequestId then
        sessionCtrlRespEnd c s.mgr else securityAccessRespEnd s.mgr resp.serviceId resp.data) := by
      split_ifs
      · exact sessionCtrlRespEnd_authKept
      · exact secAccRespEnd_authKept _ _
    exact Authenticating.sendResponse (hawak.setMgr hkept)
      (fun hpred => h.remembered (hkept.authPreSucReq.symm.trans hpred) hnot) origin resp
  | disconnecting =>
    rw [resume_disconnecting hmain]
    exact hawak.of_same rfl ⟨rfl, rfl⟩ rfl rfl fun hmain => hmain

theorem auth_secAccHandles (hreqs : Requests s)
    (hstep : secAccHandles c s = some s') : Authenticating s' := by
  obtain ⟨entry, rest, hque, hcas⟩ := secAccHandles_cases hstep
  rcases hcas with ⟨ao, tree, reply, move, rfl⟩ | ⟨tree, reason, _, rfl⟩
  · have hdspd : Authenticating (dispatched c s entry rest ao tree reply) :=
      h.of_same rfl (AuthKept.refl _) rfl rfl fun hmain => hmain
    have hkept : Requests (dispatched c s entry rest ao tree reply) :=
      hreqs.of_kept (fun hmain => hmain) rfl rfl rfl le_rfl (BufferKept.refl _)
    have hrepl := auth_applyReply hdspd reply
    split_ifs
    · exact auth_resume hrepl (requests_applyReply hkept reply) reply
    · exact hrepl
  · exact auth_start rfl rfl

end

variable {a : Action}

theorem auth_step (h : Authenticating s) (hreqs : Requests s)
    (hgrd : InSequence c s a) (hstep : step c s a = some s') : Authenticating s' := by
  have hrset : ∀ event ∈ [Event.sessionReset], neutral event = true := by simp [neutral]
  cases step_transition hstep with
  | request addr msg hidle => exact auth_request h hreqs hidle hgrd
  | disconnected addr | disconnecting addr =>
    exact auth_of_none rfl fun hcert => absurd hcert hgrd
  | respond origin resp => exact auth_respond h hreqs hgrd
  | secAccHandles s' hstep => exact auth_secAccHandles h hreqs hstep
  | waitTimesOut => exact h.of_same rfl (AuthKept.refl _) rfl rfl fun hmain => absurd rfl hmain
  | p2StarPending nrc rest =>
    have htkn : Authenticating ({ s with p2StarNrcs := rest } : System) :=
      h.of_same rfl (AuthKept.refl _) rfl rfl fun hmain => hmain
    exact sendNRC_auth htkn _ _ _ _
  | p2StarFinal nrc rest hidle hnrcs hcode =>
    refine auth_of_none rfl fun hcert => ?_
    have hpred : s.mgr.authPreSucReq = authSubfuncVerifyCertUnidir :=
      (sendNRC_authKept nrc.sid nrc.errorCode).authPreSucReq.symm.trans hcert
    have hnot : authPending s = false := by
      by_contra hauth
      exact hgrd nrc (by rw [hnrcs]; rfl) hcode (by simpa using hauth) hpred
    exact (h.remembered hpred hnot).append
      [.closed nrc.request s.current, .sent nrc.request s.current _] (by simp [neutral])
  | s3Expires | s3Completes => exact h.of_neutral _ rfl hrset (fun hcert => hcert) rfl rfl h.waiting
  | authExpires => exact h.of_neutral [] rfl (by simp) (fun hcert => hcert) rfl rfl h.waiting
  | reboot => exact auth_start rfl rfl
  | _ => exact h.of_same rfl ⟨rfl, rfl⟩ rfl rfl fun hmain => hmain

theorem auth_initial : Authenticating (initialSystem c) := auth_start rfl rfl

/-! What makes a tester authenticated. -/

theorem AuthKept.sendResponse (h : AuthKept m s.mgr) (origin : Nat) (resp : Response) :
    AuthKept m (s.sendResponse origin resp).mgr := by
  unfold System.sendResponse
  split_ifs
  · exact ⟨h.authState, h.authPreSucReq⟩
  · exact h

theorem request_authKept (addr : AddrInfo) (msg : DiagMsg) :
    AuthKept s.mgr (request c s addr msg).mgr := by
  unfold request
  cases hout : receiveIndication c s.unlocked s.timers.authDelay s.mgr addr msg with
  | dropped | testerPresent suppressed => exact AuthKept.refl _
  | rejected sid errorCode => exact sendNRC_authKept sid errorCode
  | taken m verdict =>
    have hfram := receive_frame c _ _ s.mgr addr msg hout
    have htkn : AuthKept s.mgr m := ⟨hfram.authState, hfram.authPreSucReq⟩
    cases verdict with
    | nrc errorCode =>
      have hrefu := htkn.trans (sendNRC_authKept (m.recv 0) errorCode)
      unfold takenRequest
      dsimp only
      split_ifs
      · rw [keepSession_mgr]
        exact hrefu
      · exact hrefu
    | silent =>
      change AuthKept s.mgr (System.keepSession _ _).mgr
      rw [keepSession_mgr]
      exact htkn
    | indicate =>
      change AuthKept s.mgr (checkAndSendInd (System.keepSession _ _).mgr)
      rw [keepSession_mgr]
      exact ⟨htkn.authState, htkn.authPreSucReq⟩
    | secAcc sig => exact htkn

theorem respondSession_authKept (origin : Nat) (resp : Response) :
    AuthKept s.mgr (respondSession c s origin resp).mgr := by
  have hchgd : AuthKept s.mgr (changeSession c s).mgr := sessionCtrlRespBegin_authKept
  unfold respondSession
  split_ifs
  · have hrefu : AuthKept s.mgr (s.setMgr (s.mgr.setNRC resp.serviceId resp.err)).mgr :=
      setNRC_authKept resp.serviceId resp.err
    exact hrefu.sendResponse origin resp
  · exact hchgd
  · have hpkd : AuthKept s.mgr ((changeSession c s).setMgr (sessionCtrlRespEnd c
        (changeSession c s).mgr)).mgr := hchgd.trans sessionCtrlRespEnd_authKept
    exact hpkd.sendResponse origin resp

theorem applyReply_authKept (reply : Reply) : AuthKept s.mgr (applyReply s reply).mgr := by
  unfold applyReply
  cases reply with
  | responseNRC nrc =>
    dsimp only
    split_ifs
    · exact sendNRC_authKept _ _
    · exact AuthKept.refl _
  | _ => exact ⟨rfl, rfl⟩

theorem resume_authKept (reply : Reply) : AuthKept s.mgr (resume c s reply).mgr := by
  cases hmain : s.main with
  | idle =>
    unfold resume
    rw [hmain]
    exact AuthKept.refl _
  | indicating =>
    rw [resume_indicating hmain]
    split_ifs
    · change AuthKept s.mgr (checkAndSendInd (System.keepSession _ _).mgr)
      rw [keepSession_mgr]
      exact ⟨rfl, rfl⟩
    · rw [keepSession_mgr]
      exact ⟨rfl, rfl⟩
  | answering origin resp =>
    have hkept : AuthKept s.mgr (if resp.serviceId = sessionControlRequestId then
        sessionCtrlRespEnd c s.mgr else securityAccessRespEnd s.mgr resp.serviceId resp.data) := by
      split_ifs
      · exact sessionCtrlRespEnd_authKept
      · exact secAccRespEnd_authKept _ _
    rw [resume_answering hmain]
    exact AuthKept.sendResponse (s := s.awake.setMgr _) hkept origin resp
  | disconnecting =>
    rw [resume_disconnecting hmain]
    exact ⟨rfl, rfl⟩

theorem respond_authState (hbef : s.mgr.authState ≠ .authenticated)
    (haft : (respond c s origin resp).mgr.authState = .authenticated) :
    acceptsResponse s.mgr resp.serviceId resp.data = true ∧
      resp.serviceId = authenticationRequestId ∧ resp.err = positiveResponse ∧
      s.mgr.subFunction = authSubfuncPown := by
  unfold respond at haft
  split_ifs at haft with hacc hsess hsecA
  · exact absurd haft hbef
  · have hkept := respondSession_authKept (c := c) (s := noteAnswer s origin resp) origin resp
    exact absurd (hkept.authState.symm.trans haft) hbef
  · unfold respondSecAcc at haft
    split_ifs at haft <;> exact absurd haft hbef
  have hres : (immediateResp c (noteAnswer s origin resp).mgr resp.serviceId resp.err resp.data
      s.timers.authDelay).1.authState = .authenticated := by
    unfold respondImmediate at haft
    dsimp only at haft
    split at haft
    · exact ((AuthKept.refl _).sendResponse origin resp).authState.symm.trans haft
    · exact haft
    · cases haft
  by_cases hsid : resp.serviceId = authenticationRequestId
  · rw [hsid] at hres
    have hansw := authResp_answer (m := (noteAnswer s origin resp).mgr)
      authenticationRequestId resp.err resp.data s.timers.authDelay
    obtain ⟨herr, hsub⟩ := (hansw.authenticated hres).resolve_left hbef
    exact ⟨by simpa using hacc, hsid, herr, hsub⟩
  · exact absurd ((immediateResp_authKept hsid).authState.symm.trans hres) hbef

/-- Only an accepted positive answer to a proof of ownership authenticates. -/
theorem step_authState (hstep : step c s a = some s')
    (hbef : s.mgr.authState ≠ .authenticated) (haft : s'.mgr.authState = .authenticated) :
    ∃ origin resp, a = .respond origin resp ∧
      acceptsResponse s.mgr resp.serviceId resp.data = true ∧
      resp.serviceId = authenticationRequestId ∧ resp.err = positiveResponse ∧
      s.mgr.subFunction = authSubfuncPown := by
  cases step_transition hstep with
  | request addr msg =>
    exact absurd ((request_authKept addr msg).authState.symm.trans haft) hbef
  | disconnected addr | disconnecting addr | authExpires | reboot => cases haft
  | respond origin resp => exact ⟨origin, resp, rfl, respond_authState hbef haft⟩
  | secAccHandles s' hstep =>
    obtain ⟨entry, rest, hque, hcas⟩ := secAccHandles_cases hstep
    rcases hcas with ⟨ao, tree, reply, move, rfl⟩ | ⟨tree, reason, _, rfl⟩
    · have hrepl := applyReply_authKept (s := dispatched c s entry rest ao tree reply) reply
      split_ifs at haft
      · have hkept := hrepl.trans (resume_authKept (c := c) reply)
        exact absurd (hkept.authState.symm.trans haft) hbef
      · exact absurd (hrepl.authState.symm.trans haft) hbef
    · cases haft
  | p2StarPending nrc rest | p2StarFinal nrc rest =>
    exact absurd ((sendNRC_authKept nrc.sid nrc.errorCode).authState.symm.trans haft) hbef
  | _ => exact absurd haft hbef

theorem Authenticating.sound (h : Authenticating s) (hreqs : Requests s)
    (hgrd : InSequence c s a) (hstep : step c s a = some s') : AuthenticationSound s a s' where
  authenticated := by
    intro hbef haft
    obtain ⟨origin, resp, rfl, hacc, hsid, herr, hsub⟩ := step_authState hstep hbef haft
    have hpend : s.pending = some origin := hgrd hacc hsid herr
    have hsvc := (serviceId_of_accepts hacc).symm.trans hsid
    obtain ⟨hauth, hsame⟩ := pending_subFunction hreqs hpend hsvc
    have hpown : isPown (s.requests origin) = true := by
      rw [isPown, hauth, hsame, hsub]
      rfl
    exact ⟨origin, resp, rfl, hsid, herr, hpend, hpown, h.owning origin hpend hpown⟩
  forgotten := by
    rintro addr rfl
    cases step_transition hstep with
    | disconnected | disconnecting => exact hgrd

end

/-- In every run in which nothing comes between a verified certificate and the proof of
ownership, each step authenticates the tester only for a proof that follows a verified
certificate on the same connection. -/
theorem authentication_sound (c : DiagConf) (as : List Action) (a : Action) (s s' : System)
    (hok : Meets (step c) (InSequence c) (initialSystem c) as) (hguard : InSequence c s a)
    (hrun : exec (step c) (initialSystem c) as = some s) (hstep : step c s a = some s') :
    AuthenticationSound s a s' := by
  have hinvt : ∀ (s : System) (a : Action) (t : System), Requests s ∧ Authenticating s →
      InSequence c s a → step c s a = some t → Requests t ∧ Authenticating t := by
    rintro s a t ⟨hrequests, hauth⟩ hguard hstep
    exact ⟨requests_step hrequests hstep, auth_step hauth hrequests hguard hstep⟩
  have h := exec_invariant hinvt ⟨requests_initial, auth_initial⟩ hok hrun
  exact h.2.sound h.1 hguard hstep

def verifyCertificate : List Action :=
  [.request ⟨0x0E80, 0x1001, .physical⟩ certificateRequest,
    .respond 1 ⟨0x29, 0, some [0x11], true⟩]

def proveOwnership : Action :=
  .request ⟨0x0E80, 0x1001, .physical⟩ ⟨[0x29, 0x03, 0x00, 0x01, 0xCD, 0x00, 0x00], by decide⟩

def acceptOwnership : Action := .respond 2 ⟨0x29, 0, some [0x12], true⟩

/-- The proof of ownership follows the certificate. -/
theorem authentication_sound_ownership :
    ∃ s s', exec (step sampleConf) (initialSystem sampleConf)
        (verifyCertificate ++ [proveOwnership]) = some s ∧
      step sampleConf s acceptOwnership = some s' ∧ s'.mgr.authState = .authenticated ∧
      AuthenticationSound s acceptOwnership s' := by
  have hauth : (exec (step sampleConf) (initialSystem sampleConf)
      (verifyCertificate ++ [proveOwnership])).bind (fun s =>
        (step sampleConf s acceptOwnership).map fun s' =>
          (decide (InSequence sampleConf s acceptOwnership), s'.mgr.authState))
      = some (true, .authenticated) := by decide
  obtain ⟨s, hrun, hnext⟩ := Option.bind_eq_some_iff.1 hauth
  obtain ⟨s', hstep, hres⟩ := Option.map_eq_some_iff.1 hnext
  obtain ⟨hguard, hstate⟩ := Prod.ext_iff.1 hres
  exact ⟨s, s', hrun, hstep, hstate,
    authentication_sound sampleConf _ acceptOwnership s s' (by decide) (of_decide_eq_true hguard)
      hrun hstep⟩

/-- The tester disconnects after its certificate is verified. The next connection proves
ownership of a key without a certificate of its own and is authenticated. -/
theorem ownership_after_disconnect_unsound :
    ∃ s s', exec (step sampleConf) (initialSystem sampleConf)
        (verifyCertificate ++ [.disconnect ⟨0x0E80, 0x1001, .physical⟩, proveOwnership]) = some s ∧
      step sampleConf s acceptOwnership = some s' ∧
      ¬ AuthenticationSound s acceptOwnership s' := by
  have hauth : (exec (step sampleConf) (initialSystem sampleConf) (verifyCertificate ++
      [.disconnect ⟨0x0E80, 0x1001, .physical⟩, proveOwnership])).bind (fun s =>
        (step sampleConf s acceptOwnership).map fun s' =>
          (s.log.take 3, s.mgr.authState, s'.mgr.authState))
      = some ([.sent 2 2 false, .received 2 [0x29, 0x03, 0x00, 0x01, 0xCD, 0x00, 0x00],
          .disconnected], .unknown, .authenticated) := by decide
  obtain ⟨s, hrun, hnext⟩ := Option.bind_eq_some_iff.1 hauth
  obtain ⟨s', hstep, hres⟩ := Option.map_eq_some_iff.1 hnext
  simp only [Prod.mk.injEq] at hres
  obtain ⟨hlog, hbefore, hafter⟩ := hres
  refine ⟨s, s', hrun, hstep, fun hsound => ?_⟩
  obtain ⟨origin, resp, haction, _, _, _, _, hfollows⟩ :=
    hsound.authenticated (by rw [hbefore]; decide) hafter
  cases haction
  rw [← List.take_append_drop 3 s.log, hlog] at hfollows
  obtain ⟨request, data, hlast, _⟩ := hfollows
  cases hlast

end TelAF.Authentication
