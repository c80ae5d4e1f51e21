import TelAF.Authentication

/-!
# Attempts of authentication

A refused certificate or proof of ownership counts an attempt; the tenth one owes the tester
a delay, whose timer is started by the timer thread from its queue. The next requests are
refused while that timer runs, and its expiry clears the counter and doubles the next delay
up to 960 seconds. A proof of ownership that is accepted clears the counter and sets the delay
back to 60 seconds. Both numbers are stored, and a process that starts again with ten attempts
queues the start of its timer.

While the start is queued the timer does not run yet, and a request is not refused. An answer
in that time can queue a second start, and a proof of ownership accepted then leaves a delay
behind that nothing owes.
-/

namespace TelAF.AuthAttempts

open DiagConfiguration UdsState UdsIndications UdsDiagIndication UdsResponses SecurityAccess List
  Nat SecAccMoves UdsSystem UdsTasks UdsRequests TransitionRuns Authentication
open SecAccThread hiding Action step

/-- Starts of the delay timer on their way to the timer thread. -/
def queuedStarts (s : System) : Nat := s.timers.events.count .authDelayStart

/-- An answer to a certificate or a proof of ownership is taken. -/
def answersAttempt (s : System) (resp : Response) : Bool :=
  acceptsResponse s.mgr resp.serviceId resp.data && resp.serviceId == authenticationRequestId &&
    (s.mgr.subFunction == authSubfuncVerifyCertUnidir || s.mgr.subFunction == authSubfuncPown)

def failsAttempt (s : System) : Action → Bool
  | .respond _ resp => answersAttempt s resp && resp.err != positiveResponse
  | _ => false

def ownsKey (s : System) : Action → Bool
  | .respond _ resp => answersAttempt s resp && resp.err == positiveResponse &&
      s.mgr.subFunction == authSubfuncPown &&
      decide (1 ≤ dataSize resp.data ∧ dataSize resp.data ≤ udsMaxDataSize - 2)
  | _ => false

def isAttempt (data : List UInt8) : Bool := isVerifyCert data || isPown data

/-- At most ten attempts are counted, and each exhausted round doubles the delay up to 960
seconds; after ten attempts no certificate and no proof is forwarded until the delay has
expired. -/
structure AttemptsLimited (c : DiagConf) (s : System) (a : Action) (s' : System) : Prop where
  counter : s'.mgr.authAttCnt.toNat ≤ 10
  delay : 60 ≤ s'.mgr.authDelayTime ∧ s'.mgr.authDelayTime ≤ 960
  counted : s'.mgr.authAttCnt.toNat =
    if failsAttempt s a then min (s.mgr.authAttCnt.toNat + 1) 10
    else if a = .authDelayExpires ∨ ownsKey s a = true then 0 else s.mgr.authAttCnt.toNat
  doubled : s'.mgr.authDelayTime =
    if a = .authDelayExpires then min (2 * s.mgr.authDelayTime) 960
    else if ownsKey s a then 60 else s.mgr.authDelayTime
  exhausted : a = .authDelayExpires → s.mgr.authAttCnt.toNat = 10
  refused : ∀ addr msg, a = .request addr msg → isAttempt msg.data = true →
    forwards c s addr msg = true → s.mgr.authAttCnt.toNat < 10

/-- No attempt comes in and none is answered while the start of the delay timer is queued,
and no proof of ownership is accepted while the timer runs. -/
def InTime (s : System) : Action → Prop
  | .request _ msg => isAttempt msg.data = true → queuedStarts s = 0
  | .respond origin resp => answersAttempt s resp = true → queuedStarts s = 0 ∧
      (ownsKey s (.respond origin resp) = true → s.timers.authDelay = false)
  | _ => True

instance : DecidableRel InTime := fun _ => by rintro ⟨⟩ <;> unfold InTime <;> infer_instance

structure CountersKept (m m' : UdsManager) : Prop where
  authAttCnt : m'.authAttCnt = m.authAttCnt
  authDelayTime : m'.authDelayTime = m.authDelayTime

structure AttemptsKept (s s' : System) : Prop extends CountersKept s.mgr s'.mgr where
  queued : queuedStarts s' = queuedStarts s
  running : s'.timers.authDelay = s.timers.authDelay

section Kept

variable {c : DiagConf} {s s' s'' : System} {m m' m'' : UdsManager}

theorem CountersKept.refl (m : UdsManager) : CountersKept m m := ⟨rfl, rfl⟩

theorem CountersKept.trans (h : CountersKept m m') (h' : CountersKept m' m'') : CountersKept m m'' :=
  ⟨h'.authAttCnt.trans h.authAttCnt, h'.authDelayTime.trans h.authDelayTime⟩

theorem countersKept_case {p : Prop} [Decidable p] {β : Type} {a b : UdsManager × β}
    (ha : CountersKept m a.1) (hb : CountersKept m b.1) : CountersKept m (if p then a else b).1 := by
  split_ifs
  · exact ha
  · exact hb

theorem AttemptsKept.refl (s : System) : AttemptsKept s s := ⟨CountersKept.refl _, rfl, rfl⟩

theorem AttemptsKept.trans (h : AttemptsKept s s') (h' : AttemptsKept s' s'') : AttemptsKept s s'' :=
  ⟨h.toCountersKept.trans h'.toCountersKept, h'.queued.trans h.queued, h'.running.trans h.running⟩

theorem AttemptsKept.of_mgr (h : CountersKept s.mgr s'.mgr) (htime : s'.timers = s.timers) :
    AttemptsKept s s' := by
  refine ⟨h, ?_, ?_⟩
  · unfold queuedStarts
    rw [htime]
  · rw [htime]

theorem schedule_kept {events : List TimerEvent} (h : .authDelayStart ∉ events) :
    AttemptsKept s (s.schedule events) := by
  refine ⟨CountersKept.refl _, ?_, rfl⟩
  unfold queuedStarts System.schedule
  rw [count_append, count_eq_zero.2 h, add_zero]

theorem keepSession_kept (sid : UInt8) : AttemptsKept s (s.keepSession sid) := by
  unfold System.keepSession
  split_ifs
  · exact schedule_kept (by decide)
  · exact AttemptsKept.refl s

theorem forward_kept : AttemptsKept s s.forward := by
  refine ⟨⟨rfl, rfl⟩, ?_, rfl⟩
  unfold queuedStarts System.forward
  rw [count_append]
  rfl

theorem sendResponse_kept (origin : Nat) (resp : Response) :
    AttemptsKept s (s.sendResponse origin resp) := by
  unfold System.sendResponse
  split_ifs
  · have hclsd : AttemptsKept s ((s.observe [.sent origin s.current true]).close origin) :=
      ⟨⟨rfl, rfl⟩, rfl, rfl⟩
    exact hclsd.trans (schedule_kept (by decide))
  · exact AttemptsKept.refl s

theorem sendNRC_counters (sid errorCode : UInt8) :
    CountersKept m (UdsDiagIndication.sendNRC m sid errorCode) := by
  unfold UdsDiagIndication.sendNRC
  split_ifs <;> exact ⟨rfl, rfl⟩

theorem system_sendNRC_kept (origin target : Nat) (sid errorCode : UInt8) :
    AttemptsKept s (s.sendNRC origin target sid errorCode) :=
  .of_mgr (sendNRC_counters sid errorCode) rfl

/-! Requests. -/

variable {unlocked : Option Nat} {addr : AddrInfo}

theorem indicate_counters {running : Bool} (sid : UInt8) :
    CountersKept m (indicateService c unlocked running m addr sid).1 := by
  have hread : CountersKept m (indicateReadDIDReq c unlocked m addr).1 := by
    unfold indicateReadDIDReq
    dsimp only
    repeat' (first | exact ⟨rfl, rfl⟩ | split)
  have hsecA : CountersKept m (indicateSecAccessReq c m).1 := by
    unfold indicateSecAccessReq
    dsimp only
    split_ifs <;> exact ⟨rfl, rfl⟩
  have hxfer : CountersKept m (indicateRxXferDataReq m).1 := by
    unfold indicateRxXferDataReq
    split_ifs <;> exact ⟨rfl, rfl⟩
  repeat' (first
    | exact CountersKept.refl m
    | exact hread
    | exact hsecA
    | exact hxfer
    | apply countersKept_case)

theorem receive_counters {running : Bool} {msg : DiagMsg}
    {verdict : Verdict} (h : receiveIndication c unlocked running m addr msg = .taken m' verdict) :
    CountersKept m m' := by
  obtain ⟨sid, rest, hdata, htake⟩ := receive_taken c unlocked running m addr msg h
  have hkept : CountersKept (m.takeRequest addr msg.data)
      (takeIndication c unlocked running m addr sid msg.data).1 := by
    unfold takeIndication
    dsimp only
    split
    · exact CountersKept.refl _
    · exact indicate_counters sid
  rw [htake] at hkept
  exact ⟨hkept.authAttCnt, hkept.authDelayTime⟩

theorem authTimers_otherTimers (msg : DiagMsg) : .authDelayStart ∉ authTimers c s msg := by
  unfold authTimers
  split
  · split_ifs <;> decide
  · decide

theorem request_kept (addr : AddrInfo) (msg : DiagMsg) : AttemptsKept s (request c s addr msg) := by
  unfold request
  cases hout : receiveIndication c s.unlocked s.timers.authDelay s.mgr addr msg with
  | dropped => exact .of_mgr (CountersKept.refl _) rfl
  | rejected sid errorCode =>
    have harr : AttemptsKept s (arrive s msg) := .of_mgr (CountersKept.refl _) rfl
    have hsche : AttemptsKept (arrive s msg)
        ((arrive s msg).schedule (if sid = testerPresentRequestId then authTimers c s msg else [])) := by
      refine schedule_kept ?_
      split_ifs
      · exact authTimers_otherTimers msg
      · exact not_mem_nil
    exact (harr.trans hsche).trans (system_sendNRC_kept _ _ sid errorCode)
  | testerPresent suppressed =>
    have harr : AttemptsKept s (arrive s msg) := .of_mgr (CountersKept.refl _) rfl
    exact (harr.trans (schedule_kept (authTimers_otherTimers msg))).trans
      (.of_mgr (CountersKept.refl _) rfl)
  | taken m verdict =>
    have htkn : AttemptsKept s (taken (arrive s msg) (s.received + 1) msg.data m) :=
      .of_mgr (receive_counters hout) rfl
    have hbef := htkn.trans (schedule_kept (authTimers_otherTimers (c := c) (s := s) msg))
    refine hbef.trans ?_
    unfold takenRequest
    cases verdict with
    | nrc errorCode =>
      dsimp only
      split_ifs
      · exact (system_sendNRC_kept _ _ _ errorCode).trans (keepSession_kept _)
      · exact system_sendNRC_kept _ _ _ errorCode
    | silent => exact keepSession_kept _
    | indicate => exact (keepSession_kept _).trans forward_kept
    | secAcc sig => exact .of_mgr (CountersKept.refl _) rfl

theorem isAuth_of_isAttempt {data : List UInt8} (h : isAttempt data = true) :
    isAuth data = true := by
  rcases Bool.or_eq_true_iff.1 h with hcert | hpown
  · exact isAuth_of_isVerifyCert hcert
  · exact isAuth_of_isPown hpown

/-- A forwarded attempt came in while the delay timer did not run. -/
theorem forwards_notRunning {msg : DiagMsg} (hatmp : isAttempt msg.data = true)
    (h : forwards c s addr msg = true) : s.timers.authDelay = false := by
  unfold forwards at h
  split at h
  swap
  · cases h
  rename_i m hout
  obtain ⟨sid, rest, hdata, htake⟩ := receive_taken c _ _ s.mgr addr msg hout
  have hauth := isAuth_of_isAttempt hatmp
  rw [hdata] at hauth
  have hsid : sid = authenticationRequestId := eq_of_beq hauth
  subst hsid
  unfold takeIndication at htake
  dsimp only at htake
  split at htake
  · cases (Prod.mk.inj htake).2
  have hverd : indicateAuthReq c s.unlocked (s.mgr.takeRequest addr msg.data) s.timers.authDelay
      = .indicate := congrArg Prod.snd htake
  unfold indicateAuthReq at hverd
  dsimp only at hverd
  split_ifs at hverd with _ _ _ _ _ _ _ hrunn
  exact Bool.eq_false_of_not_eq_true hrunn

/-! Responses. -/

theorem respondSession_kept (origin : Nat) (resp : Response) :
    AttemptsKept s (respondSession c s origin resp) := by
  have hchgd : AttemptsKept s (changeSession c s) := by
    have hbegi : CountersKept s.mgr (sessionCtrlRespBegin c s.mgr).1 ∧
        .authDelayStart ∉ (sessionCtrlRespBegin c s.mgr).2.1 := by
      unfold sessionCtrlRespBegin
      dsimp only
      split_ifs <;> exact ⟨⟨rfl, rfl⟩, by simp⟩
    have hset : AttemptsKept s (s.setMgr (sessionCtrlRespBegin c s.mgr).1) := .of_mgr hbegi.1 rfl
    exact (hset.trans (schedule_kept hbegi.2)).trans (.of_mgr (CountersKept.refl _) rfl)
  unfold respondSession
  split_ifs
  · have hset : AttemptsKept s (s.setMgr (s.mgr.setNRC resp.serviceId resp.err)) :=
      .of_mgr ⟨rfl, rfl⟩ rfl
    exact hset.trans (sendResponse_kept origin resp)
  · exact hchgd.trans (.of_mgr (CountersKept.refl _) rfl)
  have hset :
      AttemptsKept s ((changeSession c s).setMgr (sessionCtrlRespEnd c (changeSession c s).mgr)) :=
    hchgd.trans (.of_mgr ⟨rfl, rfl⟩ rfl)
  exact hset.trans (sendResponse_kept origin resp)

theorem respondSecAcc_kept (origin : Nat) (resp : Response) :
    AttemptsKept s (respondSecAcc s origin resp) := by
  unfold respondSecAcc
  split_ifs
  · exact AttemptsKept.refl s
  · exact .of_mgr (CountersKept.refl _) rfl

theorem immediateResp_counters (c : DiagConf) (m : UdsManager) {serviceId : UInt8} (err : UInt8)
    (data : Option (List UInt8)) (running : Bool) (hsid : serviceId ≠ authenticationRequestId) :
    CountersKept m (immediateResp c m serviceId err data running).1 ∧
      (immediateResp c m serviceId err data running).2.2 = [] := by
  have hcase : ∀ {p : Prop} [Decidable p] {a b : UdsManager × RespStatus × List TimerEvent},
      CountersKept m a.1 ∧ a.2.2 = [] → CountersKept m b.1 ∧ b.2.2 = [] →
        CountersKept m (if p then a else b).1 ∧ (if p then a else b).2.2 = [] := by
    intro p _ a b ha hb
    split_ifs
    · exact ha
    · exact hb
  have hfile : CountersKept m (reqFileXferResp m serviceId err data).1 := by
    repeat' (first
      | exact ⟨rfl, rfl⟩
      | apply countersKept_case)
  unfold immediateResp
  dsimp only
  rw [if_neg hsid]
  repeat' (first
    | exact ⟨⟨rfl, rfl⟩, rfl⟩
    | exact ⟨hfile, rfl⟩
    | exact ⟨rfl, rfl⟩
    | apply hcase
    | (refine ⟨?_, rfl⟩; apply countersKept_case)
    | apply countersKept_case)

end Kept

section Moves

variable {c : DiagConf} {s s' : System}

inductive AttemptMove (s : System) : Action → System → Prop
  | kept {a : Action} {s' : System} (hfls : failsAttempt s a = false) (howns : ownsKey s a = false)
      (hexps : a ≠ .authDelayExpires) (h : AttemptsKept s s') : AttemptMove s a s'
  | restarted {a : Action} {s' : System} (hfls : failsAttempt s a = false) (howns : ownsKey s a = false)
      (hexps : a ≠ .authDelayExpires) (h : CountersKept s.mgr s'.mgr)
      (hqd : queuedStarts s' = if s.mgr.authAttCnt ≥ 10 then 1 else 0)
      (hrunn : s'.timers.authDelay = false) : AttemptMove s a s'
  | failed {origin : Nat} {resp : Response} {s' : System}
      (hfls : failsAttempt s (.respond origin resp) = true)
      (hcoun : s'.mgr.authAttCnt = if s.mgr.authAttCnt + 1 ≥ 10 then 10 else s.mgr.authAttCnt + 1)
      (hdly : s'.mgr.authDelayTime = s.mgr.authDelayTime)
      (hqd : queuedStarts s' =
        if s.mgr.authAttCnt + 1 ≥ 10 ∧ s.timers.authDelay = false then queuedStarts s + 1
        else queuedStarts s)
      (hrunn : s'.timers.authDelay = s.timers.authDelay) : AttemptMove s (.respond origin resp) s'
  | owned {origin : Nat} {resp : Response} {s' : System}
      (howns : ownsKey s (.respond origin resp) = true) (hcoun : s'.mgr.authAttCnt = 0)
      (hdly : s'.mgr.authDelayTime = 60) (hqd : queuedStarts s' = queuedStarts s)
      (hrunn : s'.timers.authDelay = s.timers.authDelay) : AttemptMove s (.respond origin resp) s'
  | started {s' : System} (h : CountersKept s.mgr s'.mgr) (hqd : queuedStarts s = queuedStarts s' + 1)
      (hrunn : s'.timers.authDelay = true) : AttemptMove s .timerEvent s'
  | expired {s' : System} (hruns : s.timers.authDelay = true) (hcoun : s'.mgr.authAttCnt = 0)
      (hdly : s'.mgr.authDelayTime = min (2 * s.mgr.authDelayTime) 960)
      (hqd : queuedStarts s' = queuedStarts s) (hrunn : s'.timers.authDelay = false) :
      AttemptMove s .authDelayExpires s'

theorem restartProcess_queued (tree : Tree) (events : List Event) :
    queuedStarts (restartProcess c s tree events) = if s.mgr.authAttCnt ≥ 10 then 1 else 0 := by
  unfold restartProcess
  split_ifs <;> rfl

theorem notAttempt_of_service (s : System) (origin : Nat) (resp : Response)
    (hsid : resp.serviceId ≠ authenticationRequestId) :
    failsAttempt s (.respond origin resp) = false ∧ ownsKey s (.respond origin resp) = false := by
  simp [failsAttempt, ownsKey, answersAttempt, hsid]

variable {resp : Response}

theorem notAttempt_of_refused (origin : Nat)
    (hrefu : acceptsResponse s.mgr resp.serviceId resp.data = false) :
    failsAttempt s (.respond origin resp) = false ∧ ownsKey s (.respond origin resp) = false := by
  simp [failsAttempt, ownsKey, answersAttempt, hrefu]

/-- The counter and the delay after an answer to an authentication request, with the events
for the timer thread. -/
inductive AnswerCounters (m : UdsManager) (err : UInt8) (data : Option (List UInt8))
    (running : Bool) :
    UdsManager × RespStatus × List TimerEvent → Prop
  | fails {m' : UdsManager} {events : List TimerEvent} (herr : err ≠ positiveResponse)
      (hsub : m.subFunction = authSubfuncVerifyCertUnidir ∨ m.subFunction = authSubfuncPown)
      (hcoun : m'.authAttCnt = if m.authAttCnt + 1 ≥ 10 then 10 else m.authAttCnt + 1)
      (hdly : m'.authDelayTime = m.authDelayTime)
      (hevs : events = if m.authAttCnt + 1 ≥ 10 ∧ running = false then [.authDelayStart] else []) :
      AnswerCounters m err data running (m', .ok, events)
  | owns {m' : UdsManager} (herr : err = positiveResponse) (hsub : m.subFunction = authSubfuncPown)
      (hsize : 1 ≤ dataSize data ∧ dataSize data ≤ udsMaxDataSize - 2) (hcoun : m'.authAttCnt = 0)
      (hdly : m'.authDelayTime = 60) : AnswerCounters m err data running (m', .ok, [.authStart])
  | kept {m' : UdsManager} {status : RespStatus} {events : List TimerEvent}
      (hfls : ¬ (err ≠ positiveResponse ∧
        (m.subFunction = authSubfuncVerifyCertUnidir ∨ m.subFunction = authSubfuncPown)))
      (howns : ¬ (err = positiveResponse ∧ m.subFunction = authSubfuncPown ∧
        (1 ≤ dataSize data ∧ dataSize data ≤ udsMaxDataSize - 2)))
      (hstat : status ≠ .fatal) (h : CountersKept m m') (hevs : .authDelayStart ∉ events) :
      AnswerCounters m err data running (m', status, events)

theorem countAuthFailure_counters (m : UdsManager) (serviceId : UInt8) (running : Bool) :
    (countAuthFailure m serviceId running).1.authAttCnt =
        (if m.authAttCnt + 1 ≥ 10 then 10 else m.authAttCnt + 1) ∧
      (countAuthFailure m serviceId running).1.authDelayTime = m.authDelayTime ∧
      (countAuthFailure m serviceId running).2 =
        if m.authAttCnt + 1 ≥ 10 ∧ running = false then [.authDelayStart] else [] := by
  unfold countAuthFailure
  by_cases hlim : m.authAttCnt + 1 ≥ 10
  · cases running <;> simp [hlim, UdsManager.setNRC]
  · simp [hlim]

theorem authResp_counters (m : UdsManager) (serviceId err : UInt8)
    (data : Option (List UInt8))
    (running : Bool) :
    AnswerCounters m err data running (authenticationResp m serviceId err data running) := by
  unfold authenticationResp
  by_cases herr : err = positiveResponse
  · rw [if_neg (not_not.2 herr)]
    split_ifs with hsize hdeau hveri hpown
    · refine .kept (fun h => h.1 herr) (fun h => ?_) RespStatus.noConfusion (.refl _) (by decide)
      omega
    · exact .kept (fun h => h.1 herr) (fun h => absurd (hdeau.symm.trans h.2.1) (by decide))
        RespStatus.noConfusion ⟨rfl, rfl⟩ (by decide)
    · exact .kept (fun h => h.1 herr) (fun h => absurd (hveri.symm.trans h.2.1) (by decide))
        RespStatus.noConfusion ⟨rfl, rfl⟩ (by decide)
    · exact .owns herr hpown (by omega) rfl rfl
    · exact .kept (fun h => h.1 herr) (fun h => hpown h.2.1) RespStatus.noConfusion
        ⟨rfl, rfl⟩ (by decide)
  · rw [if_pos herr]
    split_ifs with hsub
    · obtain ⟨hcoun, hdly, hevs⟩ := countAuthFailure_counters
        (({ m with authPreSucReq := authSubfuncUnknown } : UdsManager).setNRC serviceId err) serviceId running
      exact .fails herr hsub hcoun hdly hevs
    · exact .kept (fun h => hsub h.2) (fun h => herr h.1) RespStatus.noConfusion ⟨rfl, rfl⟩ (by decide)

theorem packed_queued (s : System) (m : UdsManager) (events : List TimerEvent) :
    queuedStarts ((s.setMgr m).schedule events) = queuedStarts s + events.count .authDelayStart :=
  count_append

section

variable (hacc : acceptsResponse s.mgr resp.serviceId resp.data = true)
include hacc

theorem answersAttempt_eq
    (hsid : resp.serviceId = authenticationRequestId) : answersAttempt s resp =
      (s.mgr.subFunction == authSubfuncVerifyCertUnidir || s.mgr.subFunction == authSubfuncPown) := by
  unfold answersAttempt
  rw [hacc, beq_iff_eq.2 hsid, Bool.true_and, Bool.true_and]

theorem respondAuth_move {origin : Nat} (hsid : resp.serviceId = authenticationRequestId) :
    AttemptMove s (.respond origin resp) (respondImmediate c (noteAnswer s origin resp) origin resp) := by
  have hatmp := answersAttempt_eq hacc hsid
  have hansw :=
    authResp_counters (noteAnswer s origin resp).mgr resp.serviceId resp.err resp.data
    (noteAnswer s origin resp).timers.authDelay
  have hres : immediateResp c (noteAnswer s origin resp).mgr resp.serviceId resp.err resp.data
      (noteAnswer s origin resp).timers.authDelay = authenticationResp (noteAnswer s origin resp).mgr
        resp.serviceId resp.err resp.data (noteAnswer s origin resp).timers.authDelay := by
    rw [hsid]
    rfl
  unfold respondImmediate
  rw [hres]
  generalize authenticationResp (noteAnswer s origin resp).mgr resp.serviceId resp.err resp.data
    (noteAnswer s origin resp).timers.authDelay = result at hansw ⊢
  cases hansw with
  | @fails m' events herr hsub hcoun hdly hevs =>
    have hsent :=
      sendResponse_kept (s := ((noteAnswer s origin resp).setMgr m').schedule events) origin resp
    refine .failed ?_ ?_ ?_ ?_ ?_
    · have hsub' : s.mgr.subFunction = authSubfuncVerifyCertUnidir ∨
          s.mgr.subFunction = authSubfuncPown := hsub
      simp [failsAttempt, hatmp, herr, hsub']
    · exact hsent.authAttCnt.trans hcoun
    · exact hsent.authDelayTime.trans hdly
    · rw [hsent.queued, packed_queued, hevs]
      have hqd : queuedStarts (noteAnswer s origin resp) = queuedStarts s := rfl
      have hcnt : (noteAnswer s origin resp).mgr.authAttCnt = s.mgr.authAttCnt := rfl
      have hruns : (noteAnswer s origin resp).timers.authDelay = s.timers.authDelay := rfl
      rw [hcnt, hruns]
      split_ifs <;> rfl
    · exact hsent.running
  | @owns m' herr hsub hsize hcoun hdly =>
    have hsent :=
      sendResponse_kept (s := ((noteAnswer s origin resp).setMgr m').schedule [.authStart])
      origin resp
    refine .owned ?_ ?_ ?_ ?_ ?_
    · have hsub' : s.mgr.subFunction = authSubfuncPown := hsub
      simp [ownsKey, hatmp, herr, hsub', hsize]
    · exact hsent.authAttCnt.trans hcoun
    · exact hsent.authDelayTime.trans hdly
    · rw [hsent.queued, packed_queued]
      rfl
    · exact hsent.running
  | @kept m' status events hfls howns hstat hkept hevs =>
    have hpkd : AttemptsKept s (((noteAnswer s origin resp).setMgr m').schedule events) := by
      refine ⟨⟨hkept.authAttCnt, hkept.authDelayTime⟩, ?_, rfl⟩
      rw [packed_queued, count_eq_zero.2 hevs]
      rfl
    refine .kept ?_ ?_ nofun ?_
    · have hfls' : ¬ (resp.err ≠ positiveResponse ∧
          (s.mgr.subFunction = authSubfuncVerifyCertUnidir ∨
              s.mgr.subFunction = authSubfuncPown)) := hfls
      by_contra hyes
      apply hfls'
      simpa [failsAttempt, hatmp, and_comm] using hyes
    · have howns' : ¬ (resp.err = positiveResponse ∧ s.mgr.subFunction = authSubfuncPown ∧
          (1 ≤ dataSize resp.data ∧ dataSize resp.data ≤ udsMaxDataSize - 2)) := howns
      by_contra hyes
      apply howns'
      simp only [ownsKey, Bool.not_eq_false, Bool.and_eq_true, beq_iff_eq, decide_eq_true_eq] at hyes
      exact ⟨hyes.1.1.2, hyes.1.2, hyes.2⟩
    · cases status with
      | ok => exact hpkd.trans (sendResponse_kept origin resp)
      | fault => exact hpkd
      | fatal => exact absurd rfl hstat

end

theorem respond_move {origin : Nat} :
    AttemptMove s (.respond origin resp) (respond c s origin resp) := by
  have hnote : AttemptsKept s (noteAnswer s origin resp) := .of_mgr ⟨rfl, rfl⟩ rfl
  unfold respond
  split_ifs with hacc hsess hsecA
  · obtain ⟨hfls, howns⟩ := notAttempt_of_refused origin hacc
    exact .kept hfls howns nofun (.of_mgr ⟨rfl, rfl⟩ rfl)
  · obtain ⟨hfls, howns⟩ := notAttempt_of_service s origin resp (by rw [hsess]; decide)
    exact .kept hfls howns nofun (hnote.trans (respondSession_kept origin resp))
  · obtain ⟨hfls, howns⟩ := notAttempt_of_service s origin resp (by rw [hsecA]; decide)
    exact .kept hfls howns nofun (hnote.trans (respondSecAcc_kept origin resp))
  by_cases hsid : resp.serviceId = authenticationRequestId
  · exact respondAuth_move (by simpa using hacc) hsid
  obtain ⟨hfls, howns⟩ := notAttempt_of_service s origin resp hsid
  obtain ⟨hcou, hevs⟩ := immediateResp_counters c (noteAnswer s origin resp).mgr resp.err
    resp.data (noteAnswer s origin resp).timers.authDelay hsid
  have hpkd : AttemptsKept s (((noteAnswer s origin resp).setMgr (immediateResp c
      (noteAnswer s origin resp).mgr resp.serviceId resp.err resp.data
        (noteAnswer s origin resp).timers.authDelay).1).schedule (immediateResp c
          (noteAnswer s origin resp).mgr resp.serviceId resp.err resp.data
            (noteAnswer s origin resp).timers.authDelay).2.2) := by
    refine ⟨⟨hcou.authAttCnt, hcou.authDelayTime⟩, ?_, rfl⟩
    rw [packed_queued, hevs]
    rfl
  unfold respondImmediate
  dsimp only
  split
  · exact .kept hfls howns nofun (hpkd.trans (sendResponse_kept origin resp))
  · exact .kept hfls howns nofun hpkd
  · exact .restarted hfls howns nofun ⟨rfl, rfl⟩ (restartProcess_queued _ _) rfl

/-! The other steps. -/

theorem applyReply_kept (reply : Reply) : AttemptsKept s (applyReply s reply) := by
  unfold applyReply
  cases reply with
  | responseNRC nrc =>
    dsimp only
    split_ifs
    · exact system_sendNRC_kept _ _ _ _
    · exact AttemptsKept.refl s
  | _ => exact .of_mgr ⟨rfl, rfl⟩ rfl

theorem resume_kept (reply : Reply) : AttemptsKept s (resume c s reply) := by
  have hawak : AttemptsKept s s.awake := .of_mgr (CountersKept.refl _) rfl
  cases hmain : s.main with
  | idle =>
    unfold resume
    rw [hmain]
    exact AttemptsKept.refl s
  | indicating =>
    rw [resume_indicating hmain]
    split_ifs
    · exact (hawak.trans (keepSession_kept _)).trans forward_kept
    · exact hawak.trans (keepSession_kept _)
  | answering origin resp =>
    rw [resume_answering hmain]
    have hset : AttemptsKept s (s.awake.setMgr (if resp.serviceId = sessionControlRequestId then
        sessionCtrlRespEnd c s.awake.mgr
        else securityAccessRespEnd s.awake.mgr resp.serviceId resp.data)) := by
      refine hawak.trans (.of_mgr ?_ rfl)
      split_ifs
      · exact ⟨rfl, rfl⟩
      have hend : CountersKept s.mgr (securityAccessRespEnd s.mgr resp.serviceId resp.data) := by
        unfold securityAccessRespEnd
        split_ifs <;> exact ⟨rfl, rfl⟩
      exact hend
    exact hset.trans (sendResponse_kept origin resp)
  | disconnecting =>
    rw [resume_disconnecting hmain]
    exact hawak.trans (.of_mgr ⟨rfl, rfl⟩ rfl)

theorem secAccHandles_move (hstep : secAccHandles c s = some s') :
    AttemptMove s .secAccHandles s' := by
  obtain ⟨entry, rest, hqueue, hcas⟩ := secAccHandles_cases hstep
  rcases hcas with ⟨ao, tree, reply, move, rfl⟩ | ⟨tree, reason, _, rfl⟩
  · have hdspd : AttemptsKept s (dispatched c s entry rest ao tree reply) :=
      .of_mgr (CountersKept.refl _) rfl
    have hrepl : AttemptsKept s (applyReply (dispatched c s entry rest ao tree reply) reply) :=
      hdspd.trans (applyReply_kept reply)
    split_ifs
    · exact .kept rfl rfl nofun (hrepl.trans (resume_kept reply))
    · exact .kept rfl rfl nofun hrepl
  · exact .restarted rfl rfl nofun ⟨rfl, rfl⟩ (restartProcess_queued _ _) rfl

theorem resetConnection_kept (addr : AddrInfo) : AttemptsKept s (resetConnection s addr) := by
  refine ⟨⟨rfl, rfl⟩, ?_, rfl⟩
  unfold queuedStarts resetConnection
  rw [count_append]
  rfl

theorem timerEvent_move {event : TimerEvent} {rest : List TimerEvent}
    (hevs : s.timers.events = event :: rest) :
    AttemptMove s .timerEvent
      { s with timers := handleTimerEvent { s.timers with events := rest } event } := by
  have hcoun : queuedStarts s = rest.count .authDelayStart +
      if event == .authDelayStart then 1 else 0 := by
    unfold queuedStarts
    rw [hevs, count_cons]
  cases event with
  | authDelayStart => exact .started (CountersKept.refl _) hcoun rfl
  | _ => exact .kept rfl rfl nofun ⟨CountersKept.refl _, hcoun.symm, rfl⟩

theorem step_move {a : Action} (hstep : step c s a = some s') : AttemptMove s a s' := by
  cases step_transition hstep with
  | request addr msg => exact .kept rfl rfl nofun (request_kept addr msg)
  | disconnected addr => exact .kept rfl rfl nofun (resetConnection_kept addr)
  | disconnecting addr =>
    exact .kept rfl rfl nofun
      ((resetConnection_kept addr).trans (.of_mgr (CountersKept.refl _) rfl))
  | respond origin resp => exact respond_move
  | secAccHandles s' hstep => exact secAccHandles_move hstep
  | timerEvent event rest hevs => exact timerEvent_move hevs
  | p2StarPending nrc rest =>
    exact .kept rfl rfl nofun (.of_mgr (sendNRC_counters nrc.sid nrc.errorCode) rfl)
  | p2StarFinal nrc rest =>
    refine .kept rfl rfl nofun (.of_mgr ?_ rfl)
    have hsent : CountersKept s.mgr (UdsDiagIndication.sendNRC s.mgr nrc.sid nrc.errorCode) :=
      sendNRC_counters nrc.sid nrc.errorCode
    exact ⟨hsent.authAttCnt, hsent.authDelayTime⟩
  | authDelayExpires hruns => exact .expired hruns rfl rfl rfl rfl
  | reboot => exact .restarted rfl rfl nofun ⟨rfl, rfl⟩ (restartProcess_queued _ _) rfl
  | _ => exact .kept rfl rfl nofun ⟨⟨rfl, rfl⟩, rfl, rfl⟩

end Moves

section Runs

variable {c : DiagConf} {s s' : System} {a : Action}

structure Bounded (s : System) : Prop where
  counter : s.mgr.authAttCnt.toNat ≤ 10
  delay : 60 ≤ s.mgr.authDelayTime ∧ s.mgr.authDelayTime ≤ 960

/-- A delay is owed after ten attempts: its timer runs or is to be started. -/
def Owed (s : System) : Prop :=
  queuedStarts s + s.timers.authDelay.toNat = if s.mgr.authAttCnt.toNat = 10 then 1 else 0

theorem attempt_toNat {n : UInt8} (h : n.toNat ≤ 10) :
    (n + 1 ≥ 10 ↔ 9 ≤ n.toNat) ∧
      (if n + 1 ≥ 10 then (10 : UInt8) else n + 1).toNat = min (n.toNat + 1) 10 := by
  have hadd : (n + 1).toNat = n.toNat + 1 := by
    rw [UInt8.toNat_add, show (1 : UInt8).toNat = 1 from rfl]
    omega
  have hten : n + 1 ≥ 10 ↔ 9 ≤ n.toNat := by
    rw [ge_iff_le, UInt8.le_iff_toNat_le, show (10 : UInt8).toNat = 10 from rfl]
    omega
  refine ⟨hten, ?_⟩
  split_ifs with hlim
  · have hnine := hten.1 hlim
    change 10 = min (n.toNat + 1) 10
    exact (min_eq_right (by omega)).symm
  · have hnine := mt hten.2 hlim
    rw [hadd]
    exact (min_eq_left (by omega)).symm

theorem Bounded.ten_iff (h : Bounded s) :
    s.mgr.authAttCnt ≥ 10 ↔ s.mgr.authAttCnt.toNat = 10 := by
  have hle := h.counter
  rw [ge_iff_le, UInt8.le_iff_toNat_le, show (10 : UInt8).toNat = 10 from rfl]
  omega

theorem Bounded.move (h : Bounded s) (hmove : AttemptMove s a s') : Bounded s' := by
  obtain ⟨hcntr, hlow, hhigh⟩ := h
  cases hmove with
  | kept _ _ _ hkept | restarted _ _ _ hkept =>
    exact ⟨hkept.authAttCnt ▸ hcntr, hkept.authDelayTime ▸ ⟨hlow, hhigh⟩⟩
  | failed _ hcoun hdly =>
    refine ⟨?_, hdly ▸ ⟨hlow, hhigh⟩⟩
    rw [hcoun, (attempt_toNat hcntr).2]
    exact min_le_right _ _
  | owned _ hcoun hdly =>
    refine ⟨?_, ?_⟩
    · rw [hcoun]
      decide
    · rw [hdly]
      decide
  | started hkept =>
    exact ⟨hkept.authAttCnt ▸ hcntr, hkept.authDelayTime ▸ ⟨hlow, hhigh⟩⟩
  | expired _ hcoun hdly =>
    refine ⟨?_, ?_⟩
    · rw [hcoun]
      decide
    · rw [hdly]
      exact ⟨le_min (by omega) (by decide), min_le_right _ _⟩

/-- Of the timer and its starts there is one after ten attempts and none before. -/
theorem Owed.move (h : Owed s) (hbd : Bounded s) (hgrd : InTime s a) (hmove : AttemptMove s a s') :
    Owed s' := by
  unfold Owed at h ⊢
  cases hmove with
  | kept _ _ _ hkept => rw [hkept.queued, hkept.running, hkept.authAttCnt, h]
  | restarted _ _ _ hkept hqd hrunn =>
    rw [hqd, hrunn, hkept.authAttCnt]
    simp only [hbd.ten_iff]
    exact add_zero _
  | @failed origin resp _ hfls hcoun _ hqd hrunn =>
    have hans : answersAttempt s resp = true := (Bool.and_eq_true_iff.1 hfls).1
    have hnone := (hgrd hans).1
    obtain ⟨hten, hmin⟩ := attempt_toNat hbd.counter
    rw [hcoun, hmin, hqd, hrunn]
    simp only [hten, hnone]
    rw [hnone] at h
    cases hrun : s.timers.authDelay with
    | true =>
      rw [hrun] at h
      have hfull : s.mgr.authAttCnt.toNat = 10 := by
        by_contra hne
        rw [if_neg hne] at h
        exact absurd h (by decide)
      rw [hfull]
      decide
    | false =>
      rw [hrun] at h
      by_cases hnine : 9 ≤ s.mgr.authAttCnt.toNat
      · rw [if_pos ⟨hnine, rfl⟩, if_pos (by rw [min_eq_right (by omega)])]
        rfl
      · rw [if_neg fun hboth => hnine hboth.1, if_neg (by rw [min_eq_left (by omega)]; omega)]
        rfl
  | @owned origin resp _ howns hcoun _ hqd hrunn =>
    have hans : answersAttempt s resp = true := by
      have hall := howns
      unfold ownsKey at hall
      simp only [Bool.and_eq_true] at hall
      exact hall.1.1.1
    obtain ⟨hnone, hstop⟩ := hgrd hans
    rw [hcoun, hqd, hrunn, hnone, hstop howns]
    rfl
  | started hkept hqd hrunn =>
    rw [hrunn, hkept.authAttCnt]
    split_ifs at h with hfull
    · rw [if_pos hfull]
      change _ + 1 = 1
      omega
    · omega
  | expired hruns hcoun _ hqd hrunn =>
    rw [hqd, hrunn, hcoun]
    rw [hruns] at h
    split_ifs at h with hfull
    · change queuedStarts s + 1 = 1 at h
      change queuedStarts s + 0 = 0
      omega
    · change queuedStarts s + 1 = 0 at h
      omega

theorem attemptsLimited_of_move (hbd : Bounded s) (howed : Owed s) (hgrd : InTime s a)
    (hmove : AttemptMove s a s') : AttemptsLimited c s a s' := by
  have haft := hbd.move hmove
  refine ⟨haft.counter, haft.delay, ?_, ?_, ?_, ?_⟩
  · cases hmove with
    | kept hfls howns hexps hkept | restarted hfls howns hexps hkept =>
      simp [hfls, howns, hexps, hkept.authAttCnt]
    | failed hfls hcoun =>
      rw [hfls, hcoun]
      exact (attempt_toNat hbd.counter).2
    | @owned origin resp _ howns hcoun =>
      have hfls : failsAttempt s (.respond origin resp) = false := by
        have hall := howns
        unfold ownsKey at hall
        simp only [Bool.and_eq_true, beq_iff_eq] at hall
        simp [failsAttempt, hall.1.1.2]
      rw [hfls, howns, hcoun]
      rfl
    | started hkept =>
      rw [hkept.authAttCnt]
      rfl
    | expired _ hcoun =>
      rw [hcoun]
      rfl
  · cases hmove with
    | kept _ howns hexps hkept | restarted _ howns hexps hkept =>
      simp [howns, hexps, hkept.authDelayTime]
    | @failed origin resp _ hfls _ hdly =>
      have howns : ownsKey s (.respond origin resp) = false := by
        have hall := hfls
        unfold failsAttempt at hall
        simp only [Bool.and_eq_true, bne_iff_ne] at hall
        simp [ownsKey, hall.2]
      rw [howns, hdly]
      rfl
    | owned howns _ hdly =>
      rw [howns, hdly]
      rfl
    | started hkept =>
      rw [hkept.authDelayTime]
      rfl
    | expired _ _ hdly =>
      rw [hdly]
      rfl
  · rintro rfl
    cases hmove with
    | kept _ _ hexps | restarted _ _ hexps => exact absurd rfl hexps
    | expired hruns =>
      by_contra hne
      unfold Owed at howed
      rw [hruns, if_neg hne] at howed
      exact absurd howed (succ_ne_zero _)
  · rintro addr msg rfl hatmp hfwds
    have hrunn := forwards_notRunning hatmp hfwds
    have hnone : queuedStarts s = 0 := hgrd hatmp
    unfold Owed at howed
    rw [hrunn, hnone] at howed
    have hne : s.mgr.authAttCnt.toNat ≠ 10 := by
      intro heq
      rw [if_pos heq] at howed
      exact absurd howed (by decide)
    have hle := hbd.counter
    omega

theorem bounded_initial (c : DiagConf) : Bounded (initialSystem c) :=
  ⟨zero_le 10, (by decide : 60 ≤ 60 ∧ 60 ≤ 960)⟩

/-- The counter and the delay stay in bounds in every run, whatever comes in between. -/
theorem authAttCnt_bounded {as : List Action}
    (hrun : exec (step c) (initialSystem c) as = some s) : Bounded s :=
  exec_invariant_of_step (fun _ _ _ h hstep => h.move (step_move hstep)) (bounded_initial c) hrun

end Runs

/-- In every run in which the start of the delay timer does not wait while an attempt comes in
or is answered, and no proof is accepted while the timer runs, attempts are limited. -/
theorem attempts_limited (c : DiagConf) (as : List Action) (a : Action) (s s' : System)
    (hok : Meets (step c) InTime (initialSystem c) as) (hguard : InTime s a)
    (hrun : exec (step c) (initialSystem c) as = some s) (hstep : step c s a = some s') :
    AttemptsLimited c s a s' := by
  have hinvt : ∀ (s : System) (a : Action) (t : System), Bounded s ∧ Owed s → InTime s a →
      step c s a = some t → Bounded t ∧ Owed t := by
    rintro s a t ⟨hbounded, howed⟩ hguard hstep
    exact ⟨hbounded.move (step_move hstep), howed.move hbounded hguard (step_move hstep)⟩
  have hstart : Owed (initialSystem c) := rfl
  have h := exec_invariant hinvt ⟨bounded_initial c, hstart⟩ hok hrun
  exact attemptsLimited_of_move h.1 h.2 hguard (step_move hstep)

def failedAttempt (request : Nat) : List Action :=
  [.request ⟨0x0E80, 0x1001, .physical⟩ certificateRequest,
    .respond request ⟨0x29, 0x58, none, true⟩]

def tenAttempts : List Action := (List.range 10).flatMap fun n => failedAttempt (n + 1)

def eleventhAttempt : Action := .request ⟨0x0E80, 0x1001, .physical⟩ certificateRequest

/-- The timer thread takes the events that ten attempts leave. -/
def timerEvents : List Action := List.replicate 21 .timerEvent

/-- Ten certificates are refused, the timer thread starts the timer, and the eleventh request
is limited. -/
theorem attempts_limited_eleventh :
    ∃ s s', exec (step sampleConf) (initialSystem sampleConf) (tenAttempts ++ timerEvents) = some s ∧
      step sampleConf s eleventhAttempt = some s' ∧ s.mgr.authAttCnt = 10 ∧
      AttemptsLimited sampleConf s eleventhAttempt s' := by
  have hrun : (exec (step sampleConf) (initialSystem sampleConf) (tenAttempts ++ timerEvents)).bind (fun s =>
      (step sampleConf s eleventhAttempt).map fun _ => (decide (InTime s eleventhAttempt),
        s.mgr.authAttCnt))
      = some (true, 10) := by decide +kernel
  obtain ⟨s, hrun, hnext⟩ := Option.bind_eq_some_iff.1 hrun
  obtain ⟨s', hstep, hres⟩ := Option.map_eq_some_iff.1 hnext
  obtain ⟨hguard, hcount⟩ := Prod.ext_iff.1 hres
  exact ⟨s, s', hrun, hstep, hcount,
    attempts_limited sampleConf _ eleventhAttempt s s' (by decide +kernel)
    (of_decide_eq_true hguard) hrun hstep⟩

theorem authAttCnt_bounded_ten :
    ∃ s, exec (step sampleConf) (initialSystem sampleConf) tenAttempts = some s ∧ Bounded s := by
  obtain ⟨s, hrun⟩ := Option.isSome_iff_exists.1
    (show (exec (step sampleConf) (initialSystem sampleConf) tenAttempts).isSome = true by decide +kernel)
  exact ⟨s, hrun, authAttCnt_bounded hrun⟩

/-- Ten certificates are refused, and the next request comes in before the timer thread has
started the timer: it is forwarded. -/
theorem eleventh_attempt_forwarded :
    ∃ s s', exec (step sampleConf) (initialSystem sampleConf) tenAttempts = some s ∧
      step sampleConf s eleventhAttempt = some s' ∧
        ¬ AttemptsLimited sampleConf s eleventhAttempt s' := by
  have hrun : (exec (step sampleConf) (initialSystem sampleConf) tenAttempts).bind (fun s =>
      (step sampleConf s eleventhAttempt).map fun _ =>
        (forwards sampleConf s ⟨0x0E80, 0x1001, .physical⟩
          ⟨[0x29, 0x01, 0x00, 0x00, 0x01, 0xAB, 0x00, 0x00], by decide⟩, s.mgr.authAttCnt.toNat))
      = some (true, 10) := by decide +kernel
  obtain ⟨s, hrun, hnext⟩ := Option.bind_eq_some_iff.1 hrun
  obtain ⟨s', hstep, hres⟩ := Option.map_eq_some_iff.1 hnext
  obtain ⟨hforwards, hcount⟩ := Prod.ext_iff.1 hres
  refine ⟨s, s', hrun, hstep, fun hlimited => ?_⟩
  have hfewer := hlimited.refused _ _ rfl rfl hforwards
  exact absurd hcount (Nat.ne_of_lt hfewer)

end TelAF.AuthAttempts
