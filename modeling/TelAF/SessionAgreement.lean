import TelAF.UdsTasks

/-!
# The two copies of the session

The manager holds the session in `SessionType` and the state machine holds the one whose
levels it checks. A positive session response stores the session and has the state
machine read it again, and the S3 timeout sends the state machine to the default session
and stores it afterwards. A disconnect does it the other way round: the state machine
reads the old session again before the default session is stored, and keeps it.

`Agreeing` is the invariant of the runs without such a disconnect in which the state
machine reads no session that the S3 timeout is about to replace. While signals of a
change of session are queued, the last one of them decides where both end up.
-/

namespace TelAF.SessionAgreement

open DiagConfiguration UdsState UdsIndications UdsDiagIndication UdsResponses SecurityAccess List
  SecAccMoves SecAccInvariants UdsSystem UdsTasks TransitionRuns
open SecAccThread hiding Action step

def isSession (sig : SecAccSignal) : Bool := sig == .sessionControl || sig == .sessionTimeout

/-- The changes of session that the state machine has not processed yet. -/
def sessionSignals (queue : List Entry) : List SecAccSignal :=
  (queue.map Entry.sig).filter isSession

def Settled (s : System) : Prop := s.timers.s3Reported = false ∧ sessionSignals s.secAcc.queue = []
deriving Decidable

/-- The state machine holds the session of the manager. The default session has an
identifier of its own in the state machine. -/
def SessionsAgree (c : DiagConf) (s : System) : Prop :=
  if s.mgr.sessionType = defaultSession then
    s.secAcc.ao.currentSession = (sessionTable c).defaultSession
  else s.secAcc.ao.currentSession.sessionId = s.mgr.sessionType.toNat

def acceptsSession (s : System) : Action → Bool
  | .respond _ resp => acceptsResponse s.mgr resp.serviceId resp.data &&
      resp.serviceId == sessionControlRequestId && resp.err == positiveResponse
  | _ => false

/-- The step ends a change of session: none is under way after it, and before it one was,
or the step is one itself. -/
def CompletesChange (s : System) (a : Action) (s' : System) : Prop :=
  Settled s' ∧ (¬ Settled s ∨ s'.mgr.sessionType ≠ s.mgr.sessionType ∨ acceptsSession s a = true)
deriving Decidable

/-- A handler that already reported a change of session has yet to store the session. -/
def Overwriting (s : System) : Prop :=
  s.main = .disconnecting ∨ s.timers.s3Reported = true ∧ s.mgr.sessionType ≠ defaultSession

/-- The sessions agree whenever no change is under way, the end of a change leaves no level
unlocked, and no session is read that is about to be replaced. -/
structure SessionChangeSound (c : DiagConf) (s : System) (a : Action) (s' : System) : Prop where
  agree : Settled s' → SessionsAgree c s'
  locked : CompletesChange s a s' → s'.unlocked = none
  current : a = .secAccHandles → s.secAcc.queue.head?.map Entry.sig = some .sessionControl →
    ¬ Overwriting s

/-- The delay timer runs, has to be started again, or its expiry is queued. -/
def delayPending (T : SessionTable) (w : Worker) : Bool :=
  (delayTimerIsNotExpired T w.ao).isSome || w.queue.any fun entry => entry.sig == .delayTimerExpired

/-- No disconnect happens outside the default session, the state machine reads no session
while the S3 timeout has one to store, and a session that is entered is in the session
map. -/
def ChangesInOrder (c : DiagConf) (s : System) : Action → Prop
  | .disconnect _ => s.mgr.sessionType = defaultSession
  | .respond origin resp => acceptsSession s (.respond origin resp) = true →
      requestedSession s.mgr = s.mgr.sessionType ∨ sessionMapped c (requestedSession s.mgr) = true
  | .secAccHandles => s.secAcc.queue.head?.map Entry.sig = some .sessionControl →
      s.timers.s3Reported = true → s.mgr.sessionType = defaultSession
  | _ => True

instance (c : DiagConf) : DecidableRel (ChangesInOrder c) := fun _ a => by
  cases a <;> unfold ChangesInOrder <;> infer_instance

/-- Where the two copies stand while changes of session are under way. -/
structure Agreeing (c : DiagConf) (s : System) : Prop where
  placed : Placed (sessionTable c) s.secAcc.ao
  sealed_ : Sealed s.secAcc.ao
  agree : Settled s → SessionsAgree c s
  timeoutLast : (sessionSignals s.secAcc.queue).getLast? = some .sessionTimeout →
    s.timers.s3Reported = true ∨ s.mgr.sessionType = defaultSession
  reported : s.timers.s3Reported = true → .sessionTimeout ∈ sessionSignals s.secAcc.queue ∨
    s.secAcc.ao.currentSession = (sessionTable c).defaultSession
  connected : s.main ≠ .disconnecting

structure SessionKept (s s' : System) : Prop where
  currentSession : s'.secAcc.ao.currentSession = s.secAcc.ao.currentSession
  activeLevel : s'.secAcc.ao.activeLevel = s.secAcc.ao.activeLevel
  unlockedLevel : s'.secAcc.ao.unlockedLevel = s.secAcc.ao.unlockedLevel
  signals : sessionSignals s'.secAcc.queue = sessionSignals s.secAcc.queue
  s3Reported : s'.timers.s3Reported = s.timers.s3Reported
  sessionType : s'.mgr.sessionType = s.mgr.sessionType
  connected : s'.main = .disconnecting → s.main = .disconnecting

section
variable {c : DiagConf} {s s' t : System} {m : UdsManager}

theorem sessionSignals_append (queue : List Entry) (entry : Entry) :
    sessionSignals (queue ++ [entry]) =
      sessionSignals queue ++ if isSession entry.sig then [entry.sig] else [] := by
  unfold sessionSignals
  cases hsig : isSession entry.sig <;> simp [hsig]

theorem sessionSignals_cons (entry : Entry) (rest : List Entry) :
    sessionSignals (entry :: rest) =
      (if isSession entry.sig then [entry.sig] else []) ++ sessionSignals rest := by
  unfold sessionSignals
  rw [map_cons, filter_cons]
  split_ifs <;> rfl

/-! What leaves the sessions alone. -/

theorem SessionKept.of_eq (hsecA : s'.secAcc = s.secAcc)
    (hs3 : s'.timers.s3Reported = s.timers.s3Reported)
    (htype : s'.mgr.sessionType = s.mgr.sessionType) (hmain : s'.main = s.main) :
    SessionKept s s' := by
  refine ⟨?_, ?_, ?_, ?_, hs3, htype, fun hdisc => hmain.symm.trans hdisc⟩ <;>
    rw [hsecA]

theorem SessionKept.refl (s : System) : SessionKept s s := .of_eq rfl rfl rfl rfl

section

variable (h : SessionKept s t)
include h

theorem SessionKept.trans (h' : SessionKept t s') : SessionKept s s' :=
  ⟨h'.currentSession.trans h.currentSession, h'.activeLevel.trans h.activeLevel,
    h'.unlockedLevel.trans h.unlockedLevel, h'.signals.trans h.signals,
    h'.s3Reported.trans h.s3Reported, h'.sessionType.trans h.sessionType,
    fun hmain => h.connected (h'.connected hmain)⟩

theorem SessionKept.setMgr (htype : m.sessionType = t.mgr.sessionType) :
    SessionKept s (t.setMgr m) :=
  h.trans (.of_eq rfl rfl htype rfl)

theorem SessionKept.schedule (events : List TimerEvent) : SessionKept s (t.schedule events) :=
  h.trans (.of_eq rfl rfl rfl rfl)

theorem SessionKept.observe (events : List Event) : SessionKept s (t.observe events) :=
  h.trans (.of_eq rfl rfl rfl rfl)

theorem SessionKept.keepSession (sid : UInt8) : SessionKept s (t.keepSession sid) := by
  unfold System.keepSession
  split_ifs
  · exact h.schedule _
  · exact h

end

section

variable (h : SessionKept s t)
include h

theorem SessionKept.sendNRC (origin target : Nat) (sid errorCode : UInt8) :
    SessionKept s (t.sendNRC origin target sid errorCode) :=
  h.trans (.of_eq rfl rfl (sendNRC_sessionType _ sid errorCode) rfl)

theorem SessionKept.forward : SessionKept s t.forward := h.trans (.of_eq rfl rfl rfl rfl)

theorem SessionKept.sendResponse (origin : Nat) (resp : Response) :
    SessionKept s (t.sendResponse origin resp) := by
  unfold System.sendResponse
  split_ifs
  · exact h.trans (.of_eq rfl rfl rfl rfl)
  · exact h

end

variable {sig : SecAccSignal}

theorem SessionKept.handOver (h : SessionKept s t) {task : MainTask}
    (hsig : isSession sig = false) (htask : task ≠ .disconnecting) :
    SessionKept s (t.handOver sig task) := by
  refine h.trans ⟨rfl, rfl, rfl, ?_, rfl, rfl, fun hmain => absurd hmain htask⟩
  change sessionSignals (t.secAcc.queue ++ [⟨sig, true⟩]) = _
  rw [sessionSignals_append, hsig]
  exact append_nil _

theorem isSession_of_isAnswer (h : isAnswer sig = true) : isSession sig = false := by
  cases sig <;> first | rfl | cases h

theorem isSession_of_isRequest (h : isRequest sig = true) : isSession sig = false := by
  cases sig <;> first | rfl | cases h

theorem request_sessionKept (addr : AddrInfo) (msg : DiagMsg) :
    SessionKept s (request c s addr msg) := by
  have harr : SessionKept s (arrive s msg) := .of_eq rfl rfl rfl rfl
  unfold request
  cases hout : receiveIndication c s.unlocked s.timers.authDelay s.mgr addr msg with
  | dropped => exact harr
  | rejected sid errorCode => exact (harr.schedule _).sendNRC _ _ _ _
  | testerPresent suppressed => exact (harr.schedule _).observe _
  | taken m verdict =>
    obtain ⟨sid, rest, hdata, htake⟩ := receive_taken c _ _ s.mgr addr msg hout
    have hfram := receive_frame c _ _ s.mgr addr msg hout
    have htkn : SessionKept s ((taken (arrive s msg) (s.received + 1) msg.data m).schedule
        (authTimers c s msg)) := .of_eq rfl rfl hfram.sessionType rfl
    cases verdict with
    | nrc errorCode =>
      unfold takenRequest
      dsimp only
      split_ifs
      · exact (htkn.sendNRC _ _ _ _).keepSession _
      · exact htkn.sendNRC _ _ _ _
    | silent => exact htkn.keepSession _
    | indicate => exact (htkn.keepSession _).forward
    | secAcc sig =>
      obtain ⟨_, _, _, hsig⟩ := takeIndication_secAcc htake
      have hreq : isRequest sig = true := by
        rw [hsig]
        exact isRequest_secAcc
      exact htkn.handOver (isSession_of_isRequest hreq) MainTask.noConfusion

variable {origin : Nat} {resp : Response}

/-- Every response but a positive session response, unless it ends the process. -/
theorem respond_sessionKept (h : acceptsSession s (.respond origin resp) = false) :
    SessionKept s (respond c s origin resp) ∨
      respond c s origin resp =
        restartProcess c (noteAnswer s origin resp) s.secAcc.tree [] := by
  have hnote : SessionKept s (noteCode s resp.err) := .of_eq rfl rfl rfl rfl
  have hansd : SessionKept s (noteAnswer s origin resp) := hnote.observe _
  unfold respond
  split_ifs with hacc hsess hsecA
  · exact .inl hnote
  · have herr : resp.err ≠ positiveResponse := by
      rintro herr
      have hacc' : acceptsResponse s.mgr resp.serviceId resp.data = true := by
        simpa using hacc
      have hyes : acceptsSession s (.respond origin resp) = true := by
        rw [acceptsSession, hacc', hsess, herr]
        rfl
      rw [hyes] at h
      cases h
    have hrefu : SessionKept s ((noteAnswer s origin resp).setMgr
        ((noteAnswer s origin resp).mgr.setNRC resp.serviceId resp.err)) :=
      hansd.trans (.of_eq rfl rfl rfl rfl)
    unfold respondSession
    rw [if_pos herr]
    exact .inl (hrefu.sendResponse origin resp)
  · unfold respondSecAcc
    split_ifs
    · exact .inl hansd
    · exact .inl (hansd.handOver (isSession_of_isAnswer
        (isAnswer_securityAccessRespSignal _)) MainTask.noConfusion)
  · have hpkd := (hansd.setMgr (immediateResp_frame c (noteAnswer s origin resp).mgr
      resp.serviceId resp.err resp.data s.timers.authDelay).sessionType).schedule
      (immediateResp c (noteAnswer s origin resp).mgr resp.serviceId resp.err resp.data
        s.timers.authDelay).2.2
    unfold respondImmediate
    dsimp only
    split
    · exact .inl (hpkd.sendResponse origin resp)
    · exact .inl hpkd
    · exact .inr rfl

theorem applyReply_sessionKept (reply : Reply) : SessionKept s (applyReply s reply) := by
  unfold applyReply
  cases reply with
  | responseNRC nrc =>
    dsimp only
    split_ifs
    · exact (SessionKept.refl s).sendNRC _ _ _ _
    · exact .refl s
  | allZeroSeed seedByteSize | setResponseNRC nrc => exact .of_eq rfl rfl rfl rfl
  | posted | ignored => exact .refl s

theorem resume_sessionKept (hcnd : s.main ≠ .disconnecting) (reply : Reply) :
    SessionKept s (resume c s reply) := by
  have hawak : SessionKept s s.awake :=
    ⟨rfl, rfl, rfl, rfl, rfl, rfl, fun hmain => by cases hmain⟩
  cases hmain : s.main with
  | idle =>
    unfold resume
    rw [hmain]
    exact .refl s
  | indicating =>
    rw [resume_indicating hmain]
    split_ifs
    · exact (hawak.keepSession _).forward
    · exact hawak.keepSession _
  | answering origin resp =>
    rw [resume_answering hmain]
    unfold finishResponse securityAccessRespEnd
    refine SessionKept.sendResponse (hawak.setMgr ?_) origin resp
    split_ifs <;> rfl
  | disconnecting => exact absurd hmain hcnd

/-! The invariant. -/

theorem settled_of_kept (h : SessionKept s s') : Settled s' ↔ Settled s := by
  unfold Settled
  rw [h.s3Reported, h.signals]

theorem Agreeing.of_kept (h : Agreeing c s) (hkept : SessionKept s s') : Agreeing c s' where
  placed := h.placed.of_eq hkept.currentSession hkept.activeLevel
  sealed_ := h.sealed_.of_eq hkept.currentSession hkept.unlockedLevel
  agree := by
    intro hsett
    have hagr := h.agree ((settled_of_kept hkept).1 hsett)
    unfold SessionsAgree at hagr ⊢
    rwa [hkept.sessionType, hkept.currentSession]
  timeoutLast := by
    rw [hkept.signals, hkept.s3Reported, hkept.sessionType]
    exact h.timeoutLast
  reported := by
    rw [hkept.s3Reported, hkept.signals, hkept.currentSession]
    exact h.reported
  connected := fun hmain => h.connected (hkept.connected hmain)

/-- While the default session is active and nothing is under way, no level is unlocked. -/
theorem Agreeing.locked_default (h : Agreeing c s) (hsett : Settled s)
    (htype : s.mgr.sessionType = defaultSession) : s.unlocked = none := by
  have hagr := h.agree hsett
  rw [SessionsAgree, if_pos htype] at hagr
  rw [System.unlocked, h.sealed_.unlocked_default hagr]
  rfl

variable {T : SessionTable} {ao : ActiveObject} {tree : Tree} {reply : Reply}

/-- Without a delay timer a signal of a change of session is the only one that leaves the
current session, and it locks both. -/
theorem session_move {ao' : ActiveObject} {tree' : Tree}
    (hplc : Placed T ao) (hseal : Sealed ao)
    (hdly : delayTimerIsNotExpired T ao = none) (hexpd : sig ≠ .delayTimerExpired)
    (move : Move T ao tree m sig ao' tree' reply) :
    isSession sig = false ∧ ao'.currentSession = ao.currentSession ∨
      isSession sig = true ∧ eventSession T m sig = some ao'.currentSession ∧
        ao'.unlocked = none := by
  cases move with
  | refused sig next nrc hsig | answerRefused sig next hsig =>
    rcases hsig with rfl | rfl <;> exact .inl ⟨rfl, rfl⟩
  | delayed after hstate hruns | sessionMarked sig after hsig hruns
  | sessionMarkedLocked sig after hsig hruns =>
    rw [hdly] at hruns
    cases hruns
  | seedActivated activated hnrc hactivated =>
    exact .inl ⟨rfl, (activated_unlockedLevel hplc hactivated).2⟩
  | keyAccepted level => exact .inl ⟨rfl, clearAttempts_currentSession level⟩
  | keyAcceptedAgain level old =>
    left
    split_ifs <;> exact ⟨rfl, clearAttempts_currentSession level⟩
  | ignored sig hsig => rcases hsig with ⟨rfl, _⟩ | ⟨rfl, _⟩ <;> exact .inl ⟨rfl, rfl⟩
  | delayReset | delaySwitched => exact absurd rfl hexpd
  | sessionSwitched sig sess hsig hidle hsess =>
    refine .inr ⟨?_, hsess, hseal.switch rfl _⟩
    rcases hsig with rfl | rfl <;> rfl
  | _ => exact .inl ⟨rfl, rfl⟩

variable {sess : SecuritySession}

/-- The session of a change agrees with the manager, unless the S3 timeout has still to
store the default session. -/
theorem eventSession_timeout
    (h : eventSession T m .sessionTimeout = some sess) : sess = T.defaultSession := by
  unfold eventSession at h
  exact (Option.some.inj h).symm

theorem eventSession_control (h : eventSession T m .sessionControl = some sess) :
    if m.sessionType = defaultSession then sess = T.defaultSession
    else sess.sessionId = m.sessionType.toNat := by
  unfold eventSession at h
  by_cases hdef : m.sessionType = defaultSession
  · rw [if_pos (.inr hdef)] at h
    rw [if_pos hdef]
    exact (Option.some.inj h).symm
  have hneit : ¬ (SecAccSignal.sessionControl = .sessionTimeout ∨
      m.sessionType = defaultSession) := by
    rintro (hsig | htype)
    · cases hsig
    · exact hdef htype
  rw [if_neg hneit] at h
  rw [if_neg hdef]
  exact (findSession_mem h).2

/-- What the main thread and the manager keep when a signal is dispatched. -/
theorem handled_sessionKept {entry : Entry} {rest : List Entry}
    (hcnd : s.main ≠ .disconnecting)
    (hs' : s' = if entry.awaited ∧ reply ≠ .ignored then
        resume c (applyReply (dispatched c s entry rest ao tree reply) reply) reply
      else applyReply (dispatched c s entry rest ao tree reply) reply) :
    SessionKept (dispatched c s entry rest ao tree reply) s' := by
  have hrepl := applyReply_sessionKept (s := dispatched c s entry rest ao tree reply) reply
  rw [hs']
  split_ifs
  · refine hrepl.trans (resume_sessionKept ?_ reply)
    rw [applyReply_main]
    exact hcnd
  · exact hrepl

theorem agreeing_restart {events : List Event} : Agreeing c (restartProcess c s tree events) where
  placed := stateInitial_placed
  sealed_ := sealed_of_none fun _ => rfl
  agree := fun _ => rfl
  timeoutLast := fun hlast => by cases hlast
  reported := fun hrep => by cases hrep
  connected := MainTask.noConfusion

theorem agreeing_dispatched (h : Agreeing c s)
    (hdly : delayPending (sessionTable c) s.secAcc = false)
    (hgrd : ChangesInOrder c s .secAccHandles) {entry : Entry} {rest : List Entry}
    (hque : s.secAcc.queue = entry :: rest)
    (move : Move (sessionTable c) s.secAcc.ao s.secAcc.tree s.mgr entry.sig ao tree reply) :
    Agreeing c (dispatched c s entry rest ao tree reply) ∧
      (isSession entry.sig = true → ao.unlocked = none) := by
  obtain ⟨hnone, hno⟩ := Bool.or_eq_false_iff.1 hdly
  have hruns : delayTimerIsNotExpired (sessionTable c) s.secAcc.ao = none := by simpa using hnone
  have hexpd : entry.sig ≠ .delayTimerExpired := by
    rw [hque, any_cons, Bool.or_eq_false_iff] at hno
    simpa using hno.1
  have hrear : Rearmable (sessionTable c) s.secAcc.ao :=
    fun _ level hlvl => absurd hlvl ((delayTimer_expired hruns).2 level)
  have hplc := placed_move h.placed hrear move
  have hseal : Sealed ao := by
    refine sealed_move h.sealed_ h.placed (fun after haft => ?_) move
    rw [hruns] at haft
    cases haft
  have hsigs : sessionSignals s.secAcc.queue =
      (if isSession entry.sig then [entry.sig] else []) ++ sessionSignals rest := by
    rw [hque, sessionSignals_cons]
  rcases session_move h.placed h.sealed_ hruns hexpd move with
    ⟨hoth, hcur⟩ | ⟨hsess, hev, hlkd⟩
  · have hsame : sessionSignals s.secAcc.queue = sessionSignals rest := by
      rw [hsigs, hoth]
      rfl
    refine ⟨⟨hplc, hseal, fun hsett => ?_, fun hlast => ?_, fun hrep => ?_,
      h.connected⟩, fun hyes => ?_⟩
    · have hagr := h.agree ⟨hsett.1, hsame.trans hsett.2⟩
      change if s.mgr.sessionType = defaultSession then ao.currentSession = _
        else ao.currentSession.sessionId = s.mgr.sessionType.toNat
      rwa [hcur]
    · exact h.timeoutLast (hsame ▸ hlast)
    · change _ ∈ sessionSignals rest ∨ ao.currentSession = _
      rw [hcur, ← hsame]
      exact h.reported hrep
    · rw [hoth] at hyes
      cases hyes
  rw [hsess] at hsigs
  have hlas : (sessionSignals rest).getLast? = some .sessionTimeout →
      (sessionSignals s.secAcc.queue).getLast? = some .sessionTimeout := by
    intro hlast
    rw [hsigs, getLast?_append, hlast]
    rfl
  have hcas : entry.sig = .sessionControl ∨ entry.sig = .sessionTimeout := by
    simpa [isSession] using hsess
  refine ⟨⟨hplc, hseal, fun hsett => ?_, fun hlast => ?_, fun hrep => ?_,
    h.connected⟩, fun _ => hlkd⟩
  · unfold SessionsAgree
    change if s.mgr.sessionType = defaultSession then ao.currentSession = _
      else ao.currentSession.sessionId = s.mgr.sessionType.toNat
    rcases hcas with hsig | hsig
    · rw [hsig] at hev
      exact eventSession_control hev
    -- the last change is a timeout, whose default session is stored by now
    rw [hsig] at hev
    have hlast : (sessionSignals s.secAcc.queue).getLast? = some .sessionTimeout := by
      have hrest : sessionSignals rest = [] := hsett.2
      rw [hsigs, hrest, hsig]
      rfl
    have hstd : s.timers.s3Reported = false := hsett.1
    have htype := (h.timeoutLast hlast).resolve_left (by rw [hstd]; decide)
    rw [if_pos htype]
    exact eventSession_timeout hev
  · exact h.timeoutLast (hlas hlast)
  · right
    rcases hcas with hsig | hsig
    · have htype : s.mgr.sessionType = defaultSession := by
        refine hgrd ?_ hrep
        rw [hque, head?_cons, Option.map_some, hsig]
      rw [hsig] at hev
      have hagr := eventSession_control hev
      rwa [if_pos htype] at hagr
    · rw [hsig] at hev
      exact eventSession_timeout hev

theorem agreeing_secAccHandles (h : Agreeing c s)
    (hdly : delayPending (sessionTable c) s.secAcc = false)
    (hgrd : ChangesInOrder c s .secAccHandles) (hstep : secAccHandles c s = some s') :
    Agreeing c s' ∧ (CompletesChange s .secAccHandles s' → s'.unlocked = none) := by
  obtain ⟨entry, rest, hque, hcas⟩ := secAccHandles_cases hstep
  rcases hcas with ⟨ao, tree, reply, move, hs'⟩ | ⟨tree, reason, _, rfl⟩
  swap
  · exact ⟨agreeing_restart, fun _ => rfl⟩
  obtain ⟨hagre, hlkd⟩ := agreeing_dispatched h hdly hgrd hque move
  have hkept := handled_sessionKept h.connected hs'
  refine ⟨hagre.of_kept hkept, ?_⟩
  rintro ⟨hsett, hcpl⟩
  have hsess : isSession entry.sig = true := by
    by_contra hoth
    rcases hcpl with hunst | htype | hacc
    · obtain ⟨hrep, hsigs⟩ := (settled_of_kept hkept).1 hsett
      refine hunst ⟨hrep, ?_⟩
      rw [hque, sessionSignals_cons, if_neg hoth]
      exact hsigs
    · exact htype hkept.sessionType
    · cases hacc
  have hunl : s'.secAcc.ao.unlocked = ao.unlocked := by
    rw [ActiveObject.unlocked, hkept.unlockedLevel, hkept.currentSession]
    rfl
  rw [System.unlocked, hunl, hlkd hsess]
  rfl

theorem respond_acceptsSession (h : acceptsSession s (.respond origin resp) = true) :
    respond c s origin resp =
      if (sessionCtrlRespBegin c (noteAnswer s origin resp).mgr).2.2 then
        (changeSession c (noteAnswer s origin resp)).handOver .sessionControl
          (.answering origin resp)
      else ((changeSession c (noteAnswer s origin resp)).setMgr (sessionCtrlRespEnd c
        (changeSession c (noteAnswer s origin resp)).mgr)).sendResponse origin resp := by
  simp only [acceptsSession, Bool.and_eq_true, beq_iff_eq] at h
  obtain ⟨⟨hacc, hsid⟩, herr⟩ := h
  unfold respond
  rw [if_neg (by rw [hacc]; decide), if_pos hsid]
  unfold respondSession
  rw [if_neg (not_not.2 herr)]

/-- The state machine is told of every session that is entered, other than the default
session out of the default session. -/
theorem session_not_told (hgrd : ChangesInOrder c s (.respond origin resp))
    (hacc : acceptsSession s (.respond origin resp) = true)
    (htold : ¬ (sessionCtrlRespBegin c (noteAnswer s origin resp).mgr).2.2 = true) :
    (sessionCtrlRespBegin c (noteAnswer s origin resp).mgr).1.sessionType = s.mgr.sessionType ∧
      s.mgr.sessionType = defaultSession := by
  have hmapp : requestedSession s.mgr = s.mgr.sessionType ∨
      sessionMapped c (requestedSession s.mgr) = true := hgrd hacc
  unfold sessionCtrlRespBegin at htold ⊢
  dsimp only at htold ⊢
  change ¬ (if s.mgr.sessionType ≠ requestedSession s.mgr then _ else _ :
    UdsManager × List TimerEvent × Bool).2.2 = true at htold
  change (if s.mgr.sessionType ≠ requestedSession s.mgr then _ else _ :
    UdsManager × List TimerEvent × Bool).1.sessionType = _ ∧ _
  by_cases hsame : s.mgr.sessionType = requestedSession s.mgr
  · rw [if_neg (not_not.2 hsame)] at htold ⊢
    have hdef : requestedSession s.mgr = defaultSession := by
      by_contra hoth
      exact htold (decide_eq_true hoth)
    exact ⟨hsame.symm, hsame.trans hdef⟩
  · rw [if_pos hsame] at htold
    rcases hmapp with heq | hmap
    · exact absurd heq.symm hsame
    · exact absurd hmap htold

section

variable (h : Agreeing c s)
include h

/-- A positive session response stores the session, and has the state machine read it
unless the default session is entered again. -/
theorem agreeing_respond (hgrd : ChangesInOrder c s (.respond origin resp)) :
    Agreeing c (respond c s origin resp) ∧
      (CompletesChange s (.respond origin resp) (respond c s origin resp) →
        (respond c s origin resp).unlocked = none) := by
  by_cases hacc : acceptsSession s (.respond origin resp) = true
  · rw [respond_acceptsSession hacc]
    by_cases htold : (sessionCtrlRespBegin c (noteAnswer s origin resp).mgr).2.2 = true
    · rw [if_pos htold]
      have hsigs := sessionSignals_append s.secAcc.queue ⟨.sessionControl, true⟩
      refine ⟨⟨h.placed.of_eq rfl rfl, h.sealed_.of_eq rfl rfl, fun hsett => ?_,
        fun hlast => ?_, fun hrep => ?_, MainTask.noConfusion⟩, fun hcpl => ?_⟩
      · have hnone := hsett.2
        change sessionSignals (s.secAcc.queue ++ [_]) = [] at hnone
        rw [hsigs] at hnone
        exact absurd hnone (by simp [isSession])
      · change (sessionSignals (s.secAcc.queue ++ [_])).getLast? = _ at hlast
        rw [hsigs] at hlast
        simp [isSession] at hlast
      · change _ ∈ sessionSignals (s.secAcc.queue ++ [_]) ∨ _
        rw [hsigs]
        exact (h.reported hrep).imp_left (mem_append_left _)
      · have hnone := hcpl.1.2
        change sessionSignals (s.secAcc.queue ++ [_]) = [] at hnone
        rw [hsigs] at hnone
        exact absurd hnone (by simp [isSession])
    · rw [if_neg htold]
      obtain ⟨hsame, hdef⟩ := session_not_told hgrd hacc htold
      have hkept : SessionKept s (((changeSession c (noteAnswer s origin resp)).setMgr
          (sessionCtrlRespEnd c (changeSession c (noteAnswer s origin resp)).mgr)).sendResponse
            origin resp) := by
        have hpkd : SessionKept s ((changeSession c (noteAnswer s origin resp)).setMgr
            (sessionCtrlRespEnd c (changeSession c (noteAnswer s origin resp)).mgr)) :=
          .of_eq rfl rfl hsame rfl
        exact hpkd.sendResponse origin resp
      refine ⟨h.of_kept hkept, fun hcpl => ?_⟩
      exact (h.of_kept hkept).locked_default hcpl.1 (hkept.sessionType.trans hdef)
  · rcases respond_sessionKept (c := c) (by simpa using hacc) with hkept | hres
    swap
    · rw [hres]
      exact ⟨agreeing_restart, fun _ => rfl⟩
    refine ⟨h.of_kept hkept, ?_⟩
    rintro ⟨hsett, hunst | htype | hacc'⟩
    · exact absurd ((settled_of_kept hkept).1 hsett) hunst
    · exact absurd hkept.sessionType htype
    · exact absurd hacc' hacc

theorem agreeing_s3Expires : Agreeing c (s3Expires s) := by
  have hsigs : sessionSignals (s3Expires s).secAcc.queue =
      sessionSignals s.secAcc.queue ++ [.sessionTimeout] :=
    sessionSignals_append s.secAcc.queue ⟨.sessionTimeout, false⟩
  refine ⟨h.placed.of_eq rfl rfl, h.sealed_.of_eq rfl rfl, fun hsett => ?_,
    fun _ => .inl rfl, fun _ => .inl ?_, h.connected⟩
  · cases hsett.1
  · rw [hsigs]
    exact mem_append_right _ mem_cons_self

/-- The S3 timeout ends without a change of the session, or stores the default session. -/
theorem agreeing_s3Done (hrep : s.timers.s3Reported = true)
    (hsecA : s'.secAcc = s.secAcc) (hs3 : s'.timers.s3Reported = false)
    (htype : s'.mgr.sessionType = defaultSession) (hmain : s'.main = s.main) : Agreeing c s' where
  placed := h.placed.of_eq (by rw [hsecA]) (by rw [hsecA])
  sealed_ := h.sealed_.of_eq (by rw [hsecA]) (by rw [hsecA])
  agree := by
    rintro ⟨_, hnone⟩
    rw [hsecA] at hnone
    have hcur := (h.reported hrep).resolve_left (by rw [hnone]; exact not_mem_nil)
    rw [SessionsAgree, if_pos htype, hsecA]
    exact hcur
  timeoutLast := fun _ => .inr htype
  reported := by
    intro hagai
    rw [hs3] at hagai
    cases hagai
  connected := by
    rw [hmain]
    exact h.connected

/-- A step in order keeps the invariant, and ends a change of session with nothing
unlocked. -/
theorem agreeing_step {a : Action}
    (hdly : delayPending (sessionTable c) s.secAcc = false) (hgrd : ChangesInOrder c s a)
    (hstep : step c s a = some s') :
    Agreeing c s' ∧ (CompletesChange s a s' → s'.unlocked = none) := by
  have hkept : SessionKept s s' → acceptsSession s a = false →
      Agreeing c s' ∧ (CompletesChange s a s' → s'.unlocked = none) := by
    intro hkept hoth
    refine ⟨h.of_kept hkept, ?_⟩
    rintro ⟨hsett, hunst | htype | hacc⟩
    · exact absurd ((settled_of_kept hkept).1 hsett) hunst
    · exact absurd hkept.sessionType htype
    · rw [hoth] at hacc
      cases hacc
  cases step_transition hstep with
  | request addr msg => exact hkept (request_sessionKept addr msg) rfl
  | disconnecting addr hidle hsess => exact absurd hgrd hsess
  | respond origin resp => exact agreeing_respond h hgrd
  | secAccHandles s' hstep => exact agreeing_secAccHandles h hdly hgrd hstep
  | waitTimesOut =>
    refine hkept ⟨rfl, rfl, rfl, ?_, rfl, rfl, fun hmain => by cases hmain⟩ rfl
    unfold sessionSignals abandon
    rw [map_map]
    rfl
  | delayTimerExpires interval =>
    refine hkept ⟨rfl, rfl, rfl, ?_, rfl, rfl, fun hmain => hmain⟩ rfl
    change sessionSignals (s.secAcc.queue ++ [⟨.delayTimerExpired, false⟩]) = _
    rw [sessionSignals_append]
    exact append_nil _
  | timerEvent event rest =>
    refine hkept (.of_eq rfl ?_ rfl rfl) rfl
    cases event <;> rfl
  | p2StarPending nrc rest =>
    have htkn : SessionKept s { s with p2StarNrcs := rest } := .of_eq rfl rfl rfl rfl
    exact hkept (htkn.sendNRC _ _ _ _) rfl
  | p2StarFinal nrc rest =>
    exact hkept (.of_eq rfl rfl (sendNRC_sessionType _ nrc.sid nrc.errorCode) rfl) rfl
  | s3Expires =>
    refine ⟨agreeing_s3Expires h, ?_⟩
    rintro ⟨⟨hrep, _⟩, _⟩
    cases hrep
  | s3Ends hrep hsess =>
    have hdone : Agreeing c { s with timers := { s.timers with s3Reported := false } } :=
      agreeing_s3Done h hrep rfl rfl hsess rfl
    exact ⟨hdone, fun hcpl => hdone.locked_default hcpl.1 hsess⟩
  | s3Completes hrep hsess =>
    have hdone : Agreeing c { s with
        timers := { s.timers with s3Reported := false }
        mgr := { s.mgr with sessionType := defaultSession }
        log := .sessionReset :: s.log } :=
      agreeing_s3Done h hrep rfl rfl rfl rfl
    exact ⟨hdone, fun hcpl => hdone.locked_default hcpl.1 rfl⟩
  | reboot => exact ⟨agreeing_restart, fun _ => rfl⟩
  | _ => exact hkept (.of_eq rfl rfl rfl rfl) rfl

end

theorem agreeing_initial : Agreeing c (initialSystem c) where
  placed := stateInitial_placed
  sealed_ := sealed_of_none fun _ => rfl
  agree := fun _ => rfl
  timeoutLast := fun hlast => by cases hlast
  reported := fun hrep => by cases hrep
  connected := MainTask.noConfusion

end

/-- In every run without a pending delay timer whose changes of session come in order, the
sessions agree whenever no change is under way, and each change leaves every level locked. -/
theorem session_change_sound (c : DiagConf) (as : List Action) (a : Action) (s s' : System)
    (hdelay : Meets (step c) (fun s _ => delayPending (sessionTable c) s.secAcc = false)
      (initialSystem c) (as ++ [a]))
    (hok : Meets (step c) (ChangesInOrder c) (initialSystem c) (as ++ [a]))
    (hrun : exec (step c) (initialSystem c) as = some s) (hstep : step c s a = some s') :
    SessionChangeSound c s a s' := by
  obtain ⟨hmeets, hlast⟩ := meets_append.1 (hdelay.and hok)
  obtain ⟨⟨hdelay, hguard⟩, _⟩ := hlast s hrun
  have hinvt : Agreeing c s :=
    exec_invariant (fun _ _ _ h hmeets hstep => (agreeing_step h hmeets.1 hmeets.2 hstep).1)
      agreeing_initial hmeets hrun
  obtain ⟨hnext, hlocked⟩ := agreeing_step hinvt hdelay hguard hstep
  refine ⟨hnext.agree, hlocked, ?_⟩
  rintro rfl hcontrol (hmain | ⟨hreported, htype⟩)
  · exact hinvt.connected hmain
  · exact htype (hguard hcontrol hreported)

/-- In such a run a level is unlocked in the current session at most, and is one of its levels. -/
theorem unlocked_in_session (c : DiagConf) (as : List Action) (s : System)
    (hdelay : Meets (step c) (fun s _ => delayPending (sessionTable c) s.secAcc = false)
      (initialSystem c) as)
    (hok : Meets (step c) (ChangesInOrder c) (initialSystem c) as)
    (hrun : exec (step c) (initialSystem c) as = some s) :
    s.secAcc.ao.currentSession ∈ (sessionTable c).sessionList ∧ Sealed s.secAcc.ao := by
  have hinvt : Agreeing c s :=
    exec_invariant (fun _ _ _ h hmeets hstep => (agreeing_step h hmeets.1 hmeets.2 hstep).1)
      agreeing_initial (hdelay.and hok) hrun
  exact ⟨hinvt.placed.current, hinvt.sealed_⟩

/-- The tester enters the extended session, and the S3 timer expires in it. -/
def extendedSession : List Action :=
  [.request ⟨0x0E80, 0x1001, .physical⟩ extendedRequest,
    .respond 1 ⟨0x10, 0, none, true⟩, .secAccHandles]

/-- The change into the extended session ends with both copies on it. -/
theorem session_change_sound_extended :
    ∃ s s', exec (step sampleConf) (initialSystem sampleConf) (extendedSession.take 2) = some s ∧
      step sampleConf s .secAccHandles = some s' ∧ CompletesChange s .secAccHandles s' ∧
      SessionChangeSound sampleConf s .secAccHandles s' := by
  have hcompletes : (exec (step sampleConf) (initialSystem sampleConf)
      (extendedSession.take 2)).bind (fun s => (step sampleConf s .secAccHandles).map fun s' =>
        decide (CompletesChange s .secAccHandles s')) = some true := by decide
  obtain ⟨s, hrun, hnext⟩ := Option.bind_eq_some_iff.1 hcompletes
  obtain ⟨s', hstep, hdone⟩ := Option.map_eq_some_iff.1 hnext
  exact ⟨s, s', hrun, hstep, of_decide_eq_true hdone,
    session_change_sound sampleConf (extendedSession.take 2) .secAccHandles s s' (by decide)
      (by decide) hrun hstep⟩

theorem unlocked_in_session_extended :
    ∃ s, exec (step sampleConf) (initialSystem sampleConf) extendedSession = some s ∧
      Sealed s.secAcc.ao := by
  obtain ⟨s, hrun⟩ := Option.isSome_iff_exists.1
    (show (exec (step sampleConf) (initialSystem sampleConf) extendedSession).isSome = true by decide)
  exact ⟨s, hrun, (unlocked_in_session sampleConf extendedSession s (by decide) (by decide) hrun).2⟩

/-- The tester disconnects in the extended session. The state machine reads this session
again before the manager stores the default session, and keeps it. -/
theorem session_after_disconnect_unsound :
    ∃ s s', exec (step sampleConf) (initialSystem sampleConf)
        (extendedSession ++ [.disconnect ⟨0x0E80, 0x1001, .physical⟩]) = some s ∧
      step sampleConf s .secAccHandles = some s' ∧
      delayPending (sessionTable sampleConf) s.secAcc = false ∧
      CompletesChange s .secAccHandles s' ∧
      ¬ SessionChangeSound sampleConf s .secAccHandles s' := by
  have hdone : (exec (step sampleConf) (initialSystem sampleConf)
      (extendedSession ++ [.disconnect ⟨0x0E80, 0x1001, .physical⟩])).bind (fun s =>
        (step sampleConf s .secAccHandles).map fun s' =>
          (delayPending (sessionTable sampleConf) s.secAcc,
            decide (CompletesChange s .secAccHandles s'), s'.mgr.sessionType,
            s'.secAcc.ao.currentSession.sessionId))
      = some (false, true, defaultSession, 3) := by decide
  obtain ⟨s, hrun, hnext⟩ := Option.bind_eq_some_iff.1 hdone
  obtain ⟨s', hstep, hres⟩ := Option.map_eq_some_iff.1 hnext
  simp only [Prod.mk.injEq] at hres
  obtain ⟨hdelay, hcompletes, htype, hcurrent⟩ := hres
  refine ⟨s, s', hrun, hstep, hdelay, of_decide_eq_true hcompletes, fun hsound => ?_⟩
  have hagree := hsound.agree (of_decide_eq_true hcompletes).1
  rw [SessionsAgree, if_pos htype] at hagree
  rw [hagree] at hcurrent
  cases hcurrent

end TelAF.SessionAgreement
