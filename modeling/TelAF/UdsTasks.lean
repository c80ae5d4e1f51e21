import TelAF.UdsSystem

/-!
# The main thread and the signals it waits for

`secAccHandles_cases` reads one step of the security-access thread off the moves of its
state machine. `Tasks` says what the main thread waits for in each of its handlers: at
most one signal of the queue is awaited, it fits the handler, and every request for
security access is awaited. `Requests` ties the pending flag of the manager to the
request that is pending. Both hold in every run.
-/

namespace TelAF.UdsTasks

open DiagConfiguration UdsState UdsIndications UdsDiagIndication UdsResponses SecurityAccess List
  Option SecAccMoves UdsSystem
open SecAccThread hiding Action step

def isRequest (sig : SecAccSignal) : Bool := (answerTo sig).isSome

/-- What the main thread waits for in a handler. -/
def taskSignal : MainTask → SecAccSignal → Prop
  | .idle, _ => False
  | .indicating, sig => isRequest sig = true
  | .answering _ resp, sig =>
    resp.serviceId = sessionControlRequestId ∧ sig = .sessionControl ∨
      resp.serviceId = securityAccessRequestId ∧ isAnswer sig = true
  | .disconnecting, sig => sig = .sessionControl

structure Tasks (s : System) : Prop where
  awaited : ∀ entry ∈ s.secAcc.queue, entry.awaited = true → taskSignal s.main entry.sig
  single : s.secAcc.queue.countP Entry.awaited ≤ 1
  requests : ∀ entry ∈ s.secAcc.queue, isRequest entry.sig = true → entry.awaited = true

variable {c : DiagConf} {s s' : System}

/-! The signal of a request for security access. -/

variable {m : UdsManager} {sig : SecAccSignal}

theorem secAccessReq_secAcc (h : (indicateSecAccessReq c m).2 = .secAcc sig) :
    2 ≤ m.recvDataLen ∧
      (indicateSecAccessReq c m).1 = { m with recvSid := m.recv 0, recvSubFunc := m.recv 1 } ∧
      sig = if m.recv 1 % 2 = 1 then .requestSeed else .sendKey := by
  unfold indicateSecAccessReq at h ⊢
  dsimp only at h ⊢
  split_ifs at h ⊢ <;> cases h <;> exact ⟨by omega, rfl, rfl⟩

/-- A request that is handed to the state machine is a security-access request, whose
identifier and sub-function the manager keeps. -/
theorem takeIndication_secAcc {unlocked : Option Nat} {authDelayRunning : Bool} {m' : UdsManager}
    {addr : AddrInfo} {sid : UInt8} {data : List UInt8}
    (h : takeIndication c unlocked authDelayRunning m addr sid data = (m', .secAcc sig)) :
    sid = securityAccessRequestId ∧ 2 ≤ data.length ∧
      m' = { m.takeRequest addr data with
        recvSid := (m.takeRequest addr data).recv 0
        recvSubFunc := (m.takeRequest addr data).recv 1 } ∧
      sig = if (m.takeRequest addr data).recv 1 % 2 = 1 then .requestSeed else .sendKey := by
  unfold takeIndication at h
  dsimp only at h
  split at h
  · cases (Prod.mk.inj h).2
  have hsid : sid = securityAccessRequestId := indicate_secAcc (congrArg Prod.snd h)
  subst hsid
  obtain ⟨hlen, hmgr, hsig⟩ := secAccessReq_secAcc (congrArg Prod.snd h)
  exact ⟨rfl, hlen, (congrArg Prod.fst h).symm.trans hmgr, hsig⟩

theorem isRequest_secAcc {p : Prop} [Decidable p] :
    isRequest (if p then .requestSeed else .sendKey) = true := by
  split_ifs <;> rfl

/-! One step of the security-access thread. -/

def dispatched (c : DiagConf) (s : System) (entry : Entry) (rest : List Entry) (ao : ActiveObject)
    (tree : Tree) (reply : Reply) : System :=
  { s with secAcc := finishSignal (sessionTable c) s.secAcc entry rest ao tree reply }

/-- The thread dispatches the first signal; the main thread goes on if it waited for it, and
the process starts again if the dispatch aborts. -/
theorem secAccHandles_cases (h : secAccHandles c s = some s') :
    ∃ entry rest, s.secAcc.queue = entry :: rest ∧
      ((∃ ao tree reply,
          Move (sessionTable c) s.secAcc.ao s.secAcc.tree s.mgr entry.sig ao tree reply ∧
          s' = if entry.awaited ∧ reply ≠ .ignored then
              resume c (applyReply (dispatched c s entry rest ao tree reply) reply) reply
            else applyReply (dispatched c s entry rest ao tree reply) reply) ∨
        ∃ tree reason,
          Abort (sessionTable c) s.secAcc.ao s.secAcc.tree s.mgr entry.sig tree reason ∧
          s' = restartProcess c s tree [.aborted reason]) := by
  unfold secAccHandles at h
  rcases hque : s.secAcc.queue with _ | ⟨entry, rest⟩
  · rw [hque] at h
    cases h
  rw [hque] at h
  dsimp only at h
  refine ⟨entry, rest, rfl, ?_⟩
  cases hres : dispatch (sessionTable c) s.secAcc.ao s.secAcc.tree s.mgr entry.sig with
  | done ao tree reply =>
    rw [hres] at h
    exact .inl ⟨ao, tree, reply, dispatch_move hres, (some.inj h).symm⟩
  | aborted tree reason =>
    rw [hres] at h
    exact .inr ⟨tree, reason, dispatch_abort hres, (some.inj h).symm⟩

/-- What one step does, with the conditions under which it is taken. -/
inductive Transition (c : DiagConf) (s : System) : Action → System → Prop
  | request (addr : AddrInfo) (msg : DiagMsg) (hidle : s.main = .idle) :
      Transition c s (.request addr msg) (request c s addr msg)
  | disconnected (addr : AddrInfo) (hidle : s.main = .idle)
      (hsess : s.mgr.sessionType = defaultSession) :
      Transition c s (.disconnect addr) (resetConnection s addr)
  | disconnecting (addr : AddrInfo) (hidle : s.main = .idle)
      (hsess : s.mgr.sessionType ≠ defaultSession) :
      Transition c s (.disconnect addr)
        ((resetConnection s addr).handOver .sessionControl .disconnecting)
  | respond (origin : Nat) (resp : Response) (hidle : s.main = .idle) :
      Transition c s (.respond origin resp) (respond c s origin resp)
  | setData (data : UdsData) (value : UInt64) (active paused cancel : Bool)
      (hidle : s.main = .idle) (hact : active = true → s.mgr.isXferActive = true) :
      Transition c s (.setData data) { s with
        mgr := { s.mgr with
          currentRoleVal := value
          isXferActive := active
          isPaused := paused }
        cancelRequested := cancel }
  | cancelFileXfer (active cancel : Bool) (hidle : s.main = .idle) (hevs : s.cancelEvents ≠ 0)
      (hact : active = true → s.mgr.isXferActive = true) :
      Transition c s .cancelFileXfer { s with
        mgr := { s.mgr with isXferActive := active }
        cancelRequested := cancel
        cancelEvents := s.cancelEvents - 1 }
  | secAccHandles (s' : System) (hstep : secAccHandles c s = some s') :
      Transition c s .secAccHandles s'
  | waitTimesOut (origin : Nat) (resp : Response) (hmain : s.main = .answering origin resp) :
      Transition c s .waitTimesOut { s with main := .idle, secAcc := abandon s.secAcc }
  | delayTimerExpires (interval : Nat) (htim : s.secAcc.ao.delayTimer = some interval) :
      Transition c s .delayTimerExpires { s with secAcc := expireDelay s.secAcc interval }
  | timerEvent (event : TimerEvent) (rest : List TimerEvent)
      (hevs : s.timers.events = event :: rest) (hfree : s.timers.s3Reported = false) :
      Transition c s .timerEvent
        { s with timers := handleTimerEvent { s.timers with events := rest } event }
  | p2StarExpires (timer : P2StarTimer) (left : Option P2StarTimer) (errorCode : UInt8)
      (htim : s.timers.p2Star = some timer) (hfree : s.timers.s3Reported = false) :
      Transition c s .p2StarExpires
        { s with
          timers := { s.timers with p2Star := left }
          p2StarNrcs := s.p2StarNrcs ++ [⟨timer.request, s.mgr.recv 0, errorCode⟩] }
  | p2StarPending (nrc : P2StarNrc) (rest : List P2StarNrc) (hidle : s.main = .idle)
      (hnrcs : s.p2StarNrcs = nrc :: rest)
      (hcode : nrc.errorCode = requestCorrectlyReceivedResponsePending) :
      Transition c s .p2StarSendNrc
        (({ s with p2StarNrcs := rest } : System).sendNRC nrc.request s.current nrc.sid
          nrc.errorCode)
  | p2StarFinal (nrc : P2StarNrc) (rest : List P2StarNrc) (hidle : s.main = .idle)
      (hnrcs : s.p2StarNrcs = nrc :: rest)
      (hcode : nrc.errorCode ≠ requestCorrectlyReceivedResponsePending) :
      Transition c s .p2StarSendNrc
        (((({ s with p2StarNrcs := rest } : System).sendNRC nrc.request s.current nrc.sid
          nrc.errorCode).setMgr (UdsDiagIndication.sendNRC s.mgr nrc.sid
            nrc.errorCode).clearRequest).close nrc.request)
  | s3Expires (hruns : s.timers.s3 = true) (hfree : s.timers.s3Reported = false) :
      Transition c s .s3Expires (s3Expires s)
  | s3Ends (hrep : s.timers.s3Reported = true)
      (hsess : s.mgr.sessionType = defaultSession) :
      Transition c s .s3Completes { s with timers := { s.timers with s3Reported := false } }
  | s3Completes (hrep : s.timers.s3Reported = true)
      (hsess : s.mgr.sessionType ≠ defaultSession) :
      Transition c s .s3Completes { s with
        timers := { s.timers with s3Reported := false }
        mgr := { s.mgr with sessionType := defaultSession }
        log := .sessionReset :: s.log }
  | authExpires (hruns : s.timers.auth = true) (hfree : s.timers.s3Reported = false) :
      Transition c s .authExpires (authExpires s)
  | authDelayExpires (hruns : s.timers.authDelay = true) (hfree : s.timers.s3Reported = false) :
      Transition c s .authDelayExpires (authDelayExpires s)
  | reboot : Transition c s .reboot (restartProcess c s s.secAcc.tree [])

theorem setData_transition (data : UdsData) (hidle : s.main = .idle) :
    Transition c s (.setData data) (setData s data) := by
  cases data with
  | role value =>
    exact .setData _ value s.mgr.isXferActive s.mgr.isPaused s.cancelRequested hidle id
  | fileXferState =>
    have hstay := Transition.setData (c := c) (s := s) .fileXferState s.mgr.currentRoleVal
      s.mgr.isXferActive s.mgr.isPaused
    unfold setData
    split_ifs
    · exact hstay s.cancelRequested hidle id
    · exact .setData _ s.mgr.currentRoleVal false s.mgr.isPaused s.cancelRequested hidle
        (fun hfal => by cases hfal)
    · exact hstay true hidle id
  | pause =>
    exact .setData _ s.mgr.currentRoleVal s.mgr.isXferActive true s.cancelRequested hidle id
  | resume =>
    exact .setData _ s.mgr.currentRoleVal s.mgr.isXferActive false s.cancelRequested hidle id

theorem step_transition {a : Action} (h : step c s a = some s') : Transition c s a s' := by
  unfold step at h
  cases a with
  | request addr msg =>
    dsimp only at h
    split_ifs at h with hidle
    cases h
    exact .request addr msg hidle
  | disconnect addr =>
    dsimp only at h
    split_ifs at h with hidle
    cases h
    unfold disconnect
    split_ifs with hsess
    · exact .disconnecting addr hidle hsess
    · exact .disconnected addr hidle (not_not.1 hsess)
  | respond origin resp =>
    dsimp only at h
    split_ifs at h with hidle
    cases h
    exact .respond origin resp hidle
  | setData data =>
    dsimp only at h
    split_ifs at h with hidle
    cases h
    exact setData_transition data hidle
  | cancelFileXfer =>
    dsimp only at h
    split_ifs at h with hidle
    unfold cancelFileXfer at h
    split_ifs at h with hevs hcancel
    · cases h
      exact .cancelFileXfer false false hidle hevs (fun hfal => by cases hfal)
    · cases h
      exact .cancelFileXfer s.mgr.isXferActive s.cancelRequested hidle hevs id
  | secAccHandles => exact .secAccHandles s' h
  | waitTimesOut =>
    dsimp only at h
    unfold waitTimesOut at h
    cases hmain : s.main with
    | answering origin resp =>
      rw [hmain] at h
      cases h
      exact .waitTimesOut origin resp hmain
    | _ =>
      rw [hmain] at h
      cases h
  | delayTimerExpires =>
    obtain ⟨interval, htim, rfl⟩ := map_eq_some_iff.1 h
    exact .delayTimerExpires interval htim
  | timerEvent =>
    dsimp only at h
    split_ifs at h with hrep
    unfold timerEvent at h
    cases hevs : s.timers.events with
    | nil =>
      rw [hevs] at h
      cases h
    | cons event rest =>
      rw [hevs] at h
      cases h
      exact .timerEvent event rest hevs (by simpa using hrep)
  | p2StarExpires =>
    dsimp only at h
    split_ifs at h with hrep
    obtain ⟨timer, htim, rfl⟩ := map_eq_some_iff.1 h
    exact .p2StarExpires timer _ _ htim (by simpa using hrep)
  | p2StarSendNrc =>
    dsimp only at h
    split_ifs at h with hidle
    unfold p2StarSendNrc at h
    rcases hnrcs : s.p2StarNrcs with _ | ⟨nrc, rest⟩
    · rw [hnrcs] at h
      cases h
    rw [hnrcs] at h
    cases h
    split_ifs with hcode
    · exact .p2StarPending nrc rest hidle hnrcs hcode
    · exact .p2StarFinal nrc rest hidle hnrcs hcode
  | s3Expires =>
    dsimp only at h
    split_ifs at h with hruns
    cases h
    exact .s3Expires hruns.1 hruns.2
  | s3Completes =>
    dsimp only at h
    split_ifs at h with hrep
    cases h
    unfold s3Completes
    split_ifs with hsess
    · exact .s3Ends hrep hsess
    · exact .s3Completes hrep hsess
  | authExpires =>
    dsimp only at h
    split_ifs at h with hruns
    cases h
    exact .authExpires hruns.1 hruns.2
  | authDelayExpires =>
    dsimp only at h
    split_ifs at h with hruns
    cases h
    exact .authDelayExpires hruns.1 hruns.2
  | reboot =>
    cases h
    exact .reboot

/-- Requests are answered with a code or with zeros, and only requests are. -/
theorem isRequest_of_move {T : SessionTable} {ao ao' : ActiveObject} {tree tree' : Tree}
    {reply : Reply} (move : Move T ao tree m sig ao' tree' reply) :
    isRequest sig = true ↔ (∃ nrc, reply = .responseNRC nrc) ∨
      ∃ size, reply = .allZeroSeed size := by
  cases move with
  | refused sig next nrc hsig | answerRefused sig next hsig =>
    rcases hsig with rfl | rfl <;> simp [isRequest, answerTo]
  | ignored sig hsig => rcases hsig with ⟨rfl, _⟩ | ⟨rfl, _⟩ <;> simp [isRequest, answerTo]
  | sessionMarked sig after hsig | sessionMarkedLocked sig after hsig
  | sessionSwitched sig sess hsig => rcases hsig with rfl | rfl <;> simp [isRequest, answerTo]
  | _ => simp [isRequest, answerTo]

/-! What the operations leave alone. -/

section

variable (sid : UInt8)
include sid

@[simp] theorem keepSession_secAcc : (s.keepSession sid).secAcc = s.secAcc := by
  unfold System.keepSession
  split_ifs <;> rfl

@[simp] theorem keepSession_main : (s.keepSession sid).main = s.main := by
  unfold System.keepSession
  split_ifs <;> rfl

@[simp] theorem keepSession_log : (s.keepSession sid).log = s.log := by
  unfold System.keepSession
  split_ifs <;> rfl

@[simp] theorem keepSession_mgr : (s.keepSession sid).mgr = s.mgr := by
  unfold System.keepSession
  split_ifs <;> rfl

@[simp] theorem keepSession_current : (s.keepSession sid).current = s.current := by
  unfold System.keepSession
  split_ifs <;> rfl

@[simp] theorem keepSession_received : (s.keepSession sid).received = s.received := by
  unfold System.keepSession
  split_ifs <;> rfl

@[simp] theorem keepSession_requests : (s.keepSession sid).requests = s.requests := by
  unfold System.keepSession
  split_ifs <;> rfl

@[simp] theorem keepSession_pending : (s.keepSession sid).pending = s.pending := by
  unfold System.keepSession
  split_ifs <;> rfl

end

@[simp] theorem sendResponse_secAcc (origin : Nat) (resp : Response) :
    (s.sendResponse origin resp).secAcc = s.secAcc := by
  unfold System.sendResponse
  split_ifs <;> rfl

@[simp] theorem sendResponse_main (origin : Nat) (resp : Response) :
    (s.sendResponse origin resp).main = s.main := by
  unfold System.sendResponse
  split_ifs <;> rfl

@[simp] theorem applyReply_secAcc (reply : Reply) : (applyReply s reply).secAcc = s.secAcc := by
  unfold applyReply
  split <;> first | rfl | split_ifs <;> rfl

@[simp] theorem applyReply_main (reply : Reply) : (applyReply s reply).main = s.main := by
  unfold applyReply
  split <;> first | rfl | split_ifs <;> rfl

@[simp] theorem finishResponse_secAcc (origin : Nat) (resp : Response) :
    (finishResponse c s origin resp).secAcc = s.secAcc := by
  unfold finishResponse
  rw [sendResponse_secAcc]
  rfl

theorem resume_indicating (hmain : s.main = .indicating) (reply : Reply) :
    resume c s reply =
      if reply = .responseNRC positiveResponse then
        (s.awake.keepSession securityAccessRequestId).forward
      else s.awake.keepSession securityAccessRequestId := by
  unfold resume
  rw [hmain]

theorem resume_answering {origin : Nat} {resp : Response} (hmain : s.main = .answering origin resp)
    (reply : Reply) : resume c s reply = finishResponse c s.awake origin resp := by
  unfold resume
  rw [hmain]

theorem resume_disconnecting (hmain : s.main = .disconnecting) (reply : Reply) :
    resume c s reply = s.awake.setMgr { s.mgr with sessionType := defaultSession } := by
  unfold resume
  rw [hmain]

@[simp] theorem resume_secAcc (reply : Reply) : (resume c s reply).secAcc = s.secAcc := by
  cases hmain : s.main with
  | idle =>
    unfold resume
    rw [hmain]
  | indicating =>
    rw [resume_indicating hmain]
    split_ifs
    all_goals exact keepSession_secAcc _
  | answering origin resp =>
    rw [resume_answering hmain, finishResponse_secAcc]
    rfl
  | disconnecting =>
    rw [resume_disconnecting hmain]
    rfl

theorem applyReply_refused {nrc : UInt8} (h : nrc ≠ positiveResponse) :
    applyReply s (.responseNRC nrc) = s.sendNRC s.current s.current s.mgr.recvSid nrc := by
  exact if_pos h

/-! The tasks of the main thread in every run. -/

section

variable (h : Tasks s)
include h

theorem Tasks.of_eq (hmain : s'.main = s.main) (hsecA : s'.secAcc.queue = s.secAcc.queue) :
    Tasks s' where
  awaited := by
    rw [hmain, hsecA]
    exact h.awaited
  single := by
    rw [hsecA]
    exact h.single
  requests := by
    rw [hsecA]
    exact h.requests

theorem Tasks.setMgr (m : UdsManager) : Tasks (s.setMgr m) := h.of_eq rfl rfl

theorem Tasks.schedule (events : List TimerEvent) : Tasks (s.schedule events) := h.of_eq rfl rfl

theorem Tasks.changeSession : Tasks (UdsSystem.changeSession c s) := h.of_eq rfl rfl

theorem Tasks.resetConnection (addr : AddrInfo) : Tasks (UdsSystem.resetConnection s addr) :=
  h.of_eq rfl rfl

theorem Tasks.not_awaited (hidle : s.main = .idle) :
    ∀ entry ∈ s.secAcc.queue, entry.awaited = false := by
  intro entry hent
  by_contra hawt
  have htask := h.awaited entry hent (by simpa using hawt)
  rw [hidle] at htask
  exact htask

theorem Tasks.handOver (hidle : s.main = .idle) {task : MainTask}
    (htask : taskSignal task sig) : Tasks (s.handOver sig task) := by
  have hnone := h.not_awaited hidle
  have hcnt : s.secAcc.queue.countP Entry.awaited = 0 := by
    simpa using hnone
  refine ⟨fun entry hent hawt => ?_, ?_, fun entry hent hreq => ?_⟩
  · rcases mem_append.1 hent with hmem | hmem
    · rw [hnone entry hmem] at hawt
      cases hawt
    · cases mem_singleton.1 hmem
      exact htask
  · change (s.secAcc.queue ++ [(⟨sig, true⟩ : Entry)]).countP Entry.awaited ≤ 1
    rw [countP_append, hcnt]
    exact le_of_eq rfl
  · rcases mem_append.1 hent with hmem | hmem
    · exact h.requests entry hmem hreq
    · cases mem_singleton.1 hmem
      rfl

theorem Tasks.append (hmain : s'.main = s.main)
    (hque : s'.secAcc.queue = s.secAcc.queue ++ [⟨sig, false⟩]) (hsig : isRequest sig = false) :
    Tasks s' := by
  refine ⟨fun entry hent hawt => ?_, ?_, fun entry hent hreq => ?_⟩
  · rw [hmain]
    rw [hque] at hent
    rcases mem_append.1 hent with hmem | hmem
    · exact h.awaited entry hmem hawt
    · cases mem_singleton.1 hmem
      cases hawt
  · rw [hque, countP_append]
    exact h.single
  · rw [hque] at hent
    rcases mem_append.1 hent with hmem | hmem
    · exact h.requests entry hmem hreq
    cases mem_singleton.1 hmem
    rw [hsig] at hreq
    cases hreq

end

theorem isRequest_of_isAnswer (h : isAnswer sig = true) : isRequest sig = false := by
  cases sig <;> first | rfl | cases h

theorem Tasks.indicating_of_request (h : Tasks s) {entry : Entry} (hmem : entry ∈ s.secAcc.queue)
    (hreq : isRequest entry.sig = true) : entry.awaited = true ∧ s.main = .indicating := by
  have hawt := h.requests entry hmem hreq
  refine ⟨hawt, ?_⟩
  have htask := h.awaited entry hmem hawt
  cases hmain : s.main with
  | idle =>
    rw [hmain] at htask
    cases htask
  | indicating => rfl
  | answering origin resp =>
    rw [hmain] at htask
    rcases htask with ⟨_, hsig⟩ | ⟨_, hsig⟩
    · rw [hsig] at hreq
      cases hreq
    · rw [isRequest_of_isAnswer hsig] at hreq
      cases hreq
  | disconnecting =>
    rw [hmain] at htask
    have hsig : entry.sig = .sessionControl := htask
    rw [hsig] at hreq
    cases hreq

theorem Tasks.of_nil (hque : s'.secAcc.queue = []) : Tasks s' := by
  refine ⟨?_, ?_, ?_⟩ <;> simp [hque]

/-- Once the awaited signal is dispatched, nothing is awaited any more. -/
theorem Tasks.rest_not_awaited (h : Tasks s) {entry : Entry} {rest : List Entry}
    (hque : s.secAcc.queue = entry :: rest) (hawt : entry.awaited = true) :
    ∀ other ∈ rest, other.awaited = false := by
  have hsgl := h.single
  rw [hque, countP_cons, if_pos hawt] at hsgl
  have hcnt : rest.countP Entry.awaited = 0 := by omega
  simpa using hcnt

theorem tasks_secAccHandles (h : Tasks s) (hstep : secAccHandles c s = some s') : Tasks s' := by
  obtain ⟨entry, rest, hque, hcas⟩ := secAccHandles_cases hstep
  rcases hcas with ⟨ao, tree, reply, move, rfl⟩ | ⟨tree, reason, _, rfl⟩
  swap
  · exact Tasks.of_nil rfl
  have hsub : ∀ other ∈ rest, other ∈ s.secAcc.queue := fun other hoth =>
    hque ▸ mem_cons_of_mem _ hoth
  have hsgl : rest.countP Entry.awaited ≤ 1 := by
    have hcnt := h.single
    rw [hque, countP_cons] at hcnt
    omega
  split_ifs with hwts
  · have hnone := h.rest_not_awaited hque hwts.1
    refine ⟨fun other hoth hawt => ?_, ?_, fun other hoth hreq => ?_⟩
    · rw [resume_secAcc, applyReply_secAcc] at hoth
      rw [hnone other hoth] at hawt
      cases hawt
    · rw [resume_secAcc, applyReply_secAcc]
      exact hsgl
    · rw [resume_secAcc, applyReply_secAcc] at hoth
      exact h.requests other (hsub other hoth) hreq
  · refine ⟨fun other hoth hawt => ?_, ?_, fun other hoth hreq => ?_⟩
    · rw [applyReply_secAcc] at hoth
      rw [applyReply_main]
      exact h.awaited other (hsub other hoth) hawt
    · rw [applyReply_secAcc]
      exact hsgl
    · rw [applyReply_secAcc] at hoth
      exact h.requests other (hsub other hoth) hreq

theorem tasks_request (h : Tasks s) (hidle : s.main = .idle) (addr : AddrInfo) (msg : DiagMsg) :
    Tasks (request c s addr msg) := by
  unfold request
  cases hout : receiveIndication c s.unlocked s.timers.authDelay s.mgr addr msg with
  | dropped | rejected sid errorCode | testerPresent suppressed => exact h.of_eq rfl rfl
  | taken m verdict =>
    cases verdict with
    | nrc errorCode =>
      unfold takenRequest
      dsimp only
      split_ifs
      · exact h.of_eq (keepSession_main _) (congrArg Worker.queue (keepSession_secAcc _))
      · exact h.of_eq rfl rfl
    | silent | indicate =>
      exact h.of_eq (keepSession_main _) (congrArg Worker.queue (keepSession_secAcc _))
    | secAcc sig =>
      obtain ⟨sid, rest, _, htake⟩ := receive_taken c _ _ s.mgr addr msg hout
      obtain ⟨_, _, _, hsig⟩ := takeIndication_secAcc htake
      have htkn : Tasks ((taken (arrive s msg) (s.received + 1) msg.data m).schedule
          (authTimers c s msg)) := h.of_eq rfl rfl
      have htask : taskSignal .indicating sig := by
        rw [hsig]
        exact isRequest_secAcc
      exact htkn.handOver hidle htask

theorem isAnswer_securityAccessRespSignal (m : UdsManager) :
    isAnswer (securityAccessRespSignal m) = true := by
  unfold securityAccessRespSignal
  split_ifs <;> rfl

section

variable (h : Tasks s)
include h

theorem Tasks.sendResponse (origin : Nat) (resp : Response) : Tasks (s.sendResponse origin resp) :=
  h.of_eq (sendResponse_main origin resp) (congrArg Worker.queue (sendResponse_secAcc origin resp))

theorem tasks_respondSession (hidle : s.main = .idle) (origin : Nat) (resp : Response)
    (hsid : resp.serviceId = sessionControlRequestId) : Tasks (respondSession c s origin resp) := by
  unfold respondSession
  split_ifs with herr htold
  · exact (h.setMgr _).sendResponse origin resp
  · have htask : taskSignal (.answering origin resp) .sessionControl := .inl ⟨hsid, rfl⟩
    exact h.changeSession.handOver hidle htask
  · exact (h.changeSession.setMgr _).sendResponse origin resp

theorem tasks_respondSecAcc (hidle : s.main = .idle) (origin : Nat) (resp : Response)
    (hsid : resp.serviceId = securityAccessRequestId) : Tasks (respondSecAcc s origin resp) := by
  unfold respondSecAcc
  split_ifs
  · exact h
  have htask : taskSignal (.answering origin resp) (securityAccessRespSignal s.mgr) :=
    .inr ⟨hsid, isAnswer_securityAccessRespSignal s.mgr⟩
  exact h.handOver hidle htask

theorem tasks_respondImmediate (origin : Nat) (resp : Response) :
    Tasks (respondImmediate c s origin resp) := by
  unfold respondImmediate
  dsimp only
  split
  · exact ((h.setMgr _).schedule _).sendResponse origin resp
  · exact (h.setMgr _).schedule _
  · exact Tasks.of_nil rfl

theorem tasks_respond (hidle : s.main = .idle) (origin : Nat) (resp : Response) :
    Tasks (respond c s origin resp) := by
  have hansd : Tasks (noteAnswer s origin resp) := h.of_eq rfl rfl
  unfold respond
  split_ifs with haccepts hsess hsecA
  · exact h.of_eq rfl rfl
  · exact tasks_respondSession hansd hidle origin resp hsess
  · exact tasks_respondSecAcc hansd hidle origin resp hsecA
  · exact tasks_respondImmediate hansd origin resp

theorem tasks_abandon {origin : Nat} {resp : Response} (hmain : s.main = .answering origin resp) :
    Tasks { s with main := .idle, secAcc := abandon s.secAcc } := by
  refine ⟨fun entry hent hawt => ?_, ?_, fun entry hent hreq => ?_⟩
  · obtain ⟨old, _, rfl⟩ := mem_map.1 hent
    cases hawt
  · change (s.secAcc.queue.map _).countP Entry.awaited ≤ 1
    rw [countP_eq_zero.2]
    · exact Nat.zero_le _
    · simp
  · obtain ⟨old, hold, rfl⟩ := mem_map.1 hent
    have hind := (h.indicating_of_request hold hreq).2
    rw [hmain] at hind
    cases hind

theorem tasks_step {a : Action} (hstep : step c s a = some s') : Tasks s' := by
  cases step_transition hstep with
  | request addr msg hidle => exact tasks_request h hidle addr msg
  | disconnected addr => exact h.resetConnection addr
  | disconnecting addr hidle =>
    have htask : taskSignal .disconnecting .sessionControl := rfl
    exact (h.resetConnection addr).handOver hidle htask
  | respond origin resp hidle => exact tasks_respond h hidle origin resp
  | secAccHandles s' hstep => exact tasks_secAccHandles h hstep
  | waitTimesOut origin resp hmain => exact tasks_abandon h hmain
  | delayTimerExpires interval | s3Expires => exact h.append rfl rfl rfl
  | reboot => exact Tasks.of_nil rfl
  | _ => exact h.of_eq rfl rfl

end

theorem tasks_initial : Tasks (initialSystem c) := Tasks.of_nil rfl

end TelAF.UdsTasks
