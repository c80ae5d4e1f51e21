import TelAF.UdsRequests

/-!
# One final response for each request

The log of a run shows for every message that is sent the request that it was made for
and the request that stands in the buffer, which is the one the tester takes it for.
`OneFinalResponse` says that these are the same, that nothing follows the final response
of a request, and that the pending state of a request is reset only on its own behalf.

The manager keeps no identity of the pending request: a response is compared with the
service identifier in the buffer, and a queued P2* timeout with nothing. The property
therefore holds in the runs in which neither of them comes late, and a repeated answer
or a timeout that was queued behind an answer breaks it.
-/

namespace TelAF.FinalResponses

open DiagConfiguration UdsState UdsIndications UdsDiagIndication UdsResponses SecurityAccess List
  SecAccMoves UdsSystem UdsTasks UdsRequests TransitionRuns
open SecAccThread hiding Action step

/-- A message that the tester takes for an answer to the request. -/
def sentFor (request : Nat) : Event → Bool
  | .sent _ target _ => target == request
  | _ => false

def finalFor (request : Nat) : Event → Bool
  | .sent _ target final => target == request && final
  | _ => false

/-- Messages are sent, and pending states reset, on behalf of the request in the buffer. -/
def OwnTarget : Event → Prop
  | .sent origin target _ => origin = target
  | .closed origin target => origin = target
  | _ => True

structure OneFinalResponse (log : List Event) : Prop where
  single : log.Pairwise fun newer older =>
    ∀ request, finalFor request older = true → sentFor request newer = false
  own : ∀ event ∈ log, OwnTarget event

/-- A response that is accepted, or a P2* timeout that is executed, belongs to the
request that is pending. -/
def BelongsToPending (s : System) : Action → Prop
  | .respond origin resp =>
    acceptsResponse s.mgr resp.serviceId resp.data = true → s.pending = some origin
  | .p2StarSendNrc =>
    match s.p2StarNrcs with
    | [] => True
    | nrc :: _ => s.pending = some nrc.request
  | _ => True

instance : DecidableRel BelongsToPending
  | s, .respond origin resp => inferInstanceAs
      (Decidable (acceptsResponse s.mgr resp.serviceId resp.data = true → s.pending = some origin))
  | s, .p2StarSendNrc =>
    match h : s.p2StarNrcs with
    | [] => isTrue (by simp [BelongsToPending, h])
    | nrc :: _ => decidable_of_iff (s.pending = some nrc.request) (by simp [BelongsToPending, h])
  | _, .request .. | _, .disconnect .. | _, .setData .. | _, .cancelFileXfer
  | _, .secAccHandles | _, .waitTimesOut | _, .delayTimerExpires | _, .timerEvent | _, .p2StarExpires
  | _, .s3Expires | _, .s3Completes | _, .authExpires | _, .authDelayExpires
  | _, .reboot => inferInstanceAs (Decidable True)

/-- Nothing was finally answered that may still be answered. -/
structure Exclusive (s : System) : Prop where
  bounded : ∀ event ∈ s.log, ∀ request, sentFor request event = true → request ≤ s.received
  pending : ∀ r, s.pending = some r → ∀ event ∈ s.log, finalFor r event = false
  indicating : s.main = .indicating → ∀ event ∈ s.log, finalFor s.current event = false
  answering : ∀ origin resp, s.main = .answering origin resp → s.pending = some origin
  result : OneFinalResponse s.log

section
variable {c : DiagConf} {s s' : System} {log : List Event}
variable {event : Event}

theorem sentFor_of_finalFor {request : Nat} (h : finalFor request event = true) :
    sentFor request event = true := by
  cases event with
  | sent origin target final => exact (Bool.and_eq_true_iff.1 h).1
  | _ => cases h

/-- Events that are neither messages nor resets. -/
def quiet : Event → Bool
  | .sent .. => false
  | .closed .. => false
  | _ => true

theorem sentFor_of_quiet {request : Nat} (h : quiet event = true) :
    sentFor request event = false := by
  cases event <;> first | rfl | cases h

theorem finalFor_of_quiet {request : Nat} (h : quiet event = true) :
    finalFor request event = false := by
  cases event <;> first | rfl | cases h

section

variable (h : OneFinalResponse log)
include h

theorem OneFinalResponse.append {events : List Event}
    (hqui : ∀ event ∈ events, quiet event = true) : OneFinalResponse (events ++ log) where
  single := by
    refine pairwise_append.2 ⟨?_, h.single, fun newer hnewe older _ request _ => ?_⟩
    · refine pairwise_of_forall_mem_list fun newer hnewe older _ request _ => ?_
      exact sentFor_of_quiet (hqui newer hnewe)
    · exact sentFor_of_quiet (hqui newer hnewe)
  own := by
    intro event hev
    rcases mem_append.1 hev with hmem | hmem
    · have hnot := hqui event hmem
      cases event <;> trivial
    · exact h.own event hmem

theorem OneFinalResponse.sent {request : Nat} {final : Bool}
    (hopen : ∀ event ∈ log, finalFor request event = false) :
    OneFinalResponse (.sent request request final :: log) where
  single := by
    refine pairwise_cons.2 ⟨fun older holder other hfin => ?_, h.single⟩
    by_contra hsent
    have hsame : request = other := by simpa [sentFor] using hsent
    rw [← hsame, hopen older holder] at hfin
    cases hfin
  own := by
    intro event hev
    rcases mem_cons.1 hev with rfl | hmem
    · exact rfl
    · exact h.own event hmem

theorem OneFinalResponse.closed (request : Nat) :
    OneFinalResponse (.closed request request :: log) where
  single := pairwise_cons.2 ⟨fun _ _ _ _ => rfl, h.single⟩
  own := by
    intro event hev
    rcases mem_cons.1 hev with rfl | hmem
    · exact rfl
    · exact h.own event hmem

end

section

variable (h : Exclusive s)
include h

variable {events : List Event}

theorem Exclusive.of_quiet
    (hlog : s'.log = events ++ s.log) (hqui : ∀ event ∈ events, quiet event = true)
    (hrcvd : s.received ≤ s'.received) (hpend : s'.pending = s.pending ∨ s'.pending = none)
    (hind : s'.main = .indicating → s.main = .indicating ∧ s'.current = s.current)
    (hansg : ∀ origin resp, s'.main = .answering origin resp → s'.pending = some origin) :
    Exclusive s' where
  bounded := by
    intro event hev request hsent
    rw [hlog] at hev
    rcases mem_append.1 hev with hmem | hmem
    · rw [sentFor_of_quiet (hqui event hmem)] at hsent
      cases hsent
    · exact (h.bounded event hmem request hsent).trans hrcvd
  pending := by
    intro r hr event hev
    rw [hlog] at hev
    rcases mem_append.1 hev with hmem | hmem
    · exact finalFor_of_quiet (hqui event hmem)
    rcases hpend with hsame | hnone
    · exact h.pending r (hsame ▸ hr) event hmem
    · rw [hnone] at hr
      cases hr
  indicating := by
    intro hmain event hev
    obtain ⟨hbef, hcur⟩ := hind hmain
    rw [hlog] at hev
    rw [hcur]
    rcases mem_append.1 hev with hmem | hmem
    · exact finalFor_of_quiet (hqui event hmem)
    · exact h.indicating hbef event hmem
  answering := hansg
  result := by
    rw [hlog]
    exact h.result.append hqui

theorem Exclusive.sent {request : Nat} {final : Bool}
    (hopen : ∀ event ∈ s.log, finalFor request event = false) (hrcvd : request ≤ s'.received)
    (hlog : s'.log = .sent request request final :: s.log) (hgrow : s.received ≤ s'.received)
    (hpend : ∀ r, s'.pending = some r →
      (∀ event ∈ s.log, finalFor r event = false) ∧ (final = true → r ≠ request))
    (hmain : s'.main = .idle) : Exclusive s' where
  bounded := by
    intro event hev other hsent
    rw [hlog] at hev
    rcases mem_cons.1 hev with rfl | hmem
    · have hsame : request = other := by simpa [sentFor] using hsent
      exact hsame ▸ hrcvd
    · exact (h.bounded event hmem other hsent).trans hgrow
  pending := by
    intro r hr event hev
    obtain ⟨hope, hne⟩ := hpend r hr
    rw [hlog] at hev
    rcases mem_cons.1 hev with rfl | hmem
    · cases final with
      | false => exact Bool.and_false _
      | true =>
        have hoth : (request == r) = false := by simpa using (hne rfl).symm
        simp [finalFor, hoth]
    · exact hope event hmem
  indicating := by
    intro hind
    rw [hmain] at hind
    cases hind
  answering := by
    intro origin resp hansg
    rw [hmain] at hansg
    cases hansg
  result := by
    rw [hlog]
    exact h.result.sent hopen

theorem Exclusive.closed {origin : Nat} (hown : s.pending = some origin)
    (hcntd : origin ≤ s.received)
    (hlog : s'.log = .closed origin origin :: .sent origin origin true :: s.log)
    (hrcvd : s'.received = s.received) (hpend : s'.pending = none)
    (hmain : s'.main = .idle) : Exclusive s' where
  bounded := by
    intro event hev other hoth
    rw [hlog] at hev
    rw [hrcvd]
    rcases mem_cons.1 hev with rfl | hev
    · cases hoth
    rcases mem_cons.1 hev with rfl | hmem
    · have hsame : origin = other := by simpa [sentFor] using hoth
      exact hsame ▸ hcntd
    · exact h.bounded event hmem other hoth
  pending := by
    intro r hr
    rw [hpend] at hr
    cases hr
  indicating := by
    intro hind
    rw [hmain] at hind
    cases hind
  answering := by
    intro other resp hansg
    rw [hmain] at hansg
    cases hansg
  result := by
    rw [hlog]
    exact (h.result.sent (h.pending origin hown)).closed origin

theorem Exclusive.sendResponse (hidle : s.main = .idle) {origin : Nat}
    (hown : s.pending = some origin) (hcur : origin = s.current)
    (hcntd : s.current ≤ s.received) (resp : Response) :
    Exclusive (s.sendResponse origin resp) := by
  have hlog : (((s.observe [.sent origin s.current true]).close origin).schedule
      [.p2StarStop]).log = .closed origin origin :: .sent origin origin true :: s.log := by
    rw [hcur]
    rfl
  unfold System.sendResponse
  split_ifs
  · exact h.closed hown (hcur.trans_le hcntd) hlog rfl rfl hidle
  · exact h

theorem Exclusive.of_same (hlog : s'.log = s.log) (hmain : s'.main = s.main)
    (hpend : s'.pending = s.pending) (hcur : s'.current = s.current)
    (hrcvd : s'.received = s.received) : Exclusive s' := by
  have hqui : ∀ event ∈ ([] : List Event), quiet event = true := fun _ hmem => by cases hmem
  have hsame : s'.log = [] ++ s.log := hlog
  refine h.of_quiet hsame hqui hrcvd.ge (.inl hpend)
    (fun hind => ⟨hmain.symm.trans hind, hcur⟩) fun origin resp hansg => ?_
  rw [hpend]
  exact h.answering origin resp (hmain.symm.trans hansg)

theorem Exclusive.keepSession (sid : UInt8) : Exclusive (s.keepSession sid) := by
  unfold System.keepSession
  split_ifs
  · exact h.of_same rfl rfl rfl rfl rfl
  · exact h

theorem Exclusive.unused {request : Nat} (hnew : s.received < request)
    {event : Event} (hmem : event ∈ s.log) : finalFor request event = false := by
  by_contra hfin
  have hyes : finalFor request event = true := by simpa using hfin
  have hsent := sentFor_of_finalFor hyes
  exact absurd (h.bounded event hmem request hsent) (by omega)

/-- The request in the buffer is forwarded; it has no final response yet. -/
theorem Exclusive.forward
    (hopen : ∀ event ∈ s.log, finalFor s.current event = false)
    (hcntd : s.current ≤ s.received)
    (hidle : s.main = .idle) : Exclusive s.forward := by
  refine h.sent hopen hcntd rfl le_rfl (fun r hr => ?_) hidle
  have hcur : s.current = r := Option.some.inj hr
  exact ⟨hcur ▸ hopen, fun hfin => by cases hfin⟩

theorem Exclusive.keepForward
    (hopen : ∀ event ∈ s.log, finalFor s.current event = false)
    (hcntd : s.current ≤ s.received)
    (hidle : s.main = .idle) (sid : UInt8) : Exclusive (s.keepSession sid).forward := by
  apply (h.keepSession sid).forward
  · rwa [keepSession_log, keepSession_current]
  · rwa [keepSession_current, keepSession_received]
  · rwa [keepSession_main]

theorem exclusive_request (hreqs : Requests s) (hidle : s.main = .idle)
    (addr : AddrInfo) (msg : DiagMsg) : Exclusive (request c s addr msg) := by
  have hqui : ∀ event ∈ [Event.received (s.received + 1) msg.data], quiet event = true := by
    intro event hev
    cases mem_singleton.1 hev
    rfl
  have harr : Exclusive (arrive s msg) :=
    h.of_quiet rfl hqui (Nat.le_succ _) (.inl rfl) (fun hmain => ⟨hmain, rfl⟩) h.answering
  have hunu : ∀ event ∈ (arrive s msg).log, finalFor (s.received + 1) event = false := by
    intro event hev
    rcases mem_cons.1 hev with rfl | hmem
    · rfl
    · exact h.unused (Nat.lt_succ_self _) hmem
  have hoth : ∀ r, s.pending = some r → r ≠ s.received + 1 := by
    intro r hr
    have hcur := hreqs.current r hr
    have hcntd := hreqs.counted
    omega
  have hpend : ∀ {final : Bool} r, s.pending = some r →
      (∀ event ∈ (arrive s msg).log, finalFor r event = false) ∧
        (final = true → r ≠ s.received + 1) :=
    fun r hr => ⟨harr.pending r hr, fun _ => hoth r hr⟩
  unfold request
  cases houtcome : receiveIndication c s.unlocked s.timers.authDelay s.mgr addr msg with
  | dropped => exact harr
  | rejected sid errorCode => exact harr.sent hunu le_rfl rfl le_rfl hpend hidle
  | testerPresent suppressed =>
    cases suppressed with
    | true => exact harr.of_same rfl rfl rfl rfl rfl
    | false => exact harr.sent hunu le_rfl rfl le_rfl hpend hidle
  | taken m verdict =>
    have htkn : Exclusive ((taken (arrive s msg) (s.received + 1) msg.data m).schedule
        (authTimers c s msg)) :=
      ⟨harr.bounded, harr.pending,
        fun hmain => absurd (hidle.symm.trans hmain) MainTask.noConfusion, harr.answering,
        harr.result⟩
    cases verdict with
    | nrc errorCode =>
      have hrefu : Exclusive (((taken (arrive s msg) (s.received + 1) msg.data m).schedule
          (authTimers c s msg)).sendNRC (s.received + 1) (s.received + 1) (m.recv 0) errorCode) :=
        harr.sent hunu le_rfl rfl le_rfl hpend hidle
      unfold takenRequest
      dsimp only
      split_ifs
      · exact hrefu.keepSession _
      · exact hrefu
    | silent => exact htkn.keepSession _
    | indicate => exact htkn.keepForward hunu le_rfl hidle _
    | secAcc sig =>
      exact ⟨harr.bounded, harr.pending, fun _ => hunu,
        (fun _ _ hmain => by cases hmain), harr.result⟩

theorem Exclusive.observe
    (hqui : ∀ event ∈ events, quiet event = true) : Exclusive (s.observe events) :=
  h.of_quiet rfl hqui le_rfl (.inl rfl) (fun hmain => ⟨hmain, rfl⟩) h.answering

theorem Exclusive.setMgr (m : UdsManager) : Exclusive (s.setMgr m) := h.of_same rfl rfl rfl rfl rfl

theorem Exclusive.schedule (events : List TimerEvent) : Exclusive (s.schedule events) :=
  h.of_same rfl rfl rfl rfl rfl

/-- The main thread waits for the answer to the pending request to be decided. -/
theorem Exclusive.handOver (sig : SecAccSignal) {origin : Nat} (resp : Response)
    (hown : s.pending = some origin) : Exclusive (s.handOver sig (.answering origin resp)) := by
  refine ⟨h.bounded, h.pending, (fun hmain => by cases hmain), fun other _ hmain => ?_, h.result⟩
  cases hmain
  exact hown

theorem exclusive_restart {tree : Tree} (hqui : ∀ event ∈ events, quiet event = true) :
    Exclusive (restartProcess c s tree events) := by
  have hlog : (restartProcess c s tree events).log
      = (events ++ [.disconnected, .sessionReset]) ++ s.log :=
    (append_assoc events [.disconnected, .sessionReset] s.log).symm
  refine h.of_quiet hlog (fun event hev => ?_) le_rfl (.inr rfl) (fun hmain => by cases hmain)
    fun _ _ hmain => by cases hmain
  rcases mem_append.1 hev with hmem | hmem
  · exact hqui event hmem
  · simp only [mem_cons, not_mem_nil, or_false] at hmem
    rcases hmem with rfl | rfl <;> rfl

end

theorem quiet_sessionReset {p : Prop} [Decidable p] :
    ∀ event ∈ (if p then [Event.sessionReset] else []), quiet event = true := by
  split_ifs <;> simp [quiet]

section

variable (h : Exclusive s)
include h

theorem Exclusive.changeSession : Exclusive (UdsSystem.changeSession c s) :=
  Exclusive.observe ((h.setMgr _).schedule _) quiet_sessionReset

theorem exclusive_respond (hreqs : Requests s) (hidle : s.main = .idle)
    {origin : Nat} {resp : Response} (hgrd : BelongsToPending s (.respond origin resp)) :
    Exclusive (respond c s origin resp) := by
  have hnote : Exclusive (noteCode s resp.err) := h.setMgr _
  have hansd : Exclusive (noteAnswer s origin resp) := by
    refine hnote.observe fun event hev => ?_
    cases mem_singleton.1 hev
    rfl
  unfold respond
  split_ifs with hacc hsess hsecAcc
  · exact hnote
  · have hown : s.pending = some origin := hgrd (by simpa using hacc)
    have hcur : origin = s.current := hreqs.current origin hown
    unfold respondSession
    split_ifs
    · exact (hansd.setMgr _).sendResponse hidle hown hcur hreqs.counted resp
    · exact hansd.changeSession.handOver _ resp hown
    · exact (hansd.changeSession.setMgr _).sendResponse hidle hown hcur
        hreqs.counted resp
  · have hown : s.pending = some origin := hgrd (by simpa using hacc)
    unfold respondSecAcc
    split_ifs
    · exact hansd
    · exact hansd.handOver _ resp hown
  · have hown : s.pending = some origin := hgrd (by simpa using hacc)
    have hcur : origin = s.current := hreqs.current origin hown
    unfold respondImmediate
    dsimp only
    split
    · exact ((hansd.setMgr _).schedule _).sendResponse hidle hown hcur
        hreqs.counted resp
    · exact (hansd.setMgr _).schedule _
    · exact exclusive_restart hansd fun _ hmem => by cases hmem

/-- A decision about a request: it is refused with one message, or forwarded. -/
theorem exclusive_decided (hreqs : Requests s) (hmain : s.main = .indicating)
    (reply : Reply) : Exclusive (resume c (applyReply s reply) reply) := by
  obtain ⟨hnone, _⟩ := hreqs.indicating hmain
  have hopen := h.indicating hmain
  have hawak : Exclusive s.awake :=
    ⟨h.bounded, h.pending, (fun hidle => by cases hidle), (fun _ _ hidle => by cases hidle),
      h.result⟩
  have hnotP : ∀ {final : Bool} r, s.pending = some r →
      (∀ event ∈ s.log, finalFor r event = false) ∧ (final = true → r ≠ s.current) := by
    intro final r hr
    rw [hnone] at hr
    cases hr
  rw [resume_indicating (by rw [applyReply_main, hmain])]
  cases reply with
  | responseNRC nrc =>
    by_cases hnrc : nrc = positiveResponse
    · subst hnrc
      exact hawak.keepForward hopen hreqs.counted rfl _
    rw [if_neg (fun heq => hnrc (Reply.responseNRC.inj heq)), applyReply_refused hnrc]
    have hrefu : Exclusive (s.sendNRC s.current s.current s.mgr.recvSid nrc).awake :=
      h.sent hopen hreqs.counted rfl le_rfl hnotP rfl
    exact hrefu.keepSession _
  | allZeroSeed seedByteSize =>
    have hzero : Exclusive (applyReply s (.allZeroSeed seedByteSize)).awake :=
      h.sent hopen hreqs.counted rfl le_rfl hnotP rfl
    exact hzero.keepSession _
  | setResponseNRC nrc =>
    exact Exclusive.keepSession (hawak.setMgr _) _
  | posted | ignored =>
    exact hawak.keepSession _

/-- The security-access thread sends nothing of its own accord. -/
theorem exclusive_applyReply {reply : Reply}
    (hrep : ¬ ((∃ nrc, reply = .responseNRC nrc) ∨ ∃ size, reply = .allZeroSeed size)) :
    Exclusive (applyReply s reply) := by
  cases reply with
  | responseNRC nrc => exact absurd (.inl ⟨nrc, rfl⟩) hrep
  | allZeroSeed size => exact absurd (.inr ⟨size, rfl⟩) hrep
  | setResponseNRC nrc => exact h.setMgr _
  | posted | ignored => exact h

theorem exclusive_resume (hreqs : Requests s) (hmain : s.main ≠ .indicating)
    (reply : Reply) : Exclusive (resume c s reply) := by
  have hawak : Exclusive s.awake :=
    ⟨h.bounded, h.pending, (fun hidle => by cases hidle), (fun _ _ hidle => by cases hidle),
      h.result⟩
  cases htask : s.main with
  | idle =>
    unfold resume
    rw [htask]
    exact h
  | indicating => exact absurd htask hmain
  | answering origin resp =>
    have hown := h.answering origin resp htask
    rw [resume_answering htask]
    exact (hawak.setMgr _).sendResponse rfl hown (hreqs.current origin hown)
      hreqs.counted resp
  | disconnecting =>
    rw [resume_disconnecting htask]
    exact hawak.setMgr _

theorem exclusive_secAccHandles (htas : Tasks s) (hreqs : Requests s)
    (hstep : secAccHandles c s = some s') : Exclusive s' := by
  obtain ⟨entry, rest, hque, hcas⟩ := secAccHandles_cases hstep
  have hmem : entry ∈ s.secAcc.queue := hque ▸ mem_cons_self
  rcases hcas with ⟨ao, tree, reply, move, rfl⟩ | ⟨tree, reason, _, rfl⟩
  swap
  · exact exclusive_restart h fun event hev => by cases mem_singleton.1 hev; rfl
  have hdspd : Exclusive (dispatched c s entry rest ao tree reply) :=
    h.of_same rfl rfl rfl rfl rfl
  have hkept : Requests (dispatched c s entry rest ao tree reply) :=
    hreqs.of_kept (fun hmain => hmain) rfl rfl rfl le_rfl (BufferKept.refl _)
  by_cases hreq : isRequest entry.sig = true
  · obtain ⟨hawt, hmain⟩ := htas.indicating_of_request hmem hreq
    have hansd : reply ≠ .ignored := by
      rcases (isRequest_of_move move).1 hreq with ⟨nrc, rfl⟩ | ⟨size, rfl⟩ <;>
        exact Reply.noConfusion
    rw [if_pos ⟨hawt, hansd⟩]
    exact exclusive_decided hdspd hkept hmain reply
  have hrepl := exclusive_applyReply hdspd
    (fun hrep => hreq ((isRequest_of_move move).2 hrep))
  split_ifs with hwts
  · refine exclusive_resume hrepl (requests_applyReply hkept reply) ?_ reply
    rw [applyReply_main]
    intro hmain
    have htask := htas.awaited entry hmem hwts.1
    rw [show s.main = .indicating from hmain] at htask
    exact hreq htask
  · exact hrepl

theorem exclusive_resetConnection (hidle : s.main = .idle) (addr : AddrInfo) :
    Exclusive (resetConnection s addr) := by
  have hqui : ∀ event ∈ [Event.disconnected, .sessionReset], quiet event = true := by
    simp [quiet]
  refine h.of_quiet rfl hqui le_rfl (.inr rfl) (fun hmain => ⟨hmain, rfl⟩) fun _ _ hmain => ?_
  exact absurd (hidle.symm.trans hmain) MainTask.noConfusion

theorem exclusive_step (htas : Tasks s) (hreqs : Requests s) {a : Action}
    (hgrd : BelongsToPending s a) (hstep : step c s a = some s') : Exclusive s' := by
  have hqui : ∀ event ∈ [Event.sessionReset], quiet event = true := by simp [quiet]
  cases step_transition hstep with
  | request addr msg hidle => exact exclusive_request h hreqs hidle addr msg
  | disconnected addr hidle => exact exclusive_resetConnection h hidle addr
  | disconnecting addr hidle =>
    have hrset := exclusive_resetConnection h hidle addr
    exact ⟨hrset.bounded, hrset.pending, (fun hmain => by cases hmain),
      (fun _ _ hmain => by cases hmain), hrset.result⟩
  | respond origin resp hidle => exact exclusive_respond h hreqs hidle hgrd
  | secAccHandles s' hstep => exact exclusive_secAccHandles h htas hreqs hstep
  | waitTimesOut =>
    exact ⟨h.bounded, h.pending, (fun hmain => by cases hmain), (fun _ _ hmain => by cases hmain),
      h.result⟩
  | p2StarPending nrc rest hidle hnrcs hcode =>
    have hown : s.pending = some nrc.request := by simpa only [BelongsToPending, hnrcs] using hgrd
    have hcur : nrc.request = s.current := hreqs.current _ hown
    have hlog : (({ s with p2StarNrcs := rest } : System).sendNRC nrc.request s.current nrc.sid
        nrc.errorCode).log = .sent nrc.request nrc.request false :: s.log := by
      rw [hcode, hcur]
      rfl
    exact h.sent (h.pending _ hown) (hcur.trans_le hreqs.counted) hlog le_rfl
      (fun r hr => ⟨h.pending r hr, fun hfin => by cases hfin⟩) hidle
  | p2StarFinal nrc rest hidle hnrcs hcode =>
    have hown : s.pending = some nrc.request := by simpa only [BelongsToPending, hnrcs] using hgrd
    have hcur : nrc.request = s.current := hreqs.current _ hown
    have hfin : (nrc.errorCode != requestCorrectlyReceivedResponsePending) = true := by
      simpa using hcode
    refine h.closed hown (hcur.trans_le hreqs.counted) ?_ rfl rfl hidle
    rw [hcur, ← hfin]
    rfl
  | s3Expires | s3Completes =>
    exact h.of_quiet rfl hqui le_rfl (.inl rfl) (fun hmain => ⟨hmain, rfl⟩) h.answering
  | reboot => exact exclusive_restart h fun _ hmem => by cases hmem
  | _ => exact h.of_same rfl rfl rfl rfl rfl

end

theorem exclusive_initial : Exclusive (initialSystem c) where
  bounded := fun _ hmem => by cases hmem
  pending := fun _ hr => by cases hr
  indicating := fun hmain => by cases hmain
  answering := fun _ _ hmain => by cases hmain
  result := ⟨List.Pairwise.nil, fun _ hmem => by cases hmem⟩

end

/-- In every run in which no response and no P2* timeout comes after its request is closed,
each request gets at most one final response, nothing follows it, and no other request is
answered or closed on its behalf. -/
theorem one_final_response (c : DiagConf) (as : List Action) (s : System)
    (hok : Meets (step c) BelongsToPending (initialSystem c) as)
    (hrun : exec (step c) (initialSystem c) as = some s) : OneFinalResponse s.log := by
  have hstep : ∀ (s : System) (a : Action) (t : System), Tasks s ∧ Requests s ∧ Exclusive s →
      BelongsToPending s a → step c s a = some t → Tasks t ∧ Requests t ∧ Exclusive t := by
    rintro s a t ⟨htasks, hrequests, hexclusive⟩ hguard hstep
    exact ⟨tasks_step htasks hstep, requests_step hrequests hstep,
      exclusive_step hexclusive htasks hrequests hguard hstep⟩
  have h := exec_invariant hstep ⟨tasks_initial, requests_initial, exclusive_initial⟩ hok hrun
  exact h.2.2.result

def testerAddr : AddrInfo := ⟨0x0E80, 0x1001, .physical⟩

/-- A request to enter the extended session, whose P2* timer has expired once. -/
def awaitingSession : List Action :=
  [.request testerAddr extendedRequest, .timerEvent, .p2StarExpires]

/-- The timeout is executed before the answer, and the answer is the only final response. -/
theorem one_final_response_session :
    ∃ s, exec (step sampleConf) (initialSystem sampleConf)
        (awaitingSession ++ [.p2StarSendNrc, .respond 1 ⟨0x10, 0, none, true⟩, .secAccHandles])
        = some s ∧
      s.log.countP (finalFor 1) = 1 ∧ OneFinalResponse s.log := by
  have hfinal : (exec (step sampleConf) (initialSystem sampleConf)
      (awaitingSession ++ [.p2StarSendNrc, .respond 1 ⟨0x10, 0, none, true⟩, .secAccHandles])).map
        (fun s => s.log.countP (finalFor 1)) = some 1 := by decide
  obtain ⟨s, hrun, hcount⟩ := Option.map_eq_some_iff.1 hfinal
  exact ⟨s, hrun, hcount, one_final_response sampleConf _ s (by decide) hrun⟩

/-- The P2* timer expires a second time, the first request is answered, and the same
request is sent again. Both timeouts were queued behind the answer, and the last one
rejects the second request and resets its pending state. -/
theorem late_timeout_closes_later_request :
    ∃ s, exec (step sampleConf) (initialSystem sampleConf)
        (awaitingSession ++ [.p2StarExpires, .respond 1 ⟨0x10, 0x22, none, true⟩,
          .request testerAddr ⟨[0x10, 0x03], by decide⟩, .p2StarSendNrc, .p2StarSendNrc])
        = some s ∧ ¬ OneFinalResponse s.log := by
  have hclsd : (exec (step sampleConf) (initialSystem sampleConf)
      (awaitingSession ++ [.p2StarExpires, .respond 1 ⟨0x10, 0x22, none, true⟩,
        .request testerAddr ⟨[0x10, 0x03], by decide⟩, .p2StarSendNrc, .p2StarSendNrc])).map
        (fun s => decide (Event.closed 1 2 ∈ s.log)) = some true := by decide
  obtain ⟨s, hrun, hmem⟩ := Option.map_eq_some_iff.1 hclsd
  refine ⟨s, hrun, fun hres => ?_⟩
  have hown := hres.own (.closed 1 2) (of_decide_eq_true hmem)
  cases hown

end TelAF.FinalResponses
