import Mathlib.Data.List.Nodup
import Mathlib.Data.List.Perm.Basic
import TelAF.RpcProxySessions
import TelAF.TransitionRuns

/-!
# Lifetime of proxy sessions

A session object goes through few phases, and which commands are outstanding for it follows
from its phase: CreateSession until the remote session has an id, then one Message command for
each message that is not answered, then DeleteSession. It is released with the last of them.
The one way around this is a disconnect while CreateSession is outstanding: the close handler
takes the call for one from the response handler of that command and releases the object, which
the command still has as its context.
-/

namespace TelAF.RpcProxySessions

open RpcConnection TransitionRuns ProxySession Sessions List

/-! ## The property -/

/-- What holds of a session object and of the messages of its client. -/
structure Lifetime (p : ProxySession) : Prop where
  releasedOnce : p.releases ≤ 1
  released_iff : p.releases = 1 ↔ p.sessionRef = none ∧ p.commands = []
  notUsed : p.dangling = false
  messages : p.received.Perm
    (p.pendingMsgList ++ p.msgList ++ p.answered.map Prod.fst ++ p.releasedMsgs)
  settled : p.releases = 1 → p.pendingMsgList = [] ∧ p.msgList = []
  deletedOnce : p.deletes.length ≤ 1
  deletes_acknowledged : ∀ id ∈ p.deletes, p.acknowledged = some id
  deleted : p.releases = 1 → p.isRemoteClosed = false →
    ∀ id, p.acknowledged = some id → p.deletes = [id]

/-- A connected service does not go away while a session in its list waits for its id. -/
def Orderly (s : RpcServerProxy) : Action → Prop
  | .serverEvent => s.conn.state = .connected →
      s.conn.events.head? = some ServerAction.disconnectService →
      ∀ ptr ∈ s.sessions.proxySessionList, ¬ Outstanding s ptr .createSession
  | _ => True

instance : DecidableRel Orderly := fun _ a => by cases a <;> unfold Orderly <;> infer_instance

/-! ## Phases of a session -/

/-- Open with an id: every ongoing message has its command. -/
structure Active (p : ProxySession) : Prop where
  hopen : p.sessionRef ≠ none
  hid : p.rpcSessionId ≠ 0
  hpend : p.pendingMsgList = []
  hcmds : p.commands = p.msgList.map (.message p.rpcSessionId)
  hrels : p.releases = 0
  hdels : p.deletes = []
  hacknowledged : p.acknowledged = some p.rpcSessionId

/-- Closed with an id: not released before the last ongoing message is. -/
structure Closed (p : ProxySession) : Prop where
  hclsd : p.sessionRef = none
  hid : p.rpcSessionId ≠ 0
  hpend : p.pendingMsgList = []
  hcmds : p.commands = p.msgList.map (.message p.rpcSessionId)
  hrels : p.releases = 0
  hdels : p.deletes = []
  hacknowledged : p.acknowledged = some p.rpcSessionId

inductive Sound (p : ProxySession) : Prop
  | creating (hopen : p.sessionRef ≠ none) (hid : p.rpcSessionId = 0) (hmsgs : p.msgList = [])
      (hcmds : p.commands = [.createSession]) (hrmt : p.isRemoteClosed = false)
      (hrels : p.releases = 0) (hdels : p.deletes = []) (hack : p.acknowledged = none)
  | active (h : Active p) (hrmt : p.isRemoteClosed = false)
  | orphaned (hclsd : p.sessionRef = none) (hid : p.rpcSessionId = 0)
      (hpend : p.pendingMsgList = []) (hmsgs : p.msgList = [])
      (hcmds : p.commands = [.createSession]) (hrmt : p.isRemoteClosed = false)
      (hrels : p.releases = 0) (hdels : p.deletes = []) (hack : p.acknowledged = none)
  | draining (h : Closed p) (hmsgs : p.msgList ≠ [])
  | deleting (hclsd : p.sessionRef = none) (hpend : p.pendingMsgList = [])
      (hmsgs : p.msgList = []) (hcmds : p.commands = [.deleteSession p.rpcSessionId])
      (hrels : p.releases = 0) (hdels : p.deletes = [p.rpcSessionId])
      (hack : p.acknowledged = some p.rpcSessionId)
  | released (hclsd : p.sessionRef = none) (hpend : p.pendingMsgList = [])
      (hmsgs : p.msgList = []) (hcmds : p.commands = []) (hrels : p.releases = 1)
      (honce : p.deletes.length ≤ 1) (hacks : ∀ id ∈ p.deletes, p.acknowledged = some id)
      (hdel : p.isRemoteClosed = false → ∀ id, p.acknowledged = some id → p.deletes = [id])

/-- No message of the client is lost or counted twice. -/
def Accounted (p : ProxySession) : Prop :=
  p.received.Perm (p.pendingMsgList ++ p.msgList ++ p.answered.map Prod.fst ++ p.releasedMsgs)

structure Kept (p : ProxySession) : Prop where
  sound : Sound p
  accounted : Accounted p
  notUsed : p.dangling = false

theorem Kept.lifetime {p : ProxySession} (h : Kept p) : Lifetime p := by
  obtain ⟨hsnd, hacct, hused⟩ := h
  cases hsnd with
  | creating hopen _ _ _ _ hrels hdels _
  | orphaned _ _ _ _ hcmds _ hrels hdels _
  | deleting _ _ _ hcmds hrels hdels hack => constructor <;> simp_all [Accounted]
  | active h _ =>
    obtain ⟨hopen, _, _, _, hrels, hdels, _⟩ := h
    constructor <;> simp_all [Accounted]
  | draining h hmsgs =>
    obtain ⟨_, _, _, hcmds, hrels, hdels, _⟩ := h
    constructor <;> simp_all [Accounted]
  | released hclsd hpend hmsgs hcmds hrels honce hacks hdel =>
    exact {
      releasedOnce := Nat.le_of_eq hrels
      released_iff := iff_of_true hrels ⟨hclsd, hcmds⟩
      notUsed := hused
      messages := hacct
      settled := fun _ => ⟨hpend, hmsgs⟩
      deletedOnce := honce
      deletes_acknowledged := hacks
      deleted := fun _ => hdel }

/-! ## Operations on one object -/

section Object

variable {p : ProxySession}

theorem kept_new (sessionRef : Nat) : Kept (new sessionRef) := by
  constructor
  · apply Sound.creating <;> simp [new]
  · simp [Accounted, new]
  · rfl

theorem Kept.marked (h : Kept p) (aborted : Bool) (events : List (List UInt8)) :
    Kept { p with aborted := aborted, events := events } := by
  obtain ⟨hsnd, hacct, hused⟩ := h
  refine ⟨?_, hacct, hused⟩
  cases hsnd with
  | creating hopen hid hmsgs hcmds hrmt hrels hdels hack =>
    exact .creating hopen hid hmsgs hcmds hrmt hrels hdels hack
  | active h hrmt => exact .active ⟨h.1, h.2, h.3, h.4, h.5, h.6, h.7⟩ hrmt
  | orphaned hclsd hid hpend hmsgs hcmds hrmt hrels hdels hack =>
    exact .orphaned hclsd hid hpend hmsgs hcmds hrmt hrels hdels hack
  | draining h hmsgs => exact .draining ⟨h.1, h.2, h.3, h.4, h.5, h.6, h.7⟩ hmsgs
  | deleting hclsd hpend hmsgs hcmds hrels hdels hack =>
    exact .deleting hclsd hpend hmsgs hcmds hrels hdels hack
  | released hclsd hpend hmsgs hcmds hrels honce hacks hdel =>
    exact .released hclsd hpend hmsgs hcmds hrels honce hacks hdel

theorem Kept.abort (h : Kept p) : Kept p.abort := h.marked true p.events

/-- A closed session without ongoing messages is deleted at the remote side, or released if
that side has closed it. -/
theorem Closed.finish (h : Closed p) (hmsgs : p.msgList = []) : Sound p.finish := by
  obtain ⟨hclsd, hid, hpend, hcmds, hrels, hdels, hack⟩ := h
  have hnone : p.commands = [] := by rw [hcmds, hmsgs, map_nil]
  unfold ProxySession.finish
  split_ifs with hrmt
  · apply Sound.released
    · exact hclsd
    · exact hpend
    · exact hmsgs
    · exact hnone
    · simp [ProxySession.release, hrels]
    iterate 2 simp [ProxySession.release, hdels]
    simp [ProxySession.release, hrmt]
  · rw [ProxySession.deleteSession, if_neg hid]
    apply Sound.deleting
    · exact hclsd
    · exact hpend
    · exact hmsgs
    · simp [hnone]
    · exact hrels
    · simp [hdels]
    · exact hack

/-- The fields that `finish` leaves alone. -/
theorem accounted_finish : Accounted p.finish ↔ Accounted p := by
  unfold finish deleteSession
  split_ifs <;> rfl

theorem sessionRef_finish : p.finish.sessionRef = p.sessionRef := by
  unfold finish deleteSession
  split_ifs <;> rfl

theorem dangling_finish : p.finish.dangling = p.dangling := by
  unfold finish deleteSession
  split_ifs <;> rfl

theorem accounted_closeHandler (h : Accounted p) : Accounted p.closeHandler := by
  unfold closeHandler
  have hreld : Accounted { p with
      sessionRef := none
      pendingMsgList := []
      releasedMsgs := p.releasedMsgs ++ p.pendingMsgList } := by
    refine h.trans ?_
    rw [append_assoc, append_assoc]
    exact perm_append_comm.trans (by simp)
  dsimp only
  split_ifs
  · exact hreld
  · exact hreld
  · exact accounted_finish.2 h
  · exact h

theorem dangling_closeHandler : p.closeHandler.dangling = p.dangling := by
  unfold closeHandler
  dsimp only
  split_ifs
  · rfl
  · rfl
  · exact dangling_finish
  · rfl

theorem sessionRef_closeHandler : p.closeHandler.sessionRef = none := by
  unfold closeHandler finish deleteSession
  dsimp only
  split_ifs <;> rfl

/-- Closing an active session, whatever the remote side is taken to have done. -/
theorem Active.closeHandler (h : Active p) : Sound p.closeHandler := by
  obtain ⟨_, hid, hpend, hcmds, hrels, hdels, hack⟩ := h
  have hclsd : Closed { p with sessionRef := none } :=
    ⟨rfl, hid, hpend, hcmds, hrels, hdels, hack⟩
  unfold ProxySession.closeHandler
  rw [if_neg hid]
  split_ifs with hmsgs
  · exact hclsd.finish hmsgs
  · exact .draining hclsd hmsgs

theorem Kept.closeHandler (h : Kept p) (hopen : p.sessionRef ≠ none) : Kept p.closeHandler := by
  refine ⟨?_, accounted_closeHandler h.accounted, dangling_closeHandler.trans h.notUsed⟩
  cases h.sound with
  | creating _ hid hmsgs hcmds hrmt hrels hdels hack =>
    unfold ProxySession.closeHandler
    rw [if_pos hid, hrmt]
    exact .orphaned rfl hid rfl hmsgs hcmds rfl hrels hdels hack
  | active hact _ => exact hact.closeHandler
  | orphaned hclsd _ _ _ _ _ _ _ _
  | deleting hclsd _ _ _ _ _ _ | released hclsd _ _ _ _ _ _ _ => exact absurd hclsd hopen
  | draining hclsd _ => exact absurd hclsd.hclsd hopen

theorem Kept.msgRecvHandler (h : Kept p) (hopen : p.sessionRef ≠ none) (msg : Msg) :
    Kept (p.msgRecvHandler msg) ∧ (p.msgRecvHandler msg).sessionRef = p.sessionRef := by
  have hacct : Accounted (p.msgRecvHandler msg) := by
    have hold := (h.accounted.append_right [msg]).trans (perm_append_singleton _ _)
    unfold ProxySession.msgRecvHandler
    dsimp only
    split_ifs
    · unfold Accounted
      refine hold.trans ?_
      simpa using perm_middle.symm
    · unfold Accounted
      refine hold.trans ?_
      simpa using (@perm_middle _ msg (p.pendingMsgList ++ p.msgList) _).symm
  unfold ProxySession.msgRecvHandler at hacct ⊢
  dsimp only at hacct ⊢
  cases h.sound with
  | creating _ hid hmsgs hcmds hrmt hrels hdels hack =>
    rw [if_pos hid] at hacct ⊢
    refine ⟨⟨?_, hacct, h.notUsed⟩, rfl⟩
    exact .creating hopen hid hmsgs hcmds hrmt hrels hdels hack
  | active hact hrmt =>
    rw [if_neg hact.hid] at hacct ⊢
    refine ⟨⟨?_, hacct, h.notUsed⟩, rfl⟩
    refine .active ⟨hopen, hact.hid, hact.hpend, ?_, hact.hrels,
      hact.hdels, hact.hacknowledged⟩ hrmt
    simp [hact.hcmds]
  | orphaned hclsd _ _ _ _ _ _ _ _
  | deleting hclsd _ _ _ _ _ _ | released hclsd _ _ _ _ _ _ _ => exact absurd hclsd hopen
  | draining hclsd _ => exact absurd hclsd.hclsd hopen

/-! ### Response handlers -/

variable {q : ProxySession}

/-- The fields about which `Accounted` speaks are the same. -/
theorem Accounted.congr (h : Accounted p) (hrcvd : q.received = p.received)
    (hpend : q.pendingMsgList = p.pendingMsgList) (hmsgs : q.msgList = p.msgList)
    (hansd : q.answered = p.answered) (hreld : q.releasedMsgs = p.releasedMsgs) :
    Accounted q := by
  unfold Accounted
  rw [hrcvd, hpend, hmsgs, hansd, hreld]
  exact h

/-- Only a session that waits for its id has CreateSession outstanding. -/
theorem Kept.waiting (h : Kept p) (hcmd : Command.createSession ∈ p.commands) :
    p.rpcSessionId = 0 ∧ p.msgList = [] ∧ p.commands = [.createSession] ∧
      p.isRemoteClosed = false ∧ p.releases = 0 ∧ p.deletes = [] ∧ p.acknowledged = none ∧
      (p.sessionRef = none → p.pendingMsgList = []) := by
  cases h.sound with
  | creating hopen hid hmsgs hcmds hrmt hrels hdels hack =>
    exact ⟨hid, hmsgs, hcmds, hrmt, hrels, hdels, hack,
      fun hclsd => absurd hclsd hopen⟩
  | active hact _ =>
    rw [hact.hcmds] at hcmd
    simp at hcmd
  | orphaned _ hid hpend hmsgs hcmds hrmt hrels hdels hack =>
    exact ⟨hid, hmsgs, hcmds, hrmt, hrels, hdels, hack, fun _ => hpend⟩
  | draining hclsd _ =>
    rw [hclsd.hcmds] at hcmd
    simp at hcmd
  | deleting _ _ _ hcmds _ _ _ =>
    rw [hcmds] at hcmd
    simp at hcmd
  | released _ _ _ hcmds _ _ _ _ =>
    rw [hcmds] at hcmd
    cases hcmd

theorem accounted_established (h : Accounted p) (id : Nat) : Accounted (p.established id) := by
  unfold established at *
  refine h.trans ?_
  exact (perm_append_comm.append_right _).append_right _

/-- What a response handler leaves behind: either all of it is as it should be and the local
session stays as it is, or it is as it should be once the local session is closed. -/
def Settles (p : ProxySession) (outcome : ProxySession × Option Nat) : Prop :=
  outcome.1.sessionRef = p.sessionRef ∧
    match outcome.2 with
    | none => Kept outcome.1
    | some sessionRef => p.sessionRef = some sessionRef ∧ Kept outcome.1.closeHandler

/-- Without an id the close handler releases the object when the remote session is gone. -/
theorem closeHandler_of_failed (h : Kept p) (hcmd : Command.createSession ∈ p.commands) :
    Kept ({ p.responded .createSession with isRemoteClosed := true }).closeHandler := by
  obtain ⟨hid, hmsgs, hcmds, -, hrels, hdels, hack, -⟩ := h.waiting hcmd
  refine ⟨?_, accounted_closeHandler (h.accounted.congr rfl rfl rfl rfl rfl),
    dangling_closeHandler.trans h.notUsed⟩
  unfold closeHandler
  rw [if_pos (show (p.responded .createSession).rpcSessionId = 0 from hid)]
  apply Sound.released
  · rfl
  · rfl
  · exact hmsgs
  · simp [release, responded, hcmds]
  · simp [release, responded, hrels]
  iterate 2 simp [release, responded, hdels]
  simp [release]

theorem Kept.createSessionResp (h : Kept p) (hcmd : Command.createSession ∈ p.commands)
    (resp : Option Nat) : Settles p (p.createSessionResp resp) := by
  obtain ⟨hid, hmsgs, hcmds, hrmt, hrels, hdels, hack, hpend⟩ := h.waiting hcmd
  have hnone : p.commands.erase .createSession = [] := by rw [hcmds]; rfl
  unfold ProxySession.createSessionResp
  cases href : p.sessionRef with
  | some sessionRef =>
    have hopen : p.sessionRef ≠ none := by simp [href]
    rcases resp with _ | id
    · exact ⟨rfl, href, closeHandler_of_failed h hcmd⟩
    dsimp only
    split_ifs with hzero
    · exact ⟨rfl, href, closeHandler_of_failed h hcmd⟩
    refine ⟨rfl, ?_, ?_, h.notUsed⟩
    · refine Sound.active ⟨hopen, hzero, rfl, ?_, hrels, hdels, rfl⟩ hrmt
      simp [ProxySession.established, ProxySession.responded, hnone, hmsgs]
    · exact accounted_established (h.accounted.congr rfl rfl rfl rfl rfl) id
  | none =>
    cases resp with
    | none =>
      refine ⟨rfl, ?_, h.accounted.congr rfl rfl rfl rfl rfl, h.notUsed⟩
      apply Sound.released
      · exact href
      · exact hpend href
      · exact hmsgs
      · exact hnone
      · simp [ProxySession.release, ProxySession.responded, hrels]
      iterate 2 simp [ProxySession.release, ProxySession.responded, hdels]
      simp [ProxySession.release, ProxySession.responded, hack]
    | some id =>
      dsimp only
      split_ifs with hzero
      · exact ⟨rfl, h.abort⟩
      rw [ProxySession.deleteSession, if_neg hzero]
      refine ⟨rfl, ?_, h.accounted.congr rfl rfl rfl rfl rfl, h.notUsed⟩
      apply Sound.deleting
      · exact href
      · exact hpend href
      · exact hmsgs
      · simp [ProxySession.responded, hnone]
      · exact hrels
      · simp [ProxySession.responded, hdels]
      · rfl

variable {id : Nat}
variable {msg : Msg}

/-- A message with a command outstanding is ongoing, in a session that has its id. -/
theorem Kept.ongoing (h : Kept p) (hcmd : Command.message id msg ∈ p.commands) :
    msg ∈ p.msgList ∧ id = p.rpcSessionId ∧
      (Active p ∧ p.isRemoteClosed = false ∨ Closed p) := by
  have hmem : ∀ {id'}, p.commands = p.msgList.map (.message id') →
      msg ∈ p.msgList ∧ id = id' := by
    intro id' hcmds
    rw [hcmds, mem_map] at hcmd
    obtain ⟨msg', hmsg', heq⟩ := hcmd
    cases heq
    exact ⟨hmsg', rfl⟩
  cases h.sound with
  | creating _ _ _ hcmds _ _ _ _ | orphaned _ _ _ _ hcmds _ _ _ _
  | deleting _ _ _ hcmds _ _ _ =>
    rw [hcmds] at hcmd
    simp at hcmd
  | active hact hrmt =>
    obtain ⟨hmsg, hid⟩ := hmem hact.hcmds
    exact ⟨hmsg, hid, .inl ⟨hact, hrmt⟩⟩
  | draining hclsd _ =>
    obtain ⟨hmsg, hid⟩ := hmem hclsd.hcmds
    exact ⟨hmsg, hid, .inr hclsd⟩
  | released _ _ _ hcmds _ _ _ _ =>
    rw [hcmds] at hcmd
    cases hcmd

theorem erase_command {msgs : List Msg} (msg : Msg) :
    (msgs.map (Command.message id)).erase (.message id msg) =
      (msgs.erase msg).map (Command.message id) := by
  have hinje : Function.Injective (Command.message id) := by
    intro msg msg' heq
    exact (Command.message.inj heq).2
  exact (map_erase hinje msgs).symm

theorem accounted_answered (h : Accounted p) (hmsg : msg ∈ p.msgList) {data : List UInt8}
    (hrcvd : q.received = p.received)
    (hpend : q.pendingMsgList = p.pendingMsgList) (hmsgs : q.msgList = p.msgList.erase msg)
    (hansd : q.answered = p.answered ++ [(msg, data)])
    (hreld : q.releasedMsgs = p.releasedMsgs) : Accounted q := by
  unfold Accounted at h ⊢
  rw [hrcvd, hpend, hmsgs, hansd, hreld, map_append]
  refine h.trans (List.Perm.append_right _ ?_)
  rw [append_assoc, append_assoc]
  refine List.Perm.append_left _ ?_
  refine ((perm_cons_erase hmsg).append_right _).trans ?_
  rw [← append_assoc]
  exact (perm_append_singleton _ _).symm

theorem accounted_releasedMsg (h : Accounted p) (hmsg : msg ∈ p.msgList)
    (hrcvd : q.received = p.received)
    (hpend : q.pendingMsgList = p.pendingMsgList) (hmsgs : q.msgList = p.msgList.erase msg)
    (hansd : q.answered = p.answered)
    (hreld : q.releasedMsgs = p.releasedMsgs ++ [msg]) : Accounted q := by
  unfold Accounted at h ⊢
  rw [hrcvd, hpend, hmsgs, hansd, hreld]
  refine h.trans ?_
  have hmov := ((perm_cons_erase hmsg).append_left p.pendingMsgList).trans perm_middle
  have hall := (hmov.append_right (p.answered.map Prod.fst)).append_right p.releasedMsgs
  rw [← append_assoc]
  exact hall.trans (perm_append_singleton _ _).symm

theorem Kept.messageResp (h : Kept p)
    (hcmd : Command.message id msg ∈ p.commands) (resp : Option (Nat × List UInt8)) :
    Settles p (p.messageResp id msg resp) := by
  obtain ⟨hmsg, rfl, hphs⟩ := h.ongoing hcmd
  unfold messageResp
  split_ifs with hoth
  · exact ⟨rfl, h.abort⟩
  cases hphs with
  | inl hact =>
    obtain ⟨hact, hrmt⟩ := hact
    obtain ⟨hopen, hid, hpend, hcmds, hrels, hdels, hack⟩ := hact
    obtain ⟨sessionRef, href⟩ := Option.ne_none_iff_exists'.1 hopen
    have hersd : p.commands.erase (.message p.rpcSessionId msg) =
        (p.msgList.erase msg).map (.message p.rpcSessionId) := by
      rw [hcmds, erase_command]
    simp only [responded, href]
    cases resp with
    | some resp =>
      refine ⟨href.symm, ?_, accounted_answered h.accounted hmsg rfl rfl rfl rfl rfl, h.notUsed⟩
      exact .active ⟨Option.some_ne_none _, hid, hpend, hersd, hrels, hdels, hack⟩
        hrmt
    | none =>
      have hlast : Active { p.releaseMsg msg with
          sessionRef := some sessionRef
          msgList := p.msgList.erase msg
          commands := p.commands.erase (.message p.rpcSessionId msg)
          isRemoteClosed := true } :=
        ⟨Option.some_ne_none _, hid, hpend, hersd, hrels, hdels, hack⟩
      refine ⟨href.symm, href, hlast.closeHandler, ?_, ?_⟩
      · exact accounted_closeHandler (accounted_releasedMsg h.accounted hmsg rfl rfl rfl rfl rfl)
      · exact dangling_closeHandler.trans h.notUsed
  | inr hclsd =>
    obtain ⟨href, hid, hpend, hcmds, hrels, hdels, hack⟩ := hclsd
    have hersd : p.commands.erase (.message p.rpcSessionId msg) =
        (p.msgList.erase msg).map (.message p.rpcSessionId) := by
      rw [hcmds, erase_command]
    have hacct : Accounted { p.releaseMsg msg with
        msgList := p.msgList.erase msg
        commands := p.commands.erase (.message p.rpcSessionId msg) } :=
      accounted_releasedMsg h.accounted hmsg rfl rfl rfl rfl rfl
    simp only [responded, href]
    split_ifs with hmsgs
    · refine ⟨sessionRef_finish.trans href.symm, ?_, ?_, dangling_finish.trans h.notUsed⟩
      · exact Closed.finish ⟨rfl, hid, hpend, hersd, hrels, hdels, hack⟩ hmsgs
      · exact accounted_finish.2 (hacct.congr rfl rfl rfl rfl rfl)
    · refine ⟨href.symm, ?_, hacct.congr rfl rfl rfl rfl rfl, h.notUsed⟩
      exact .draining ⟨rfl, hid, hpend, hersd, hrels, hdels, hack⟩ hmsgs

/-- DeleteSession is outstanding for a closed session without messages. -/
theorem Kept.deleting (h : Kept p) (hcmd : Command.deleteSession id ∈ p.commands) :
    p.sessionRef = none ∧ p.pendingMsgList = [] ∧ p.msgList = [] := by
  cases h.sound with
  | creating _ _ _ hcmds _ _ _ _ | orphaned _ _ _ _ hcmds _ _ _ _ =>
    rw [hcmds] at hcmd
    simp at hcmd
  | active hact _ =>
    rw [hact.hcmds] at hcmd
    simp at hcmd
  | draining hclsd _ =>
    rw [hclsd.hcmds] at hcmd
    simp at hcmd
  | deleting hclsd hpend hmsgs _ _ _ _ => exact ⟨hclsd, hpend, hmsgs⟩
  | released _ _ _ hcmds _ _ _ _ =>
    rw [hcmds] at hcmd
    cases hcmd

theorem Kept.deleteSessionResp (h : Kept p)
    (hcmd : Command.deleteSession id ∈ p.commands) (resp : Option Nat) :
    Kept (p.deleteSessionResp id resp) ∧
      (p.deleteSessionResp id resp).sessionRef = p.sessionRef := by
  unfold ProxySession.deleteSessionResp
  split_ifs with hoth
  · exact ⟨h.abort, rfl⟩
  refine ⟨⟨?_, h.accounted.congr rfl rfl rfl rfl rfl, h.notUsed⟩, rfl⟩
  cases h.sound with
  | creating _ _ _ hcmds _ _ _ _ | orphaned _ _ _ _ hcmds _ _ _ _ =>
    rw [hcmds] at hcmd
    simp at hcmd
  | active hact _ =>
    rw [hact.hcmds] at hcmd
    simp at hcmd
  | draining hclsd _ =>
    rw [hclsd.hcmds] at hcmd
    simp at hcmd
  | deleting hclsd hpend hmsgs hcmds hrels hdels hack =>
    rw [hcmds, mem_singleton] at hcmd
    cases hcmd
    apply Sound.released
    · exact hclsd
    · exact hpend
    · exact hmsgs
    · simp [ProxySession.release, ProxySession.responded, hcmds]
    · simp [ProxySession.release, ProxySession.responded, hrels]
    · simp [ProxySession.release, ProxySession.responded, hdels]
    all_goals simp [ProxySession.release, ProxySession.responded, hdels, hack]
  | released _ _ _ hcmds _ _ _ _ =>
    rw [hcmds] at hcmd
    cases hcmd

theorem Kept.notReleased (h : Kept p) {command : Command} (hcmd : command ∈ p.commands) :
    p.releases = 0 := by
  cases h.sound with
  | creating _ _ _ _ _ hrels _ _ | orphaned _ _ _ _ _ _ hrels _ _
  | deleting _ _ _ _ hrels _ _ => exact hrels
  | active hact _ => exact hact.hrels
  | draining hclsd _ => exact hclsd.hrels
  | released _ _ _ hcmds _ _ _ _ =>
    rw [hcmds] at hcmd
    cases hcmd

end Object

/-! ## Operations on all sessions -/

/-- The list holds the open sessions, each once, and their references tell them apart. -/
structure Indexed (s : Sessions) : Prop where
  listed : ∀ ptr : Nat, ptr ∈ s.proxySessionList ↔
    ∃ p, s.objects[ptr]? = some p ∧ p.sessionRef ≠ none
  nodup : s.proxySessionList.Nodup
  refs : ∀ (ptr ptr' : Nat) (p p' : ProxySession) (sessionRef : Nat), s.objects[ptr]? = some p →
    s.objects[ptr']? = some p' →
    p.sessionRef = some sessionRef → p'.sessionRef = some sessionRef → ptr = ptr'

structure Tracked (s : Sessions) : Prop where
  indexed : Indexed s
  kept : ∀ (ptr : Nat) (p : ProxySession), s.objects[ptr]? = some p → Kept p

section Objects

variable {s : Sessions} {ptr : Nat} {p q : ProxySession}

theorem getElem?_set_of_some (hp : s.objects[ptr]? = some p) (q : ProxySession) (ptr' : Nat) :
    (s.set ptr q).objects[ptr']? = if ptr = ptr' then some q else s.objects[ptr']? := by
  have hlt : ptr < s.objects.length := (List.getElem?_eq_some_iff.1 hp).1
  by_cases hptr : ptr = ptr'
  · subst hptr
    simp [Sessions.set, hlt]
  · simp [Sessions.set, hptr]

theorem Indexed.set (h : Indexed s) (hp : s.objects[ptr]? = some p)
    (href : q.sessionRef = p.sessionRef) : Indexed (s.set ptr q) := by
  -- Every object of the result has the reference that the object there had before.
  have hbef : ∀ {ptr' : Nat} {p' : ProxySession}, (s.set ptr q).objects[ptr']? = some p' →
      ∃ p₀, s.objects[ptr']? = some p₀ ∧ p₀.sessionRef = p'.sessionRef := by
    intro ptr' p' hget
    rw [getElem?_set_of_some hp] at hget
    split_ifs at hget with hptr
    · cases hget
      exact ⟨p, hptr ▸ hp, href.symm⟩
    · exact ⟨p', hget, rfl⟩
  constructor
  · intro ptr'
    refine (h.listed ptr').trans ⟨?_, ?_⟩
    · rintro ⟨p', hget, hopen⟩
      rw [getElem?_set_of_some hp]
      split_ifs with hptr
      · subst hptr
        obtain rfl : p = p' := Option.some.inj (hp.symm.trans hget)
        exact ⟨q, rfl, href ▸ hopen⟩
      · exact ⟨p', hget, hopen⟩
    · rintro ⟨p', hget, hopen⟩
      obtain ⟨p₀, hget₀, href₀⟩ := hbef hget
      exact ⟨p₀, hget₀, href₀ ▸ hopen⟩
  · exact h.nodup
  · intro ptr₁ ptr₂ p₁ p₂ sessionRef h₁ h₂ href₁ href₂
    obtain ⟨q₁, hget₁, hsame₁⟩ := hbef h₁
    obtain ⟨q₂, hget₂, hsame₂⟩ := hbef h₂
    exact h.refs ptr₁ ptr₂ q₁ q₂ sessionRef hget₁ hget₂ (hsame₁.trans href₁) (hsame₂.trans href₂)

theorem Tracked.set (h : Tracked s) (hp : s.objects[ptr]? = some p)
    (href : q.sessionRef = p.sessionRef) (hq : Kept q) : Tracked (s.set ptr q) := by
  refine ⟨h.indexed.set hp href, ?_⟩
  intro ptr' p' hget
  rw [getElem?_set_of_some hp] at hget
  split_ifs at hget
  · cases hget
    exact hq
  · exact h.kept ptr' p' hget

theorem Indexed.findProxySessionByRef (h : Indexed s) (hp : s.objects[ptr]? = some p)
    {sessionRef : Nat} (href : p.sessionRef = some sessionRef) :
    s.findProxySessionByRef sessionRef = some ptr := by
  have hmem : ptr ∈ s.proxySessionList := (h.listed ptr).2 ⟨p, hp, by simp [href]⟩
  rcases hfnd : s.findProxySessionByRef sessionRef with _ | ptr'
  · have hnone := find?_eq_none.1 hfnd ptr hmem
    simp [hp, href] at hnone
  have hsome := find?_some hfnd
  rw [Option.any_eq_true] at hsome
  obtain ⟨p', hp', href'⟩ := hsome
  rw [h.refs ptr' ptr p' p sessionRef hp' hp (by simpa using href') href]

theorem Indexed.closeSession_eq (h : Indexed s) (hp : s.objects[ptr]? = some p)
    {sessionRef : Nat} (href : p.sessionRef = some sessionRef) :
    s.closeSession sessionRef = { s.set ptr p.closeHandler with
      proxySessionList := s.proxySessionList.filter (· ≠ ptr) } := by
  rw [closeSession, h.findProxySessionByRef hp href]
  simp only [hp]

theorem Tracked.closeSession (h : Tracked s) (hp : s.objects[ptr]? = some p)
    (href : q.sessionRef = p.sessionRef) {sessionRef : Nat}
    (hopen : p.sessionRef = some sessionRef) (hq : Kept q.closeHandler) :
    Tracked ((s.set ptr q).closeSession sessionRef) ∧
      ((s.set ptr q).closeSession sessionRef).proxySessionList =
        s.proxySessionList.filter (· ≠ ptr) ∧
      ∀ ptr' : Nat, ptr' ≠ ptr →
        ((s.set ptr q).closeSession sessionRef).objects[ptr']? = s.objects[ptr']? := by
  have hset := h.indexed.set hp href
  have hget : (s.set ptr q).objects[ptr]? = some q := by rw [getElem?_set_of_some hp, if_pos rfl]
  have heq := hset.closeSession_eq hget (href.trans hopen)
  have hobjs : ∀ ptr' : Nat, ((s.set ptr q).closeSession sessionRef).objects[ptr']? =
      if ptr = ptr' then some q.closeHandler else s.objects[ptr']? := by
    intro ptr'
    rw [heq]
    refine (getElem?_set_of_some hget q.closeHandler ptr').trans ?_
    rw [getElem?_set_of_some hp]
    split_ifs <;> rfl
  have hlist : ((s.set ptr q).closeSession sessionRef).proxySessionList =
      s.proxySessionList.filter (· ≠ ptr) := by rw [heq]; rfl
  refine ⟨⟨⟨?_, ?_, ?_⟩, ?_⟩, hlist, ?_⟩
  · intro ptr'
    rw [hlist, mem_filter, h.indexed.listed ptr', hobjs]
    by_cases hptr : ptr = ptr'
    · subst hptr
      simp [sessionRef_closeHandler]
    · simp [hptr, Ne.symm hptr]
  · rw [hlist]
    exact h.indexed.nodup.filter _
  · intro ptr₁ ptr₂ p₁ p₂ ref h₁ h₂ href₁ href₂
    rw [hobjs] at h₁ h₂
    split_ifs at h₁ h₂ with hptr₁ hptr₂ hptr₂
    · exact hptr₁.symm.trans hptr₂
    · cases h₁
      rw [sessionRef_closeHandler] at href₁
      cases href₁
    · cases h₂
      rw [sessionRef_closeHandler] at href₂
      cases href₂
    · exact h.indexed.refs ptr₁ ptr₂ p₁ p₂ ref h₁ h₂ href₁ href₂
  · intro ptr' p' hget'
    rw [hobjs] at hget'
    split_ifs at hget'
    · cases hget'
      exact hq
    · exact h.kept ptr' p' hget'
  · intro ptr' hne
    rw [hobjs, if_neg (Ne.symm hne)]

/-- `openHandler` appends a new object, which no open session is mistaken for. -/
theorem Tracked.openHandler (h : Tracked s) {sessionRef : Nat}
    (hfr : s.findProxySessionByRef sessionRef = none) : Tracked (s.openHandler sessionRef) := by
  have hget : ∀ (ptr : Nat) (p : ProxySession), (s.openHandler sessionRef).objects[ptr]? = some p ↔
      s.objects[ptr]? = some p ∨ ptr = s.objects.length ∧ p = new sessionRef := by
    intro ptr p
    rw [Sessions.openHandler, getElem?_append]
    by_cases hlt : ptr < s.objects.length
    · rw [if_pos hlt]
      constructor
      · exact Or.inl
      rintro (hget | ⟨rfl, -⟩)
      · exact hget
      · exact absurd hlt (Nat.lt_irrefl _)
    · rw [getElem?_eq_none (Nat.not_lt.1 hlt), getElem?_singleton]
      split_ifs with hlast
      · simp [show ptr = s.objects.length by omega, eq_comm]
      · simp [show ptr ≠ s.objects.length by omega]
  have hoth : ∀ {ptr : Nat} {p : ProxySession}, s.objects[ptr]? = some p →
      p.sessionRef ≠ some sessionRef := by
    intro ptr p hp href
    rw [h.indexed.findProxySessionByRef hp href] at hfr
    cases hfr
  have hlast : s.objects.length ∉ s.proxySessionList := by
    intro hmem
    obtain ⟨p, hp, -⟩ := (h.indexed.listed _).1 hmem
    simp at hp
  refine ⟨⟨?_, ?_, ?_⟩, ?_⟩
  · intro ptr
    rw [Sessions.openHandler, mem_append, mem_singleton, h.indexed.listed ptr]
    constructor
    · rintro (⟨p, hp, hopen⟩ | rfl)
      · exact ⟨p, (hget ptr p).2 (.inl hp), hopen⟩
      · exact ⟨_, (hget _ _).2 (.inr ⟨rfl, rfl⟩), Option.some_ne_none _⟩
    rintro ⟨p, hp, hopen⟩
    rcases (hget ptr p).1 hp with hp | ⟨hptr, -⟩
    · exact .inl ⟨p, hp, hopen⟩
    · exact .inr hptr
  · rw [Sessions.openHandler, nodup_append]
    refine ⟨h.indexed.nodup, by simp, ?_⟩
    intro ptr hptr ptr' hptr' heq
    rw [mem_singleton] at hptr'
    exact hlast (hptr' ▸ heq ▸ hptr)
  · intro ptr ptr' p p' ref hp hp' href href'
    rcases (hget ptr p).1 hp with hp | ⟨hptr, rfl⟩
    · rcases (hget ptr' p').1 hp' with hp' | ⟨-, rfl⟩
      · exact h.indexed.refs ptr ptr' p p' ref hp hp' href href'
      · cases href'
        exact absurd href (hoth hp)
    · rcases (hget ptr' p').1 hp' with hp' | ⟨hptr', -⟩
      · cases href
        exact absurd href' (hoth hp')
      · exact hptr.trans hptr'.symm
  · intro ptr p hp
    rcases (hget ptr p).1 hp with hp | ⟨-, rfl⟩
    · exact h.kept ptr p hp
    · exact kept_new sessionRef

/-- What `find?` yields is an object of the list. -/
theorem findProxySession_spec {cond : ProxySession → Bool}
    (hfnd : s.findProxySession cond = some ptr) :
    ptr ∈ s.proxySessionList ∧ ∃ p, s.objects[ptr]? = some p ∧ cond p = true := by
  refine ⟨mem_of_find?_eq_some hfnd, ?_⟩
  have hsome := find?_some hfnd
  rwa [Option.any_eq_true] at hsome

/-- What one of the operations does: the list may only lose sessions that are closed. -/
structure Goes (s t : Sessions) : Prop where
  tracked : Tracked t
  list : t.proxySessionList ⊆ s.proxySessionList

theorem Goes.refl (h : Tracked s) : Goes s s := ⟨h, List.Subset.refl _⟩

theorem Tracked.goes_set (h : Tracked s) (hp : s.objects[ptr]? = some p)
    (href : q.sessionRef = p.sessionRef) (hq : Kept q) : Goes s (s.set ptr q) :=
  ⟨h.set hp href hq, List.Subset.refl _⟩

theorem Tracked.goes_close (h : Tracked s) (hp : s.objects[ptr]? = some p)
    (href : q.sessionRef = p.sessionRef) {sessionRef : Nat}
    (hopen : p.sessionRef = some sessionRef) (hq : Kept q.closeHandler) :
    Goes s ((s.set ptr q).closeSession sessionRef) := by
  obtain ⟨htrkd, hlist, -⟩ := h.closeSession hp href hopen hq
  refine ⟨htrkd, ?_⟩
  rw [hlist]
  exact filter_sublist.subset

theorem set_self (hp : s.objects[ptr]? = some p) : s.set ptr p = s := by
  obtain ⟨hlt, hget⟩ := List.getElem?_eq_some_iff.1 hp
  have hsame : s.objects.set ptr p = s.objects := by rw [← hget, List.set_getElem_self]
  rw [Sessions.set, hsame]

section

variable (h : Tracked s)
include h

theorem Tracked.goes_closeSession (sessionRef : Nat) : Goes s (s.closeSession sessionRef) := by
  rcases hfnd : s.findProxySessionByRef sessionRef with _ | ptr
  · rw [Sessions.closeSession, hfnd]
    exact .refl h
  obtain ⟨-, p, hp, href⟩ := findProxySession_spec hfnd
  have hopen : p.sessionRef = some sessionRef := by simpa using href
  have hclsd := h.goes_close hp rfl hopen ((h.kept ptr p hp).closeHandler (by simp [hopen]))
  rwa [set_self hp] at hclsd

theorem Tracked.msgRecvHandler (sessionRef : Nat) (msg : Msg) :
    Goes s (s.msgRecvHandler sessionRef msg) := by
  unfold Sessions.msgRecvHandler
  rcases hfnd : s.findProxySessionByRef sessionRef with _ | ptr
  · obtain ⟨htrkd, hlist⟩ := h.goes_closeSession sessionRef
    exact ⟨⟨⟨htrkd.indexed.listed, htrkd.indexed.nodup, htrkd.indexed.refs⟩,
      htrkd.kept⟩, hlist⟩
  obtain ⟨-, p, hp, href⟩ := findProxySession_spec hfnd
  have hopen : p.sessionRef = some sessionRef := by simpa using href
  obtain ⟨hkept, hsame⟩ := (h.kept ptr p hp).msgRecvHandler (by simp [hopen]) msg
  simp only [hp]
  exact h.goes_set hp hsame hkept

section

variable (hp : s.objects[ptr]? = some p)
include hp

/-- A response handler that settles its object keeps all of them. -/
theorem Tracked.respond {handler : ProxySession → ProxySession × Option Nat}
    (hrels : p.releases = 0)
    (hsett : Settles p (handler p)) : Goes s (s.respond ptr handler) := by
  unfold Sessions.respond
  simp only [hp, hrels, ne_eq, not_true_eq_false]
  obtain ⟨href, hkept⟩ := hsett
  cases hclos : (handler p).2 with
  | none =>
    rw [hclos] at hkept
    exact h.goes_set hp href hkept
  | some sessionRef =>
    rw [hclos] at hkept
    exact h.goes_close hp href hkept.1 hkept.2

/-- An open session that has an id may be taken for closed by the remote side. -/
theorem Tracked.closeByRemote (hact : Active p) :
    Tracked (s.closeByRemote ptr) ∧
      (s.closeByRemote ptr).proxySessionList = s.proxySessionList.filter (· ≠ ptr) ∧
      ∀ ptr' : Nat, ptr' ≠ ptr → (s.closeByRemote ptr).objects[ptr']? = s.objects[ptr']? := by
  obtain ⟨sessionRef, hopen⟩ := Option.ne_none_iff_exists'.1 hact.hopen
  have hlast : Active { p with isRemoteClosed := true } :=
    ⟨hact.1, hact.2, hact.3, hact.4, hact.5, hact.6, hact.7⟩
  have hkept := h.kept ptr p hp
  have hq : Kept ({ p with isRemoteClosed := true } : ProxySession).closeHandler :=
    ⟨hlast.closeHandler, accounted_closeHandler (hkept.accounted.congr rfl rfl rfl rfl rfl),
      dangling_closeHandler.trans hkept.notUsed⟩
  have heq : s.closeByRemote ptr =
      (s.set ptr { p with isRemoteClosed := true }).closeSession sessionRef := by
    simp only [Sessions.closeByRemote, hp, hopen]
  rw [heq]
  exact @Tracked.closeSession s ptr p { p with isRemoteClosed := true } h hp rfl _ hopen hq

theorem Tracked.active_of_listed
    (hmem : ptr ∈ s.proxySessionList) (hwts : Command.createSession ∉ p.commands) :
    Active p := by
  obtain ⟨p', hp', hopen⟩ := (h.indexed.listed ptr).1 hmem
  obtain rfl : p = p' := Option.some.inj (hp.symm.trans hp')
  cases (h.kept ptr p hp).sound with
  | creating _ _ _ hcmds _ _ _ _ => exact absurd (by simp [hcmds]) hwts
  | active hact _ => exact hact
  | orphaned hclsd _ _ _ _ _ _ _ _
  | deleting hclsd _ _ _ _ _ _ | released hclsd _ _ _ _ _ _ _ => exact absurd hclsd hopen
  | draining hclsd _ => exact absurd hclsd.hclsd hopen

end

theorem Tracked.deleteSessionEvent (rpcSessionId : Nat) :
    Goes s (s.deleteSessionEvent rpcSessionId) := by
  unfold Sessions.deleteSessionEvent
  rcases hfnd : s.findProxySessionById rpcSessionId with _ | ptr
  · exact .refl h
  unfold Sessions.findProxySessionById at hfnd
  split_ifs at hfnd with hzero
  obtain ⟨hmem, p, hp, hid⟩ := findProxySession_spec hfnd
  have hwts : Command.createSession ∉ p.commands := by
    intro hcmd
    have hnone := ((h.kept ptr p hp).waiting hcmd).1
    exact hzero ((by simpa using hid : p.rpcSessionId = rpcSessionId) ▸ hnone)
  obtain ⟨htrkd, hlist, -⟩ := h.closeByRemote hp (h.active_of_listed hp hmem hwts)
  exact ⟨htrkd, hlist ▸ filter_sublist.subset⟩

end

theorem Tracked.messageEvent (h : Tracked s) (maxPayloadSize rpcSessionId : Nat)
    (payload : List UInt8) : Goes s (s.messageEvent maxPayloadSize rpcSessionId payload) := by
  unfold Sessions.messageEvent
  by_cases hemp : payload = []
  · rw [if_pos hemp]
    exact .refl h
  rw [if_neg hemp]
  rcases s.findProxySessionById rpcSessionId with _ | ptr
  · exact .refl h
  dsimp only
  rcases hp : s.objects[ptr]? with _ | p
  · exact .refl h
  dsimp only
  split_ifs
  · exact .refl h
  · exact h.goes_set hp rfl (h.kept ptr p hp).abort
  · exact h.goes_set hp rfl ((h.kept ptr p hp).marked _ _)

end Objects

/-- All sessions of a list of open sessions that have their id are closed, one after the
other. -/
theorem Tracked.foldl_closeProxySession {ptrs : List Nat} {s : Sessions} (h : Tracked s)
    (hnd : ptrs.Nodup) (hptrs : ∀ ptr ∈ ptrs, ∃ p, s.objects[ptr]? = some p ∧ Active p) :
    Tracked (ptrs.foldl closeProxySession s) ∧
      (ptrs.foldl closeProxySession s).proxySessionList =
        s.proxySessionList.filter (· ∉ ptrs) := by
  induction ptrs generalizing s with
  | nil => exact ⟨h, by simp⟩
  | cons ptr rest ih =>
    obtain ⟨p, hp, hact⟩ := hptrs ptr mem_cons_self
    obtain ⟨hnoti, hrest⟩ := nodup_cons.1 hnd
    obtain ⟨htrkd, hlist, hoths⟩ := h.closeByRemote hp hact
    have hacti : ∀ ptr' ∈ rest, ∃ p' : ProxySession,
        (s.closeByRemote ptr).objects[ptr']? = some p' ∧ Active p' := by
      intro ptr' hmem
      rw [hoths ptr' fun heq => hnoti (heq ▸ hmem)]
      exact hptrs ptr' (mem_cons_of_mem _ hmem)
    have hfst : s.closeProxySession ptr = s.closeByRemote ptr := by
      simp only [closeProxySession, hp, hact.hopen, if_false]
    rw [foldl_cons, hfst]
    obtain ⟨hend, hemp⟩ := ih htrkd hrest hacti
    refine ⟨hend, hemp.trans ?_⟩
    rw [hlist, filter_filter]
    apply filter_congr
    intro ptr' _
    simp [Bool.and_comm]

theorem Tracked.closeAllProxySessions {s : Sessions} (h : Tracked s)
    (hwts : ∀ ptr ∈ s.proxySessionList, ∀ p : ProxySession, s.objects[ptr]? = some p →
      Command.createSession ∉ p.commands) :
    Tracked s.closeAllProxySessions ∧ s.closeAllProxySessions.proxySessionList = [] := by
  have hacti : ∀ ptr ∈ s.proxySessionList, ∃ p : ProxySession,
      s.objects[ptr]? = some p ∧ Active p := by
    intro ptr hmem
    obtain ⟨p, hp, -⟩ := (h.indexed.listed ptr).1 hmem
    exact ⟨p, hp, h.active_of_listed hp hmem (hwts ptr hmem p hp)⟩
  obtain ⟨hend, hlist⟩ := h.foldl_closeProxySession h.indexed.nodup hacti
  refine ⟨hend, hlist.trans ?_⟩
  rw [filter_eq_nil_iff]
  intro ptr hmem
  simpa using hmem

/-! ## Runs -/

/-- A service that is not advertised has no sessions in its list. -/
structure Serving (s : RpcServerProxy) : Prop where
  tracked : Tracked s.sessions
  list : s.conn.proxyService = false → s.sessions.proxySessionList = []

theorem serving_of_start {s : RpcServerProxy} (h : Start s) : Serving s := by
  obtain ⟨-, hsesss⟩ := h
  refine ⟨⟨⟨?_, ?_, ?_⟩, ?_⟩, ?_⟩
  · intro ptr
    simp [hsesss]
  · simp [hsesss]
  · intro ptr ptr' p p' sessionRef hp
    simp [hsesss] at hp
  · intro ptr p hp
    simp [hsesss] at hp
  · simp [hsesss]

section Runs

variable {s t : RpcServerProxy}

theorem Serving.goes (h : Serving s) {sessions : Sessions} (hgoes : Goes s.sessions sessions) :
    Serving { s with sessions := sessions } := by
  refine ⟨hgoes.tracked, ?_⟩
  intro hsvc
  have hsub := hgoes.list
  rw [h.list hsvc] at hsub
  exact subset_nil.1 hsub

theorem proxyService_connectResp (p : ServerProxy) (resp : Option ConnectServiceResp)
    (h : p.proxyService = true) : (p.connectServiceResp resp).proxyService = true := by
  unfold ServerProxy.connectServiceResp ServerProxy.advertiseService
  split_ifs
  · exact h
  · exact h
  cases resp with
  | none => exact h
  | some resp =>
    dsimp only
    split_ifs <;> exact h

theorem proxyService_eventHandler (p : ServerProxy) (action : ServerAction)
    (hsty : ¬ (p.state = .connected ∧ action = ServerAction.disconnectService)) :
    (p.eventHandler action).1.proxyService = p.proxyService := by
  unfold ServerProxy.eventHandler ServerProxy.connectService
  cases hst : p.state with
  | connected =>
    cases action with
    | disconnectService => exact absurd ⟨hst, rfl⟩ hsty
    | connectService | reconnectService => rfl
  | notConnected =>
    cases action with
    | connectService =>
      split_ifs <;> rfl
    | reconnectService | disconnectService => rfl
  | connecting =>
    cases action with
    | disconnectService =>
      split_ifs <;> rfl
    | connectService | reconnectService => rfl
  | connectAborted => cases action <;> rfl

theorem serving_step (h : Serving s) (a : Action) (hok : Orderly s a) (hstep : step s a = some t) :
    Serving t := by
  unfold step at hstep
  split_ifs at hstep
  cases a with
  | openSession sessionRef =>
    obtain ⟨⟨hsvc, hfr⟩, ⟨⟩⟩ := Option.ite_none_right_eq_some.1 hstep
    refine ⟨h.tracked.openHandler hfr, ?_⟩
    intro hnot
    exact absurd hsvc (by simp [show s.conn.proxyService = false from hnot])
  | sendMsg sessionRef msg =>
    cases hstep
    exact h.goes (h.tracked.msgRecvHandler sessionRef msg)
  | closeSession sessionRef =>
    cases hstep
    exact h.goes (h.tracked.goes_closeSession sessionRef)
  | createSessionResp ptr resp =>
    obtain ⟨⟨p, hp, hcmd⟩, ⟨⟩⟩ := Option.ite_none_right_eq_some.1 hstep
    have hkept := h.tracked.kept ptr p hp
    exact h.goes (h.tracked.respond hp (hkept.notReleased hcmd)
      (hkept.createSessionResp hcmd resp))
  | messageResp ptr rpcSessionId msg resp =>
    obtain ⟨⟨p, hp, hcmd⟩, ⟨⟩⟩ := Option.ite_none_right_eq_some.1 hstep
    have hkept := h.tracked.kept ptr p hp
    exact h.goes (h.tracked.respond hp (hkept.notReleased hcmd)
      (hkept.messageResp hcmd resp))
  | deleteSessionResp ptr rpcSessionId resp =>
    obtain ⟨⟨p, hp, hcmd⟩, ⟨⟩⟩ := Option.ite_none_right_eq_some.1 hstep
    have hkept := h.tracked.kept ptr p hp
    obtain ⟨hresp, href⟩ := hkept.deleteSessionResp hcmd resp
    exact h.goes (h.tracked.respond hp (hkept.notReleased hcmd) ⟨href, hresp⟩)
  | messageEvent rpcSessionId payload =>
    cases hstep
    exact h.goes (h.tracked.messageEvent _ _ _)
  | deleteSessionEvent rpcSessionId =>
    cases hstep
    exact h.goes (h.tracked.deleteSessionEvent _)
  | connectServiceResp resp =>
    cases hstep
    unfold RpcServerProxy.connectServiceResp
    dsimp only
    split_ifs with hadv
    · -- The list that is emptied has no sessions.
      have hlist := h.list (Bool.eq_false_iff.2 hadv.1)
      refine ⟨?_, fun _ => rfl⟩
      have hsame : ({ s.sessions with proxySessionList := [] } : Sessions) = s.sessions := by
        rw [← hlist]
      rw [hsame]
      exact h.tracked
    · refine ⟨h.tracked, fun hnot => h.list ?_⟩
      by_contra hsvc
      rw [Bool.not_eq_false] at hsvc
      rw [proxyService_connectResp _ _ hsvc] at hnot
      cases hnot
  | stateChange isAvailable versionOk =>
    cases hstep
    refine ⟨h.tracked, fun hnot => h.list ?_⟩
    unfold ServerProxy.stateChangeHandler at hnot
    dsimp only at hnot
    split_ifs at hnot <;> exact hnot
  | timerExpires =>
    obtain ⟨-, ⟨⟩⟩ := Option.ite_none_right_eq_some.1 hstep
    refine ⟨h.tracked, fun hnot => h.list ?_⟩
    unfold ServerProxy.reConnectTimerHandler ServerProxy.connectService at hnot
    dsimp only at hnot
    split_ifs at hnot <;> exact hnot
  | serverEvent =>
    rcases hevs : s.conn.events with _ | ⟨action, rest⟩
    · simp only [run, hevs] at hstep
      cases hstep
    simp only [run, hevs] at hstep
    cases hstep
    unfold RpcServerProxy.eventHandler
    split_ifs with hdisc
    · obtain ⟨hst, rfl⟩ := hdisc
      have hwts := hok hst (by rw [hevs]; rfl)
      obtain ⟨htrkd, hlist⟩ := h.tracked.closeAllProxySessions
        fun ptr hmem p hp hcmd => hwts ptr hmem ⟨p, hp, hcmd⟩
      exact ⟨htrkd, fun _ => hlist⟩
    · refine ⟨h.tracked, fun hnot => h.list ?_⟩
      exact (proxyService_eventHandler { s.conn with events := rest } action hdisc).symm.trans
        hnot

/-- In every run without a disconnect at the wrong time: objects and messages come to their
ends once, and neither a handler nor the list has an object that is released. -/
theorem lifetime_run (hstart : Start s) {as : List Action} (hok : Meets step Orderly s as)
    (hrun : exec step s as = some t) :
    (∀ p ∈ t.sessions.objects, Lifetime p) ∧
      ∀ ptr ∈ t.sessions.proxySessionList, ∃ p : ProxySession,
        t.sessions.objects[ptr]? = some p ∧ p.releases = 0 := by
  have hserving := exec_invariant (fun s a t => serving_step (a := a)) (serving_of_start hstart)
    hok hrun
  constructor
  · intro p hp
    obtain ⟨ptr, hget⟩ := List.mem_iff_getElem?.1 hp
    exact (hserving.tracked.kept ptr p hget).lifetime
  intro ptr hmem
  obtain ⟨p, hp, hopen⟩ := (hserving.tracked.indexed.listed ptr).1 hmem
  refine ⟨p, hp, ?_⟩
  have hlifetime := (hserving.tracked.kept ptr p hp).lifetime
  have hnot : p.releases ≠ 1 := fun hone => hopen (hlifetime.released_iff.1 hone).1
  have honce := hlifetime.releasedOnce
  omega

end Runs

/-! ## Runs of one session -/

def voicecallProxy : RpcServerProxy where
  conn := {
    serviceCfg := ⟨"telaf", "taf_voicecall", anyVersion⟩
    sysEventId := 0x8002
    isRequested := true
    state := .notConnected
    timer := false
    proxyService := false
    version := ""
    maxMessageSize := 0
    events := []
    aborted := false }
  sessions := ⟨[], [], []⟩

theorem start_voicecallProxy : Start voicecallProxy := ⟨⟨rfl, rfl⟩, rfl⟩

/-- The service is connected and a client opens a session. -/
def opening : List Action :=
  [.stateChange true true, .serverEvent, .connectServiceResp (some ⟨4, "v1", 0x8002⟩),
    .openSession 1]

def dial : Msg := ⟨7, [1, 2, 3, 4]⟩

/-- The message is sent before the remote session is there, and answered after the client has
closed the session. -/
def earlyMessage : List Action :=
  opening ++ [.sendMsg 1 dial, .createSessionResp 0 (some 5), .closeSession 1,
    .messageResp 0 5 dial (some (5, [0])), .deleteSessionResp 0 5 (some 5)]

theorem lifetime_earlyMessage :
    ∃ t, exec step voicecallProxy earlyMessage = some t ∧
      ((∀ p ∈ t.sessions.objects, Lifetime p) ∧
        ∀ ptr ∈ t.sessions.proxySessionList, ∃ p : ProxySession,
          t.sessions.objects[ptr]? = some p ∧ p.releases = 0) ∧
      t.sessions.objects.map ProxySession.releases = [1] := by
  have hrun : (exec step voicecallProxy earlyMessage).any (fun t =>
      t.sessions.objects.map ProxySession.releases = [1]) = true := by decide +kernel
  obtain ⟨t, ht, h⟩ := (Option.any_eq_true _ _).1 hrun
  exact ⟨t, ht, lifetime_run start_voicecallProxy (by decide +kernel) ht, of_decide_eq_true h⟩

/-- A Message command fails while the session is open. -/
def failedMessage : List Action :=
  opening ++ [.createSessionResp 0 (some 5), .sendMsg 1 dial, .messageResp 0 5 dial none]

/-- The service goes away before CreateSession is answered. -/
def earlyDisconnect : List Action :=
  opening ++ [.stateChange false true, .serverEvent, .createSessionResp 0 (some 5)]

/-- The failed Message command is taken for a session that the remote side has closed, so that
no DeleteSession follows. The early disconnect releases the object, which the response handler
then uses. -/
theorem lifetime_fails :
    (∃ t, exec step voicecallProxy failedMessage = some t ∧ ∃ p ∈ t.sessions.objects,
        p.acknowledged = some 5 ∧ p.releases = 1 ∧ p.deletes = []) ∧
      ∃ t, exec step voicecallProxy earlyDisconnect = some t ∧ ∃ p ∈ t.sessions.objects,
        p.releases = 1 ∧ p.dangling = true := by
  have hfailed : (exec step voicecallProxy failedMessage).any (fun t =>
      ∃ p ∈ t.sessions.objects, p.acknowledged = some 5 ∧ p.releases = 1 ∧ p.deletes = []) =
        true := by decide +kernel
  have hearly : (exec step voicecallProxy earlyDisconnect).any (fun t =>
      ∃ p ∈ t.sessions.objects, p.releases = 1 ∧ p.dangling = true) = true := by decide +kernel
  obtain ⟨t, ht, h⟩ := (Option.any_eq_true _ _).1 hfailed
  obtain ⟨u, hu, h'⟩ := (Option.any_eq_true _ _).1 hearly
  exact ⟨⟨t, ht, of_decide_eq_true h⟩, u, hu, of_decide_eq_true h'⟩

end TelAF.RpcProxySessions
