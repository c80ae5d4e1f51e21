import TelAF.RemoteSim
import TelAF.TransitionRuns

/-!
# The request discipline of the remote SIM service

A request that is sent to the client sets the sub-state, and only the response to it should
end it. Two senders check nothing: an APDU and a disconnect of the modem are sent whatever
the state is. And a response whose head is malformed leaves the sub-state as it is, so that
power indications are refused from then on. Without these three the discipline holds in every
run, and with any of them the step itself breaks it.
-/

namespace TelAF.RemoteSim
open TransitionRuns List

/-- The message answers the request that has set the state or the sub-state. -/
def Answers (s : Rsim) : MsgId → Prop
  | .connectResp => s.sapState = .connecting
  | .errorResp => s.sapState = .connecting ∨ s.sapState = .connected ∧ s.sapSubState ≠ .idle
  | .disconnectResp => s.sapState = .connected ∧ s.sapSubState = .disconnect
  | .transferApduResp => s.sapState = .connected ∧ s.sapSubState = .apdu
  | .transferAtrResp => s.sapState = .connected ∧
      (s.sapSubState = .atrReset ∨ s.sapSubState = .atrInsert)
  | .powerSimOffResp => s.sapState = .connected ∧ s.sapSubState = .powerOff
  | .powerSimOnResp => s.sapState = .connected ∧ s.sapSubState = .powerOn
  | .resetSimResp => s.sapState = .connected ∧ s.sapSubState = .reset
  | _ => False

instance (s : Rsim) : DecidablePred (Answers s) := by
  intro id
  cases id <;> unfold Answers <;> infer_instance

def isIndication : MsgId → Bool
  | .disconnectInd | .statusInd => true
  | _ => false

def hasResultCode : MsgId → Bool
  | .transferApduResp | .transferAtrResp | .powerSimOffResp | .powerSimOnResp | .resetSimResp => true
  | _ => false

def isModemRequest : Action → Bool
  | .sendMessage _ | .clientMsg _ => false
  | _ => true

/-- The message of the client that a step handles. -/
def handled (s : Rsim) : Action → Option ClientMsg
  | .clientMsg _ => s.clientMsgs.head?
  | _ => none

/-- Responses take effect as answers only; nothing but a connect request goes to a client that
is not connected; a request of the modem leaves another one alone that is not answered, a
reset excepted; and an answer ends the sub-state or asks for the ATR. -/
structure Disciplined (s : Rsim) (a : Action) (t : Rsim) : Prop where
  answers : ∀ m ∈ handled s a, isIndication m.id = false →
    t.sapState ≠ s.sapState ∨ t.sapSubState ≠ s.sapSubState ∨
      t.calls ≠ s.calls → Answers s m.id
  connected : ∀ new, t.reported = s.reported ++ new → ∀ bytes ∈ new,
    bytes.head? = some msgIdTransferApduReq ∨ bytes.head? = some msgIdDisconnectReq →
    s.sapState = .connected
  undisturbed : isModemRequest a = true → s.sapSubState ≠ .idle →
    t.sapSubState = s.sapSubState ∧ (t.reported = s.reported ∨ a = .cardConnect) ∨
      a = .cardReset ∧ s.sapSubState ≠ .powerOn ∧ s.sapSubState ≠ .powerOff
  ended : ∀ m ∈ handled s a, Answers s m.id → t.sapSubState = .idle ∨
    (t.sapSubState = .atrReset ∨ t.sapSubState = .atrInsert) ∧
      t.reported = s.reported ++ [plainRequest msgIdTransferAtrReq]

/-- APDUs and disconnects come to an idle connection, and a response to the pending request is
well formed up to its result code. -/
def InOrder (s : Rsim) : Action → Prop
  | .apduTransfer _ apdu => apduLength apdu ≤ s.maxMsgSize →
      s.sapState = .connected ∧ s.sapSubState = .idle
  | .cardDisconnect => s.sapState = .connected ∧ s.sapSubState = .idle
  | .clientMsg _ => ∀ m ∈ s.clientMsgs.head?, hasResultCode m.id = true → Answers s m.id →
      m.verified m.verifyResultCodeParameter = true
  | _ => True

def Rests (s : Rsim) : Prop := s.sapState ≠ .connected → s.sapSubState = .idle

section
variable {limits : Limits} {s t : Rsim} {m : ClientMsg} {paOk : Bool}

/-- A sub-state is over, or the ATR has been asked for. -/
def Ends (s t : Rsim) : Prop :=
  t.sapState = .connected ∧
    (t.sapSubState = .idle ∧ t.reported = s.reported ∨
      (t.sapSubState = .atrReset ∨ t.sapSubState = .atrInsert) ∧
        t.reported = s.reported ++ [plainRequest msgIdTransferAtrReq])

theorem ends_callModem (hst : s.sapState = .connected) (hidle : s.sapSubState = .idle)
    (call : ModemCall) : Ends s (callModem s paOk call).1 := ⟨hst, Or.inl ⟨hidle, rfl⟩⟩

variable {subState : SapSubState}

theorem ends_sendATRRequest (hst : s.sapState = .connected)
    (hsub : subState = .atrReset ∨ subState = .atrInsert) :
    Ends s (sendATRRequest s subState).1 := ⟨hst, Or.inr ⟨hsub, rfl⟩⟩

theorem ends_sendApduResp (hst : s.sapState = .connected) (hidle : s.sapSubState = .idle) :
    Ends s (sendApduResp limits s m).1 := by
  unfold sendApduResp
  split_ifs <;> exact ⟨hst, Or.inl ⟨hidle, rfl⟩⟩

structure ResponseSpec (awaited : Prop) (s : Rsim) (m : ClientMsg) (t : Rsim) : Prop where
  refused : ¬ awaited → t = s
  malformed : m.verified m.verifyResultCodeParameter = false → t = s
  ended : awaited → m.verified m.verifyResultCodeParameter = true → Ends s t

theorem handleResponse_spec {awaited : SapSubState}
    {byResult : Rsim → ResultCode → Rsim × Result}
    (hres : ∀ (s : Rsim) (code : ResultCode), s.sapState = .connected → s.sapSubState = .idle →
      Ends s (byResult s code).1) :
    ResponseSpec (s.sapState = .connected ∧ s.sapSubState = awaited) s m
      (handleResponse s m awaited byResult).1 := by
  unfold handleResponse
  constructor
  · intro hnot
    rw [if_pos (by tauto)]
  · intro hmalf
    split_ifs <;> simp_all
  intro hawt hver
  rw [if_neg (by tauto), if_neg (by simp [hver])]
  exact hres _ _ hawt.1 rfl

theorem handleApduTransfer_spec :
    ResponseSpec (Answers s .transferApduResp) s m (handleApduTransfer limits s m paOk).1 := by
  apply handleResponse_spec
  intro s code hst hidle
  cases code with
  | ok => exact ends_sendApduResp hst hidle
  | _ => exact ends_callModem hst hidle _

theorem handleCardPowerDown_spec :
    ResponseSpec (Answers s .powerSimOffResp) s m (handleCardPowerDown s m paOk).1 := by
  apply handleResponse_spec
  intro s code hst hidle
  cases code with
  | ok => exact ⟨hst, Or.inl ⟨hidle, rfl⟩⟩
  | _ => exact ends_callModem hst hidle _

theorem handleCardPowerUp_spec :
    ResponseSpec (Answers s .powerSimOnResp) s m (handleCardPowerUp s m paOk).1 := by
  apply handleResponse_spec
  intro s code hst hidle
  cases code with
  | ok => exact ends_sendATRRequest hst (Or.inl rfl)
  | _ => exact ends_callModem hst hidle _

theorem handleResetResponse_spec :
    ResponseSpec (Answers s .resetSimResp) s m (handleResetResponse s m paOk).1 := by
  apply handleResponse_spec
  intro s code hst hidle
  cases code with
  | ok => exact ends_sendATRRequest hst (Or.inl rfl)
  | _ => exact ends_callModem hst hidle _

theorem ends_leaveATR {r : Rsim × Result} (hst : r.1.sapState = .connected)
    (hsub : r.1.sapSubState = .atrReset ∨ r.1.sapSubState = .atrInsert)
    (hrep : r.1.reported = s.reported) : Ends s (leaveATR r).1 := by
  unfold leaveATR
  rw [if_pos hsub]
  exact ⟨hst, Or.inl ⟨rfl, hrep⟩⟩

theorem handleATRResponse_spec :
    ResponseSpec (Answers s .transferAtrResp) s m (handleATRResponse s m paOk).1 := by
  unfold handleATRResponse
  constructor
  · intro hnot
    have hrefu : s.sapState ≠ .connected ∨
        s.sapSubState ≠ .atrReset ∧ s.sapSubState ≠ .atrInsert := by
      unfold Answers at hnot
      tauto
    rw [if_pos hrefu]
  · intro hmalf
    split_ifs <;> simp_all
  intro hawt hver
  obtain ⟨hst, hsub⟩ := hawt
  rw [if_neg (by tauto), if_neg (by simp [hver])]
  cases resultCodeOf (m.msg 8) with
  | ok =>
    have hfwd : (forwardATR s m paOk).1.sapState = s.sapState ∧
        (forwardATR s m paOk).1.sapSubState = s.sapSubState ∧
        (forwardATR s m paOk).1.reported = s.reported := by
      unfold forwardATR
      split_ifs <;> exact ⟨rfl, rfl, rfl⟩
    obtain ⟨hst', hsub', hrep⟩ := hfwd
    exact ends_leaveATR (hst'.trans hst) (by rwa [hsub']) hrep
  | _ => exact ends_leaveATR hst hsub rfl

theorem handleClientMsg_result (hres : hasResultCode m.id = true) :
    ResponseSpec (Answers s m.id) s m (handleClientMsg limits s m paOk).1 := by
  unfold handleClientMsg
  cases hid : m.id with
  | transferApduResp => exact handleApduTransfer_spec
  | transferAtrResp => exact handleATRResponse_spec
  | powerSimOffResp => exact handleCardPowerDown_spec
  | powerSimOnResp => exact handleCardPowerUp_spec
  | resetSimResp => exact handleResetResponse_spec
  | _ =>
    rw [hid] at hres
    cases hres

def Unchanged (s t : Rsim) : Prop :=
  t.sapState = s.sapState ∧ t.sapSubState = s.sapSubState ∧ t.reported = s.reported ∧
    t.calls = s.calls

/-- Only connect requests are new among the messages to the client. -/
def AsksToConnect (s t : Rsim) : Prop :=
  ∃ new, t.reported = s.reported ++ new ∧ ∀ bytes ∈ new, bytes.head? = some msgIdConnectReq

theorem asksToConnect_of_eq (h : t.reported = s.reported) : AsksToConnect s t := by
  refine ⟨[], ?_, nofun⟩
  rw [h, append_nil]

theorem proposeMaxMsgSize_spec (hst : s.sapState = .notConnected) :
    (proposeMaxMsgSize limits s m).1.sapState ≠ .connected ∧
      (proposeMaxMsgSize limits s m).1.sapSubState = s.sapSubState ∧
      AsksToConnect s (proposeMaxMsgSize limits s m).1 := by
  have hkept : s.sapState ≠ .connected ∧ s.sapSubState = s.sapSubState ∧
      AsksToConnect s s := by
    refine ⟨?_, rfl, asksToConnect_of_eq rfl⟩
    rw [hst]
    decide
  unfold proposeMaxMsgSize
  dsimp only
  split_ifs
  iterate 3 exact hkept
  unfold sendCardConnectRequest
  rw [if_neg hkept.1]
  refine ⟨by simp [report], rfl, [connectRequest (m.read16 16)], rfl, ?_⟩
  intro bytes hbyt
  rw [mem_singleton.1 hbyt]
  rfl

/-- A connect response leaves the connection idle or not connected, and asks for nothing but a
connection. -/
theorem handleCardConnect_spec (hst : s.sapState = .connecting) :
    ((handleCardConnect limits s m paOk).1.sapSubState = .idle ∨
        (handleCardConnect limits s m paOk).1.sapSubState = s.sapSubState ∧
        (handleCardConnect limits s m paOk).1.sapState ≠ .connected) ∧
      AsksToConnect s (handleCardConnect limits s m paOk).1 := by
  unfold handleCardConnect
  rw [if_neg (not_not.2 hst)]
  split_ifs with hver
  · dsimp only
    cases connStatusOf (m.msg 8) with
    | ok | okOngoingCall => exact ⟨Or.inl rfl, asksToConnect_of_eq rfl⟩
    | serverNok | smallMaxMsgSize | unknown =>
      exact ⟨Or.inr ⟨rfl, nofun⟩, asksToConnect_of_eq rfl⟩
    | maxMsgSizeNok =>
      obtain ⟨hnot, hsub, hasks⟩ := @proposeMaxMsgSize_spec limits
        { s with sapState := .notConnected } m rfl
      exact ⟨Or.inr ⟨hsub, hnot⟩, hasks⟩
  · refine ⟨Or.inr ⟨rfl, ?_⟩, asksToConnect_of_eq rfl⟩
    rw [hst]
    decide

/-- The sub-state is over, or the ATR has been asked for, on whichever way. -/
def Ended (s t : Rsim) : Prop :=
  t.sapSubState = .idle ∨ (t.sapSubState = .atrReset ∨ t.sapSubState = .atrInsert) ∧
    t.reported = s.reported ++ [plainRequest msgIdTransferAtrReq]

structure MessageSpec (s : Rsim) (m : ClientMsg) (t : Rsim) : Prop where
  refused : isIndication m.id = false → ¬ Answers s m.id → Unchanged s t
  asks : s.sapState ≠ .connected → AsksToConnect s t
  rests : Rests s → Rests t
  ended : Rests s → Answers s m.id →
    (hasResultCode m.id = true → m.verified m.verifyResultCodeParameter = true) → Ended s t
  malformed : hasResultCode m.id = true → m.verified m.verifyResultCodeParameter = false → t = s

theorem Unchanged.refl (s : Rsim) : Unchanged s s := ⟨rfl, rfl, rfl, rfl⟩

theorem answers_connected (hres : hasResultCode m.id = true) (h : Answers s m.id) :
    s.sapState = .connected ∧ s.sapSubState ≠ .idle := by
  cases hid : m.id with
  | transferAtrResp =>
    rw [hid] at h
    obtain ⟨hst, hsub | hsub⟩ := h
    all_goals exact ⟨hst, by rw [hsub]; decide⟩
  | transferApduResp | powerSimOffResp | powerSimOnResp | resetSimResp =>
    rw [hid] at h
    obtain ⟨hst, hsub⟩ := h
    exact ⟨hst, by rw [hsub]; decide⟩
  | _ =>
    rw [hid] at hres
    cases hres

theorem ResponseSpec.message (h : ResponseSpec (Answers s m.id) s m t)
    (hres : hasResultCode m.id = true) : MessageSpec s m t := by
  constructor
  · intro _ hnot
    rw [h.refused hnot]
    exact Unchanged.refl s
  · intro hst
    apply asksToConnect_of_eq
    rw [h.refused fun hans => hst (answers_connected hres hans).1]
  · intro hrests
    by_cases hans : Answers s m.id
    · cases hver : m.verified m.verifyResultCodeParameter with
      | true => exact fun hst => absurd (h.ended hans hver).1 hst
      | false =>
        rw [h.malformed hver]
        exact hrests
    · rw [h.refused hans]
      exact hrests
  · intro _ hans hver
    exact (h.ended hans (hver hres)).2.imp_left And.left
  · intro _ hmalf
    exact h.malformed hmalf

theorem messageSpec_refused (hid : ¬ Answers s m.id) : MessageSpec s m s := by
  constructor
  · exact fun _ _ => Unchanged.refl s
  · exact fun _ => asksToConnect_of_eq rfl
  · exact id
  · exact fun _ hans => absurd hans hid
  · exact fun _ _ => rfl

theorem messageSpec_taken (hres : hasResultCode m.id = false)
    (hans : isIndication m.id = false → Answers s m.id)
    (hasks : s.sapState ≠ .connected → AsksToConnect s t) (hrests : Rests s → Rests t)
    (hende : Rests s → Answers s m.id → Ended s t) : MessageSpec s m t := by
  constructor
  · exact fun hindi hnot => absurd (hans hindi) hnot
  · exact hasks
  · exact hrests
  · exact fun h hans _ => hende h hans
  intro hcode
  rw [hres] at hcode
  cases hcode

theorem handleCardConnect_message (hid : m.id = .connectResp) :
    MessageSpec s m (handleCardConnect limits s m paOk).1 := by
  by_cases hst : s.sapState = .connecting
  · obtain ⟨hsub, hasks⟩ := @handleCardConnect_spec limits s m paOk hst
    have hidle : Rests s → (handleCardConnect limits s m paOk).1.sapSubState = .idle := by
      intro hrests
      rcases hsub with hidle | ⟨hkept, _⟩
      · exact hidle
      rw [hkept]
      apply hrests
      rw [hst]
      decide
    apply messageSpec_taken
    · rw [hid]
      rfl
    · intro _
      rw [hid]
      exact hst
    · exact fun _ => hasks
    · exact fun hrests _ => hidle hrests
    · exact fun hrests _ => Or.inl (hidle hrests)
  · have hrefu : (handleCardConnect limits s m paOk).1 = s := by
      unfold handleCardConnect
      rw [if_pos hst]
    rw [hrefu]
    apply messageSpec_refused
    rw [hid]
    exact hst

theorem handleCardDisconnectResp_message (hid : m.id = .disconnectResp) :
    MessageSpec s m (handleCardDisconnectResp limits s).1 := by
  unfold handleCardDisconnectResp
  by_cases hawt : s.sapState = .connected ∧ s.sapSubState = .disconnect
  · rw [if_neg (by tauto)]
    apply messageSpec_taken
    · rw [hid]
      rfl
    · intro _
      rw [hid]
      exact hawt
    · exact fun _ => asksToConnect_of_eq rfl
    · exact fun _ _ => rfl
    · exact fun _ _ => Or.inl rfl
  · rw [if_pos (by tauto)]
    apply messageSpec_refused
    rw [hid]
    exact hawt

theorem handleErrorResp_message (hid : m.id = .errorResp) :
    MessageSpec s m (handleErrorResp s).1 := by
  unfold handleErrorResp
  cases hst : s.sapState with
  | notConnected =>
    apply messageSpec_refused
    rw [hid]
    unfold Answers
    rw [hst]
    simp
  | connecting =>
    have hnot : s.sapState ≠ .connected := by
      rw [hst]
      decide
    apply messageSpec_taken
    · rw [hid]
      rfl
    · intro _
      rw [hid]
      exact Or.inl hst
    · exact fun _ => asksToConnect_of_eq rfl
    · exact fun hrests _ => hrests hnot
    · exact fun hrests _ => Or.inl (hrests hnot)
  | connected =>
    constructor
    · intro _ hnot
      have hidle : s.sapSubState = .idle := by
        rw [hid] at hnot
        unfold Answers at hnot
        tauto
      exact ⟨hst.symm, hidle.symm, rfl, rfl⟩
    · exact fun _ => asksToConnect_of_eq rfl
    · exact fun _ _ => rfl
    · exact fun _ _ _ => Or.inl rfl
    · intro hcode
      rw [hid] at hcode
      cases hcode

theorem hasResultCode_indication : ∀ id, isIndication id = true → hasResultCode id = false := by
  intro id
  cases id <;> decide

section

variable (hid : isIndication m.id = true)
include hid

theorem not_answers_indication : ¬ Answers s m.id := by
  intro h
  cases hm : m.id <;> rw [hm] at h hid <;> first | exact h | cases hid

/-- An indication is no answer, and a connected service may send what it likes. -/
theorem messageSpec_indication (hst : s.sapState = .connected)
    (hrests : Rests t) : MessageSpec s m t := by
  constructor
  · intro hnot
    rw [hid] at hnot
    cases hnot
  · exact fun hnot => absurd hst hnot
  · exact fun _ => hrests
  · exact fun _ hans => absurd hans (not_answers_indication hid)
  · intro hcode
    rw [hasResultCode_indication _ hid] at hcode
    cases hcode

theorem handleCardDisconnectInd_message : MessageSpec s m (handleCardDisconnectInd s m).1 := by
  have hrefu : MessageSpec s m s := messageSpec_refused (not_answers_indication hid)
  unfold handleCardDisconnectInd
  by_cases hst : s.sapState = .connected
  · rw [if_neg (not_not.2 hst)]
    split_ifs
    · apply messageSpec_indication hid hst
      exact fun hnot => absurd hst hnot
    · apply messageSpec_indication hid hst
      exact fun _ => rfl
    all_goals exact hrefu
  · rw [if_pos hst]
    exact hrefu

theorem handleStatusInd_message : MessageSpec s m (handleStatusInd s m paOk).1 := by
  have hrefu : MessageSpec s m s := messageSpec_refused (not_answers_indication hid)
  unfold handleStatusInd
  by_cases hst : s.sapState = .connected
  · rw [if_neg (not_not.2 hst)]
    split_ifs
    · apply messageSpec_indication hid hst
      cases statusChangeOf (m.msg 8) <;> exact fun hnot => absurd hst hnot
    · exact hrefu
  · rw [if_pos hst]
    exact hrefu

end

theorem handleClientMsg_message : MessageSpec s m (handleClientMsg limits s m paOk).1 := by
  by_cases hres : hasResultCode m.id = true
  · exact (handleClientMsg_result hres).message hres
  unfold handleClientMsg
  have hunk : m.id = .unknown ∨ m.id = .transferCardReaderStatusResp ∨
      m.id = .setTransportProtocolResp → ¬ Answers s m.id := by
    rintro (hid | hid | hid) <;> rw [hid] <;> exact id
  cases hid : m.id with
  | connectResp => exact handleCardConnect_message hid
  | disconnectResp => exact handleCardDisconnectResp_message hid
  | errorResp => exact handleErrorResp_message hid
  | disconnectInd => exact handleCardDisconnectInd_message (by rw [hid]; rfl)
  | statusInd => exact handleStatusInd_message (by rw [hid]; rfl)
  | unknown => exact messageSpec_refused (hunk (Or.inl hid))
  | transferCardReaderStatusResp => exact messageSpec_refused (hunk (Or.inr (Or.inl hid)))
  | setTransportProtocolResp => exact messageSpec_refused (hunk (Or.inr (Or.inr hid)))
  | _ => exact absurd (by rw [hid]; rfl) hres

variable {a : Action}

theorem clientMsg_step {paOk : Bool} (hstep : step limits s (.clientMsg paOk) = some t) :
    ∃ m rest, s.clientMsgs = m :: rest ∧
      t = answerClient m.id (handleClientMsg limits { s with clientMsgs := rest } m paOk) := by
  dsimp only [step] at hstep
  split at hstep
  · cases hstep
  next m rest hque =>
  cases hstep
  exact ⟨m, rest, hque, rfl⟩

/-- A message handled by the main thread does what it does to the state at hand. -/
theorem clientMsg_spec {paOk : Bool} (hstep : step limits s (.clientMsg paOk) = some t) :
    ∃ m, handled s (.clientMsg paOk) = some m ∧
      (isIndication m.id = false → ¬ Answers s m.id → Unchanged s t) ∧
      (s.sapState ≠ .connected → AsksToConnect s t) ∧ (Rests s → Rests t) ∧
      (Rests s → Answers s m.id → (hasResultCode m.id = true →
        m.verified m.verifyResultCodeParameter = true) → Ended s t) ∧
      (hasResultCode m.id = true → m.verified m.verifyResultCodeParameter = false →
        Unchanged s t) := by
  obtain ⟨m, rest, hque, rfl⟩ := clientMsg_step hstep
  have hspec := @handleClientMsg_message limits { s with clientMsgs := rest } m paOk
  refine ⟨m, ?_, hspec.refused, hspec.asks, hspec.rests, hspec.ended, ?_⟩
  · unfold handled
    rw [hque]
    rfl
  intro hres hmalf
  unfold answerClient
  rw [hspec.malformed hres hmalf]
  exact Unchanged.refl s

theorem disciplined_modem (hmode : isModemRequest a = true)
    (hcnd : ∀ new, t.reported = s.reported ++ new → ∀ bytes ∈ new,
      bytes.head? = some msgIdTransferApduReq ∨ bytes.head? = some msgIdDisconnectReq →
      s.sapState = .connected)
    (hundi : s.sapSubState ≠ .idle →
      t.sapSubState = s.sapSubState ∧ (t.reported = s.reported ∨ a = .cardConnect) ∨
        a = .cardReset ∧ s.sapSubState ≠ .powerOn ∧ s.sapSubState ≠ .powerOff) :
    Disciplined s a t := by
  have hnone : handled s a = none := by cases a <;> first | rfl | cases hmode
  constructor
  · intro m hm
    rw [hnone] at hm
    cases hm
  · exact hcnd
  · exact fun _ => hundi
  · intro m hm
    rw [hnone] at hm
    cases hm

variable {new : List (List UInt8)}

theorem newMessages_of_eq (h : t.reported = s.reported)
    (hnew : t.reported = s.reported ++ new) : new = [] := by
  rw [h] at hnew
  exact self_eq_append_right.1 hnew

variable {bytes : List UInt8}

theorem newMessages_report (h : t.reported = s.reported ++ [bytes])
    (hnew : t.reported = s.reported ++ new) : new = [bytes] := by
  rw [h] at hnew
  exact (append_cancel_left hnew).symm

/-- Requests that ask for an idle connection, by the state they find. -/
theorem sendIdleRequest_spec (subState : SapSubState) (msgId : UInt8) :
    (sendIdleRequest s subState msgId).1 = s ∨
      s.sapState = .connected ∧ s.sapSubState = .idle ∧
        (sendIdleRequest s subState msgId).1 =
          report { s with sapSubState := subState } (plainRequest msgId) := by
  unfold sendIdleRequest
  split_ifs with h
  · exact Or.inl rfl
  · refine Or.inr ⟨?_, ?_, rfl⟩ <;> tauto

section

variable (hmode : isModemRequest a = true)
include hmode

/-- A sender that checks nothing keeps the discipline only with an idle connection. -/
theorem disciplined_unchecked_iff (ha : a ≠ .cardConnect ∧ a ≠ .cardReset)
    (hbyt : bytes.head? = some msgIdTransferApduReq ∨ bytes.head? = some msgIdDisconnectReq) :
    Disciplined s a (report { s with sapSubState := subState } bytes) ↔
      s.sapState = .connected ∧ s.sapSubState = .idle := by
  constructor
  · intro h
    refine ⟨h.connected [bytes] rfl bytes (mem_singleton_self bytes) hbyt, ?_⟩
    by_contra hbusy
    rcases h.undisturbed hmode hbusy with ⟨_, hkept | hconn⟩ | ⟨hrset, _⟩
    · exact cons_ne_nil bytes [] (newMessages_of_eq hkept rfl)
    · exact ha.1 hconn
    · exact ha.2 hrset
  · rintro ⟨hst, hidle⟩
    apply disciplined_modem hmode
    · exact fun _ _ _ _ _ => hst
    · exact fun hbusy => absurd hidle hbusy

theorem disciplined_unchanged : Disciplined s a s := by
  apply disciplined_modem hmode
  · intro new hnew bytes hmem
    rw [newMessages_of_eq rfl hnew] at hmem
    cases hmem
  · exact fun _ => Or.inl ⟨rfl, Or.inl rfl⟩

theorem disciplined_idleRequest (subState : SapSubState)
    (msgId : UInt8) : Disciplined s a (sendIdleRequest s subState msgId).1 := by
  rcases sendIdleRequest_spec (s := s) subState msgId with hrefu | ⟨hst, hidle, _⟩
  · rw [hrefu]
    exact disciplined_unchanged hmode
  apply disciplined_modem hmode
  · exact fun _ _ _ _ _ => hst
  · exact fun hbusy => absurd hidle hbusy

end

theorem disciplined_connect : Disciplined s .cardConnect (sendCardConnectRequest s).1 := by
  unfold sendCardConnectRequest
  split_ifs with hst
  · exact disciplined_unchanged rfl
  apply disciplined_modem rfl
  · intro new hnew bytes hmem hhead
    have hconn : (connectRequest s.maxMsgSize).head? = some msgIdConnectReq := rfl
    rw [newMessages_report rfl hnew, mem_singleton] at hmem
    rw [hmem, hconn] at hhead
    rcases hhead with hhead | hhead <;> exact absurd hhead (by decide)
  · exact fun _ => Or.inl ⟨rfl, Or.inr rfl⟩

theorem disciplined_reset : Disciplined s .cardReset (sendCardResetRequest s).1 := by
  unfold sendCardResetRequest
  split_ifs with hrefu
  · exact disciplined_unchanged rfl
  push Not at hrefu
  apply disciplined_modem rfl
  · exact fun _ _ _ _ _ => hrefu.1
  · exact fun _ => Or.inr ⟨rfl, hrefu.2⟩

theorem disciplined_sendMessage (hrep : t.reported = s.reported) :
    Disciplined s (.sendMessage m) t := by
  constructor
  · nofun
  · intro new hnew bytes hmem
    rw [newMessages_of_eq hrep hnew] at hmem
    cases hmem
  all_goals nofun

section

variable (hrests : Rests s)
include hrests

theorem disciplined_clientMsg_iff {paOk : Bool} (hstep : step limits s (.clientMsg paOk) = some t) :
    Disciplined s (.clientMsg paOk) t ↔ InOrder s (.clientMsg paOk) := by
  obtain ⟨m, hhdld, hrefu, hasks, _, hende, hmalf⟩ := clientMsg_spec hstep
  have hque : s.clientMsgs.head? = some m := hhdld
  constructor
  · intro h m' hm' hres hans
    rw [hque] at hm'
    cases hm'
    by_contra hver
    have hmal : m.verified m.verifyResultCodeParameter = false := by simpa using hver
    obtain ⟨_, hsub, hrep, _⟩ := hmalf hres hmal
    rcases h.ended m hhdld hans with hidle | ⟨_, hatr⟩
    · exact (answers_connected hres hans).2 (hsub.symm.trans hidle)
    · exact cons_ne_nil _ [] (newMessages_of_eq hrep hatr)
  intro hinor
  constructor
  · intro m' hm' hindi hchgd
    rw [hhdld] at hm'
    cases hm'
    by_contra hnot
    obtain ⟨hst, hsub, _, hcall⟩ := hrefu hindi hnot
    rcases hchgd with hchgd | hchgd | hchgd
    · exact hchgd hst
    · exact hchgd hsub
    · exact hchgd hcall
  · intro new hnew bytes hmem hhead
    by_contra hst
    obtain ⟨asked, hask, hconn⟩ := hasks hst
    rw [hask] at hnew
    have hsame := append_cancel_left hnew
    rw [← hsame] at hmem
    rw [hconn bytes hmem] at hhead
    rcases hhead with hhead | hhead <;> exact absurd hhead (by decide)
  · nofun
  · intro m' hm' hans
    rw [hhdld] at hm'
    cases hm'
    exact hende hrests hans fun hres => hinor m hque hres hans

/-- One step keeps the discipline exactly where its event comes in order. -/
theorem disciplined_step_iff (hstep : step limits s a = some t) :
    Disciplined s a t ↔ InOrder s a := by
  cases a with
  | apduTransfer id apdu =>
    cases hstep
    unfold sendApduRequest
    by_cases hfits : apduLength apdu ≤ s.maxMsgSize
    · have hiff : Disciplined s (.apduTransfer id apdu) (report { s with sapSubState := .apdu }
          (apduRequest id apdu)) ↔ s.sapState = .connected ∧ s.sapSubState = .idle :=
        disciplined_unchecked_iff rfl ⟨nofun, nofun⟩ (Or.inl rfl)
      rw [if_neg (Nat.not_lt.2 hfits)]
      exact ⟨fun h _ => hiff.1 h, fun h => hiff.2 (h hfits)⟩
    · rw [if_pos (Nat.lt_of_not_le hfits)]
      exact ⟨fun _ h => absurd h hfits, fun _ => disciplined_unchanged rfl⟩
  | cardConnect =>
    cases hstep
    exact ⟨fun _ => trivial, fun _ => disciplined_connect⟩
  | cardDisconnect =>
    cases hstep
    exact disciplined_unchecked_iff rfl ⟨nofun, nofun⟩ (Or.inr rfl)
  | cardPowerUp | cardPowerDown =>
    cases hstep
    exact ⟨fun _ => trivial, fun _ => disciplined_idleRequest rfl _ _⟩
  | cardReset =>
    cases hstep
    exact ⟨fun _ => trivial, fun _ => disciplined_reset⟩
  | sendMessage m =>
    cases hstep
    refine ⟨fun _ => trivial, fun _ => disciplined_sendMessage ?_⟩
    split_ifs <;> rfl
  | clientMsg paOk => exact disciplined_clientMsg_iff hrests hstep

theorem rests_idleRequest (subState : SapSubState) (msgId : UInt8) :
    Rests (sendIdleRequest s subState msgId).1 := by
  rcases sendIdleRequest_spec (s := s) subState msgId with hrefu | ⟨hst, _, hsent⟩
  · rw [hrefu]
    exact hrests
  · rw [hsent]
    exact fun hnot => absurd hst hnot

/-- The sub-state stays with the connection as long as events come in order. -/
theorem rests_step (hinor : InOrder s a) (hstep : step limits s a = some t) : Rests t := by
  cases a with
  | apduTransfer id apdu =>
    cases hstep
    unfold sendApduRequest
    split_ifs with hlong
    · exact hrests
    · exact fun hnot => absurd (hinor (Nat.le_of_not_lt hlong)).1 hnot
  | cardConnect =>
    cases hstep
    unfold sendCardConnectRequest
    split_ifs with hst
    · exact hrests
    · exact fun _ => hrests hst
  | cardDisconnect =>
    cases hstep
    exact fun hnot => absurd hinor.1 hnot
  | cardPowerUp | cardPowerDown =>
    cases hstep
    exact rests_idleRequest hrests _ _
  | cardReset =>
    cases hstep
    unfold sendCardResetRequest
    split_ifs with hrefu
    · exact hrests
    · push Not at hrefu
      exact fun hnot => absurd hrefu.1 hnot
  | sendMessage m =>
    cases hstep
    split_ifs <;> exact hrests
  | clientMsg paOk =>
    obtain ⟨_, _, _, _, hkept, _⟩ := clientMsg_spec hstep
    exact hkept hrests

end

variable (limits) in
/-- Whatever a step does keeps the discipline. -/
def DisciplinedStep (s : Rsim) (a : Action) : Prop :=
  ∀ t, step limits s a = some t → Disciplined s a t

theorem disciplinedStep_iff (hrests : Rests s) : DisciplinedStep limits s a ↔ InOrder s a := by
  cases hstep : step limits s a with
  | some t =>
    unfold DisciplinedStep
    rw [hstep, ← disciplined_step_iff hrests hstep]
    exact ⟨fun h => h t rfl, fun h t' ht' => by cases ht'; exact h⟩
  | none =>
    -- only the main thread can find nothing to do
    have hinor : InOrder s a := by
      cases a with
      | clientMsg paOk =>
        intro m hm
        dsimp only [step] at hstep
        split at hstep
        · next hempty =>
          rw [hempty] at hm
          cases hm
        · cases hstep
      | _ => cases hstep
    refine ⟨fun _ => hinor, fun _ t ht => ?_⟩
    rw [hstep] at ht
    cases ht

/-- A run keeps the discipline in all of its steps exactly when all of its events come in
order. -/
theorem disciplined_run_iff (as : List Action) :
    Meets (step limits) (DisciplinedStep limits) (init limits) as ↔
      Meets (step limits) InOrder (init limits) as := by
  apply @meets_congr _ _ _ _ _ Rests
  · exact fun s a hrests => disciplinedStep_iff hrests
  · intro s a t hrests hdisciplined hstep
    exact rests_step hrests ((disciplinedStep_iff hrests).1 hdisciplined) hstep
  · exact fun _ => rfl

end

/-- A message with one parameter of one byte. -/
def shortMessage (id paramId value : UInt8) : ClientMsg where
  msg := fun i => [id, 0x01, 0x00, 0x00, paramId, 0x00, 0x00, 0x01, value, 0x00, 0x00, 0x00].getD i 0
  msgSize := 12

def connecting : List Action :=
  [.cardConnect, .sendMessage (shortMessage 0x01 paramIdConnectionStatus 0x00), .clientMsg true]

/-- A power-up request is answered by a message whose result code has a wrong identifier, and
every later power indication is refused. -/
theorem malformed_response_stays :
    ∃ t, exec (step ⟨276, 64⟩) (init ⟨276, 64⟩) (connecting ++ [.cardPowerUp,
        .sendMessage (shortMessage 0x0C paramIdAtr 0x00), .clientMsg true]) = some t ∧
      t.sapState = .connected ∧ t.sapSubState = .powerOn ∧
      t.results.getLast? = some (.powerSimOnResp, .formatError) ∧
      (sendCardPowerUpRequest t).2 = .fault ∧ (sendCardPowerDownRequest t).2 = .fault := by
  obtain ⟨t, hrun, hall⟩ := (Option.any_eq_true _ _).1 (show (exec (step ⟨276, 64⟩)
    (init ⟨276, 64⟩) (connecting ++ [.cardPowerUp,
      .sendMessage (shortMessage 0x0C paramIdAtr 0x00), .clientMsg true])).any (fun t =>
      decide (t.sapState = .connected ∧ t.sapSubState = .powerOn ∧
        t.results.getLast? = some (.powerSimOnResp, .formatError) ∧
        (sendCardPowerUpRequest t).2 = .fault ∧ (sendCardPowerDownRequest t).2 = .fault)) = true by
    decide +kernel)
  exact ⟨t, hrun, of_decide_eq_true hall⟩

end TelAF.RemoteSim
