import TelAF.RemoteSimDiscipline

/-!
# The negotiation of the message size

A server that finds the proposed size too big answers with one of its own. The check of that
parameter stands the wrong way round: a well-formed one is refused, and of a malformed one the two
bytes are adopted. Whatever has been agreed, no longer message is sent.
-/

namespace TelAF.RemoteSim
open TransitionRuns List

/-- A connect response in its place, with the status that asks for another size. -/
def AsksForSize (s : Rsim) (m : ClientMsg) : Prop :=
  s.sapState = .connecting ∧ m.id = .connectResp ∧
    m.verified m.verifyConnectionParameter = true ∧
    connStatusOf (m.msg 8) = .maxMsgSizeNok

def ClientMsg.HasSizeParameter (m : ClientMsg) : Prop :=
  m.verifyMessageLength 2 ∧ m.verifyParameterCount 2 ∧ m.verifyMaxMsgSizeParameter

/-- The two bytes in the place of the proposed size. -/
def ClientMsg.proposedSize (m : ClientMsg) : Nat := m.read16 16

def Limits.Allow (limits : Limits) (size : Nat) : Prop :=
  limits.minMsgSize ≤ size ∧ size ≤ limits.maxMsgSize

instance (limits : Limits) : DecidablePred limits.Allow :=
  fun _ => inferInstanceAs (Decidable (_ ∧ _))

/-- Any allowed size has room for a connect request. -/
def Limits.Roomy (limits : Limits) : Prop :=
  12 ≤ limits.minMsgSize ∧ limits.minMsgSize ≤ limits.maxMsgSize

/-- A proposal that is well formed and allowed is adopted and the connection tried again; any other
changes nothing and the modem is told. -/
structure Negotiated (limits : Limits) (s : Rsim) (m : ClientMsg) (t : Rsim) : Prop where
  adopts : m.HasSizeParameter → limits.Allow m.proposedSize → t.maxMsgSize = m.proposedSize ∧
    t.reported = s.reported ++ [connectRequest m.proposedSize] ∧
      t.sapState = .connecting ∧ t.calls = s.calls
  refuses : ¬ (m.HasSizeParameter ∧ limits.Allow m.proposedSize) →
    t.maxMsgSize = s.maxMsgSize ∧
    t.reported = s.reported ∧ t.calls = s.calls ++ [.sendCardError .noLink]

/-- The new messages to the client are no longer than the agreed size. -/
def Fits (s t : Rsim) : Prop :=
  12 ≤ s.maxMsgSize → 12 ≤ t.maxMsgSize ∧
    ∃ new, t.reported = s.reported ++ new ∧ ∀ bytes ∈ new, bytes.length ≤ t.maxMsgSize

variable {limits : Limits} {s t : Rsim} {m : ClientMsg} {paOk : Bool} {a : Action}

theorem fits_kept (hrep : t.reported = s.reported) (hsize : t.maxMsgSize = s.maxMsgSize) :
    Fits s t :=
  fun hroom => ⟨hsize ▸ hroom, [], hrep.trans (append_nil _).symm, nofun⟩

theorem fits_report {bytes : List UInt8} (hrep : t.reported = s.reported ++ [bytes])
    (hsize : t.maxMsgSize = s.maxMsgSize) (hlen : bytes.length ≤ 12) : Fits s t := by
  refine fun hroom => ⟨hsize ▸ hroom, [bytes], hrep, fun new hnew => ?_⟩
  rw [mem_singleton.1 hnew]
  omega

theorem fits_apduRequest {id : UInt32} {apdu : List UInt8} :
    Fits s (sendApduRequest s id apdu).1 := by
  unfold sendApduRequest
  split_ifs with hlong
  · exact fits_kept rfl rfl
  refine fun hroom => ⟨hroom, [apduRequest id apdu], rfl, fun new hnew => ?_⟩
  have hlen : (apduRequest id apdu).length = apduLength apdu := by
    unfold apduRequest apduLength
    simp only [length_append, length_cons, length_nil, length_replicate]
    omega
  rw [mem_singleton.1 hnew, hlen]
  exact Nat.le_of_not_lt hlong

theorem fits_idleRequest {subState : SapSubState} {msgId : UInt8} :
    Fits s (sendIdleRequest s subState msgId).1 := by
  unfold sendIdleRequest
  split_ifs
  · exact fits_kept rfl rfl
  · exact fits_report rfl rfl (by simp [plainRequest])

theorem fits_connectRequest : Fits s (sendCardConnectRequest s).1 := by
  unfold sendCardConnectRequest
  split_ifs
  · exact fits_kept rfl rfl
  · exact fits_report rfl rfl (by simp [connectRequest])

theorem fits_response {awaited : SapSubState} {byResult : Rsim → ResultCode → Rsim × Result}
    (h : ∀ code,
      Fits { s with sapSubState := .idle } (byResult { s with sapSubState := .idle } code).1) :
    Fits s (handleResponse s m awaited byResult).1 := by
  unfold handleResponse
  split_ifs
  · exact fits_kept rfl rfl
  · exact h _
  · exact fits_kept rfl rfl

theorem fits_leaveATR {r : Rsim × Result} (h : Fits s r.1) : Fits s (leaveATR r).1 := by
  unfold leaveATR
  split_ifs
  · exact h
  · exact h

theorem fits_proposeMaxMsgSize (hlims : limits.Roomy) : Fits s (proposeMaxMsgSize limits s m).1 := by
  unfold proposeMaxMsgSize
  dsimp only
  split_ifs
  iterate 3 exact fits_kept rfl rfl
  -- the connection is asked for with the size that has just been adopted
  have hroom : 12 ≤ m.read16 16 := Nat.le_trans hlims.1 (by omega)
  exact fun _ => fits_connectRequest (s := { s with maxMsgSize := m.read16 16 }) hroom

theorem fits_handleClientMsg (hlims : limits.Roomy) :
    Fits s (handleClientMsg limits s m paOk).1 := by
  unfold handleClientMsg
  cases m.id with
  | transferApduResp | powerSimOffResp | powerSimOnResp | resetSimResp =>
    refine fits_response fun code => ?_
    cases code
    all_goals first
      | exact fits_kept rfl rfl
      | exact fits_report rfl rfl (by decide)
      | unfold sendApduResp; split_ifs <;> exact fits_kept rfl rfl
  | connectResp =>
    unfold handleCardConnect
    split_ifs
    · exact fits_kept rfl rfl
    · dsimp only
      cases connStatusOf (m.msg 8) with
      | maxMsgSizeNok =>
        exact fits_proposeMaxMsgSize (s := { s with sapState := .notConnected }) hlims
      | _ => exact fits_kept rfl rfl
    · exact fits_kept rfl rfl
  | disconnectInd =>
    unfold handleCardDisconnectInd
    split_ifs
    all_goals first
      | exact fits_kept rfl rfl
      | exact fits_report rfl rfl (by decide)
  | disconnectResp =>
    unfold handleCardDisconnectResp
    split_ifs
    · exact fits_kept rfl rfl
    · exact fun _ => ⟨Nat.le_trans hlims.1 hlims.2, [], (append_nil _).symm, nofun⟩
  | statusInd =>
    unfold handleStatusInd
    split_ifs
    · exact fits_kept rfl rfl
    · dsimp only
      cases statusChangeOf (m.msg 8)
      all_goals first
        | exact fits_kept rfl rfl
        | exact fits_report rfl rfl (by decide)
    · exact fits_kept rfl rfl
  | transferAtrResp =>
    unfold handleATRResponse
    split_ifs
    · exact fits_kept rfl rfl
    · refine fits_leaveATR ?_
      cases resultCodeOf (m.msg 8) with
      | ok =>
        unfold forwardATR
        split_ifs <;> exact fits_kept rfl rfl
      | _ => exact fits_kept rfl rfl
    · exact fits_kept rfl rfl
  | errorResp =>
    dsimp only
    unfold handleErrorResp
    split <;> exact fits_kept rfl rfl
  | _ => exact fits_kept rfl rfl

theorem fits_step (hlims : limits.Roomy) (hstep : step limits s a = some t) : Fits s t := by
  cases a with
  | clientMsg paOk =>
    obtain ⟨m, rest, -, rfl⟩ := clientMsg_step hstep
    exact fits_handleClientMsg (s := { s with clientMsgs := rest }) hlims
  | sendMessage m =>
    cases hstep
    split_ifs <;> exact fits_kept rfl rfl
  | apduTransfer id apdu =>
    cases hstep
    exact fits_apduRequest
  | cardConnect =>
    cases hstep
    exact fits_connectRequest
  | cardDisconnect =>
    cases hstep
    exact fits_report rfl rfl (by decide)
  | cardPowerUp | cardPowerDown =>
    cases hstep
    exact fits_idleRequest
  | cardReset =>
    cases hstep
    unfold sendCardResetRequest
    split_ifs
    · exact fits_kept rfl rfl
    · exact fits_report rfl rfl (by decide)

theorem proposeMaxMsgSize_wellFormed (h : m.HasSizeParameter) :
    proposeMaxMsgSize limits s m = (s, .formatError) :=
  if_neg (not_not.2 h)

theorem proposeMaxMsgSize_malformed (h : ¬ m.HasSizeParameter) (hst : s.sapState ≠ .connected) :
    proposeMaxMsgSize limits s m = (if limits.Allow m.proposedSize then
      report { s with sapState := .connecting, maxMsgSize := m.proposedSize }
        (connectRequest m.proposedSize)
    else s, .ok) := by
  refine (if_pos h).trans ?_
  unfold sendCardConnectRequest
  dsimp only
  change _ = (if limits.minMsgSize ≤ m.read16 16 ∧ m.read16 16 ≤ limits.maxMsgSize then _ else _, _)
  split_ifs
  all_goals first
    | rfl
    | omega

/-- The proposal is dealt with as it should exactly when the two bytes hold no allowed size. -/
theorem negotiated_iff {rest : List ClientMsg} (hasks : AsksForSize s m) :
    Negotiated limits s m (answerClient m.id (handleClientMsg limits { s with clientMsgs := rest } m paOk)) ↔
      ¬ limits.Allow m.proposedSize := by
  obtain ⟨hst, hid, hver, hstat⟩ := hasks
  have hhdld : handleClientMsg limits { s with clientMsgs := rest } m paOk =
      noLink paOk (proposeMaxMsgSize limits { s with sapState := .notConnected, clientMsgs := rest } m) := by
    unfold handleClientMsg
    rw [hid]
    unfold handleCardConnect
    rw [if_neg (not_not.2 hst), if_neg (not_not.2 hver)]
    simp only [hstat]
  rw [hhdld]
  by_cases hpara : m.HasSizeParameter
  · rw [proposeMaxMsgSize_wellFormed hpara]
    refine ⟨fun h hallo => ?_,
      fun hnot => ⟨fun _ hallo => absurd hallo hnot, fun _ => ⟨rfl, rfl, rfl⟩⟩⟩
    exact cons_ne_nil _ _ (append_right_eq_self.1 (h.adopts hpara hallo).2.2.2)
  rw [proposeMaxMsgSize_malformed hpara (fun heq => by cases heq)]
  refine ⟨fun h hallo => ?_, fun hnot => ⟨fun hpara' => absurd hpara' hpara, fun _ => ?_⟩⟩
  · have hrep := (h.refuses fun hboth => hpara hboth.1).2.1
    rw [if_pos hallo] at hrep
    exact cons_ne_nil _ _ (append_right_eq_self.1 hrep)
  · rw [if_neg hnot]
    exact ⟨rfl, rfl, rfl⟩

variable (limits) in
/-- In every step the answers are dealt with and the messages fit. -/
def NegotiatedStep (s : Rsim) (a : Action) : Prop :=
  ∀ t, step limits s a = some t →
    (∀ m ∈ handled s a, AsksForSize s m → Negotiated limits s m t) ∧
    ∃ new, t.reported = s.reported ++ new ∧ ∀ bytes ∈ new, bytes.length ≤ t.maxMsgSize

variable (limits) in
def NoAllowedSize (s : Rsim) (a : Action) : Prop :=
  ∀ m ∈ handled s a, AsksForSize s m → ¬ limits.Allow m.proposedSize

theorem negotiatedStep_iff (hlims : limits.Roomy) (hroom : 12 ≤ s.maxMsgSize) :
    NegotiatedStep limits s a ↔ NoAllowedSize limits s a := by
  constructor
  · intro h m hm hasks
    cases a with
    | clientMsg paOk =>
      obtain ⟨rest, hque⟩ := head?_eq_some_iff.1 hm
      have hstep : step limits s (.clientMsg paOk) =
          some (answerClient m.id (handleClientMsg limits { s with clientMsgs := rest } m paOk)) := by
        unfold step
        rw [hque]
      exact (negotiated_iff hasks).1 ((h _ hstep).1 m hm hasks)
    | _ => cases hm
  · refine fun h t hstep => ⟨fun m hm hasks => ?_, (fits_step hlims hstep hroom).2⟩
    cases a with
    | clientMsg paOk =>
      obtain ⟨m', rest, hque, rfl⟩ := clientMsg_step hstep
      obtain rfl : m' = m := by
        unfold handled at hm
        rw [hque] at hm
        exact Option.some.inj hm
      exact (negotiated_iff hasks).2 (h _ hm hasks)
    | _ => cases hm

/-- A run negotiates the size as it should exactly when no answer that asks for another size holds
an allowed one in its place. -/
theorem negotiated_run_iff (limits : Limits) (hlimits : limits.Roomy) (as : List Action) :
    Meets (step limits) (NegotiatedStep limits) (init limits) as ↔
      Meets (step limits) (NoAllowedSize limits) (init limits) as := by
  apply @meets_congr _ _ _ _ _ fun s => 12 ≤ s.maxMsgSize
  · exact fun s a hroom => negotiatedStep_iff hlimits hroom
  · exact fun s a t hroom _ hstep => (fits_step hlimits hstep hroom).1
  · exact Nat.le_trans hlimits.1 hlimits.2

/-- A proposal of 128 bytes, as the interface has it. -/
def sizeResponse : ClientMsg where
  msg := fun i => [0x01, 0x02, 0x00, 0x00, paramIdConnectionStatus, 0x00, 0x00, 0x01,
    0x02, 0x00, 0x00, 0x00,
    paramIdMaxMsgSize, 0x00, 0x00, 0x02, 0x00, 0x80, 0x00, 0x00].getD i 0
  msgSize := 20

theorem size_not_adopted :
    ¬ Meets (step ⟨276, 64⟩) (NegotiatedStep ⟨276, 64⟩) (init ⟨276, 64⟩)
    [.cardConnect, .sendMessage sizeResponse, .clientMsg true] := by
  rintro ⟨-, h⟩
  obtain ⟨-, h⟩ := h _ rfl
  obtain ⟨h, -⟩ :=
    h { (sendCardConnectRequest (init ⟨276, 64⟩)).1 with clientMsgs := [sizeResponse] } rfl
  exact (negotiatedStep_iff ⟨by decide, by decide⟩ (by decide)).1 h sizeResponse rfl
    ⟨rfl, rfl, by decide +kernel, rfl⟩ (by decide)

/-- A proposal of 1152 bytes, more than a message may have. -/
def hugeResponse : ClientMsg :=
  { sizeResponse with msg := Function.update sizeResponse.msg 16 0x04 }

theorem negotiated_run_refused :
    Meets (step ⟨276, 64⟩) (NegotiatedStep ⟨276, 64⟩) (init ⟨276, 64⟩)
      [.cardConnect, .sendMessage hugeResponse, .clientMsg true] := by
  refine (negotiated_run_iff ⟨276, 64⟩ ⟨by decide, by decide⟩ _).2 ⟨nofun, fun _ hs =>
    ⟨nofun, fun _ ht => ⟨?_, fun _ _ => trivial⟩⟩⟩
  cases hs
  cases ht
  intro m hm _
  cases hm
  decide +kernel

end TelAF.RemoteSim
