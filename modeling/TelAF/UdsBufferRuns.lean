import TelAF.UdsOwnership
import TelAF.TransitionRuns
import TelAF.DoipResync

/-!
# Runs of the DoIP stack with its buffers

`Inv` puts the pool and the connections together: the buffers are owned, a connection has a
buffer where the pool says so, and neither reception buffer gets longer than it is. Every
step keeps it that completes no message for an unknown target, and so every run of such steps
whose responses fit into a buffer uses the buffers well. A message for an unknown target has
its buffer released by `InformUdsMessage` and again at the end of its handler; a response is
copied whatever its length.
-/

namespace TelAF.UdsBuffers
open DoipMessages DoipConnection DoipControl DoipChanges PoolLedger TransitionRuns Function List
  Nat Option

variable {cfg : DoipConf} {s t u : Stack} {p : Pool} {c : ConnId} {l : List ConnId}

/-- The buffers are owned, the connections have a buffer where the pool says so, and what
they receive fits. -/
structure Inv (cfg : DoipConf) (s : Stack) (p : Pool) : Prop where
  owned : Owned s.connectionBox p
  coupled : ∀ c, (p.udsBuf c).isSome = (s.connections c).udsBuf.isSome
  fits : ∀ c buf, (s.connections c).inBuf = some buf → filled buf ≤ maxBufferSize
  received : ∀ c, (s.connections c).udsReceived ≤ udsPoolObjectSize cfg
  inBounds : InBounds cfg p

theorem inBounds_copy {pos len : Nat} (h : InBounds cfg p)
    (hfits : pos + len ≤ udsPoolObjectSize cfg) :
    InBounds cfg (p.copy pos len) := by
  intro copy hcopy
  rcases mem_append.1 hcopy with hold | hnew
  · exact h copy hold
  · rw [mem_singleton.1 hnew]
    exact hfits

namespace Inv

section

variable (h : Inv cfg s p)
include h

section

variable (hnd : t.connectionBox.Nodup)
include hnd

theorem stops (hsto : Stops l s t) : Inv cfg t (p.stops l) := by
  constructor
  · refine h.owned.stops.rebox hnd fun c hc => ?_
    rw [stops_udsBuf] at hc
    split_ifs at hc with hl
    · exact absurd rfl hc
    · exact hsto.box c (h.owned.inBox c hc) hl
  · intro c
    rw [stops_udsBuf, hsto.udsBuf]
    split_ifs
    · rfl
    · exact h.coupled c
  · intro c buf hbuf
    obtain ⟨old, hold, hle⟩ := hsto.inBuf c buf hbuf
    exact le_trans hle (h.fits c old hold)
  · intro c
    rw [hsto.received]
    exact h.received c
  · intro copy hcopy
    rw [stops_copies] at hcopy
    exact h.inBounds copy hcopy

theorem quiet (hqui : Quiet s t) : Inv cfg t (p.stops (t.deleted.drop s.deleted.length)) := by
  obtain ⟨l, hdel, hsto⟩ := hqui
  rw [hdel, drop_left]
  exact h.stops hnd hsto

theorem touches {q : Pool} (htch : Touches c s t)
    (howne : Owned s.connectionBox q) (hoths : ∀ c', c' ≠ c → q.udsBuf c' = p.udsBuf c')
    (hself : (q.udsBuf c).isSome = (t.connections c).udsBuf.isSome)
    (hkept : q.udsBuf c ≠ none → c ∈ t.connectionBox)
    (hrcvd : (t.connections c).udsReceived ≤ udsPoolObjectSize cfg) (hcops : InBounds cfg q) :
    Inv cfg t q := by
  constructor
  · refine howne.rebox hnd fun c' hc' => ?_
    by_cases hsame : c' = c
    · exact hsame ▸ hkept (hsame ▸ hc')
    · exact htch.box c' (howne.inBox c' hc') hsame
  · intro c'
    by_cases hsame : c' = c
    · rw [hsame]
      exact hself
    · rw [hoths c' hsame, htch.others c' hsame]
      exact h.coupled c'
  · intro c' buf hbuf
    by_cases hsame : c' = c
    · exact h.fits c buf (htch.inBuf buf (hsame ▸ hbuf))
    · exact h.fits c' buf (htch.others c' hsame ▸ hbuf)
  · intro c'
    by_cases hsame : c' = c
    · rw [hsame]
      exact hrcvd
    · rw [htch.others c' hsame]
      exact h.received c'
  · exact hcops

end

theorem second (htgt : ¬ UnknownTarget cfg s c) :
    Inv cfg (diagnosticMsgSecondHandler cfg s c).1 (diagnosticMsgSvrSecondHandler cfg s p c) := by
  obtain ⟨htch, huds, hrcvd⟩ := @secondHandler_spec cfg s c
  have hhdld := h.owned.handled (c := c) htgt
  have hemp : (diagnosticMsgSvrSecondHandler cfg s p c).udsBuf c = none := by
    rw [hhdld.udsBuf, if_pos rfl]
  have hbox : (diagnosticMsgSecondHandler cfg s c).1.connectionBox.Nodup := by
    rcases @secondHandler_outcome cfg s c with hsame | ⟨hfin, -⟩
    · have hkept : (diagnosticMsgSecondHandler cfg s c).1.connectionBox = s.connectionBox :=
        congrArg Control.box hsame
      rw [hkept]
      exact h.owned.nodup
    · have hrmvd : (diagnosticMsgSecondHandler cfg s c).1.connectionBox =
          swapRemove s.connectionBox c :=
        congrArg Control.box hfin
      rw [hrmvd]
      exact swapRemove_nodup h.owned.nodup
  apply h.touches hbox htch hhdld.owned
  · intro c' hne
    rw [hhdld.udsBuf, if_neg hne]
  · rw [hemp, huds]
    rfl
  · exact fun hfull => absurd hemp hfull
  · rw [hrcvd]
    exact zero_le _
  intro copy hcopy
  rw [hhdld.copies] at hcopy
  exact h.inBounds copy hcopy

/-- The stack and the pool once a message is copied into the buffer of a connection. -/
theorem copied (hc : c ∈ s.connectionBox) (data : Memory)
    (pos payloadLen : Nat) {receivedLen : Nat} (hlen : receivedLen ≤ maxBufferSize) :
    Inv cfg (copied s c data pos payloadLen receivedLen)
      ((if (p.udsBuf c).isNone then p.take c else p).copy 0 (min payloadLen receivedLen)) := by
  have hsize : maxBufferSize ≤ udsPoolObjectSize cfg := le_max_right _ _
  have hbox : (UdsBuffers.copied s c data pos payloadLen receivedLen).connectionBox.Nodup :=
    h.owned.nodup
  have htch : Touches c s (UdsBuffers.copied s c data pos payloadLen receivedLen) :=
    Touches.modify fun _ _ => id
  have hself := modify_self (s := s) (c := c) fun conn => { conn with
    udsBuf :=
      some ((conn.udsBuf.getD Memory.zero).write 0 (data.read pos (min payloadLen receivedLen)))
    udsTotalLen := payloadLen
    udsReceived := receivedLen }
  have hcopy : InBounds cfg ((if (p.udsBuf c).isNone then p.take c else p).copy 0 (min payloadLen receivedLen)) := by
    apply inBounds_copy
    · split_ifs <;> exact h.inBounds
    · rw [zero_add]
      exact (min_le_right _ _).trans (hlen.trans hsize)
  have hrcvd : ((UdsBuffers.copied s c data pos payloadLen receivedLen).connections c).udsReceived ≤
      udsPoolObjectSize cfg := by
    unfold UdsBuffers.copied
    rw [hself]
    exact hlen.trans hsize
  have hbuf : ((UdsBuffers.copied s c data pos payloadLen receivedLen).connections c).udsBuf.isSome = true := by
    unfold UdsBuffers.copied
    rw [hself]
    rfl
  cases hslot : p.udsBuf c with
  | none =>
    rw [hslot] at hcopy
    apply h.touches hbox htch ((h.owned.take hc hslot).copy _ _)
    · exact fun c' hne => update_of_ne hne ..
    · rw [hbuf]
      exact congrArg isSome (update_self c (some p.taken) p.udsBuf)
    · exact fun _ => hc
    · exact hrcvd
    · exact hcopy
  | some b =>
    rw [hslot] at hcopy
    apply h.touches hbox htch (h.owned.copy _ _)
    · exact fun _ _ => rfl
    · rw [hbuf]
      exact congrArg isSome hslot
    · exact fun _ => hc
    · exact hrcvd
    · exact hcopy

/-- The reception buffer of a connection changes and does not get too long. -/
theorem refill {f : Connection → Connection} (huds : ∀ conn, (f conn).udsBuf = conn.udsBuf)
    (hrcvd : ∀ conn, (f conn).udsReceived = conn.udsReceived)
    (hin : ∀ conn buf, (f conn).inBuf = some buf → conn.inBuf = some buf ∨
      filled buf ≤ maxBufferSize) :
    Inv cfg (s.modify c f) p := by
  have hat : ∀ c', (s.modify c f).connections c' = if c' = c then f (s.connections c)
      else s.connections c' := fun c' => update_apply ..
  constructor
  · exact h.owned
  · intro c'
    rw [hat]
    split_ifs with hsame
    · rw [huds, hsame]
      exact h.coupled c
    · exact h.coupled c'
  · intro c' buf hbuf
    rw [hat] at hbuf
    split_ifs at hbuf
    · rcases hin _ _ hbuf with hold | hle
      · exact h.fits c buf hold
      · exact hle
    · exact h.fits c' buf hbuf
  · intro c'
    rw [hat]
    split_ifs
    · rw [hrcvd]
      exact h.received c
    · exact h.received c'
  · exact h.inBounds

theorem of_eq (hconn : t.connections = s.connections)
    (hbox : t.connectionBox = s.connectionBox) : Inv cfg t p :=
  h.stops (hbox ▸ h.owned.nodup) (Stops.of_eq hconn hbox)

end

/-! ### The events -/

theorem first {buf : Buffer} {hdr : Header} {count : Nat} (h : Inv cfg s p)
    (confirm : UserConfirmResult)
    (allocated : Bool) (hc : c ∈ s.connectionBox) (hcons : s.consuming = some (c, count))
    (hnext : nextDiagnostic cfg s = some (c, buf, hdr))
    (hallw : ∀ m ∈ completed cfg s (.round confirm allocated), ¬ UnknownTarget cfg m.1 m.2) :
    Inv cfg (DoipConnection.diagnosticMsgFirstHandler cfg s c allocated buf.data
        (buf.dataPos + headerGenericLength) hdr.payloadLen (buf.dataSize - headerGenericLength)).1
      (diagnosticMsgFirstHandler cfg s p c allocated buf.data
        (buf.dataPos + headerGenericLength) hdr.payloadLen (buf.dataSize - headerGenericLength)) ∧
    Touches c s (DoipConnection.diagnosticMsgFirstHandler cfg s c allocated buf.data
      (buf.dataPos + headerGenericLength) hdr.payloadLen
      (buf.dataSize - headerGenericLength)).1 := by
  obtain ⟨-, hbuf, -⟩ := nextDiagnostic_spec hcons hnext
  have hslot : (p.udsBuf c).isNone = (s.connections c).udsBuf.isNone := by
    rw [← not_isSome, ← not_isSome, h.coupled]
  have hlen : buf.dataSize - headerGenericLength ≤ maxBufferSize := by
    have hfits := h.fits c buf hbuf
    unfold filled at hfits
    omega
  have hcopd := h.copied hc buf.data (buf.dataPos + headerGenericLength) hdr.payloadLen hlen
  have htch :
      Touches c s (UdsBuffers.copied s c buf.data (buf.dataPos + headerGenericLength) hdr.payloadLen
      (buf.dataSize - headerGenericLength)) := Touches.modify fun _ _ => id
  unfold UdsBuffers.completed at hallw
  rw [hnext] at hallw
  dsimp only at hallw
  unfold diagnosticMsgFirstHandler DoipConnection.diagnosticMsgFirstHandler
  rw [hslot]
  split
  · exact ⟨h, Touches.of_eq rfl rfl⟩
  next hgot =>
  rw [hslot] at hcopd
  split
  · next hcomp =>
    rw [if_pos ⟨hgot, hcomp⟩] at hallw
    have htgt := hallw _ rfl
    exact ⟨hcopd.second htgt, htch.trans secondHandler_spec.1⟩
  · exact ⟨hcopd, htch⟩

/-- The socket is asked for no more than what is missing and what fits. -/
theorem asked (h : Inv cfg s p)
    (hmiss : (s.connections c).udsTotalLen > (s.connections c).udsReceived) :
    (s.connections c).udsReceived + askedLen cfg (s.connections c) ≤ udsPoolObjectSize cfg := by
  have hrcvd := h.received c
  have hmds := cfg.maxDataSize.toNat_lt
  have hsize : udsPoolObjectSize cfg < 2 ^ 32 := by
    unfold udsPoolObjectSize maxBufferSize
    omega
  unfold askedLen sizeSub
  split_ifs <;> omega

theorem readInto (h : Inv cfg s p) (bytes : List UInt8) {udsBuf : Memory}
    (hbuf : (s.connections c).udsBuf = some udsBuf)
    (hmiss : (s.connections c).udsTotalLen > (s.connections c).udsReceived) :
    Inv cfg (readInto cfg s c bytes udsBuf)
      (p.copy (s.connections c).udsReceived (askedLen cfg (s.connections c))) := by
  have hslot : (p.udsBuf c).isSome = true := by
    rw [h.coupled, hbuf]
    rfl
  have htim : Touches c s (s.modify c fun conn => { conn with generalTimer := true }) :=
    Touches.modify fun _ _ => id
  have hread : Touches c s (UdsBuffers.readInto cfg s c bytes udsBuf) := by
    refine htim.trans ?_
    unfold UdsBuffers.readInto
    exact Touches.modify fun _ _ => id
  have hself : ((UdsBuffers.readInto cfg s c bytes udsBuf).connections c).udsBuf.isSome = true ∧
      ((UdsBuffers.readInto cfg s c bytes udsBuf).connections c).udsReceived =
        (s.connections c).udsReceived + (receivedBytes cfg (s.connections c) bytes).length := by
    unfold UdsBuffers.readInto
    rw [modify_self]
    exact ⟨rfl, rfl⟩
  have hbox : (UdsBuffers.readInto cfg s c bytes udsBuf).connectionBox.Nodup := h.owned.nodup
  apply h.touches hbox hread (h.owned.copy _ _)
  · exact fun _ _ => rfl
  · rw [hself.1]
    exact hslot
  · exact fun hfull => h.owned.inBox c hfull
  · have hrcvd := h.received c
    have hbytes : (receivedBytes cfg (s.connections c) bytes).length ≤
        min (s.connections c).udsTotalLen (udsPoolObjectSize cfg) - (s.connections c).udsReceived :=
      length_take_le _ _
    omega
  · exact inBounds_copy h.inBounds (h.asked hmiss)

end Inv

/-- `ReceiveDiagMessage` by what it reads. -/
theorem receiveDiagMessage_eq (read : Option (List UInt8)) :
    DoipConnection.receiveDiagMessage cfg s c read =
    match read, (s.connections c).udsBuf with
    | some bytes, some udsBuf =>
      let received :=
        (s.connections c).udsReceived + (receivedBytes cfg (s.connections c) bytes).length
      if (s.connections c).udsTotalLen ≤ received ∨ received = udsPoolObjectSize cfg then
        (diagnosticMsgSecondHandler cfg (readInto cfg s c bytes udsBuf) c).1
      else readInto cfg s c bytes udsBuf
    | _, _ => s.modify c fun conn => { conn with generalTimer := true } := by
  rcases read with _ | bytes
  · rfl
  cases hbuf : (s.connections c).udsBuf with
  | none => simp only [DoipConnection.receiveDiagMessage, modify_self, hbuf]
  | some udsBuf =>
    unfold DoipConnection.receiveDiagMessage readInto receivedBytes
    simp only [modify_self, hbuf]

namespace Inv

theorem receive (h : Inv cfg s p) (read : Option (List UInt8))
    (hallw : ∀ m ∈ completed cfg s (.receive c read), ¬ UnknownTarget cfg m.1 m.2)
    (hmiss : (s.connections c).udsTotalLen > (s.connections c).udsReceived) :
    Inv cfg (DoipConnection.receiveDiagMessage cfg s c read) (receiveDiagMessage cfg s p c read) := by
  have htime : Inv cfg (s.modify c fun conn => { conn with generalTimer := true }) p :=
    h.refill (fun _ => rfl) (fun _ => rfl) fun _ _ => Or.inl
  rw [receiveDiagMessage_eq]
  unfold receiveDiagMessage
  dsimp only
  rcases read with _ | bytes
  · exact htime
  rcases hbuf : (s.connections c).udsBuf with _ | udsBuf
  · exact htime
  have hread := h.readInto bytes hbuf hmiss
  unfold UdsBuffers.completed at hallw
  dsimp only at hallw ⊢
  split
  · next hcomp =>
    rw [if_pos ⟨hmiss, hcomp⟩, hbuf] at hallw
    exact hread.second (hallw _ rfl)
  · exact hread

/-- `ReceiveTCPData` fills the reception buffer at most up to its end. -/
theorem receiveTCP {buf : Buffer} (h : Inv cfg s p) (hbuf : (s.connections c).inBuf = some buf)
    (read : Option (List UInt8)) : Inv cfg (receiveTCPData s c buf read) p := by
  unfold receiveTCPData
  have hsta :
      filled (if maxBufferSize - (buf.dataPos + buf.dataSize) ≤ maxMsgLenExceptUds then buf.reset
      else buf) ≤ maxBufferSize := by
    split_ifs
    · exact zero_le _
    · exact h.fits c buf hbuf
  generalize (if maxBufferSize - (buf.dataPos + buf.dataSize) ≤ maxMsgLenExceptUds then buf.reset
    else buf) = start at hsta
  have hstrt : Inv cfg (s.modify c fun conn => { conn with generalTimer := true, inBuf := some start }) p := by
    apply h.refill
    iterate 2 exact fun _ => rfl
    intro conn buf' hbuf'
    cases hbuf'
    exact Or.inr hsta
  rcases read with _ | bytes
  · exact hstrt
  dsimp only
  have hlen : (bytes.take (maxBufferSize - (start.dataPos + start.dataSize))).length ≤
      maxBufferSize - (start.dataPos + start.dataSize) := length_take_le _ _
  generalize bytes.take (maxBufferSize - (start.dataPos + start.dataSize)) = got at hlen
  have hfill : Inv cfg (setBuffer (s.modify c fun conn =>
      { conn with generalTimer := true, inBuf := some start }) c
      { start with
        data := start.data.write (start.dataPos + start.dataSize) got
        dataSize := start.dataSize + got.length }) p := by
    apply hstrt.refill
    iterate 2 exact fun _ => rfl
    intro conn buf' hbuf'
    cases hbuf'
    right
    unfold filled at *
    dsimp only
    omega
  split_ifs
  · exact hfill
  have hmrk : Inv cfg (Stack.modify _ c fun conn => { conn with isConsuming := true }) p :=
    hfill.refill (fun _ => rfl) (fun _ => rfl) fun _ _ => Or.inl
  exact hmrk.of_eq rfl rfl

end Inv

theorem stops_foldl {f : Stack → ConnId → Stack} (h : ∀ s c, Stops [c] s (f s c)) :
    Stops l s (l.foldl f s) := by
  induction l generalizing s with
  | nil => exact Stops.of_eq rfl rfl
  | cons c l ih => exact (h s c).trans ih

theorem deleted_foldl_stop : (l.foldl stop s).deleted = s.deleted ++ l := by
  induction l generalizing s with
  | nil => exact (append_nil _).symm
  | cons c l ih =>
    refine (ih (s := stop s c)).trans ?_
    exact append_assoc s.deleted [c] l

theorem Stops.whole (h : Stops s.connectionBox s t) (hconn : u.connections = t.connections) :
    Stops s.connectionBox s u := by
  constructor
  · exact fun c hc hnot => absurd hc hnot
  · intro c
    rw [hconn]
    exact h.udsBuf c
  · intro c
    rw [hconn]
    exact h.received c
  · intro c buf hbuf
    rw [hconn] at hbuf
    exact h.inBuf c buf hbuf

theorem Inv.accept (h : Inv cfg s p) (hw : WellFormed cfg (control s)) (testerSA : LogicalAddress)
    (hconn : t.connections = update s.connections s.created (newConnection testerSA))
    (hbox : t.connectionBox = s.connectionBox ++ [s.created]) (hnd : t.connectionBox.Nodup) :
    Inv cfg t p := by
  have hat : ∀ c, t.connections c = if c =
      s.created then newConnection testerSA else s.connections c := by
    intro c
    rw [hconn]
    exact update_apply ..
  have hfr : p.udsBuf s.created = none := by
    by_contra hfull
    exact lt_irrefl _ (hw.created _ (h.owned.inBox _ hfull))
  constructor
  · refine h.owned.rebox hnd fun c hc => ?_
    rw [hbox]
    exact mem_append_left _ (h.owned.inBox c hc)
  · intro c
    rw [hat]
    split_ifs with hnew
    · rw [hnew, hfr]
      rfl
    · exact h.coupled c
  · intro c buf hbuf
    rw [hat] at hbuf
    split_ifs at hbuf
    · cases hbuf
      exact zero_le _
    · exact h.fits c buf hbuf
  · intro c
    rw [hat]
    split_ifs
    · exact zero_le _
    · exact h.received c
  · exact h.inBounds

theorem request_cases (ta : LogicalAddress) (data : List UInt8) :
    requestUdsMessage s ta data = s ∨ ∃ c m, requestUdsMessage s ta data = s.send c m := by
  unfold requestUdsMessage
  split
  · exact Or.inl rfl
  split_ifs
  · exact Or.inl rfl
  · exact Or.inr ⟨_, _, rfl⟩

theorem quiet_request (ta : LogicalAddress) (data : List UInt8) :
    Quiet s (requestUdsMessage s ta data) := by
  rcases request_cases (s := s) ta data with hsame | ⟨c, m, hsent⟩
  · rw [hsame]
    exact Quiet.refl
  · rw [hsent]
    exact Quiet.send m

theorem Inv.request (h : Inv cfg s p) (ta : LogicalAddress) (data : List UInt8) :
    Inv cfg (requestUdsMessage s ta data) p := by
  rcases request_cases (s := s) ta data with hsame | ⟨c, m, hsent⟩
  · rw [hsame]
    exact h
  rw [hsent]
  unfold Stack.send
  split_ifs
  · exact h.of_eq rfl rfl
  · exact h

theorem step_respond {ta : LogicalAddress} {data : List UInt8}
    (hstep : DoipConnection.step cfg s (.respond ta data) = some t) :
    t = requestUdsMessage s ta data := by
  unfold DoipConnection.step at hstep
  split_ifs at hstep
  cases hcons : s.consuming with
  | none =>
    rw [hcons] at hstep
    cases hstep
    rfl
  | some call =>
    rw [hcons] at hstep
    cases hstep

section

variable (hw : WellFormed cfg (control s))
include hw

theorem inv_round {count : Nat} {confirm : UserConfirmResult} {allocated : Bool}
    (h : Inv cfg s p)
    (hallw : ∀ m ∈ completed cfg s (.round confirm allocated), ¬ UnknownTarget cfg m.1 m.2)
    (hcons : s.consuming = some (c, count))
    (hnd : (consumeRound cfg confirm s c allocated count).connectionBox.Nodup) :
    Inv cfg (consumeRound cfg confirm s c allocated count)
      (poolStep cfg s p (consumeRound cfg confirm s c allocated count) (.round confirm allocated)) := by
  unfold poolStep
  rcases hnext : nextDiagnostic cfg s with _ | message
  · exact h.quiet hnd (quiet_round confirm allocated hcons hnext)
  obtain ⟨c', buf, hdr⟩ := message
  obtain ⟨rfl, hbuf, -⟩ := nextDiagnostic_spec hcons hnext
  have hrcvg : (control s).receiving c' = true := by
    change (s.connections c').inBuf.isSome = true
    rw [hbuf]
    rfl
  obtain ⟨hinv, htch⟩ := h.first confirm allocated (hw.receives c' hrcvg).1 hcons hnext hallw
  exact hinv.stops hnd (stops_finishRound confirm allocated hcons hnext htch)

theorem inv_dispatch {a : Action} (h : Inv cfg s p)
    (hallw : ∀ m ∈ completed cfg s a, ¬ UnknownTarget cfg m.1 m.2) (hnd : t.connectionBox.Nodup)
    (hdisp : dispatch cfg s a = some t) : Inv cfg t (poolStep cfg s p t a) := by
  cases a with
  | accept testerSA =>
    cases hdisp
    unfold poolStep
    by_cases hroom : s.connectionBox.length ≥ cfg.maxSockNum
    · rw [serverCreateConnection, if_pos hroom]
      exact h.quiet h.owned.nodup Quiet.refl
    rw [serverCreateConnection, if_neg hroom] at hnd ⊢
    rw [drop_length]
    exact h.accept hw testerSA rfl rfl hnd
  | hangUp c =>
    obtain ⟨-, ⟨⟩⟩ := ite_none_right_eq_some.1 hdisp
    exact h.quiet hnd quiet_finalize
  | receive c read =>
    obtain ⟨-, ⟨⟩⟩ := ite_none_right_eq_some.1 hdisp
    unfold readable poolStep
    dsimp only
    split_ifs with hmiss
    · exact h.receive read hallw hmiss
    split
    · exact h
    · next buf hbuf => exact h.receiveTCP hbuf read
  | consume =>
    unfold dispatch at hdisp
    rcases hque : s.queue with _ | ⟨c, rest⟩
    · rw [hque] at hdisp
      cases hdisp
    rw [hque] at hdisp
    cases hdisp
    apply h.quiet hnd
    split_ifs
    all_goals exact Quiet.of_eq rfl rfl rfl
  | round confirm allocated => cases hdisp
  | initialTimeout c =>
    obtain ⟨-, ⟨⟩⟩ := ite_none_right_eq_some.1 hdisp
    have hstop : Quiet s (s.modify c fun conn => { conn with initialTimer := false }) :=
      Quiet.modify (fun _ => rfl) (fun _ => rfl) fun _ => rfl
    exact h.quiet hnd (hstop.trans quiet_finalize)
  | generalTimeout c =>
    obtain ⟨-, ⟨⟩⟩ := ite_none_right_eq_some.1 hdisp
    have hstop : Quiet s (s.modify c fun conn => { conn with generalTimer := false }) :=
      Quiet.modify (fun _ => rfl) (fun _ => rfl) fun _ => rfl
    exact h.quiet hnd (hstop.trans quiet_finalize)
  | aliveCheckTimeout c confirm =>
    obtain ⟨-, ⟨⟩⟩ := ite_none_right_eq_some.1 hdisp
    exact h.quiet hnd (quiet_aliveCheckTimer confirm)
  | respond ta data =>
    cases hdisp
    exact h.quiet hnd (quiet_request ta data)
  | sessionDeInit =>
    cases hdisp
    exact h.stops hnd ((stops_foldl fun _ _ => stops_shutdown).whole rfl)
  | shutdownTimeout =>
    obtain ⟨-, ⟨⟩⟩ := ite_none_right_eq_some.1 hdisp
    exact h.quiet hnd ⟨s.connectionBox, deleted_foldl_stop,
      (stops_foldl fun _ _ => stops_stop).whole rfl⟩

theorem inv_main {a : Action} (h : Inv cfg s p)
    (hallw : ∀ m ∈ completed cfg s a, ¬ UnknownTarget cfg m.1 m.2)
    (hstep : DoipConnection.step cfg s a = some t) : Inv cfg t (poolStep cfg s p t a) := by
  have hnd : t.connectionBox.Nodup := (wellFormed_step hw hstep).nodup
  unfold DoipConnection.step at hstep
  split_ifs at hstep
  split at hstep
  · next c count confirm allocated hcons =>
    cases hstep
    exact inv_round hw h hallw hcons hnd
  · cases hstep
  · exact inv_dispatch hw h hallw hnd hstep

end

/-- What holds of the stack and its buffers in every state. -/
def DeviceInv (cfg : DoipConf) (d : Device) : Prop :=
  WellFormed cfg (control d.stack) ∧ Inv cfg d.stack d.pool

theorem deviceInv_init : DeviceInv cfg initDevice := by
  refine ⟨wellFormed_init, ⟨⟨nodup_nil, fun _ => absurd rfl, Balanced.empty⟩, ?_, ?_, ?_, ?_⟩⟩
  · exact fun _ => rfl
  · intro c buf hbuf
    cases hbuf
  · exact fun _ => zero_le _
  · intro copy hcopy
    cases hcopy

theorem inBounds_trans (h : InBounds cfg p) {ta : LogicalAddress} {known allocated : Bool}
    {data : List UInt8}
    (hallw : data = [] ∨ known = false ∨ allocated = false ∨
      headerGenericLength + 2 * logicalAddressLength + data.length ≤ udsPoolObjectSize cfg) :
    InBounds cfg (transUdsMessage p ta known allocated data) := by
  unfold transUdsMessage
  split_ifs with hemp hknw hgot
  iterate 3 exact h
  have hfits : headerGenericLength + 2 * logicalAddressLength + data.length ≤
      udsPoolObjectSize cfg := by
    rcases hallw with hnil | hno | hnot | hfits
    · exact absurd hnil hemp
    · rw [hno] at hknw
      exact absurd rfl hknw
    · rw [hnot] at hgot
      exact absurd rfl hgot
    · exact hfits
  intro copy hcopy
  rcases mem_append.1 hcopy with hold | hnew
  · exact h copy hold
  unfold logicalAddressLength at *
  simp only [mem_cons, not_mem_nil, or_false] at hnew
  rcases hnew with rfl | rfl | rfl | rfl <;> dsimp only <;> omega

theorem deviceInv_step {d d' : Device} {e : Event} (h : DeviceInv cfg d) (hallw : Allowed cfg d e)
    (hstep : step cfg d e = some d') : DeviceInv cfg d' := by
  obtain ⟨hw, hinv⟩ := h
  cases e with
  | main a =>
    have hmain : (DoipConnection.step cfg d.stack a).map (fun t =>
        (⟨t, poolStep cfg d.stack d.pool t a⟩ : Device)) = some d' := by
      cases a with
      | respond => cases hstep
      | _ => exact hstep
    obtain ⟨t, ht, rfl⟩ := map_eq_some_iff.1 hmain
    exact ⟨wellFormed_step hw ht, inv_main hw hinv hallw ht⟩
  | transUdsMessage ta known allocated data =>
    cases hstep
    refine ⟨hw, hinv.owned.trans ta known allocated data, ?_, hinv.fits, hinv.received,
      inBounds_trans hinv.inBounds hallw⟩
    intro c
    refine Eq.trans ?_ (hinv.coupled c)
    unfold transUdsMessage
    split_ifs <;> rfl
  | indicateUdsMessage =>
    cases hque : d.pool.indicating with
    | nil =>
      simp only [step, hque] at hstep
      cases hstep
    | cons b rest =>
      simp only [step, hque] at hstep
      cases hstep
      exact ⟨hw, hinv.owned.indicated hque, hinv.coupled, hinv.fits, hinv.received, hinv.inBounds⟩
  | requestUdsMessage =>
    rcases hque : d.pool.requesting with _ | ⟨r, rest⟩
    · simp only [step, hque] at hstep
      cases hstep
    simp only [step, hque] at hstep
    obtain ⟨t, ht, rfl⟩ := map_eq_some_iff.1 hstep
    have hreld : Inv cfg d.stack { d.pool.release r.data with requesting := rest } :=
      ⟨hinv.owned.requested hque, hinv.coupled, hinv.fits, hinv.received, hinv.inBounds⟩
    refine ⟨wellFormed_step hw ht, ?_⟩
    rw [step_respond ht]
    exact hreld.request r.ta r.message

/-- In every run that completes no message for an unknown target and sends no response that
is longer than a buffer takes, each buffer is released once or still held once, and no copy
leaves its buffer. -/
theorem udsBuffers_usedWell (cfg : DoipConf) (es : List Event) (d : Device)
    (hallowed : Meets (step cfg) (Allowed cfg) initDevice es)
    (hrun : exec (step cfg) initDevice es = some d) : UsedWell cfg d := by
  obtain ⟨-, hinv⟩ := exec_invariant (fun _ _ _ => deviceInv_step) deviceInv_init hallowed hrun
  exact ⟨hinv.owned.once, hinv.inBounds⟩

/-- No buffer leaks: once no connection and no queued call holds one, each was released once. -/
theorem released_once (cfg : DoipConf) (es : List Event) (d : Device)
    (hallowed : Meets (step cfg) (Allowed cfg) initDevice es)
    (hrun : exec (step cfg) initDevice es = some d)
    (hidle : d.pool.held d.stack.connectionBox = []) :
    ∀ b < d.pool.taken, d.pool.released.count b = 1 := by
  obtain ⟨-, hinv⟩ := exec_invariant (fun _ _ _ => deviceInv_step) deviceInv_init hallowed hrun
  have honce := hinv.owned.once
  rw [hidle] at honce
  exact fun b hb => honce.released_all hb

instance : DecidableRel (Allowed cfg) := fun _ a => by cases a <;> unfold Allowed <;> infer_instance

/-- A tester connects and activates routing for the address 0x0E80. -/
def activated : List Event :=
  [.main (.accept 0),
   .main (.receive 0 (some [0x02, 0xFD, 0x00, 0x05, 0, 0, 0, 7, 0x0E, 0x80, 0, 0, 0, 0, 0])),
   .main .consume,
   .main (.round .noNeed true),
   .main (.round .noNeed true)]

/-- It then sends a diagnostic message of one byte. -/
def diagnosed (ta : UInt8) : List Event :=
  activated ++
  [.main (.receive 0 (some [0x02, 0xFD, 0x80, 0x01, 0, 0, 0, 5, 0x0E, 0x80, ta, 0, 0x3E])),
   .main .consume,
   .main (.round .noNeed true)]

/-- A message for the entity, and the response to it. -/
def answered : List Event :=
  diagnosed 0x10 ++
  [.main (.round .noNeed true),
   .indicateUdsMessage,
   .transUdsMessage 0x0E80 true true [0x7E, 0x00],
   .requestUdsMessage]

theorem udsBuffers_usedWell_answered :
    ∃ d, exec (step testerConf) initDevice answered = some d ∧ UsedWell testerConf d := by
  obtain ⟨d, hd⟩ := Option.isSome_iff_exists.1
    (by decide +kernel : (exec (step testerConf) initDevice answered).isSome = true)
  exact ⟨d, hd, udsBuffers_usedWell testerConf answered d (by decide +kernel) hd⟩

theorem released_once_answered : ∃ d, exec (step testerConf) initDevice answered = some d ∧
    ∀ b < d.pool.taken, d.pool.released.count b = 1 := by
  have hrun : (exec (step testerConf) initDevice answered).any
      (fun d => d.pool.held d.stack.connectionBox = []) = true := by decide +kernel
  obtain ⟨d, hd, hidle⟩ := (any_eq_true _ _).1 hrun
  exact ⟨d, hd, released_once testerConf answered d (by decide +kernel) hd (of_decide_eq_true hidle)⟩

/-- The address 0x2000 is unknown, and the buffer of its message is released twice. -/
theorem unknownTarget_releasedTwice :
    (exec (step testerConf) initDevice (diagnosed 0x20)).map
    (fun d => (d.pool.taken, d.pool.released)) =
      some (1, [0, 0]) := by
  decide +kernel

def Event.responseLen : Event → Nat
  | .transUdsMessage _ _ _ data => data.length
  | _ => 0

/-- The size of the send buffer of the UDS layer. -/
def udsSendBufLen : Nat := 2 * 8192 + 16

/-- A buffer is released twice, and a response of 4085 bytes is copied past the end of its
buffer of 4096. -/
theorem not_udsBuffers_usedWell :
    (¬ ∀ (cfg : DoipConf) (es : List Event) (d : Device), (∀ e ∈ es, e.responseLen ≤ udsSendBufLen) →
      exec (step cfg) initDevice es = some d →
        Balanced d.pool.taken d.pool.released (d.pool.held d.stack.connectionBox)) ∧
    (¬ ∀ (cfg : DoipConf) (es : List Event) (d : Device), (∀ e ∈ es, e.responseLen ≤ udsSendBufLen) →
      exec (step cfg) initDevice es = some d → InBounds cfg d.pool) := by
  constructor
  · intro h
    obtain ⟨d, hd, hpool⟩ := Option.map_eq_some_iff.1 unknownTarget_releasedTwice
    have hreleased : d.pool.released = [0, 0] := congrArg Prod.snd hpool
    have honce := (h testerConf _ d (by decide +kernel) hd).released_le (b := 0)
    rw [hreleased] at honce
    exact absurd honce (by decide)
  intro h
  have hall := h testerConf [.transUdsMessage 0x0E80 true true (List.replicate 4085 0)] _ ?_ rfl
    (12, (List.replicate 4085 (0 : UInt8)).length) ?_
  · rw [List.length_replicate] at hall
    exact absurd hall (by decide)
  · intro e he
    rw [List.mem_singleton.1 he, Event.responseLen, List.length_replicate]
    decide
  · exact List.mem_append_right _ (.tail _ (.tail _ (.tail _ (.head _))))

end TelAF.UdsBuffers
