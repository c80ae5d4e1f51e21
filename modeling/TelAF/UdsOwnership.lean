import TelAF.UdsBuffers

/-!
# Who holds the buffers of diagnostic messages

`Owned` says that the slots of the connections in the box and the queued calls hold exactly
the buffers that are not released; every operation of the pool keeps it, the second handler
as long as the target of its message is known. On the side of the stack, `Quiet` and
`Touches` say what an event does to the buffers of the connections: most events only stop
some of them, a diagnostic message concerns its own connection.
-/

namespace TelAF.UdsBuffers
open DoipMessages DoipConnection DoipControl DoipChanges PoolLedger Function List Nat

variable {cfg : DoipConf} {s t u : Stack} {p : Pool} {c c' : ConnId} {box box' l l' : List ConnId}

/-- The connections of the box and the queues hold the buffers that are not released. -/
structure Owned (box : List ConnId) (p : Pool) : Prop where
  nodup : box.Nodup
  inBox : ∀ c, p.udsBuf c ≠ none → c ∈ box
  once : Balanced p.taken p.released (p.held box)

theorem drop_udsBuf : (p.drop c).udsBuf c' = if c' = c then none else p.udsBuf c' := by
  unfold Pool.drop
  cases hslot : p.udsBuf c with
  | none =>
    split_ifs with heq
    · rw [heq, hslot]
    · rfl
  | some b => exact update_apply ..

theorem drop_copies : (p.drop c).copies = p.copies := by
  unfold Pool.drop
  split <;> rfl

theorem stops_udsBuf : (p.stops l).udsBuf c = if c ∈ l then none else p.udsBuf c := by
  induction l generalizing p with
  | nil => rfl
  | cons first rest ih =>
    have hrest := ih (p := p.drop first)
    rw [drop_udsBuf] at hrest
    refine hrest.trans ?_
    by_cases hfst : c = first
    all_goals simp [hfst]

theorem stops_copies : (p.stops l).copies = p.copies := by
  induction l generalizing p with
  | nil => rfl
  | cons first rest ih => exact (ih (p := p.drop first)).trans drop_copies

namespace Owned

variable {b : BufId}
variable (h : Owned box p)
include h

/-- The buffer of a connection, before the others that are held. -/
theorem held_forget (hslot : p.udsBuf c = some b) :
    (p.held box).Perm (b :: (p.forget c).held box) :=
  (inSlots_empty h.nodup (h.inBox c (by rw [hslot]; nofun)) hslot).append_right _

theorem inBox_forget : ∀ c', (p.forget c).udsBuf c' ≠ none → c' ∈ box := by
  intro c' hc'
  unfold Pool.forget at hc'
  dsimp only at hc'
  rw [update_apply] at hc'
  split_ifs at hc' with hsame
  · exact absurd rfl hc'
  · exact h.inBox c' hc'

theorem drop : Owned box (p.drop c) := by
  unfold Pool.drop
  split
  · exact h
  next b hslot =>
  constructor
  · exact h.nodup
  · exact h.inBox_forget
  · exact (h.once.congr (h.held_forget hslot).symm).release

theorem stops : Owned box (p.stops l) := by
  induction l generalizing p with
  | nil => exact h
  | cons first rest ih => exact ih h.drop

theorem pass (hslot : p.udsBuf c = some b) :
    Owned box (({ p with indicating := p.indicating ++ [b] } : Pool).forget c) := by
  constructor
  · exact h.nodup
  · exact h.inBox_forget
  refine h.once.congr (List.Perm.trans ?_ (h.held_forget hslot).symm)
  unfold Pool.held Pool.forget
  rw [append_assoc, singleton_append, ← append_assoc]
  refine perm_middle.trans ?_
  rw [append_assoc]

theorem take (hc : c ∈ box) (hslot : p.udsBuf c = none) : Owned box (p.take c) := by
  constructor
  · exact h.nodup
  · intro c' hc'
    unfold Pool.take at hc'
    dsimp only at hc'
    rw [update_apply] at hc'
    split_ifs at hc' with hsame
    · exact hsame ▸ hc
    · exact h.inBox c' hc'
  · exact h.once.take.congr ((inSlots_fill h.nodup hc hslot p.taken).append_right _)

theorem copy (pos len : Nat) : Owned box (p.copy pos len) := ⟨h.nodup, h.inBox, h.once⟩

/-- Connections leave the box once they hold no buffer, and new ones hold none. -/
theorem rebox (hnd : box'.Nodup) (hin : ∀ c, p.udsBuf c ≠ none → c ∈ box') :
    Owned box' p := by
  constructor
  · exact hnd
  · exact hin
  · refine h.once.congr ((inSlots_congr hnd h.nodup fun c hc => ?_).append_right _)
    exact ⟨fun _ => h.inBox c hc, fun _ => hin c hc⟩

theorem indicated {rest : List BufId} (hque : p.indicating = b :: rest) :
    Owned box { p.release b with indicating := rest } := by
  refine ⟨h.nodup, h.inBox, Balanced.release ?_⟩
  refine h.once.congr ?_
  unfold Pool.held
  rw [hque]
  exact perm_middle.symm

theorem requested {r : Request} {rest : List Request} (hque : p.requesting = r :: rest) :
    Owned box { p.release r.data with requesting := rest } := by
  refine ⟨h.nodup, h.inBox, Balanced.release ?_⟩
  refine h.once.congr ?_
  unfold Pool.held
  rw [hque, ← append_assoc, ← append_assoc]
  exact perm_middle.symm

theorem trans (ta : LogicalAddress) (known allocated : Bool) (data : List UInt8) :
    Owned box (transUdsMessage p ta known allocated data) := by
  unfold transUdsMessage
  split_ifs
  iterate 3 exact h
  refine ⟨h.nodup, h.inBox, h.once.take.congr ?_⟩
  unfold Pool.held
  rw [map_append, ← append_assoc, ← append_assoc, ← append_assoc]
  exact perm_append_singleton _ _

end Owned

/-- The message of a connection is handled: its buffer is passed on or released. -/
structure Handled (box : List ConnId) (p : Pool) (c : ConnId) (q : Pool) : Prop where
  owned : Owned box q
  udsBuf : ∀ c', q.udsBuf c' = if c' = c then none else p.udsBuf c'
  copies : q.copies = p.copies

theorem Owned.handled_drop (h : Owned box p) : Handled box p c (p.drop c) :=
  ⟨h.drop, fun _ => drop_udsBuf, drop_copies⟩

theorem Owned.handled_refuse (h : Owned box p) (code : DiagNackCode) :
    Handled box p c (refuse p c code) := by
  unfold refuse
  split_ifs
  · refine ⟨h.drop.drop, fun c' => ?_, drop_copies.trans drop_copies⟩
    rw [drop_udsBuf, drop_udsBuf]
    split_ifs <;> rfl
  · exact h.handled_drop

/-- Unless its target is unknown, a complete message leaves its connection with its buffer
passed on or released once. -/
theorem Owned.handled (h : Owned box p) (htgt : ¬ UnknownTarget cfg s c) :
    Handled box p c (diagnosticMsgSvrSecondHandler cfg s p c) := by
  unfold diagnosticMsgSvrSecondHandler
  dsimp only
  split_ifs with hsht hst haddr hmds hsize
  · exact h.handled_refuse .invalidSA
  iterate 4 exact h.handled_refuse _
  have hknw : (!cfg.isFunctionalAddress (((s.connections c).udsBuf.getD Memory.zero).read16 2) &&
      decide (((s.connections c).udsBuf.getD Memory.zero).read16 2 ≠ cfg.entitySA)) = false := by
    by_contra hunk
    simp only [Bool.not_eq_false, Bool.and_eq_true, Bool.not_eq_true', decide_eq_true_eq] at hunk
    exact htgt ⟨hsht, not_not.1 hst, not_not.1 haddr, hmds, hsize, hunk⟩
  have hlen : (s.connections c).udsTotalLen ≠ 0 := by
    omega
  unfold informUdsMessage
  rcases hslot : p.udsBuf c with _ | b
  · exact h.handled_refuse _
  dsimp only
  rw [if_neg hlen, hknw]
  exact ⟨h.pass hslot, fun c' => update_apply .., rfl⟩

/-- How far the reception buffer of a connection is filled. -/
def filled (buf : Buffer) : Nat := buf.dataPos + buf.dataSize

/-- The connections of `l` are stopped, the others keep their buffers; of what is received,
some may be consumed. -/
structure Stops (l : List ConnId) (s t : Stack) : Prop where
  box : ∀ c ∈ s.connectionBox, c ∉ l → c ∈ t.connectionBox
  udsBuf : ∀ c, (t.connections c).udsBuf = if c ∈ l then none else (s.connections c).udsBuf
  received : ∀ c, (t.connections c).udsReceived = (s.connections c).udsReceived
  inBuf : ∀ c buf, (t.connections c).inBuf = some buf →
    ∃ old, (s.connections c).inBuf = some old ∧ filled buf ≤ filled old

variable {f : Connection → Connection} {buf : Buffer}

namespace Stops

theorem of_eq (hconn : t.connections = s.connections) (hbox : t.connectionBox = s.connectionBox) :
    Stops [] s t := by
  constructor
  · intro c hc _
    exact hbox ▸ hc
  · intro c
    rw [hconn]
    rfl
  · intro c
    rw [hconn]
  · intro c buf hbuf
    rw [hconn] at hbuf
    exact ⟨buf, hbuf, le_refl _⟩

theorem trans (h : Stops l s t) (h' : Stops l' t u) : Stops (l ++ l') s u := by
  constructor
  · intro c hc hnot
    rw [mem_append, not_or] at hnot
    exact h'.box c (h.box c hc hnot.1) hnot.2
  · intro c
    rw [h'.udsBuf, h.udsBuf]
    by_cases hl : c ∈ l <;> by_cases hl' : c ∈ l' <;> simp [hl']
  · intro c
    rw [h'.received, h.received]
  intro c buf hbuf
  obtain ⟨middle, hmid, hle⟩ := h'.inBuf c buf hbuf
  obtain ⟨old, hold, hle'⟩ := h.inBuf c middle hmid
  exact ⟨old, hold, le_trans hle hle'⟩

theorem modify (huds : ∀ conn, (f conn).udsBuf = conn.udsBuf)
    (hrcvd : ∀ conn, (f conn).udsReceived = conn.udsReceived)
    (hin : ∀ conn, (f conn).inBuf = conn.inBuf) : Stops [] s (s.modify c f) := by
  have hconn : ∀ c', (s.modify c f).connections c' = if c' = c then f (s.connections c)
      else s.connections c' := fun c' => update_apply ..
  refine ⟨fun _ hc _ => hc, ?_, ?_, ?_⟩
  · intro c'
    rw [hconn, if_neg (not_mem_nil)]
    split_ifs with hsame
    · rw [huds, hsame]
    · rfl
  · intro c'
    rw [hconn]
    split_ifs with hsame
    · rw [hrcvd, hsame]
    · rfl
  intro c' buf hbuf
  rw [hconn] at hbuf
  split_ifs at hbuf with hsame
  · rw [hin] at hbuf
    exact ⟨buf, hsame ▸ hbuf, le_refl _⟩
  · exact ⟨buf, hbuf, le_refl _⟩

/-- What is left of the messages goes back into the reception buffer. -/
theorem setBuffer {old : Buffer} (h : Stops l s t) (hold : (s.connections c).inBuf = some old)
    (hle : filled buf ≤ filled old) : Stops l s (setBuffer t c buf) := by
  have hat : ∀ c', (DoipConnection.setBuffer t c buf).connections c' = if c' = c then
      { t.connections c with inBuf := some buf } else t.connections c' := fun c' => update_apply ..
  refine ⟨h.box, ?_, ?_, ?_⟩
  · intro c'
    rw [← h.udsBuf, hat]
    split_ifs with hsame
    · rw [hsame]
    · rfl
  · intro c'
    rw [← h.received, hat]
    split_ifs with hsame
    · rw [hsame]
    · rfl
  intro c' buf' hbuf'
  rw [hat] at hbuf'
  split_ifs at hbuf' with hsame
  · cases hbuf'
    exact ⟨old, hsame ▸ hold, hle⟩
  · exact h.inBuf c' buf' hbuf'

end Stops

/-- An event deletes some connections and does nothing else to buffers. -/
def Quiet (s t : Stack) : Prop := ∃ l, t.deleted = s.deleted ++ l ∧ Stops l s t

namespace Quiet

theorem of_stops (hdel : t.deleted = s.deleted) (h : Stops [] s t) : Quiet s t :=
  ⟨[], hdel.trans (append_nil _).symm, h⟩

theorem of_eq (hconn : t.connections = s.connections) (hbox : t.connectionBox = s.connectionBox)
    (hdel : t.deleted = s.deleted) : Quiet s t := of_stops hdel (Stops.of_eq hconn hbox)

theorem refl : Quiet s s := of_eq rfl rfl rfl

theorem trans (h : Quiet s t) (h' : Quiet t u) : Quiet s u := by
  obtain ⟨l, hdel, h⟩ := h
  obtain ⟨l', hdel', h'⟩ := h'
  refine ⟨l ++ l', ?_, h.trans h'⟩
  rw [hdel', hdel, append_assoc]

theorem modify (huds : ∀ conn, (f conn).udsBuf = conn.udsBuf)
    (hrcvd : ∀ conn, (f conn).udsReceived = conn.udsReceived)
    (hin : ∀ conn, (f conn).inBuf = conn.inBuf) : Quiet s (s.modify c f) :=
  of_stops rfl (Stops.modify huds hrcvd hin)

theorem send (m : Message) : Quiet s (s.send c m) := by
  unfold Stack.send
  split_ifs
  · exact of_eq rfl rfl rfl
  · exact refl

theorem foldl {α : Type*} {f : Stack → α → Stack}
    (h : ∀ s a, Quiet s (f s a)) (as : List α) :
    Quiet s (as.foldl f s) := by
  induction as generalizing s with
  | nil => exact refl
  | cons a as ih => exact (h s a).trans ih

end Quiet

theorem mem_swapRemove_of_ne (hc : c' ∈ box) (hne : c' ≠ c) : c' ∈ swapRemove box c := by
  by_cases hmem : c ∈ box
  · exact (swapRemove_perm hmem).mem_iff.2 ((mem_erase_of_ne hne).2 hc)
  · rwa [swapRemove_of_not_mem hmem]

/-- One connection gives up its buffers, whatever happens to the box. -/
theorem stops_one (huds : ∀ conn, (f conn).udsBuf = none)
    (hrcvd : ∀ conn, (f conn).udsReceived = conn.udsReceived)
    (hin : ∀ conn, (f conn).inBuf = none)
    (hconn : t.connections = (s.modify c f).connections)
    (hbox : ∀ c' ∈ s.connectionBox, c' ≠ c → c' ∈ t.connectionBox) : Stops [c] s t := by
  have hat : ∀ c', t.connections c' = if c' = c then f (s.connections c) else s.connections c' :=
    fun c' => by
    rw [hconn]
    exact update_apply ..
  constructor
  · intro c' hc' hnot
    exact hbox c' hc' (fun heq => hnot (heq ▸ mem_singleton_self _))
  · intro c'
    rw [hat]
    split_ifs with hsame hmem hmem
    · exact huds _
    · exact absurd (hsame ▸ mem_singleton_self _) hmem
    · exact absurd (mem_singleton.1 hmem) hsame
    · rfl
  · intro c'
    rw [hat]
    split_ifs with hsame
    · rw [hrcvd, hsame]
    · rfl
  · intro c' buf hbuf
    rw [hat] at hbuf
    split_ifs at hbuf
    · rw [hin] at hbuf
      cases hbuf
    · exact ⟨buf, hbuf, le_refl _⟩

theorem stops_stop : Stops [c] s (stop s c) := by
  apply stops_one (f := fun conn => { conn with
    initialTimer := false
    generalTimer := false
    aliveCheckTimer := false
    inBuf := none
    udsBuf := none })
  iterate 3 exact fun _ => rfl
  · rfl
  · exact fun _ hc' _ => hc'

theorem stops_shutdown : Stops [c] s (shutdown s c) := by
  apply stops_one (f := fun conn => { conn with
    connState := .finalize
    initialTimer := false
    generalTimer := false
    aliveCheckTimer := false
    inBuf := none
    udsBuf := none })
  iterate 3 exact fun _ => rfl
  · rfl
  · exact fun _ hc' _ => hc'

theorem quiet_enter (state : ConnectState) : Quiet s (enter s c state) :=
  Quiet.modify (fun _ => rfl) (fun _ => rfl) fun _ => rfl

theorem quiet_report (event : ConnectionEvent) : Quiet s (reportConnectionEvent cfg s c event) :=
  Quiet.of_eq rfl rfl rfl

theorem quiet_deleteConnection : Quiet s (deleteConnection s c) := by
  have hstop := stops_stop (s := s) (c := c)
  refine ⟨[c], rfl, ?_, hstop.udsBuf, hstop.received, hstop.inBuf⟩
  intro c' hc' hnot
  exact mem_swapRemove_of_ne hc' (fun heq => hnot (heq ▸ mem_singleton_self _))

theorem quiet_finalize : Quiet s (finalize cfg s c) := by
  unfold finalize
  split_ifs
  · exact ((quiet_enter .finalize).trans (quiet_report .saDeregistered)).trans quiet_deleteConnection
  · exact (quiet_enter .finalize).trans quiet_deleteConnection

theorem quiet_activationRes (sa : LogicalAddress) (code : RaResCode) :
    Quiet s (routingActivationRes cfg s c sa code) := Quiet.send _

theorem quiet_refuse (sa : LogicalAddress) (code : RaResCode) :
    Quiet s (refuseActivation cfg s c sa code) :=
  (quiet_activationRes sa code).trans quiet_finalize

theorem quiet_confirm (confirm : UserConfirmResult) :
    Quiet s (checkRoutingActivationConfirm cfg confirm s c) := by
  have hact : Quiet s (routingActive cfg (routingActivationRes cfg s c (s.connections c).testerSA
      .routingSuccessfullyActivated) c) :=
    ((quiet_activationRes _ _).trans (quiet_enter _)).trans (quiet_report _)
  cases confirm with
  | pass | noNeed => exact hact
  | reject => exact (quiet_activationRes _ _).trans quiet_finalize

theorem quiet_assign (confirm : UserConfirmResult) (sa : LogicalAddress) (info : UInt32) :
    Quiet s (assign cfg confirm s c sa info) := by
  have hauth : ∀ s : Stack, Quiet s (checkRoutingActivationAuthen cfg confirm s c info) := by
    intro s
    unfold checkRoutingActivationAuthen
    split_ifs
    · exact (quiet_enter .registeredPendingForConf).trans (quiet_confirm confirm)
    · exact (quiet_activationRes _ _).trans quiet_finalize
  have hsa : Quiet s (s.modify c fun conn => { conn with testerSA := sa }) :=
    Quiet.modify (fun _ => rfl) (fun _ => rfl) fun _ => rfl
  exact (hsa.trans (quiet_enter .registeredPendingForAuth)).trans (hauth _)

theorem quiet_headerNegativeAck (code : HeaderNackCode) (left : Nat) :
    Quiet s (respondHeaderNegativeAck cfg s c code left) := by
  unfold respondHeaderNegativeAck readAndDiscardMsg
  split_ifs
  · exact (Quiet.send _).trans quiet_finalize
  · exact Quiet.send _
  · exact (Quiet.send _).trans (Quiet.of_eq rfl rfl rfl)

theorem quiet_startAliveCheck (waiting : ConnId) (mark : Routing → Routing) :
    Quiet s (startAliveCheck s c waiting mark) := by
  have hmark : Quiet s (s.modify c fun conn => { conn with
      toRouting := { mark conn.toRouting with routingConnectionPtr := some waiting }
      aliveCheckTimer := true }) := Quiet.modify (fun _ => rfl) (fun _ => rfl) fun _ => rfl
  exact hmark.trans (Quiet.send _)

theorem quiet_performSingle (ta : LogicalAddress) : Quiet s (performSigleAliveCheck s c ta) := by
  unfold performSigleAliveCheck
  split
  · exact Quiet.of_eq rfl rfl rfl
  split_ifs
  iterate 2 exact Quiet.refl
  exact quiet_startAliveCheck _ _

theorem quiet_performAll : Quiet s (performAllAliveCheck s c) := by
  refine Quiet.foldl (fun s other => ?_) _
  unfold aliveCheckRound
  dsimp only
  split_ifs
  · exact quiet_performSingle _
  · exact (quiet_performSingle _).trans (quiet_startAliveCheck _ _)
  · exact Quiet.refl

theorem quiet_requestActivation (confirm : UserConfirmResult) (sa : LogicalAddress) (info : UInt32) :
    Quiet s (requestActivation cfg confirm s c sa info) := by
  have hassi := @quiet_assign cfg s c confirm sa info
  have hrest : Quiet s (if s.getRegisteredConnectionNum = cfg.maxSockNum then performAllAliveCheck s c
      else assign cfg confirm s c sa info) := by
    split_ifs
    · exact quiet_performAll
    · exact hassi
  unfold requestActivation
  split
  · exact hassi
  split
  · split
    · exact hassi
    · exact quiet_refuse _ _
  split
  · split
    · exact hrest
    split
    · exact Quiet.refl
    · exact quiet_startAliveCheck _ _
  · exact hrest

theorem quiet_routingActiveReq (confirm : UserConfirmResult) (data : Memory) (pos payloadLen : Nat) :
    Quiet s (routingActiveReqHandler cfg confirm s c data pos payloadLen) := by
  have hasks : Quiet s (s.modify c fun conn => { conn with raTesterSa := data.read16 pos }) :=
    Quiet.modify (fun _ => rfl) (fun _ => rfl) fun _ => rfl
  have hinfo : ∀ (s : Stack) (info : UInt32), Quiet s (s.modify c fun conn =>
      { conn with initialTimer := false, authInfo := info }) :=
    fun s info => Quiet.modify (fun _ => rfl) (fun _ => rfl) fun _ => rfl
  unfold routingActiveReqHandler
  dsimp only
  split
  · exact quiet_headerNegativeAck _ _
  split
  · exact quiet_refuse _ _
  split
  · exact hasks.trans (quiet_refuse _ _)
  · exact (hasks.trans (hinfo _ _)).trans (quiet_requestActivation _ _ _)

theorem quiet_refuseWaiting (code : RaResCode) : Quiet s (refuseWaiting cfg s c code) := by
  unfold refuseWaiting
  split
  · exact Quiet.refl
  split_ifs
  · exact Quiet.refl
  · exact quiet_refuse _ _

theorem quiet_aliveCheckRes (data : Memory) (pos payloadLen : Nat) :
    Quiet s (aliveCheckResHandler cfg s c data pos payloadLen) := by
  have hall : ∀ s : Stack, Quiet s (s.modify c fun conn => { conn with allAliveCheckFlag := false }) :=
    fun s => Quiet.modify (fun _ => rfl) (fun _ => rfl) fun _ => rfl
  have hsgl : ∀ s :
      Stack, Quiet s (s.modify c fun conn => { conn with singleAliveCheckFlag := false }) :=
    fun s => Quiet.modify (fun _ => rfl) (fun _ => rfl) fun _ => rfl
  have htim : Quiet s (s.modify c fun conn => { conn with aliveCheckTimer := false }) :=
    Quiet.modify (fun _ => rfl) (fun _ => rfl) fun _ => rfl
  have hlast : ∀ s : Stack, Quiet s (if (s.connections c).singleAliveCheckFlag then
      refuseWaiting cfg (s.modify c fun conn => { conn with singleAliveCheckFlag := false }) c
        .saRegistedDifferentSocket else s) := by
    intro s
    split_ifs
    · exact (hsgl s).trans (quiet_refuseWaiting _)
    · exact Quiet.refl
  unfold aliveCheckResHandler
  dsimp only
  split
  · exact quiet_headerNegativeAck _ _
  split
  · exact Quiet.refl
  split
  · exact htim
  refine htim.trans (Quiet.trans ?_ (hlast _))
  split
  · split
    · exact ((hall _).trans (quiet_refuseWaiting _)).trans (Quiet.of_eq rfl rfl rfl)
    · exact (hall _).trans (Quiet.of_eq rfl rfl rfl)
  · exact Quiet.refl

theorem quiet_aliveCheckTimer (confirm : UserConfirmResult) :
    Quiet s (aliveCheckTimerHandler cfg confirm s c) := by
  have htim : Quiet s (s.modify c fun conn => { conn with aliveCheckTimer := false }) :=
    Quiet.modify (fun _ => rfl) (fun _ => rfl) fun _ => rfl
  have htake : ∀ (s : Stack) (waiting : ConnId), Quiet s (takeOver cfg confirm s waiting) := by
    intro s waiting
    unfold takeOver
    split_ifs
    · exact Quiet.refl
    · exact quiet_assign _ _ _
  have hchec : ∀ (s : Stack) (all : Bool) (n : Nat),
      Quiet s (if all = true then { s with aliveCheckNcts := n } else s) := by
    intro s all n
    split_ifs
    · exact Quiet.of_eq rfl rfl rfl
    · exact Quiet.refl
  unfold aliveCheckTimerHandler
  dsimp only
  split
  · exact htim
  refine htim.trans ?_
  split
  · exact (hchec _ _ _).trans quiet_finalize
  · exact ((hchec _ _ _).trans (htake _ _)).trans quiet_finalize

theorem filled_advance (buf : Buffer) (payloadLen : Nat) :
    filled (buf.advance payloadLen) ≤ filled buf := by
  unfold Buffer.advance filled
  dsimp only
  split_ifs
  iterate 2 exact zero_le _
  dsimp only
  omega

theorem Quiet.setBuffer {old : Buffer} (h : Quiet s t) (hold : (s.connections c).inBuf = some old)
    (hle : filled buf ≤ filled old) : Quiet s (setBuffer t c buf) := by
  obtain ⟨l, hdel, h⟩ := h
  exact ⟨l, hdel, h.setBuffer hold hle⟩

theorem Quiet.finishMessage (h : Quiet s t) (hbuf : (s.connections c).inBuf = some buf)
    (payloadLen : Nat) : Quiet s (finishMessage t c buf payloadLen).1 := by
  unfold DoipConnection.finishMessage
  split_ifs
  · exact h.trans (Quiet.of_eq rfl rfl rfl)
  · exact h.setBuffer hbuf (filled_advance buf payloadLen)

theorem stops_stopConsuming : Stops [] s (stopConsuming s c) := by
  have hidle : Stops [] s (s.modify c fun conn => { conn with isConsuming := false }) :=
    Stops.modify (fun _ => rfl) (fun _ => rfl) fun _ => rfl
  exact hidle.trans (Stops.of_eq rfl rfl)

theorem quiet_stopConsuming : Quiet s (stopConsuming s c) := Quiet.of_stops rfl stops_stopConsuming

theorem stops_leaveLoop (buf : Buffer) : Stops [] s (leaveLoop s c buf) := by
  unfold leaveLoop
  split_ifs
  · exact Stops.of_eq rfl rfl
  · exact stops_stopConsuming

theorem quiet_leaveLoop (buf : Buffer) : Quiet s (leaveLoop s c buf) := by
  refine Quiet.of_stops ?_ (stops_leaveLoop buf)
  unfold leaveLoop
  split_ifs <;> rfl

theorem quiet_process (confirm : UserConfirmResult) (allocated : Bool) (payloadType : PayloadType)
    (payloadLen : Nat) (hbuf : (s.connections c).inBuf = some buf)
    (hnone : payloadType = .diagnosticMessage →
      buf.dataSize < headerGenericLength + 2 * logicalAddressLength) :
    Quiet s (processDoipMessage cfg confirm s c allocated payloadType buf payloadLen).1 := by
  unfold processDoipMessage
  dsimp only
  split
  · split
    · exact quiet_routingActiveReq ..
    split
    · exact (quiet_routingActiveReq ..).setBuffer hbuf (zero_le _)
    · exact (quiet_routingActiveReq ..).finishMessage hbuf payloadLen
  · exact (Quiet.send _).finishMessage hbuf payloadLen
  · exact (quiet_aliveCheckRes ..).finishMessage hbuf payloadLen
  · rw [if_pos (hnone rfl)]
    exact Quiet.refl
  · exact Quiet.refl.finishMessage hbuf payloadLen

theorem quiet_reject (hdr : Header) (code : HeaderNackCode)
    (hbuf : (s.connections c).inBuf = some buf) : Quiet s (rejectMessage cfg s c buf hdr code) := by
  unfold rejectMessage
  dsimp only
  split
  · exact (quiet_headerNegativeAck ..).trans (Quiet.of_eq rfl rfl rfl)
  · exact ((quiet_headerNegativeAck ..).setBuffer hbuf (zero_le _)).trans quiet_stopConsuming

variable {count : Nat}

/-- A round that handles no diagnostic message only stops connections. -/
theorem quiet_round (confirm : UserConfirmResult) (allocated : Bool)
    (hcons : s.consuming = some (c, count)) (hnone : nextDiagnostic cfg s = none) :
    Quiet s (consumeRound cfg confirm s c allocated count) := by
  unfold consumeRound
  split
  · exact Quiet.of_eq rfl rfl rfl
  next buf hbuf =>
  split
  · exact quiet_leaveLoop buf
  next hloop =>
  split
  · exact Quiet.of_eq rfl rfl rfl
  next hopen =>
  dsimp only
  split
  · exact quiet_reject _ _ hbuf
  next herr =>
  have hnext : nextMessage cfg s = some (c, buf, unpackHeaderStruct buf.data buf.dataPos) := by
    unfold nextMessage
    rw [hcons]
    dsimp only
    rw [hbuf]
    exact if_pos ⟨not_not.1 hloop, hopen, herr⟩
  have hsht : (unpackHeaderStruct buf.data buf.dataPos).payloadType = .diagnosticMessage →
      buf.dataSize < headerGenericLength + 2 * logicalAddressLength := by
    intro htype
    by_contra hlong
    unfold nextDiagnostic at hnone
    rw [hnext] at hnone
    simp [htype, hlong] at hnone
  have hproc : Quiet s (processDoipMessage cfg confirm s c allocated
      (unpackHeaderStruct buf.data buf.dataPos).payloadType buf
      (unpackHeaderStruct buf.data buf.dataPos).payloadLen).1 :=
    quiet_process confirm allocated _ _ hbuf hsht
  unfold consumeMessage
  split
  · next heq => exact (heq ▸ hproc).trans (Quiet.of_eq rfl rfl rfl)
  · next heq => exact (heq ▸ hproc).trans (quiet_leaveLoop buf)
  all_goals next heq => exact (heq ▸ hproc).trans quiet_stopConsuming

theorem modify_self (f : Connection → Connection) :
    (s.modify c f).connections c = f (s.connections c) :=
  update_self ..

/-- An event concerns one connection, whose reception buffer is not filled further. -/
structure Touches (c : ConnId) (s t : Stack) : Prop where
  box : ∀ c' ∈ s.connectionBox, c' ≠ c → c' ∈ t.connectionBox
  others : ∀ c', c' ≠ c → t.connections c' = s.connections c'
  inBuf : ∀ buf, (t.connections c).inBuf = some buf → (s.connections c).inBuf = some buf

namespace Touches

theorem of_eq (hconn : t.connections = s.connections) (hbox : t.connectionBox = s.connectionBox) :
    Touches c s t := by
  refine ⟨fun c' hc' _ => hbox ▸ hc', fun c' _ => congrFun hconn c', fun buf hbuf => ?_⟩
  rwa [hconn] at hbuf

theorem trans (h : Touches c s t) (h' : Touches c t u) : Touches c s u := by
  constructor
  · exact fun c' hc' hne => h'.box c' (h.box c' hc' hne) hne
  · exact fun c' hne => (h'.others c' hne).trans (h.others c' hne)
  · exact fun buf hbuf => h.inBuf buf (h'.inBuf buf hbuf)

theorem modify
    (h : ∀ conn buf, (f conn).inBuf = some buf → conn.inBuf = some buf) :
    Touches c s (s.modify c f) := by
  refine ⟨fun _ hc' _ => hc', fun c' hne => update_of_ne hne .., fun buf hbuf => h _ buf ?_⟩
  rwa [modify_self] at hbuf

theorem send (m : Message) : Touches c s (s.send c m) := by
  unfold Stack.send
  split_ifs
  all_goals exact of_eq rfl rfl

theorem finalize : Touches c s (finalize cfg s c) := by
  have hente : Touches c s (enter s c .finalize) := modify fun _ _ => id
  have hdlt : ∀ s : Stack, Touches c s (deleteConnection s c) := by
    intro s
    have hstop : Touches c s (stop s c) :=
      (modify (f := fun conn => { conn with
        initialTimer := false
        generalTimer := false
        aliveCheckTimer := false
        inBuf := none
        udsBuf := none }) (fun _ _ => nofun)).trans (of_eq rfl rfl)
    exact ⟨fun c' hc' hne => mem_swapRemove_of_ne hc' hne, hstop.others, hstop.inBuf⟩
  unfold DoipConnection.finalize
  split_ifs
  · have hrpt : Touches c s (reportConnectionEvent cfg (enter s c .finalize) c .saDeregistered) :=
      hente.trans (of_eq rfl rfl)
    exact hrpt.trans (hdlt _)
  · exact hente.trans (hdlt _)

theorem dropDiag : Touches c s (dropDiag s c) := modify fun _ _ => id

end Touches

/-- The connection has no diagnostic message. -/
def Idle (s : Stack) (c : ConnId) : Prop :=
  (s.connections c).udsBuf = none ∧ (s.connections c).udsReceived = 0

theorem idle_dropDiag : Idle (dropDiag s c) c := by
  unfold Idle dropDiag
  rw [modify_self]
  exact ⟨rfl, rfl⟩

theorem idle_send (h : Idle s c) (m : Message) : Idle (s.send c m) c := by
  unfold Stack.send
  split_ifs
  all_goals exact h

theorem diagRefused_spec (ta sa : LogicalAddress) (code : DiagNackCode) :
    Touches c s (diagRefused cfg s c ta sa code) ∧ Idle (diagRefused cfg s c ta sa code) c := by
  refine ⟨?_, idle_dropDiag⟩
  unfold diagRefused
  split_ifs
  · exact ((Touches.send _).trans Touches.finalize).trans Touches.dropDiag
  · exact (Touches.send _).trans Touches.dropDiag

/-- A complete message leaves its connection, whatever becomes of it. -/
theorem secondHandler_spec :
    Touches c s (diagnosticMsgSecondHandler cfg s c).1 ∧
      Idle (diagnosticMsgSecondHandler cfg s c).1 c := by
  unfold diagnosticMsgSecondHandler
  dsimp only
  split_ifs
  · refine ⟨Touches.trans ?_ Touches.dropDiag, idle_dropDiag⟩
    unfold respondHeaderNegativeAck
    exact (Touches.send _).trans Touches.finalize
  iterate 4 exact diagRefused_spec ..
  split
  · exact diagRefused_spec ..
  next t hinf =>
  have hindi : Touches c s t := by
    unfold DoipConnection.informUdsMessage at hinf
    split_ifs at hinf <;> cases hinf <;> exact Touches.of_eq rfl rfl
  exact ⟨(hindi.trans Touches.dropDiag).trans (Touches.send _), idle_send idle_dropDiag _⟩

theorem nextDiagnostic_spec {hdr : Header} (hcons : s.consuming = some (c, count))
    (hnext : nextDiagnostic cfg s = some (c', buf, hdr)) :
    c' = c ∧ (s.connections c).inBuf = some buf ∧
      hdr = unpackHeaderStruct buf.data buf.dataPos ∧
      (buf.dataSize ≥ headerGenericLength ∧ count < batchSize) ∧
        (s.connections c).connState ≠ .finalize ∧
      headerError cfg hdr = none ∧ hdr.payloadType = .diagnosticMessage ∧
      ¬ buf.dataSize < headerGenericLength + 2 * logicalAddressLength := by
  unfold nextDiagnostic at hnext
  rw [Option.filter_eq_some_iff] at hnext
  obtain ⟨hmsg, hlong⟩ := hnext
  rw [decide_eq_true_eq] at hlong
  unfold nextMessage at hmsg
  rw [hcons] at hmsg
  dsimp only at hmsg
  split at hmsg
  · cases hmsg
  next old hbuf =>
  split_ifs at hmsg with hcond
  cases hmsg
  exact ⟨rfl, hbuf, rfl, hcond.1, hcond.2.1, hcond.2.2, hlong⟩

/-- Once the first handler is through, a round does not concern the diagnostic buffers. -/
theorem stops_finishRound {hdr : Header} (confirm : UserConfirmResult) (allocated : Bool)
    (hcons : s.consuming = some (c, count)) (hnext : nextDiagnostic cfg s = some (c, buf, hdr))
    (htch : Touches c s (DoipConnection.diagnosticMsgFirstHandler cfg s c allocated buf.data
      (buf.dataPos + headerGenericLength) hdr.payloadLen (buf.dataSize - headerGenericLength)).1) :
    Stops [] (DoipConnection.diagnosticMsgFirstHandler cfg s c allocated buf.data
      (buf.dataPos + headerGenericLength) hdr.payloadLen (buf.dataSize - headerGenericLength)).1
      (consumeRound cfg confirm s c allocated count) := by
  obtain ⟨-, hbuf, hhdr, hloop, hopen, herr, htype, hlong⟩ := nextDiagnostic_spec hcons hnext
  unfold consumeRound
  rw [hbuf]
  dsimp only
  rw [if_neg (not_not.2 hloop), if_neg hopen, ← hhdr, herr]
  unfold consumeMessage processDoipMessage
  rw [htype]
  dsimp only
  rw [if_neg hlong]
  generalize DoipConnection.diagnosticMsgFirstHandler cfg s c allocated buf.data
    (buf.dataPos + headerGenericLength) hdr.payloadLen (buf.dataSize - headerGenericLength) = r at htch ⊢
  have hfin : Stops [] r.1 (finishMessage r.1 c buf hdr.payloadLen).1 ∧
      (finishMessage r.1 c buf hdr.payloadLen).2 = .ok := by
    unfold finishMessage
    cases hin : (r.1.connections c).inBuf with
    | none => exact ⟨Stops.of_eq rfl rfl, rfl⟩
    | some buf' =>
      have hsame : buf' = buf := Option.some.inj ((htch.inBuf buf' hin).symm.trans hbuf)
      exact ⟨(Stops.of_eq rfl rfl).setBuffer (hsame ▸ hin) (filled_advance buf hdr.payloadLen), rfl⟩
  obtain ⟨t, result⟩ := r
  obtain ⟨hsto, hok⟩ := hfin
  have hfini : finishMessage t c buf hdr.payloadLen =
      ((finishMessage t c buf hdr.payloadLen).1, .ok) := Prod.ext rfl hok
  cases result with
  | outOfMemory => exact stops_leaveLoop buf
  | ok =>
    dsimp only
    rw [hfini]
    exact hsto.trans (Stops.of_eq rfl rfl)
  | failed =>
    dsimp only
    split_ifs
    · exact stops_stopConsuming
    rw [hfini]
    exact hsto.trans (Stops.of_eq rfl rfl)

end TelAF.UdsBuffers
