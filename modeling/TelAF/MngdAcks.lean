import TelAF.MngdLock

/-!
# The answers to node power state changes

The changes are watched from outside the service: which of them the power management service has
notified, who was told of the last one, who has acknowledged, and what was answered. Every change
has one answer, and no client is passed over.
-/

namespace TelAF.MngdPm

open TransitionRuns State Record List
open PmService (PowerState)

/-! ## Watching -/

/-- A change that was notified, with what was answered. -/
structure Change where
  psRef : Nat
  state : NodePowerState
  answers : List Bool

/-- A handler that was told, with the reference made for it. -/
structure Told where
  handlerRef : Nat
  sessionRef : Nat
  nodeStateRef : Nat

/-- The changes so far, those whose events are still to be handled, the change of the last event,
who was told of it and is connected, and which references were acknowledged. -/
structure Noticed where
  service : State
  changes : List Change
  reported : List Nat
  round : Option Nat
  told : List Told
  acked : List Nat

/-- The change of the node that a notification is about. -/
def nodeState : PowerState → Option NodePowerState
  | .suspend => some .suspendPrepare
  | .shutdown => some .shutdownPrepare
  | .restart => some .restartPrepare
  | .resume => some .resume
  | _ => none

def answersOf (psRef : Nat) (state : NodePowerState) (messages : List Message) : List Bool :=
  messages.filterMap fun
    | .sendStateChangeAck ref answered ready =>
      if ref = psRef ∧ answered = State.toPowerState state then some ready else none
    | _ => none

def toldIn (messages : List Message) : List Told :=
  messages.filterMap fun
    | .nodePowerState handlerRef session nodeStateRef _ =>
      some ⟨handlerRef, session, nodeStateRef⟩
    | _ => none

def Action.psRef : Action → Option Nat
  | .stateChangeEx psRef .. => some psRef
  | _ => none

def Action.change : Action → Option Change
  | .stateChangeEx psRef state _ => (nodeState state).map fun state => ⟨psRef, state, []⟩
  | _ => none

def Action.expires : Action → Bool
  | .stateChangeAckTimer => true
  | _ => false

namespace Noticed

variable (w : Noticed)

/-- The client was told, and the reference is its own. -/
def wasTold (session ref : Nat) : Bool :=
  w.told.any fun t => t.sessionRef = session && t.nodeStateRef = ref

def reportedAfter (t : State) : Action → List Nat
  | .stateChangeEx psRef .. =>
    if w.service.nodeStates.nodePowerStateChange.length < t.nodeStates.nodePowerStateChange.length then
      w.reported ++ [psRef]
    else w.reported
  | .nodePowerStateChanged => w.reported.tail
  | _ => w.reported

def roundAfter : Action → Option Nat
  | .nodePowerStateChanged => w.reported.head?
  | _ => w.round

def toldAfter (messages : List Message) : Action → List Told
  | .nodePowerStateChanged => toldIn messages
  | .clientDisconnection session .. => w.told.filter fun t => t.sessionRef ≠ session
  | _ => w.told

def ackedAfter : Action → List Nat
  | .nodePowerStateChanged => []
  | .sendAck session ref true => if w.wasTold session ref then w.acked ++ [ref] else w.acked
  | _ => w.acked

def hear (messages : List Message) (c : Change) : Change :=
  { c with answers := c.answers ++ answersOf c.psRef c.state messages }

def after (a : Action) : Noticed where
  service := (perform w.service a).state
  changes := (w.changes ++ a.change.toList).map (hear (perform w.service a).messages)
  reported := w.reportedAfter (perform w.service a).state a
  round := w.roundAfter a
  told := w.toldAfter (perform w.service a).messages a
  acked := w.ackedAfter a

/-- Every notification has a reference of its own. -/
def fresh (a : Action) : Bool := w.changes.all fun c => a.psRef ≠ some c.psRef

/-- The change of the last event is not answered. -/
def unanswered : Bool := w.changes.any fun c => w.round = some c.psRef && c.answers = []

def quiet : Bool := w.changes.all fun c => c.answers ≠ []

end Noticed

def unnoticed (handlerRef : Bool) (nodeState : NodePowerState) : Noticed :=
  ⟨start handlerRef nodeState, [], [], none, [], []⟩

def notice (w : Noticed) (a : Action) : Option Noticed :=
  if enabled w.service a && w.fresh a then some (w.after a) else none

/-! ## What the power management service relies on -/

/-- A change that has no answer waits for its event to be handled, or for the timer; every other
change has one answer. -/
structure AnsweredOnce (w : Noticed) : Prop where
  once : ∀ c ∈ w.changes, c.answers.length = 1 ∨ c.answers = [] ∧ (c.psRef ∈ w.reported ∨
    w.round = some c.psRef ∧ w.service.nodeStates.stateChangeAckTimerRuns = true)
  events : w.reported.length = w.service.nodeStates.nodePowerStateChange.length
  safe : w.service.crashed = false

/-- The handlers that are registered and were told have acknowledged. -/
def Noticed.AllAcked (w : Noticed) : Prop := ∀ t ∈ w.told,
  (w.service.nodeStates.nodePowerStateHandlerList.lookup t.handlerRef).isSome = true →
    t.nodeStateRef ∈ w.acked
deriving Decidable

/-- An answer is one to a change; readiness is told of the change of the last event, after the timer
or when all have acknowledged. -/
def RightAnswer (w : Noticed) (a : Action) : Message → Prop
  | .sendStateChangeAck psRef state ready => state ≠ .allAcked →
    (∃ c ∈ (w.after a).changes, c.psRef = psRef ∧ State.toPowerState c.state = state) ∧
      (ready = true → (w.after a).round = some psRef ∧ (a.expires = true ∨ (w.after a).AllAcked))
  | _ => True

def Refusal (w : Noticed) : Action → Prop
  | .sendAck session ref false => w.wasTold session ref = true → ∀ c ∈ w.changes,
    w.round = some c.psRef → c.answers = [] →
      .sendStateChangeAck c.psRef (State.toPowerState c.state)
      false ∈ (w.service.sendNodePowerStateChangeAck session ref false).messages
  | _ => True

/-- What the power management service relies on in a step. -/
structure AnswersRight (w : Noticed) (a : Action) : Prop where
  answered : ∀ t ∈ notice w a, AnsweredOnce t
  right : ∀ t ∈ notice w a, ∀ m ∈ (perform w.service a).messages, RightAnswer w a m
  refusal : ∀ t ∈ notice w a, Refusal w a

/-! ## Careful runs -/

namespace State

variable (s : State)

def hears (session ref : Nat) : Bool :=
  session ∈ s.clients && !s.isInitialRef ref && s.nodeStates.stateChangeAckTimerRuns &&
    (s.findRecord session ref).any fun client =>
      isSameAsCurrentState s.power.stateMachine.currentState client.state

/-- The session is the last one that is counted. -/
def completes (session : Nat) : Bool :=
  (markAcked session s.nodeStates.regClientrecrd).isSome &&
    BitVec.ofNat 8 s.nodeStates.regClientrecrd.length = s.nodeStates.ackClientrecrdSize + 1

/-- The notification of the change is reported, or refused at once. -/
def Reports (state : PowerState) : Prop :=
  match state with
  | .suspend => s.power.wsCount ≠ 0 → s.power.powerMode.isWsAcquired = false
  | .shutdown =>
    s.power.powerMode.isShutDown ∨ s.power.powerMode.isForceful ∨ s.power.powerMode.isGraceful
  | .restart => s.power.powerMode.isRestart
  | .resume => s.power.wsCount ≠ 0
  | _ => True

end State

/-- Notifications come one after the other and find their flags; fewer than 256 handlers are told. A
refusal is heard, and nothing is heard after it. While a change is not answered, no client that has
acknowledged it leaves. -/
def CarefulAcks (w : Noticed) : Action → Prop
  | .stateChangeEx _ state _ => w.quiet = true ∧ w.service.Reports state
  | .nodePowerStateChanged => ∀ state ∈ w.service.nodeStates.nodePowerStateChange.head?,
    (w.service.configuredHandlers state).length < 256
  | .sendAck session ref true =>
    w.service.hears session ref = true → w.service.completes session = true → w.unanswered = true
  | .sendAck session ref false =>
    (w.service.hears session ref = true → w.unanswered = true) ∧
      (w.wasTold session ref = true → w.unanswered = true → w.service.hears session ref = true)
  | .stateChangeAckTimer => w.unanswered = true
  | .clientDisconnection session _ _ => w.unanswered = true →
    ∀ client ∈ w.service.nodeStates.regClientrecrd, client.isAcked = true →
      client.sessionRef ≠ session
  | _ => True

instance (w : Noticed) : Decidable (AnsweredOnce w) :=
  decidable_of_iff (_ ∧ _ ∧ _) ⟨fun ⟨a, b, c⟩ => ⟨a, b, c⟩, fun ⟨a, b, c⟩ => ⟨a, b, c⟩⟩

instance (w : Noticed) (a : Action) (m : Message) : Decidable (RightAnswer w a m) := by
  unfold RightAnswer
  split <;> infer_instance

instance (w : Noticed) (a : Action) : Decidable (Refusal w a) := by
  unfold Refusal
  split <;> infer_instance

instance (w : Noticed) (a : Action) : Decidable (AnswersRight w a) :=
  decidable_of_iff (_ ∧ _ ∧ _) ⟨fun ⟨a, b, c⟩ => ⟨a, b, c⟩, fun ⟨a, b, c⟩ => ⟨a, b, c⟩⟩

instance (s : State) (state : PowerState) : Decidable (s.Reports state) := by
  unfold State.Reports
  split <;> infer_instance

instance (w : Noticed) (a : Action) : Decidable (CarefulAcks w a) := by
  unfold CarefulAcks
  split <;> infer_instance

variable {w : Noticed} {a : Action}

/-! ## Records -/

def Record.key (r : Record) : Nat × Nat := (r.sessionRef, r.nodeStateRef)

def Told.key (t : Told) : Nat × Nat := (t.sessionRef, t.nodeStateRef)

/-- The records are those of the handlers that were told. Only the first record of a client is
marked, and the client has acknowledged one of its references. -/
structure Recorded (clients : List Nat) (records : List Record) (told : List Told)
    (acked : List Nat) :
    Prop where
  sessions : ∀ r ∈ records, r.sessionRef ∈ clients
  told : told.map Told.key = records.map Record.key
  firsts : records.Pairwise fun r later => later.isAcked = true → r.sessionRef ≠ later.sessionRef
  acks : ∀ r ∈ records, r.isAcked = true →
    ∃ own ∈ records, own.sessionRef = r.sessionRef ∧ own.nodeStateRef ∈ acked

section Records

variable {clients others acked : List Nat} {records after : List Record} {told : List Told}

theorem Recorded.mono (h : Recorded clients records told acked) {more : List Nat}
    (hsub : clients ⊆ others) (hacke : acked ⊆ more) : Recorded others records told more where
  sessions := fun r hr => hsub (h.sessions r hr)
  told := h.told
  firsts := h.firsts
  acks := by
    intro r hr hmrk
    obtain ⟨own, hown, hsess, href⟩ := h.acks r hr hmrk
    exact ⟨own, hown, hsess, hacke href⟩

theorem Recorded.left (h : Recorded clients records told acked) (session : Nat) :
    Recorded (clients.filter (· ≠ session)) (records.filter fun r => r.sessionRef ≠ session)
      (told.filter fun t => t.sessionRef ≠ session) acked where
  sessions := by
    intro r hr
    obtain ⟨hold, hne⟩ := mem_filter.1 hr
    exact mem_filter.2 ⟨h.sessions r hold, hne⟩
  told := by
    have hkeys := congrArg (filter fun k => decide (k.1 ≠ session)) h.told
    rw [filter_map, filter_map] at hkeys
    exact hkeys
  firsts := h.firsts.sublist filter_sublist
  acks := by
    intro r hr hacke
    obtain ⟨hold, hne⟩ := mem_filter.1 hr
    obtain ⟨own, hown, hsess, href⟩ := h.acks r hold hacke
    refine ⟨own, mem_filter.2 ⟨hown, ?_⟩, hsess, href⟩
    rw [hsess]
    exact hne

/-- The first record of the session is marked, if there is one. -/
theorem markAcked_first {session : Nat} (h : markAcked session records = some after)
    (hmem : ∃ r ∈ records, r.sessionRef = session) :
    ∃ first client rest, records = first ++ client :: rest ∧
      after = first ++ { client with isAcked := true } :: rest ∧ client.sessionRef = session ∧
      client.isAcked = false ∧ ∀ r ∈ first, r.sessionRef ≠ session := by
  induction records generalizing after with
  | nil =>
    obtain ⟨r, hr, -⟩ := hmem
    cases hr
  | cons client rest ih =>
    unfold markAcked at h
    split_ifs at h with hsess hacke
    · cases h
      exact ⟨[], client, rest, rfl, rfl, hsess, Bool.eq_false_iff.2 hacke, forall_mem_nil _⟩
    obtain ⟨marked, hmrk, rfl⟩ := Option.map_eq_some_iff.1 h
    obtain ⟨r, hr, hr'⟩ := hmem
    have hrest : r ∈ rest := by
      rcases mem_cons.1 hr with rfl | hin
      · exact absurd hr' hsess
      · exact hin
    obtain ⟨first, found, tail, rfl, rfl, hown, hnot, hfst⟩ := ih hmrk ⟨r, hrest, hr'⟩
    refine ⟨client :: first, found, tail, rfl, rfl, hown, hnot, ?_⟩
    intro r hin
    rcases mem_cons.1 hin with rfl | hin
    · exact hsess
    · exact hfst r hin

theorem countP_markAcked {session : Nat} (h : markAcked session records = some after)
    (hmem : ∃ r ∈ records, r.sessionRef = session) :
    after.countP isAcked = records.countP isAcked + 1 := by
  obtain ⟨first, client, rest, rfl, rfl, -, hnot, -⟩ := markAcked_first h hmem
  rw [countP_append, countP_append, countP_cons_of_pos rfl,
    countP_cons_of_neg (ne_true_of_eq_false hnot)]
  omega

theorem Recorded.marked (h : Recorded clients records told acked) {session ref : Nat}
    {own : Record} (hown : own ∈ records) (hsess : own.sessionRef = session)
    (href : own.nodeStateRef = ref) (hmark : markAcked session records = some after) :
    Recorded clients after told (acked ++ [ref]) := by
  have hkeys : after.map key = records.map key := markAcked_map (fun _ => rfl) hmark
  have hkept : ∀ r ∈ records, ∃ r' ∈ after, r'.sessionRef = r.sessionRef ∧
      r'.nodeStateRef = r.nodeStateRef := by
    intro r hr
    have hin : r.key ∈ after.map key := hkeys ▸ mem_map_of_mem hr
    obtain ⟨r', hr', hkey⟩ := mem_map.1 hin
    exact ⟨r', hr', congrArg Prod.fst hkey, congrArg Prod.snd hkey⟩
  obtain ⟨first, client, rest, hbef, haft, hcl, -, hfst⟩ :=
    markAcked_first hmark ⟨own, hown, hsess⟩
  constructor
  · intro r' hr'
    have hin : r'.key ∈ records.map key := hkeys ▸ mem_map_of_mem hr'
    obtain ⟨r, hr, hkey⟩ := mem_map.1 hin
    have hsame : r.sessionRef = r'.sessionRef := congrArg Prod.fst hkey
    rw [← hsame]
    exact h.sessions r hr
  · rw [hkeys]
    exact h.told
  · have hpair := h.firsts
    rw [hbef, pairwise_append, pairwise_cons] at hpair
    obtain ⟨hone, ⟨hcls, htwo⟩, hacro⟩ := hpair
    rw [haft, pairwise_append, pairwise_cons]
    refine ⟨hone, ⟨hcls, htwo⟩, ?_⟩
    intro r hr later hlate hacke
    rcases mem_cons.1 hlate with rfl | hin
    · dsimp only
      rw [hcl]
      exact hfst r hr
    · exact hacro r hr later (mem_cons_of_mem client hin) hacke
  intro r' hr' hacke
  by_cases hsame : r'.sessionRef = session
  · obtain ⟨own', hown', hsess', href'⟩ := hkept own hown
    refine ⟨own', hown', ?_, ?_⟩
    · rw [hsame, hsess', hsess]
    · rw [href', href]
      exact mem_append_right _ (mem_singleton.2 rfl)
  have hold : r' ∈ records := by
    rw [haft] at hr'
    rw [hbef]
    rcases mem_append.1 hr' with hin | hin
    · exact mem_append_left _ hin
    rcases mem_cons.1 hin with rfl | hin
    · exact absurd hcl hsame
    · exact mem_append_right _ (mem_cons_of_mem client hin)
  obtain ⟨other, hoth, hsess', href'⟩ := h.acks r' hold hacke
  obtain ⟨kept, hkept', hsess'', href''⟩ := hkept other hoth
  refine ⟨kept, hkept', ?_, ?_⟩
  · rw [hsess'', hsess']
  · rw [href'']
    exact mem_append_left _ href'

/-- If all records are marked, all references have been acknowledged. -/
theorem Recorded.all_acked (h : Recorded clients records told acked)
    (hall : ∀ r ∈ records, r.isAcked = true) : ∀ t ∈ told, t.nodeStateRef ∈ acked := by
  intro t ht
  have hkey : t.key ∈ records.map key := h.told ▸ mem_map_of_mem ht
  obtain ⟨r, hr, hrt⟩ := mem_map.1 hkey
  obtain ⟨own, hown, hsess, href⟩ := h.acks r hr (hall r hr)
  have hnd : (records.map sessionRef).Nodup := by
    rw [List.Nodup, pairwise_map]
    exact h.firsts.imp_of_mem fun _ hlate hne => hne (hall _ hlate)
  have heq : own = r := inj_on_of_nodup_map hnd hown hr hsess
  have hsame : r.nodeStateRef = t.nodeStateRef := congrArg Prod.snd hrt
  rw [← hsame, ← heq]
  exact href

end Records

/-! ## The change that waits -/

structure Round (n : NodeStates) (c : Change) : Prop where
  runs : n.stateChangeAckTimerRuns = true
  current : n.currentStateChange = c.state
  states : ∀ r ∈ n.regClientrecrd, r.state = c.state
  few : n.regClientrecrd.length < 256
  counted : n.ackClientrecrdSize = BitVec.ofNat 8 (n.regClientrecrd.countP Record.isAcked)
  ref : n.powerStateRef = c.psRef

structure Waiting (w : Noticed) (old : List Change) (c : Change) : Prop where
  changes : w.changes = old ++ [c]
  answered : ∀ c ∈ old, c.answers.length = 1
  waits : c.answers = []
  reported : w.reported = []
  events : w.service.nodeStates.nodePowerStateChange = []
  round : w.round = some c.psRef
  inRound : Round w.service.nodeStates c

/-- At most the last change is not answered: its event is to be handled, or its round goes on. -/
inductive Phase (w : Noticed) : Prop where
  | quiet (reported : w.reported = []) (events : w.service.nodeStates.nodePowerStateChange = [])
      (answered : ∀ c ∈ w.changes, c.answers.length = 1)
  | reported (old : List Change) (c : Change) (changes : w.changes = old ++ [c])
      (answered : ∀ c ∈ old, c.answers.length = 1) (waits : c.answers = [])
      (reported : w.reported = [c.psRef])
      (events : w.service.nodeStates.nodePowerStateChange = [c.state])
      (ref : w.service.nodeStates.powerStateRef = c.psRef) (round : w.round ≠ some c.psRef)
  | waiting (old : List Change) (c : Change) (inRound : Waiting w old c)

structure Noted (w : Noticed) : Prop where
  handlers : ∀ e ∈ w.service.nodeStates.nodePowerStateHandlerList.entries,
    e.2.sessionRef ∈ w.service.clients
  recorded : Recorded w.service.clients w.service.nodeStates.regClientrecrd w.told w.acked
  safe : w.service.crashed = false
  nodup : (w.changes.map Change.psRef).Nodup
  known : ∀ p ∈ w.round, p ∈ w.changes.map Change.psRef
  phase : Phase w

theorem Noted.answeredOnce (h : Noted w) : AnsweredOnce w := by
  cases h.phase with
  | quiet hrep hevs hansd =>
    refine ⟨fun c hc => .inl (hansd c hc), ?_, h.safe⟩
    rw [hrep, hevs]
    rfl
  | reported old c hchgs hansd hwts hrep hevs href hrnd =>
    refine ⟨?_, ?_, h.safe⟩
    · rw [hchgs]
      intro c' hc'
      rcases mem_append.1 hc' with hold | hlast
      · exact .inl (hansd c' hold)
      · rw [mem_singleton.1 hlast, hrep]
        exact .inr ⟨hwts, .inl (mem_singleton.2 rfl)⟩
    · rw [hrep, hevs]
      rfl
  | waiting old c hw =>
    refine ⟨?_, ?_, h.safe⟩
    · rw [hw.changes]
      intro c' hc'
      rcases mem_append.1 hc' with hold | hlast
      · exact .inl (hw.answered c' hold)
      · rw [mem_singleton.1 hlast]
        exact .inr ⟨hw.waits, .inr ⟨hw.round, hw.inRound.runs⟩⟩
    · rw [hw.reported, hw.events]
      rfl

/-! ## Answers to the changes -/

theorem toPowerState_ne (state : NodePowerState) : toPowerState state ≠ .allAcked := by
  cases state <;> exact nofun

def Unanswering (messages : List Message) : Prop :=
  ∀ psRef state ready, .sendStateChangeAck psRef state ready ∈ messages → state = .allAcked

section Messages

variable {messages others : List Message} {old : List Change} {c : Change}

theorem unanswering_nil : Unanswering [] := nofun

section

variable (h : Unanswering messages)
include h

theorem answersOf_unanswering (psRef : Nat) (state : NodePowerState) :
    answersOf psRef state messages = [] := by
  unfold answersOf
  rw [filterMap_eq_nil_iff]
  intro m hm
  cases m with
  | sendStateChangeAck ref answered ready =>
    have hst := h ref answered ready hm
    refine if_neg fun hown => ?_
    rw [hst] at hown
    exact toPowerState_ne state hown.2.symm
  | setAllVMPowerState state accepted | nodeStateChangePrepare mode | nodeStateChangeReq mode
  | answer contextPtr response result | nodePowerState handlerRef session nodeStateRef state => rfl

theorem hear_unanswering (changes : List Change) :
    changes.map (Noticed.hear messages) = changes := by
  apply (map_congr_left fun c _ => ?_).trans (map_id changes)
  unfold Noticed.hear
  rw [answersOf_unanswering h, append_nil]
  rfl

theorem right_unanswering : ∀ m ∈ messages, RightAnswer w a m := by
  intro m hm
  cases m with
  | sendStateChangeAck psRef state ready => exact fun hne => absurd (h psRef state ready hm) hne
  | setAllVMPowerState state accepted | nodeStateChangePrepare mode | nodeStateChangeReq mode
  | answer contextPtr response result | nodePowerState handlerRef session nodeStateRef state => trivial

end

theorem answersOf_append (psRef : Nat) (state : NodePowerState) :
    answersOf psRef state (messages ++ others) =
      answersOf psRef state messages ++ answersOf psRef state others :=
  filterMap_append

theorem hear_last (h : Unanswering others) (hnd : ((old ++ [c]).map Change.psRef).Nodup)
    (ready : Bool) : (old ++ [c]).map (Noticed.hear
      (others ++ [.sendStateChangeAck c.psRef (toPowerState c.state) ready])) =
      old ++ [{ c with answers := c.answers ++ [ready] }] := by
  rw [map_append]
  congr 1
  · apply (map_congr_left fun c' hc' => ?_).trans (map_id old)
    rw [map_append, nodup_append] at hnd
    have hne : c'.psRef ≠ c.psRef := hnd.2.2 c'.psRef (mem_map_of_mem hc') c.psRef (by simp)
    have hnone : answersOf c'.psRef c'.state
        [.sendStateChangeAck c.psRef (toPowerState c.state) ready] = [] := by
      simp [answersOf, hne.symm]
    unfold Noticed.hear
    rw [answersOf_append, answersOf_unanswering h, hnone, append_nil, append_nil]
    rfl
  · rw [map_singleton]
    unfold Noticed.hear
    rw [answersOf_append, answersOf_unanswering h]
    simp [answersOf]

end Messages

/-- What a step keeps, and what the power management service relies on in it. -/
structure Minded (w : Noticed) (a : Action) : Prop where
  noted : Noted (w.after a)
  right : ∀ m ∈ (perform w.service a).messages, RightAnswer w a m
  refusal : Refusal w a

theorem Minded.answersRight (h : Minded w a) : AnswersRight w a := by
  have haft : ∀ t ∈ notice w a, t = w.after a := by
    intro t ht
    unfold notice at ht
    split at ht
    · cases ht
      rfl
    · cases ht
  constructor
  · intro t ht
    rw [haft t ht]
    exact h.noted.answeredOnce
  · exact fun t _ => h.right
  · exact fun t _ => h.refusal

/-! ## Steps apart from the changes -/

/-- The records and the queue of events are left; clients and handlers may come. -/
structure Leaves (s : State) (o : Outcome) : Prop where
  records : o.state.nodeStates.regClientrecrd = s.nodeStates.regClientrecrd
  size : o.state.nodeStates.ackClientrecrdSize = s.nodeStates.ackClientrecrdSize
  current : o.state.nodeStates.currentStateChange = s.nodeStates.currentStateChange
  runs : o.state.nodeStates.stateChangeAckTimerRuns = s.nodeStates.stateChangeAckTimerRuns
  events : o.state.nodeStates.nodePowerStateChange = s.nodeStates.nodePowerStateChange
  ref : o.state.nodeStates.powerStateRef = s.nodeStates.powerStateRef
  handlers : (∀ e ∈ s.nodeStates.nodePowerStateHandlerList.entries, e.2.sessionRef ∈ s.clients) →
    ∀ e ∈ o.state.nodeStates.nodePowerStateHandlerList.entries, e.2.sessionRef ∈ o.state.clients
  clients : s.clients ⊆ o.state.clients
  crashed : o.state.crashed = s.crashed
  silent : Unanswering o.messages

theorem Round.leaves {s : State} {o : Outcome} {c : Change} (h : Round s.nodeStates c)
    (hlvs : Leaves s o) : Round o.state.nodeStates c := by
  constructor
  · rw [hlvs.runs]
    exact h.runs
  · rw [hlvs.current]
    exact h.current
  · rw [hlvs.records]
    exact h.states
  · rw [hlvs.records]
    exact h.few
  · rw [hlvs.size, hlvs.records]
    exact h.counted
  · rw [hlvs.ref]
    exact h.ref

structure Plain (w : Noticed) (a : Action) : Prop where
  change : a.change = none
  reported : w.reportedAfter (perform w.service a).state a = w.reported
  round : w.roundAfter a = w.round
  told : w.toldAfter (perform w.service a).messages a = w.told
  acked : w.acked ⊆ w.ackedAfter a
  refusal : Refusal w a

theorem Noted.leaves (h : Noted w) (hplai : Plain w a)
    (hlvs : Leaves w.service (perform w.service a)) : Minded w a := by
  have hchgs : (w.after a).changes = w.changes := by
    change (w.changes ++ a.change.toList).map _ = _
    rw [hplai.change, Option.toList_none, append_nil, hear_unanswering hlvs.silent]
  have hrep : (w.after a).reported = w.reported := hplai.reported
  have hrnd : (w.after a).round = w.round := hplai.round
  have htold : (w.after a).told = w.told := hplai.told
  have hevs : (w.after a).service.nodeStates.nodePowerStateChange = _ := hlvs.events
  refine ⟨?_, right_unanswering hlvs.silent, hplai.refusal⟩
  constructor
  · exact hlvs.handlers h.handlers
  · have hrecs : (w.after a).service.nodeStates.regClientrecrd = _ := hlvs.records
    rw [hrecs, htold]
    exact h.recorded.mono hlvs.clients hplai.acked
  · exact hlvs.crashed.trans h.safe
  · rw [hchgs]
    exact h.nodup
  · rw [hrnd, hchgs]
    exact h.known
  cases h.phase with
  | quiet hnone hemp hansd =>
    apply Phase.quiet
    · rw [hrep, hnone]
    · rw [hevs, hemp]
    · rw [hchgs]
      exact hansd
  | reported old c hlast hansd hwts hone hque href hoth =>
    apply Phase.reported old c
    · rw [hchgs, hlast]
    · exact hansd
    · exact hwts
    · rw [hrep, hone]
    · rw [hevs, hque]
    · exact hlvs.ref.trans href
    · rw [hrnd]
      exact hoth
  | waiting old c hw =>
    apply Phase.waiting old c
    constructor
    · rw [hchgs, hw.changes]
    · exact hw.answered
    · exact hw.waits
    · rw [hrep, hw.reported]
    · rw [hevs, hw.events]
    · rw [hrnd, hw.round]
    · exact hw.inRound.leaves hlvs

/-! ## Handlers that leave the node states -/

section Handlers

open State

variable {s : State} {o : Outcome}

structure Apart (s : State) (o : Outcome) : Prop where
  nodeStates : o.state.nodeStates = s.nodeStates
  clients : o.state.clients = s.clients
  crashed : o.state.crashed = s.crashed
  silent : Unanswering o.messages

theorem Apart.leaves (h : Apart s o) : Leaves s o where
  records := congrArg NodeStates.regClientrecrd h.nodeStates
  size := congrArg NodeStates.ackClientrecrdSize h.nodeStates
  current := congrArg NodeStates.currentStateChange h.nodeStates
  runs := congrArg NodeStates.stateChangeAckTimerRuns h.nodeStates
  events := congrArg NodeStates.nodePowerStateChange h.nodeStates
  ref := congrArg NodeStates.powerStateRef h.nodeStates
  handlers := fun hs e he => by
    rw [h.clients]
    apply hs e
    rw [← h.nodeStates]
    exact he
  clients := fun session hsess => by
    rw [h.clients]
    exact hsess
  crashed := h.crashed
  silent := h.silent

theorem unanswering_single {m : Message}
    (h : ∀ psRef state ready, m = .sendStateChangeAck psRef state ready → state = .allAcked) :
    Unanswering [m] := by
  intro psRef state ready hm
  exact h psRef state ready (mem_singleton.1 hm).symm

theorem apart_aside (h : Aside s o) : Apart s o :=
  ⟨h.nodeStates, h.clients, h.crashed, fun _ _ _ hm => nomatch all_eq_true.1 h.messages _ hm⟩

theorem apart_sets (h : Sets s o) : Apart s o := by
  obtain ⟨hnode, hcls, hcrsh, -⟩ := h.rest
  exact ⟨hnode, hcls, hcrsh, fun _ _ _ hm => nomatch all_eq_true.1 h.messages _ hm⟩

theorem apart_ofClient (session : Nat) (f : Power → Power) :
    Apart s ⟨s.ofClient session f, []⟩ := by
  unfold ofClient
  split <;> exact ⟨rfl, rfl, rfl, unanswering_nil⟩

/-- The actions that are not about node power states or sessions. -/
def Action.other : Action → Bool
  | .clientConnection .. | .clientDisconnection .. | .stateChangeEx .. | .nodePowerStateChanged
  | .addHandler .. | .removeHandler _ | .sendAck .. | .stateChangeAckTimer => false
  | _ => true

theorem apart_other (h : a.other = true) : Apart s (perform s a) := by
  cases a with
  | clientConnection | clientDisconnection | stateChangeEx | nodePowerStateChanged | addHandler
  | removeHandler | sendAck | stateChangeAckTimer => cases h
  | pmVhalReady | wakeSourceTimer => exact ⟨rfl, rfl, rfl, unanswering_nil⟩
  | createWakeupSource session | deleteWakeupSource session | stayAwake session | relax session =>
    exact apart_ofClient session _
  | authorizeStayAwakeReason => exact ⟨rfl, rfl, rfl, unanswering_nil⟩
  | createNodeWakeupSource session | deleteNodeWakeupSource session | stayAwakeNode session
  | relaxNode session | setNodeTargetedPowerMode session => exact apart_ofClient session _
  | vhalStayAwake | vhalRelax => exact ⟨rfl, rfl, rfl, unanswering_nil⟩
  | shutdownReqAsync session reason env =>
    exact apart_aside (aside_shutdownReqAsync session reason env)
  | restartReqAsync session mode reason env =>
    exact apart_aside (aside_restartReqAsync session mode reason env)
  | shutdownNode session env =>
    change Apart s (if session ∈ s.clients then s.shutdownNode env else ⟨s, []⟩)
    split
    · exact apart_sets (sets_shutdownNode env)
    · exact ⟨rfl, rfl, rfl, unanswering_nil⟩
  | restartNode session env =>
    change Apart s (if session ∈ s.clients then s.restartNode env else ⟨s, []⟩)
    split
    · exact apart_sets (sets_restartNode env)
    · exact ⟨rfl, rfl, rfl, unanswering_nil⟩
  | vhalPrepareResp payload env => exact apart_aside (aside_prepareResp payload env)
  | vhalAckTimer env => exact apart_aside (aside_vhalAckTimerHandler env)
  | vhalStateChangeResp =>
    refine ⟨rfl, rfl, rfl, unanswering_single ?_⟩
    intro psRef state ready heq
    cases heq
    rfl

theorem plain_other (h : a.other = true) : Plain w a := by
  cases a <;> first | exact ⟨rfl, rfl, rfl, rfl, List.Subset.refl _, trivial⟩ | cases h

end Handlers

theorem minded_other (h : Noted w) (hoth : a.other = true) : Minded w a :=
  h.leaves (plain_other hoth) (apart_other hoth).leaves

/-! ## Sessions and handlers -/

variable {session : Nat}

theorem minded_clientConnection {allocated : Bool} (h : Noted w) :
    Minded w (.clientConnection session allocated) := by
  refine h.leaves ⟨rfl, rfl, rfl, rfl, List.Subset.refl _, trivial⟩ ?_
  change Leaves w.service ⟨w.service.clientConnection session allocated, []⟩
  unfold clientConnection
  split
  · refine ⟨rfl, rfl, rfl, rfl, rfl, rfl, ?_, ?_, rfl, unanswering_nil⟩
    · exact fun hs e he => mem_append_left _ (hs e he)
    · exact subset_append_left _ _
  · exact ⟨rfl, rfl, rfl, rfl, rfl, rfl, id, List.Subset.refl _, rfl, unanswering_nil⟩

theorem minded_addHandler {stateMask : BitVec 32} {old : Option Nat} (h : Noted w) :
    Minded w (.addHandler session stateMask old) := by
  refine h.leaves ⟨rfl, rfl, rfl, rfl, List.Subset.refl _, trivial⟩ ?_
  change Leaves w.service (w.service.addNodePowerStateChangeHandler session stateMask old)
  have hcrea : ∀ handler : Handler, handler.sessionRef = session →
      session ∈ w.service.clients →
      ∀ e ∈ (w.service.nodeStates.nodePowerStateHandlerList.create handler).entries,
        e.2.sessionRef ∈ w.service.clients := by
    intro handler hsess hcl e he
    rcases mem_append.1 he with hold | hnew
    · exact h.handlers e hold
    · rw [mem_singleton.1 hnew, hsess]
      exact hcl
  unfold addNodePowerStateChangeHandler
  dsimp only
  split
  case isTrue => exact ⟨rfl, rfl, rfl, rfl, rfl, rfl, id, List.Subset.refl _, rfl, unanswering_nil⟩
  case isFalse hvalid =>
    have hcl : session ∈ w.service.clients := not_not.1 (not_or.1 hvalid).1
    split
    · refine ⟨rfl, rfl, rfl, rfl, rfl, rfl, fun _ => ?_, List.Subset.refl _, rfl,
        unanswering_single nofun⟩
      exact hcrea ⟨session, stateMask, _⟩ rfl hcl
    · refine ⟨rfl, rfl, rfl, rfl, rfl, rfl, fun _ => ?_, List.Subset.refl _, rfl, unanswering_nil⟩
      exact hcrea ⟨session, stateMask, old⟩ rfl hcl

theorem minded_removeHandler {handlerRef : Nat} (h : Noted w) :
    Minded w (.removeHandler handlerRef) := by
  refine h.leaves ⟨rfl, rfl, rfl, rfl, List.Subset.refl _, trivial⟩ ?_
  refine ⟨rfl, rfl, rfl, rfl, rfl, rfl, fun hs e he => ?_, List.Subset.refl _, rfl, unanswering_nil⟩
  exact hs e (mem_of_mem_filter he)

theorem unanswered_of_waiting {old : List Change} {c : Change} (h : Waiting w old c) :
    w.unanswered = true := by
  unfold Noticed.unanswered
  rw [h.changes, any_append, Bool.or_eq_true_iff]
  right
  simp [h.round, h.waits]

theorem Noted.waiting_of_unanswered (h : Noted w) (hun : w.unanswered = true) :
    ∃ old c, Waiting w old c := by
  obtain ⟨c', hc', hopen⟩ := any_eq_true.1 hun
  obtain ⟨hrnd', hnone⟩ := Bool.and_eq_true_iff.1 hopen
  have hemp : c'.answers = [] := of_decide_eq_true hnone
  have hlen : c'.answers.length ≠ 1 := by
    rw [hemp]
    exact nofun
  cases h.phase with
  | quiet hrep hevs hansd => exact absurd (hansd c' hc') hlen
  | reported old c hchgs hansd hwts hrep hevs href hrnd =>
    rw [hchgs] at hc'
    rcases mem_append.1 hc' with hold | hlast
    · exact absurd (hansd c' hold) hlen
    · rw [mem_singleton.1 hlast] at hrnd'
      exact absurd (of_decide_eq_true hrnd') hrnd
  | waiting old c hwait => exact ⟨old, c, hwait⟩

/-- A client that leaves takes its handlers and its records with it. -/
theorem nodeStates_clientLeaves {s : State} (env : Nat → PmsEnv)
    (nodeOk : Nat → Bool) (hcl : session ∈ s.clients) :
    (s.clientDisconnection session env nodeOk).clients = s.clients.filter (· ≠ session) ∧
      (s.clientDisconnection session env nodeOk).crashed = s.crashed ∧
      (s.clientDisconnection session env nodeOk).nodeStates = { s.nodeStates with
        regClientrecrd := s.nodeStates.regClientrecrd.filter fun r => r.sessionRef ≠ session
        nodePowerStateHandlerList := s.nodeStates.nodePowerStateHandlerList.filterRefs
          fun _ handler => handler.sessionRef ≠ session } := by
  unfold clientDisconnection
  rw [if_neg (not_not.2 hcl)]
  exact ⟨rfl, rfl, rfl⟩

theorem minded_clientLeaves {env : Nat → PmsEnv} {nodeOk : Nat → Bool}
    (h : Noted w) (hcare : CarefulAcks w (.clientDisconnection session env nodeOk)) :
    Minded w (.clientDisconnection session env nodeOk) := by
  by_cases hcl : session ∈ w.service.clients
  · obtain ⟨hcls, hcrsh, hnode⟩ := nodeStates_clientLeaves env nodeOk hcl
    have haft : w.after (.clientDisconnection session env nodeOk) =
        ⟨w.service.clientDisconnection session env nodeOk, w.changes, w.reported, w.round,
          w.told.filter fun t => t.sessionRef ≠ session, w.acked⟩ := by
      have hchgs : (w.changes ++ []).map (Noticed.hear []) = w.changes := by
        rw [append_nil, hear_unanswering unanswering_nil]
      exact congrArg (fun changes => (⟨_, changes, _, _, _, _⟩ : Noticed)) hchgs
    refine ⟨?_, nofun, trivial⟩
    rw [haft]
    constructor
    · dsimp only
      rw [hnode, hcls]
      intro e he
      obtain ⟨hold, hne⟩ := mem_filter.1 he
      exact mem_filter.2 ⟨h.handlers e hold, hne⟩
    · dsimp only
      rw [hnode, hcls]
      exact h.recorded.left session
    · exact hcrsh.trans h.safe
    · exact h.nodup
    · exact h.known
    cases h.phase with
    | quiet hrep hemp hansd =>
      refine .quiet hrep ?_ hansd
      rw [hnode, hemp]
    | reported old c hlast hansd hwts hrep hque href hrnd =>
      refine .reported old c hlast hansd hwts hrep ?_ ?_ hrnd
      · dsimp only
        rw [hnode, hque]
      · dsimp only
        rw [hnode, href]
    | waiting old c hw =>
      apply Phase.waiting old c
      refine ⟨hw.changes, hw.answered, hw.waits, hw.reported, ?_, hw.round, ?_⟩
      · dsimp only
        rw [hnode, hw.events]
      rw [hnode]
      refine ⟨hw.inRound.runs, hw.inRound.current, ?_, ?_, ?_, hw.inRound.ref⟩
      · exact fun r hr => hw.inRound.states r (mem_of_mem_filter hr)
      · exact Nat.lt_of_le_of_lt (length_filter_le _ _) hw.inRound.few
      refine hw.inRound.counted.trans (congrArg (BitVec.ofNat 8) ?_)
      rw [countP_filter]
      apply countP_congr
      intro r hr
      have hsty := hcare (unanswered_of_waiting hw) r hr
      simp only [Bool.and_eq_true, decide_eq_true_eq]
      exact ⟨fun hacke => ⟨hacke, hsty hacke⟩, And.left⟩
  · have hpfm : perform w.service (.clientDisconnection session env nodeOk) = ⟨w.service, []⟩ := by
      change (⟨clientDisconnection _ _ _ _, []⟩ : Outcome) = _
      unfold clientDisconnection
      rw [if_pos hcl]
    have htold : w.told.filter (fun t => t.sessionRef ≠ session) = w.told := by
      rw [filter_eq_self]
      intro t ht
      have hkey : t.key ∈ w.service.nodeStates.regClientrecrd.map key :=
        h.recorded.told ▸ mem_map_of_mem ht
      obtain ⟨r, hr, hrt⟩ := mem_map.1 hkey
      have hsame : r.sessionRef = t.sessionRef := congrArg Prod.fst hrt
      apply decide_eq_true
      intro heq
      rw [← heq, ← hsame] at hcl
      exact hcl (h.recorded.sessions r hr)
    refine h.leaves ⟨rfl, rfl, rfl, htold, List.Subset.refl _, trivial⟩ ?_
    rw [hpfm]
    exact ⟨rfl, rfl, rfl, rfl, rfl, rfl, id, List.Subset.refl _, rfl, unanswering_nil⟩

/-! ## Notifications -/

section Answers

variable {old : List Change} {c : Change} {others : List Message} {ready : Bool}

theorem changes_answered (old : List Change) (hall : w.changes ++ a.change.toList = old ++ [c])
    (hnd : ((old ++ [c]).map Change.psRef).Nodup) (hoths : Unanswering others)
    (hmsgs : (perform w.service a).messages =
      others ++ [.sendStateChangeAck c.psRef (toPowerState c.state) ready]) :
    (w.after a).changes = old ++ [{ c with answers := c.answers ++ [ready] }] := by
  change (w.changes ++ a.change.toList).map (Noticed.hear (perform w.service a).messages) = _
  rw [hall, hmsgs]
  exact hear_last hoths hnd ready

variable (hchgs : (w.after a).changes = old ++ [{ c with answers := c.answers ++ [ready] }])
include hchgs

theorem right_answered
    (hoths : Unanswering others) (hmsgs : (perform w.service a).messages =
      others ++ [.sendStateChangeAck c.psRef (toPowerState c.state) ready])
    (hrdy : ready = true → (w.after a).round = some c.psRef ∧
      (a.expires = true ∨ (w.after a).AllAcked)) :
    ∀ m ∈ (perform w.service a).messages, RightAnswer w a m := by
  rw [hmsgs]
  intro m hm
  rcases mem_append.1 hm with hfst | hlast
  · exact right_unanswering hoths m hfst
  rw [mem_singleton.1 hlast]
  intro _
  refine ⟨⟨{ c with answers := c.answers ++ [ready] }, ?_, rfl, rfl⟩, hrdy⟩
  rw [hchgs]
  exact mem_append_right _ (mem_singleton.2 rfl)

/-- With the answer to the last change, all changes are answered. -/
theorem phase_answered (hansd : ∀ c ∈ old, c.answers.length = 1) (hwts : c.answers = [])
    (hrep : (w.after a).reported = [])
    (hevs : (w.after a).service.nodeStates.nodePowerStateChange = []) : Phase (w.after a) := by
  apply Phase.quiet hrep hevs
  rw [hchgs]
  intro c' hc'
  rcases mem_append.1 hc' with hold | hlast
  · exact hansd c' hold
  rw [mem_singleton.1 hlast]
  rw [hwts]
  rfl

theorem refs_answered : (w.after a).changes.map Change.psRef = (old ++ [c]).map Change.psRef := by
  rw [hchgs, map_append, map_append]
  rfl

end Answers

theorem Noted.quiet (h : Noted w) (hqui : w.quiet = true) : w.reported = [] ∧
    w.service.nodeStates.nodePowerStateChange = [] ∧
      ∀ c ∈ w.changes, c.answers.length = 1 := by
  have hans : ∀ c ∈ w.changes, c.answers ≠ [] :=
    fun c hc => of_decide_eq_true (all_eq_true.1 hqui c hc)
  cases h.phase with
  | quiet hrep hevs hansd => exact ⟨hrep, hevs, hansd⟩
  | reported old c hchgs hansd hwts =>
    refine absurd hwts (hans c ?_)
    rw [hchgs]
    exact mem_append_right _ (mem_singleton.2 rfl)
  | waiting old c hw =>
    refine absurd hw.waits (hans c ?_)
    rw [hw.changes]
    exact mem_append_right _ (mem_singleton.2 rfl)

section Notifications

variable {psRef : Nat} {state : PowerState} {env : PmsEnv} {st : NodePowerState}

theorem psRef_of_fresh (hfr : w.fresh (.stateChangeEx psRef state env) = true) :
    psRef ∉ w.changes.map Change.psRef := by
  intro hmem
  obtain ⟨c, hc, heq⟩ := mem_map.1 hmem
  have hne := of_decide_eq_true (all_eq_true.1 hfr c hc)
  exact hne (congrArg some heq.symm)

theorem nodup_notified (h : Noted w) (hfr : w.fresh (.stateChangeEx psRef state env) = true) :
    ((w.changes ++ [Change.mk psRef st []]).map Change.psRef).Nodup := by
  rw [map_append, nodup_append]
  refine ⟨h.nodup, by simp, ?_⟩
  intro ref href other hoth heq
  rw [map_singleton, mem_singleton] at hoth
  rw [heq, hoth] at href
  exact psRef_of_fresh hfr href

theorem minded_passed (h : Noted w) (hqui : w.quiet = true) (hst : nodeState state = none)
    (hapar : Apart (w.service.setPowerStateRef psRef)
      (perform w.service (.stateChangeEx psRef state env))) :
    Minded w (.stateChangeEx psRef state env) := by
  obtain ⟨hrep, hevs, hansd⟩ := h.quiet hqui
  have hlvs := hapar.leaves
  have hchg : (Action.stateChangeEx psRef state env).change = none := by
    change (nodeState state).map _ = _
    rw [hst]
    rfl
  have hchgs : (w.after (.stateChangeEx psRef state env)).changes = w.changes := by
    change (w.changes ++ Option.toList _).map _ = _
    rw [hchg, Option.toList_none, append_nil, hear_unanswering hapar.silent]
  have hque : (w.after (.stateChangeEx psRef state env)).service.nodeStates.nodePowerStateChange =
      w.service.nodeStates.nodePowerStateChange := hlvs.events
  refine ⟨?_, right_unanswering hapar.silent, trivial⟩
  constructor
  · exact hlvs.handlers h.handlers
  · have hrecs : (w.after (.stateChangeEx psRef state env)).service.nodeStates.regClientrecrd =
        w.service.nodeStates.regClientrecrd := hlvs.records
    rw [hrecs]
    exact h.recorded.mono hlvs.clients (List.Subset.refl _)
  · exact hlvs.crashed.trans h.safe
  · rw [hchgs]
    exact h.nodup
  · rw [hchgs]
    exact h.known
  apply Phase.quiet
  · change (if _ < (w.after _).service.nodeStates.nodePowerStateChange.length then _ else _) = _
    rw [hque, if_neg (Nat.lt_irrefl _), hrep]
  · exact hque.trans hevs
  · rw [hchgs]
    exact hansd

theorem minded_reported (st : NodePowerState) (h : Noted w) (hqui : w.quiet = true)
    (hfr : w.fresh (.stateChangeEx psRef state env) = true) (hst : nodeState state = some st)
    (hcls : (perform w.service (.stateChangeEx psRef state env)).state.clients = w.service.clients)
    (hcrsh : (perform w.service (.stateChangeEx psRef state env)).state.crashed = w.service.crashed)
    (hmsgs : (perform w.service (.stateChangeEx psRef state env)).messages = [])
    (hnode : (perform w.service (.stateChangeEx psRef state env)).state.nodeStates =
      { w.service.nodeStates with
        powerStateRef := psRef
        nodePowerStateChange := w.service.nodeStates.nodePowerStateChange ++ [st] }) :
    Minded w (.stateChangeEx psRef state env) := by
  obtain ⟨hrep, hevs, hansd⟩ := h.quiet hqui
  have hchg : (Action.stateChangeEx psRef state env).change = some ⟨psRef, st, []⟩ := by
    change (nodeState state).map _ = _
    rw [hst]
    rfl
  have hchgs : (w.after (.stateChangeEx psRef state env)).changes =
      w.changes ++ [⟨psRef, st, []⟩] := by
    change (w.changes ++ Option.toList _).map (Noticed.hear (perform w.service _).messages) = _
    rw [hchg, hmsgs, hear_unanswering unanswering_nil]
    rfl
  have haft : (w.after (.stateChangeEx psRef state env)).service.nodeStates = _ := hnode
  have hstil : (w.after (.stateChangeEx psRef state env)).service.clients = _ := hcls
  refine ⟨?_, ?_, trivial⟩
  · constructor
    · rw [haft, hstil]
      exact h.handlers
    · rw [haft, hstil]
      exact h.recorded
    · exact hcrsh.trans h.safe
    · rw [hchgs]
      exact nodup_notified h hfr
    · rw [hchgs, map_append]
      exact fun p hp => mem_append_left _ (h.known p hp)
    apply Phase.reported w.changes ⟨psRef, st, []⟩ hchgs hansd rfl
    · change (if _ < (w.after _).service.nodeStates.nodePowerStateChange.length then _ else _) = _
      rw [haft, hevs, hrep]
      rfl
    · rw [haft, hevs]
      rfl
    · rw [haft]
    · exact fun hrnd => psRef_of_fresh hfr (h.known psRef hrnd)
  · rw [hmsgs]
    exact nofun

theorem minded_refused (h : Noted w) (hqui : w.quiet = true)
    (hfr : w.fresh (.stateChangeEx psRef .suspend env) = true) (hws : w.service.power.wsCount ≠ 0)
    (hlock : w.service.power.powerMode.isWsAcquired = false) :
    Minded w (.stateChangeEx psRef .suspend env) := by
  obtain ⟨hrep, hevs, hansd⟩ := h.quiet hqui
  have hpfm : perform w.service (.stateChangeEx psRef .suspend env) =
      ⟨(w.service.setPowerStateRef psRef).setPower
        (if env.stayAwake then w.service.power.pmsStayAwake else w.service.power),
        [.sendStateChangeAck psRef .suspend false]⟩ := by
    change (w.service.setPowerStateRef psRef).suspendNotified env = _
    unfold suspendNotified
    rw [if_pos (show (w.service.setPowerStateRef psRef).power.wsCount ≠ 0 from hws),
      if_neg (show ¬ (w.service.setPowerStateRef psRef).power.powerMode.isWsAcquired = true from
        ne_true_of_eq_false hlock)]
    rfl
  have hmsgs : (perform w.service (.stateChangeEx psRef .suspend env)).messages =
      [] ++ [.sendStateChangeAck psRef .suspend false] := congrArg Outcome.messages hpfm
  have hsvc : (w.after (.stateChangeEx psRef .suspend env)).service =
      (w.service.setPowerStateRef psRef).setPower
        (if env.stayAwake then w.service.power.pmsStayAwake else w.service.power) :=
    congrArg Outcome.state hpfm
  have hchgs := changes_answered w.changes (c := ⟨psRef, .suspendPrepare, []⟩) rfl
    (nodup_notified h hfr) unanswering_nil hmsgs
  refine ⟨?_, right_answered hchgs unanswering_nil hmsgs nofun, trivial⟩
  constructor
  · rw [hsvc]
    exact h.handlers
  · rw [hsvc]
    exact h.recorded
  · rw [hsvc]
    exact h.safe
  · rw [refs_answered hchgs]
    exact nodup_notified h hfr
  · rw [refs_answered hchgs, map_append]
    exact fun p hp => mem_append_left _ (h.known p hp)
  apply phase_answered hchgs hansd rfl
  · change (if _ < (w.after _).service.nodeStates.nodePowerStateChange.length then _ else _) = _
    rw [hsvc]
    exact (if_neg (Nat.lt_irrefl _)).trans hrep
  · rw [hsvc]
    exact hevs

theorem minded_stateChangeEx (h : Noted w)
    (hcare : CarefulAcks w (.stateChangeEx psRef state env))
    (hfr : w.fresh (.stateChangeEx psRef state env) = true) :
    Minded w (.stateChangeEx psRef state env) := by
  obtain ⟨hqui, hrprt⟩ := hcare
  cases state with
  | unknown => exact minded_passed h hqui rfl ⟨rfl, rfl, rfl, unanswering_nil⟩
  | allWakelocksReleased =>
    exact minded_passed h hqui rfl
      (apart_sets (sets_allReleased (s := w.service.setPowerStateRef psRef) env))
  | allAcked =>
    apply minded_passed h hqui rfl
    change Apart _ (w.service.stateChangeExHandler psRef .allAcked env)
    unfold stateChangeExHandler
    dsimp only
    split
    · refine ⟨rfl, rfl, rfl, unanswering_single ?_⟩
      intro ref state ready heq
      cases heq
      rfl
    · split
      · exact apart_sets sets_allAcked
      · exact ⟨rfl, rfl, rfl, unanswering_nil⟩
  | suspend =>
    by_cases hws : w.service.power.wsCount = 0
    · have hpfm : perform w.service (.stateChangeEx psRef .suspend env) =
          ⟨((w.service.setPowerStateRef psRef).enter .suspend).reportNodePowerStateChange
            .suspendPrepare, []⟩ := by
        change (w.service.setPowerStateRef psRef).suspendNotified env = _
        unfold suspendNotified
        rw [if_neg (not_not.2 (show (w.service.setPowerStateRef psRef).power.wsCount = 0 from hws))]
      apply minded_reported .suspendPrepare h hqui hfr rfl <;> rw [hpfm] <;> rfl
    · exact minded_refused h hqui hfr hws (hrprt hws)
  | shutdown =>
    have hpfm : perform w.service (.stateChangeEx psRef .shutdown env) =
        ⟨((w.service.setPowerStateRef psRef).enter .shutdown).reportNodePowerStateChange
          .shutdownPrepare, []⟩ := by
      exact congrArg (fun s => (⟨s, []⟩ : Outcome)) (if_pos hrprt)
    apply minded_reported .shutdownPrepare h hqui hfr rfl <;> rw [hpfm] <;> rfl
  | restart =>
    have hpfm : perform w.service (.stateChangeEx psRef .restart env) =
        ⟨((w.service.setPowerStateRef psRef).enter .restart).reportNodePowerStateChange
          .restartPrepare, []⟩ := by
      exact congrArg (fun s => (⟨s, []⟩ : Outcome)) (if_pos hrprt)
    apply minded_reported .restartPrepare h hqui hfr rfl <;> rw [hpfm] <;> rfl
  | resume =>
    have hws : ((w.service.setPowerStateRef psRef).enter .resume).power.wsCount ≠ 0 := by
      have hsame : (w.service.power.processStateChange .resume).wsCount = w.service.power.wsCount := by
        unfold Power.processStateChange
        dsimp only
        split <;> rfl
      exact fun hzero => hrprt (hsame.symm.trans hzero)
    have hpfm : perform w.service (.stateChangeEx psRef .resume env) =
        ⟨((w.service.setPowerStateRef psRef).enter .resume).reportNodePowerStateChange .resume, []⟩ := by
      exact congrArg (fun s => (⟨s, []⟩ : Outcome)) (if_neg hws)
    apply minded_reported .resume h hqui hfr rfl <;> rw [hpfm] <;> rfl

end Notifications

/-! ## Events -/

section Events

variable {s : State} {state : NodePowerState}

def toldOf (e : (Nat × Handler) × Nat) : Told := ⟨e.1.1, e.1.2.sessionRef, e.2⟩

def recordOf (state : NodePowerState) (e : (Nat × Handler) × Nat) : Record :=
  ⟨e.2, e.1.2.sessionRef, state, false⟩

def messageOf (state : NodePowerState) (e : (Nat × Handler) × Nat) : Message :=
  .nodePowerState e.1.1 e.1.2.sessionRef e.2 state

theorem unanswering_told (told : List ((Nat × Handler) × Nat)) :
    Unanswering (told.map (messageOf state)) := by
  intro psRef answered ready hm
  obtain ⟨e, -, heq⟩ := mem_map.1 hm
  cases heq

theorem toldIn_messages (told : List ((Nat × Handler) × Nat)) :
    toldIn (told.map (messageOf state)) = told.map toldOf := by
  unfold toldIn
  rw [filterMap_map]
  exact congrFun filterMap_eq_map told

theorem recorded_told {told : List ((Nat × Handler) × Nat)} {clients : List Nat}
    (h : ∀ e ∈ told, e.1.2.sessionRef ∈ clients) :
    Recorded clients (told.map (recordOf state)) (told.map toldOf) [] where
  sessions := by
    intro r hr
    obtain ⟨e, he, rfl⟩ := mem_map.1 hr
    exact h e he
  told := by
    rw [map_map, map_map]
    rfl
  firsts := by
    rw [pairwise_map]
    exact pairwise_of_forall fun _ _ => nofun
  acks := by
    intro r hr hacke
    obtain ⟨e, -, rfl⟩ := mem_map.1 hr
    cases hacke

theorem mem_numbered {e : (Nat × Handler) × Nat} (h : e ∈ s.numbered state) :
    e.1 ∈ s.nodeStates.nodePowerStateHandlerList.entries :=
  mem_of_mem_filter (mem_reverse.1 (fst_mem_of_mem_zipIdx h))

theorem length_numbered : (s.numbered state).length = (s.configuredHandlers state).length :=
  length_zipIdx

theorem callHandler_none (h : s.numbered state = []) :
    s.callNodePowerStateHandlerFunc state = ⟨s.setNodeStates { s.nodeStates with
      regClientrecrd := [], ackClientrecrdSize := 0, clientSize :=
        0 }, [s.sendAckToPms state true]⟩ := by
  unfold callNodePowerStateHandlerFunc
  rw [h]
  rfl

theorem callHandler_some (hsome : s.numbered state ≠ [])
    (hfew : (s.numbered state).length < 256) : s.callNodePowerStateHandlerFunc state =
      ⟨s.setNodeStates { s.nodeStates with
        regClientrecrd := (s.numbered state).map (recordOf state)
        ackClientrecrdSize := 0
        clientSize := BitVec.ofNat 8 (s.numbered state).length
        nextNodeStateRef := s.nodeStates.nextNodeStateRef + (s.numbered state).length
        currentStateChange := state
        stateChangeAckTimerRuns := true }, (s.numbered state).map (messageOf state)⟩ := by
  have hsize : BitVec.ofNat 8 (s.numbered state).length ≠ 0 := by
    intro hzero
    have hnat := congrArg BitVec.toNat hzero
    rw [BitVec.toNat_ofNat, Nat.mod_eq_of_lt hfew] at hnat
    exact hsome (length_eq_zero_iff.1 hnat)
  exact if_neg hsize

/-- The event of the state is taken from the queue. -/
def State.takeEvent (s : State) (state : NodePowerState) : State :=
  s.setNodeStates { s.nodeStates with nodePowerStateChange := [], currentNodePowerState := state }

variable {old : List Change} {c : Change}

theorem perform_nodeStateChanged
    (hevs : w.service.nodeStates.nodePowerStateChange = [c.state]) :
    perform w.service .nodePowerStateChanged =
      (w.service.takeEvent c.state).callNodePowerStateHandlerFunc c.state := by
  change w.service.nodePowerStateChanged = _
  unfold nodePowerStateChanged
  rw [hevs]
  rfl

section Taken

variable (h : Noted w) (hchgs : w.changes = old ++ [c])
  (hansd : ∀ c ∈ old, c.answers.length = 1) (hwts : c.answers = [])
  (hrep : w.reported = [c.psRef])
  (hevs : w.service.nodeStates.nodePowerStateChange = [c.state])
  (href : w.service.nodeStates.powerStateRef = c.psRef)
include h hchgs hansd hwts hrep hevs href

/-- Without handlers the change is answered at once. -/
theorem minded_noHandlers (hnone : (w.service.takeEvent c.state).numbered c.state = []) :
    Minded w .nodePowerStateChanged := by
  have hpfm := perform_nodeStateChanged hevs
  have hrnd : (w.after .nodePowerStateChanged).round = some c.psRef := by
    change w.reported.head? = _
    rw [hrep]
    rfl
  have hrepo : (w.after .nodePowerStateChanged).reported = [] := by
    change w.reported.tail = _
    rw [hrep]
    rfl
  have hack : (w.service.takeEvent c.state).sendAckToPms c.state true =
      .sendStateChangeAck c.psRef (toPowerState c.state) true := by
    rw [← href]
    rfl
  rw [callHandler_none hnone, hack] at hpfm
  have hsvc : (w.after .nodePowerStateChanged).service = _ := congrArg Outcome.state hpfm
  have hmsgs : (perform w.service .nodePowerStateChanged).messages = [] ++ [_] :=
    congrArg Outcome.messages hpfm
  have htold : (w.after .nodePowerStateChanged).told = [] := by
    change toldIn (perform w.service _).messages = _
    rw [hmsgs]
    rfl
  have haft := changes_answered old (c := c) ((append_nil _).trans hchgs)
    (hchgs ▸ h.nodup) unanswering_nil hmsgs
  have hrefs : (w.after .nodePowerStateChanged).changes.map Change.psRef =
      w.changes.map Change.psRef := by rw [refs_answered haft, hchgs]
  refine ⟨?_, right_answered haft unanswering_nil hmsgs fun _ => ⟨hrnd, .inr ?_⟩, trivial⟩
  · constructor
    · rw [hsvc]
      exact h.handlers
    · rw [hsvc, htold]
      exact (recorded_told nofun : Recorded _ (([] : List _).map (recordOf c.state)) ([].map toldOf) [])
    · rw [hsvc]
      exact h.safe
    · rw [hrefs]
      exact h.nodup
    · rw [hrefs, hrnd, hchgs]
      intro p hp
      cases hp
      exact mem_map_of_mem (mem_append_right _ (mem_singleton.2 rfl))
    · apply phase_answered haft hansd hwts hrepo
      rw [hsvc]
      rfl
  · unfold Noticed.AllAcked
    rw [htold]
    exact nofun

/-- The handlers are told, and the change waits for their clients. -/
theorem minded_toldHandlers (hsome : (w.service.takeEvent c.state).numbered c.state ≠ [])
    (hfew : ((w.service.takeEvent c.state).numbered c.state).length < 256) :
    Minded w .nodePowerStateChanged := by
  have hpfm := perform_nodeStateChanged hevs
  rw [callHandler_some hsome hfew] at hpfm
  have hrnd : (w.after .nodePowerStateChanged).round = some c.psRef := by
    change w.reported.head? = _
    rw [hrep]
    rfl
  have hrepo : (w.after .nodePowerStateChanged).reported = [] := by
    change w.reported.tail = _
    rw [hrep]
    rfl
  have hsvc : (w.after .nodePowerStateChanged).service = _ := congrArg Outcome.state hpfm
  have hmsgs : (perform w.service .nodePowerStateChanged).messages = _ :=
    congrArg Outcome.messages hpfm
  have hsil : Unanswering (perform w.service .nodePowerStateChanged).messages := by
    rw [hmsgs]
    exact unanswering_told _
  have htold : (w.after .nodePowerStateChanged).told =
      ((w.service.takeEvent c.state).numbered c.state).map toldOf := by
    change toldIn (perform w.service _).messages = _
    rw [hmsgs]
    exact toldIn_messages _
  have haft : (w.after .nodePowerStateChanged).changes = w.changes := by
    change (w.changes ++ []).map (Noticed.hear (perform w.service _).messages) = _
    rw [append_nil, hear_unanswering hsil]
  refine ⟨?_, right_unanswering hsil, trivial⟩
  constructor
  · rw [hsvc]
    exact h.handlers
  · rw [hsvc, htold]
    exact recorded_told fun e he => h.handlers e.1 (mem_numbered he)
  · rw [hsvc]
    exact h.safe
  · rw [haft]
    exact h.nodup
  · rw [haft, hrnd, hchgs]
    intro p hp
    cases hp
    exact mem_map_of_mem (mem_append_right _ (mem_singleton.2 rfl))
  apply Phase.waiting old c
  refine ⟨haft.trans hchgs, hansd, hwts, hrepo, ?_, hrnd, ?_⟩
  · rw [hsvc]
    rfl
  rw [hsvc]
  refine ⟨rfl, rfl, ?_, ?_, ?_, href⟩
  · intro r hr
    obtain ⟨e, -, rfl⟩ := mem_map.1 hr
    rfl
  · change (map _ _).length < 256
    rw [length_map]
    exact hfew
  · change 0 = BitVec.ofNat 8 (countP _ (map (recordOf c.state) _))
    rw [countP_map, countP_eq_zero.2]
    · rfl
    · exact fun _ _ => nofun

end Taken

theorem minded_nodeStateChanged (h : Noted w) (hcare : CarefulAcks w .nodePowerStateChanged)
    (hque : w.service.nodeStates.nodePowerStateChange ≠ []) : Minded w .nodePowerStateChanged := by
  cases h.phase with
  | quiet hrep hevs hansd => exact absurd hevs hque
  | waiting old c hw => exact absurd hw.events hque
  | reported old c hchgs hansd hwts hrep hevs href hrnd =>
    have hfew := hcare c.state (by rw [hevs]; rfl)
    by_cases hnone : (w.service.takeEvent c.state).numbered c.state = []
    · exact minded_noHandlers h hchgs hansd hwts hrep hevs href hnone
    · apply minded_toldHandlers h hchgs hansd hwts hrep hevs href hnone
      rw [length_numbered]
      exact hfew

end Events

/-! ## Acknowledgements -/

section Acknowledgements

variable {s : State} {session ref : Nat}

theorem send_of_not_hears (h : s.hears session ref = false) (ready : Bool) :
    s.sendNodePowerStateChangeAck session ref ready = ⟨s, []⟩ := by
  unfold hears at h
  unfold sendNodePowerStateChangeAck
  split
  · rfl
  case isFalse hcl =>
    split
    · rfl
    case isFalse hinit =>
      split
      · rfl
      case h_2 client hfind =>
        split
        case isTrue hsame =>
          have hstop : s.nodeStates.stateChangeAckTimerRuns = false := by
            simpa [not_not.1 hcl, hinit, hfind, hsame] using h
          exact if_pos hstop
        rfl

/-- An acknowledgement that is not dropped is one of a client that is in the records. -/
theorem send_of_hears (h : s.hears session ref = true) :
    s.nodeStates.stateChangeAckTimerRuns = true ∧
      ∃ client ∈ s.nodeStates.regClientrecrd, client.sessionRef = session ∧
        client.nodeStateRef = ref ∧ ∀ ready, s.sendNodePowerStateChangeAck session ref ready =
          s.acknowledge session client.state ready := by
  unfold hears at h
  simp only [Bool.and_eq_true, decide_eq_true_eq, Bool.not_eq_true'] at h
  obtain ⟨⟨⟨hcl, hinit⟩, hruns⟩, hfnd⟩ := h
  obtain ⟨client, hfind, hsame⟩ := (Option.any_eq_true _ _).1 hfnd
  unfold findRecord at hfind
  have hown := find?_some hfind
  obtain ⟨href, hsess⟩ := of_decide_eq_true hown
  refine ⟨hruns, client, mem_of_find?_eq_some hfind, hsess, href, fun ready => ?_⟩
  unfold sendNodePowerStateChangeAck
  rw [if_neg (not_not.2 hcl), if_neg (ne_true_of_eq_false hinit), findRecord, hfind]
  exact if_pos hsame

variable {client : Record}

theorem wasTold_of_record
    (h : Recorded w.service.clients w.service.nodeStates.regClientrecrd w.told w.acked)
    (hcl : client ∈ w.service.nodeStates.regClientrecrd) :
    w.wasTold client.sessionRef client.nodeStateRef = true := by
  have hkey : client.key ∈ w.told.map Told.key := h.told ▸ mem_map_of_mem hcl
  obtain ⟨t, ht, heq⟩ := mem_map.1 hkey
  have hsess : t.sessionRef = client.sessionRef := congrArg Prod.fst heq
  have href : t.nodeStateRef = client.nodeStateRef := congrArg Prod.snd heq
  refine any_eq_true.2 ⟨t, ht, ?_⟩
  rw [hsess, href]
  simp

theorem minded_dropped {ready : Bool} (h : Noted w)
    (hpfm : w.service.sendNodePowerStateChangeAck session ref ready = ⟨w.service, []⟩)
    (hrefu : Refusal w (.sendAck session ref ready)) : Minded w (.sendAck session ref ready) := by
  have hacke : w.acked ⊆ w.ackedAfter (.sendAck session ref ready) := by
    unfold Noticed.ackedAfter
    rcases ready with _ | _
    · exact List.Subset.refl _
    dsimp only
    split
    · exact subset_append_left _ _
    · exact List.Subset.refl _
  refine h.leaves ⟨rfl, rfl, rfl, rfl, hacke, hrefu⟩ ?_
  change Leaves w.service (w.service.sendNodePowerStateChangeAck session ref ready)
  rw [hpfm]
  exact ⟨rfl, rfl, rfl, rfl, rfl, rfl, id, List.Subset.refl _, rfl, unanswering_nil⟩

theorem refusal_not_heard (h : w.service.hears session ref = false)
    (hhea : w.wasTold session ref = true → w.unanswered = true →
      w.service.hears session ref = true) : Refusal w (.sendAck session ref false) := by
  intro htold c hc hrnd hwts
  have hun : w.unanswered = true := by
    refine any_eq_true.2 ⟨c, hc, ?_⟩
    rw [hrnd, hwts]
    simp
  rw [hhea htold hun] at h
  cases h

theorem minded_nack (h : Noted w) (hcare : CarefulAcks w (.sendAck session ref false)) :
    Minded w (.sendAck session ref false) := by
  obtain ⟨hopen, hhea⟩ := hcare
  rcases hhear : w.service.hears session ref with _ | _
  · exact minded_dropped h (send_of_not_hears hhear false) (refusal_not_heard hhear hhea)
  obtain ⟨hruns, client, hcl, hsess, href, hsend⟩ := send_of_hears hhear
  obtain ⟨old, c, hw⟩ := h.waiting_of_unanswered (hopen hhear)
  have hpfm : w.service.sendNodePowerStateChangeAck session ref false =
      ⟨w.service, [.sendStateChangeAck c.psRef (toPowerState c.state) false]⟩ := by
    rw [hsend false]
    unfold acknowledge
    rw [if_neg (ne_false_of_eq_true hruns), hw.inRound.states client hcl, ← hw.inRound.ref]
    rfl
  have hsvc : (w.after (.sendAck session ref false)).service = w.service :=
    congrArg Outcome.state hpfm
  have hmsgs : (perform w.service (.sendAck session ref false)).messages = [] ++ [_] :=
    congrArg Outcome.messages hpfm
  have haft := changes_answered old (c := c) ((append_nil _).trans hw.changes)
    (hw.changes ▸ h.nodup) unanswering_nil hmsgs
  have hrefs : (w.after (.sendAck session ref false)).changes.map Change.psRef =
      w.changes.map Change.psRef := by rw [refs_answered haft, hw.changes]
  refine ⟨?_, right_answered haft unanswering_nil hmsgs nofun, ?_⟩
  · constructor
    · rw [hsvc]
      exact h.handlers
    · rw [hsvc]
      exact h.recorded
    · rw [hsvc]
      exact h.safe
    · rw [hrefs]
      exact h.nodup
    · rw [hrefs]
      exact h.known
    apply phase_answered haft hw.answered hw.waits hw.reported
    rw [hsvc]
    exact hw.events
  · intro _ c' hc' hrnd' _
    have hsame : c'.psRef = c.psRef := Option.some.inj (hrnd'.symm.trans hw.round)
    have hlast : c ∈ w.changes := by
      rw [hw.changes]
      exact mem_append_right _ (mem_singleton.2 rfl)
    rw [inj_on_of_nodup_map h.nodup hc' hlast hsame, hpfm]
    exact mem_singleton.2 rfl

variable {after : List Record}

theorem minded_completed (h : Noted w)
    (hcl : client ∈ w.service.nodeStates.regClientrecrd) (hsess : client.sessionRef = session)
    (href : client.nodeStateRef = ref) {old : List Change} {c : Change} (hw : Waiting w old c)
    (hmark : markAcked session w.service.nodeStates.regClientrecrd = some after)
    (hsize : BitVec.ofNat 8 after.length = w.service.nodeStates.ackClientrecrdSize + 1)
    (hsend : w.service.sendNodePowerStateChangeAck session ref true =
      w.service.acknowledge session client.state true) : Minded w (.sendAck session ref true) := by
  have hpfm : w.service.sendNodePowerStateChangeAck session ref true =
      ⟨w.service.setNodeStates { w.service.nodeStates with
        regClientrecrd := after, ackClientrecrdSize := 0, stateChangeAckTimerRuns := false,
        clientSize := 0 }, [.sendStateChangeAck c.psRef (toPowerState c.state) true]⟩ := by
    rw [hsend]
    unfold acknowledge
    rw [if_neg (ne_false_of_eq_true hw.inRound.runs), hmark]
    dsimp only
    rw [if_pos hsize, hw.inRound.states client hcl, ← hw.inRound.ref]
    rfl
  have hlen : after.length = w.service.nodeStates.regClientrecrd.length := by
    have hmap := congrArg length (markAcked_map (f := key) (fun _ => rfl) hmark)
    rwa [length_map, length_map] at hmap
  -- all records are marked: as many as there are
  have hall : ∀ r ∈ after, r.isAcked = true := by
    rw [← countP_eq_length]
    have hcount := countP_markAcked hmark ⟨client, hcl, hsess⟩
    have hle : after.countP isAcked ≤ after.length := countP_le_length
    have hfew := hw.inRound.few
    rw [hw.inRound.counted] at hsize
    have hnat := congrArg BitVec.toNat hsize
    rw [BitVec.toNat_add, BitVec.toNat_ofNat, BitVec.toNat_ofNat] at hnat
    have hone : (1 : BitVec 8).toNat = 1 := rfl
    omega
  have htold : w.wasTold session ref = true := by
    rw [← hsess, ← href]
    exact wasTold_of_record h.recorded hcl
  have hacke : (w.after (.sendAck session ref true)).acked = w.acked ++ [ref] := if_pos htold
  have hrecd : Recorded w.service.clients after w.told (w.acked ++ [ref]) :=
    h.recorded.marked hcl hsess href hmark
  have hsvc : (w.after (.sendAck session ref true)).service = _ := congrArg Outcome.state hpfm
  have hmsgs : (perform w.service (.sendAck session ref true)).messages = [] ++ [_] :=
    congrArg Outcome.messages hpfm
  have haft := changes_answered old (c := c) ((append_nil _).trans hw.changes)
    (hw.changes ▸ h.nodup) unanswering_nil hmsgs
  have hrefs : (w.after (.sendAck session ref true)).changes.map Change.psRef =
      w.changes.map Change.psRef := by rw [refs_answered haft, hw.changes]
  refine ⟨?_, right_answered haft unanswering_nil hmsgs fun _ => ⟨hw.round, .inr ?_⟩, trivial⟩
  · constructor
    · rw [hsvc]
      exact h.handlers
    · rw [hsvc, hacke]
      exact hrecd
    · rw [hsvc]
      exact h.safe
    · rw [hrefs]
      exact h.nodup
    · rw [hrefs]
      exact h.known
    apply phase_answered haft hw.answered hw.waits hw.reported
    rw [hsvc]
    exact hw.events
  · intro t ht _
    rw [hacke]
    exact hrecd.all_acked hall t ht

theorem minded_counted (h : Noted w)
    (hcl : client ∈ w.service.nodeStates.regClientrecrd) (hsess : client.sessionRef = session)
    (href : client.nodeStateRef = ref) (hruns : w.service.nodeStates.stateChangeAckTimerRuns = true)
    (hmark : markAcked session w.service.nodeStates.regClientrecrd = some after)
    (hsize : ¬ BitVec.ofNat 8 after.length = w.service.nodeStates.ackClientrecrdSize + 1)
    (hsend : w.service.sendNodePowerStateChangeAck session ref true =
      w.service.acknowledge session client.state true) : Minded w (.sendAck session ref true) := by
  have hpfm : w.service.sendNodePowerStateChangeAck session ref true =
      ⟨w.service.setNodeStates { w.service.nodeStates with
        regClientrecrd := after
        ackClientrecrdSize := w.service.nodeStates.ackClientrecrdSize + 1 }, []⟩ := by
    rw [hsend]
    unfold acknowledge
    rw [if_neg (ne_false_of_eq_true hruns), if_neg nofun, hmark]
    dsimp only
    rw [if_neg hsize]
  have htold : w.wasTold session ref = true := by
    rw [← hsess, ← href]
    exact wasTold_of_record h.recorded hcl
  have hacke : (w.after (.sendAck session ref true)).acked = w.acked ++ [ref] := if_pos htold
  have hsvc : (w.after (.sendAck session ref true)).service = _ := congrArg Outcome.state hpfm
  have hmsgs : (perform w.service (.sendAck session ref true)).messages = [] :=
    congrArg Outcome.messages hpfm
  have haft : (w.after (.sendAck session ref true)).changes = w.changes := by
    change (w.changes ++ []).map (Noticed.hear (perform w.service _).messages) = _
    rw [hmsgs, append_nil, hear_unanswering unanswering_nil]
  refine ⟨?_, ?_, trivial⟩
  · constructor
    · rw [hsvc]
      exact h.handlers
    · rw [hsvc, hacke]
      exact h.recorded.marked hcl hsess href hmark
    · rw [hsvc]
      exact h.safe
    · rw [haft]
      exact h.nodup
    · rw [haft]
      exact h.known
    cases h.phase with
    | quiet hrep hevs hansd =>
      refine .quiet hrep ?_ (haft ▸ hansd)
      rw [hsvc]
      exact hevs
    | reported old c hchgs hansd hwts hrep hevs hlast hrnd =>
      refine .reported old c (haft.trans hchgs) hansd hwts hrep ?_ ?_ hrnd
      · rw [hsvc]
        exact hevs
      · rw [hsvc]
        exact hlast
    | waiting old c hw =>
      refine .waiting old c ⟨haft.trans hw.changes, hw.answered, hw.waits, hw.reported, ?_,
        hw.round, ?_⟩
      · rw [hsvc]
        exact hw.events
      rw [hsvc]
      have hstat := markAcked_map (f := state) (fun _ => rfl) hmark
      have hleng := congrArg length hstat
      rw [length_map, length_map] at hleng
      refine ⟨hw.inRound.runs, hw.inRound.current, ?_, ?_, ?_, hw.inRound.ref⟩
      · intro r hr
        have hin : r.state ∈ w.service.nodeStates.regClientrecrd.map state :=
          hstat ▸ mem_map_of_mem hr
        obtain ⟨other, hoth, heq⟩ := mem_map.1 hin
        rw [← heq]
        exact hw.inRound.states other hoth
      · exact hleng ▸ hw.inRound.few
      · change _ + 1 = BitVec.ofNat 8 (after.countP isAcked)
        rw [countP_markAcked hmark ⟨client, hcl, hsess⟩, BitVec.ofNat_add,
          hw.inRound.counted]
        rfl
  · rw [hmsgs]
    exact nofun

theorem minded_ack (h : Noted w) (hcare : CarefulAcks w (.sendAck session ref true)) :
    Minded w (.sendAck session ref true) := by
  rcases hhear : w.service.hears session ref with _ | _
  · exact minded_dropped h (send_of_not_hears hhear true) trivial
  obtain ⟨hruns, client, hcl, hsess, href, hsend⟩ := send_of_hears hhear
  cases hmark : markAcked session w.service.nodeStates.regClientrecrd with
  | none =>
    refine minded_dropped h ?_ trivial
    rw [hsend true]
    unfold acknowledge
    rw [if_neg (ne_false_of_eq_true hruns), if_neg nofun, hmark]
  | some after =>
    by_cases hsize : BitVec.ofNat 8 after.length = w.service.nodeStates.ackClientrecrdSize + 1
    · have hcpl : w.service.completes session = true := by
        have hmap := congrArg length (markAcked_map (f := key) (fun _ => rfl) hmark)
        rw [length_map, length_map] at hmap
        unfold completes
        rw [hmark, ← hmap, hsize]
        simp
      obtain ⟨old, c, hw⟩ := h.waiting_of_unanswered (hcare hhear hcpl)
      exact minded_completed h hcl hsess href hw hmark hsize (hsend true)
    · exact minded_counted h hcl hsess href hruns hmark hsize (hsend true)

/-- The timer answers for those who have not acknowledged; their sessions are known. -/
theorem minded_stateChangeAckTimer (h : Noted w) (hcare : CarefulAcks w .stateChangeAckTimer) :
    Minded w .stateChangeAckTimer := by
  obtain ⟨old, c, hw⟩ := h.waiting_of_unanswered hcare
  have hknw : w.service.missesSession = false := by
    rw [missesSession, any_eq_false]
    intro client hcl
    simp [h.recorded.sessions client hcl]
  have hpfm : perform w.service .stateChangeAckTimer =
      ⟨w.service.setNodeStates { w.service.nodeStates with
        stateChangeAckTimerRuns := false, clientSize := 0, ackClientrecrdSize := 0 },
        [.sendStateChangeAck c.psRef (toPowerState c.state) true]⟩ := by
    change w.service.stateChangeAckTimerHandler = _
    unfold stateChangeAckTimerHandler
    dsimp only
    rw [if_neg (ne_true_of_eq_false hknw), hw.inRound.current, ← hw.inRound.ref]
    rfl
  have hsvc : (w.after .stateChangeAckTimer).service = _ := congrArg Outcome.state hpfm
  have hmsgs : (perform w.service .stateChangeAckTimer).messages = [] ++ [_] :=
    congrArg Outcome.messages hpfm
  have haft := changes_answered old (c := c) ((append_nil _).trans hw.changes)
    (hw.changes ▸ h.nodup) unanswering_nil hmsgs
  have hrefs : (w.after .stateChangeAckTimer).changes.map Change.psRef =
      w.changes.map Change.psRef := by rw [refs_answered haft, hw.changes]
  refine ⟨?_, right_answered haft unanswering_nil hmsgs fun _ => ⟨hw.round, .inl rfl⟩, trivial⟩
  constructor
  · rw [hsvc]
    exact h.handlers
  · rw [hsvc]
    exact h.recorded
  · rw [hsvc]
    exact h.safe
  · rw [hrefs]
    exact h.nodup
  · rw [hrefs]
    exact h.known
  apply phase_answered haft hw.answered hw.waits hw.reported
  rw [hsvc]
  exact hw.events

end Acknowledgements

/-! ## Runs -/

/-- A careful step: what waits is answered once, and in its own right. -/
theorem minded_careful (h : Noted w) (hcare : CarefulAcks w a) (hen : enabled w.service a = true)
    (hfr : w.fresh a = true) : Minded w a := by
  by_cases hoth : a.other = true
  · exact minded_other h hoth
  cases a with
  | clientConnection => exact minded_clientConnection h
  | clientDisconnection => exact minded_clientLeaves h hcare
  | stateChangeEx => exact minded_stateChangeEx h hcare hfr
  | nodePowerStateChanged =>
    exact minded_nodeStateChanged h hcare (of_decide_eq_true (Bool.and_eq_true_iff.1 hen).2)
  | addHandler => exact minded_addHandler h
  | removeHandler => exact minded_removeHandler h
  | sendAck session ref ready =>
    cases ready with
    | false => exact minded_nack h hcare
    | true => exact minded_ack h hcare
  | stateChangeAckTimer => exact minded_stateChangeAckTimer h hcare
  | _ => exact absurd rfl hoth

theorem noted_unnoticed (handlerRef : Bool) (nodeState : NodePowerState) :
    Noted (unnoticed handlerRef nodeState) where
  handlers := nofun
  recorded := ⟨nofun, rfl, List.Pairwise.nil, nofun⟩
  safe := rfl
  nodup := nodup_nil
  known := nofun
  phase := .quiet rfl rfl nofun

/-- In careful runs, every change is answered once, in its own right. -/
theorem nodeAnswers_run (handlerRef : Bool) (nodeState : NodePowerState) (actions : List Action)
    (hok : Meets notice CarefulAcks (unnoticed handlerRef nodeState) actions) :
    Meets notice AnswersRight (unnoticed handlerRef nodeState) actions := by
  have hminded : ∀ w a t, Noted w → CarefulAcks w a → notice w a = some t →
      Minded w a ∧ t = w.after a := by
    intro w a t h hcare ht
    unfold notice at ht
    split at ht
    case isTrue hen =>
      obtain ⟨hen, hfresh⟩ := Bool.and_eq_true_iff.1 hen
      cases ht
      exact ⟨minded_careful h hcare hen hfresh, rfl⟩
    case isFalse => cases ht
  refine Meets.of_invariant Noted ?_ ?_ (noted_unnoticed handlerRef nodeState) hok
  · intro w a h hcare
    cases ht : notice w a with
    | none => constructor <;> simp [ht]
    | some t => exact (hminded w a t h hcare ht).1.answersRight
  · intro w a t h hcare ht
    obtain ⟨hkeeps, rfl⟩ := hminded w a t h hcare ht
    exact hkeeps.noted

/-- Three handlers of two clients, one of them removed: a suspend waits for the last
acknowledgement, and a resume is refused. -/
theorem nodeAnswers_two_clients :
    let actions : List Action :=
      [.clientConnection 1 true, .clientConnection 2 true, .addHandler 1 0xF none,
        .addHandler 2 0xC none, .addHandler 2 0x4 none, .removeHandler 2,
          .stateChangeEx 1 .suspend allOk,
        .nodePowerStateChanged, .sendAck 2 2 true, .sendAck 2 2 true, .sendAck 1 3 true,
        .createWakeupSource 1 0, .stayAwake 1 0 allOk, .stateChangeEx 2 .resume allOk,
        .nodePowerStateChanged, .sendAck 2 4 false]
    Meets notice CarefulAcks (unnoticed true .resume) actions ∧
      Meets notice AnswersRight (unnoticed true .resume) actions :=
  ⟨by decide +kernel, nodeAnswers_run true .resume _ (by decide +kernel)⟩

/-- A client refuses a suspend, and the timer answers that the node is ready. -/
theorem nodeAnswers_fails : ¬ ∀ (handlerRef : Bool) (nodeState : NodePowerState)
    (actions : List Action), Meets notice AnswersRight (unnoticed handlerRef nodeState) actions := by
  intro h
  have hrun := h true .resume
    [.clientConnection 1 true, .addHandler 1 0x4 none, .stateChangeEx 1 .suspend allOk,
      .nodePowerStateChanged, .sendAck 1 0 false, .stateChangeAckTimer]
  exact absurd hrun (by decide +kernel)

end TelAF.MngdPm
