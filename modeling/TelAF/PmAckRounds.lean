import TelAF.PmService

/-!
# The rounds of acknowledgements

A round begins when an indication is handled. It is watched from outside the service: who was told
and has not acknowledged for itself, who refused, and what the platform was answered.
-/

namespace TelAF.PmService

open TransitionRuns State List

/-! ## Watching -/

/-- The clients that are told of a state, with their references. -/
def told (messages : List Message) : List (Nat × Nat) :=
  messages.filterMap fun
    | .stateChange session powerStateRef _ => some (powerStateRef, session)
    | _ => none

def answersIn (messages : List Message) : List (PowerState × Ack) :=
  messages.filterMap fun
    | .ackForStateUpdate state answer => some (state, answer)
    | _ => none

/-- The round of the last indication. `waiting` are the references and sessions that were told of
it, are connected and have not acknowledged; `mpms` those that were told of the internal event at
its end, are connected and have not answered. -/
structure Round where
  state : PowerState
  waiting : List (Nat × Nat)
  refused : Bool
  timedOut : Bool
  answers : List (PowerState × Ack)
  reboots : Nat
  mpms : List (Nat × Nat)

namespace Round

/-- The client acknowledges the indication of the round for itself, for the first time. -/
def Own (r : Round) (session powerStateRef : Nat) (state : PowerState) (vmId : NadVm) : Prop :=
  vmId = .pvm ∧ state = r.state ∧ (powerStateRef, session) ∈ r.waiting
deriving Decidable

def acknowledge (r : Round) (session powerStateRef : Nat) (state : PowerState) (vmId : NadVm)
    (ackType : ClientAck) : Round :=
  if r.Own session powerStateRef state vmId then
    match ackType with
    | .ready => { r with waiting := r.waiting.erase (powerStateRef, session) }
    | .notReady => { r with refused := true }
    | .invalid => r
  else if vmId = .pvm ∧ state = .allAcked ∧ ackType ≠ .invalid then
    { r with mpms := r.mpms.erase (powerStateRef, session) }
  else r

def hear (r : Round) (messages : List Message) : Round :=
  { r with
    answers := r.answers ++ answersIn messages
    reboots := r.reboots + messages.count .reboot }

/-- The round after an action of the service in the state. -/
def after (s : State) (r : Round) (messages : List Message) : Action → Round
  | .handleStateEvent =>
    match s.stateEvents with
    | [] => r
    | .allAcked :: _ => { r with mpms := told messages }
    | .allWakelocksReleased :: _ => r
    | state :: _ => ⟨state, told messages, false, false, [], 0, []⟩
  | .restartTimerExpired => { r with timedOut := r.timedOut || r.state = .restart }
  | .disconnect session =>
    { r with
      waiting := r.waiting.filter fun e => e.2 ≠ session
      mpms := r.mpms.filter fun e => e.2 ≠ session }
  | .sendStateChangeAck session powerStateRef state vmId ackType =>
    r.acknowledge session powerStateRef state vmId ackType
  | _ => r

end Round

structure Watched where
  pm : State
  round : Round

def watched (mode : PowerMode) : Watched :=
  ⟨start mode, ⟨.unknown, [], false, false, [], 0, []⟩⟩

def watch (I : Interface) (w : Watched) (a : Action) : Option Watched :=
  if enabled w.pm a then
    let o := perform I w.pm a
    some ⟨o.state, (w.round.after w.pm o.messages a).hear o.messages⟩
  else none

/-! ## Answers -/

def Platform (state : PowerState) : Prop := state = .suspend ∨ state = .shutdown
deriving Decidable

def Awaited (state : PowerState) : Prop := Platform state ∨ state = .restart
deriving Decidable

structure Answered (w : Watched) : Prop where
  once : w.round.answers.length ≤ 1
  ofRound : ∀ e ∈ w.round.answers, Platform w.round.state ∧ e.1 = w.round.state
  acked : (w.round.state, .ack) ∈ w.round.answers → w.round.waiting = []
  refused : Platform w.round.state → w.round.refused = true →
    w.round.answers = [(w.round.state, .nack)]
  complete : Platform w.round.state → w.round.waiting = [] → w.round.refused = false →
    w.round.answers = [] → .allAcked ∈ w.pm.stateEvents ∨ w.round.mpms ≠ []
  rebooted : w.round.reboots ≠ 0 →
    w.round.state = .restart ∧ (w.round.waiting = [] ∨ w.round.timedOut = true)

set_option synthInstance.maxSize 1000 in
instance (w : Watched) : Decidable (Answered w) :=
  decidable_of_iff (_ ∧ _ ∧ _ ∧ _ ∧ _ ∧ _)
    ⟨fun ⟨a, b, c, d, e, f⟩ => ⟨a, b, c, d, e, f⟩, fun ⟨a, b, c, d, e, f⟩ => ⟨a, b, c, d, e, f⟩⟩

/-- An acknowledgement of a client in a round that somebody waits for is for itself, and the service
is in the state of the round when it comes; the answer to the internal event is the first one. -/
structure CarefulAck (w : Watched) (session powerStateRef : Nat) (state : PowerState) (vmId : NadVm)
    (ackType : ClientAck) : Prop where
  own : w.pm.acceptsAck powerStateRef state vmId ackType = true → state ≠ .allAcked →
    w.pm.currentState = state → Awaited state ∨ Awaited w.round.state →
    w.round.Own session powerStateRef state vmId
  heard : w.round.Own session powerStateRef state vmId → ackType ≠ .invalid →
    Platform w.round.state → w.round.refused = false →
    w.pm.ackCollection.state = state ∧ w.pm.currentState = state
  first : w.pm.acceptsAck powerStateRef state vmId ackType = true → state = .allAcked →
    Awaited w.pm.currentState ∨ Awaited w.round.state →
    w.pm.currentState = w.round.state ∧ w.round.answers = []
  delivered : vmId = .pvm → state = .allAcked → ackType ≠ .invalid →
    (powerStateRef, session) ∈ w.round.mpms → Platform w.round.state → w.round.answers = [] →
    w.pm.ackCollection.state = .allAcked

local instance lawful_pair : LawfulBEq (Nat × Nat) := inferInstance

set_option synthInstance.maxSize 1000 in
instance (w : Watched) (session powerStateRef : Nat) (state : PowerState) (vmId : NadVm)
    (ackType : ClientAck) : Decidable (CarefulAck w session powerStateRef state vmId ackType) :=
  decidable_of_iff (_ ∧ _ ∧ _ ∧ _) ⟨fun ⟨a, b, c, d⟩ => ⟨a, b, c, d⟩, fun ⟨a, b, c, d⟩ => ⟨a, b, c, d⟩⟩

/-- An indication is handled when no internal event of an earlier round is left, the internal event
of an unanswered round when a client of the managed service is there; the timer does not end a round
of the platform, and who leaves does not owe the last acknowledgement. -/
def CarefulRound (w : Watched) : Action → Prop
  | .handleStateEvent =>
    match w.pm.stateEvents with
    | [] => True
    | .allAcked :: _ => Platform w.round.state → w.round.answers = [] →
      ∃ h ∈ w.pm.handlers.values, h.ismpm = true
    | .allWakelocksReleased :: _ => True
    | _ :: rest => .allAcked ∉ rest
  | .restartTimerExpired =>
    Platform w.round.state → w.round.waiting = [] ∧ w.round.refused = false
  | .disconnect session => Platform w.round.state → w.round.answers = [] →
    (∀ e ∈ w.round.waiting, e.2 ≠ session) ∧
      (w.round.mpms = [] ∨ ∃ e ∈ w.round.mpms, e.2 ≠ session)
  | .sendStateChangeAck session powerStateRef state vmId ackType =>
    CarefulAck w session powerStateRef state vmId ackType
  | _ => True

instance (w : Watched) (a : Action) : Decidable (CarefulRound w a) := by
  unfold CarefulRound
  cases a with
  | handleStateEvent =>
    dsimp only
    split <;> infer_instance
  | _ => infer_instance

/-! ## What a round keeps -/

structure Round.Settled (r : Round) : Prop where
  platform : Platform r.state → r.waiting = [] ∧ r.refused = false
  restart : r.state = .restart → r.waiting = [] ∨ r.timedOut = true

structure Counts (s : State) (r : Round) : Prop where
  le : s.ackCollection.nAlreadyAcked + r.waiting.length ≤ s.ackCollection.nAlreadySent
  eq : Platform r.state → r.refused = false →
    s.ackCollection.nAlreadyAcked + r.waiting.length = s.ackCollection.nAlreadySent
  hasNack : Platform r.state → s.ackCollection.hasNack = r.refused
  known : ∀ e ∈ r.waiting, (s.ackNeededClients.lookup e.1).isSome = true

/-- The answer of the platform and the state of the round agree. -/
inductive AnswerOf (r : Round) : Prop where
  | none (answers : r.answers = []) (refused : Platform r.state → r.refused = false)
  | ack (platform : Platform r.state) (answers : r.answers = [(r.state, .ack)])
      (waiting : r.waiting = []) (refused : r.refused = false)
  | nack (platform : Platform r.state) (answers : r.answers = [(r.state, .nack)])
      (refused : r.refused = true)

structure Sound (s : State) (r : Round) : Prop where
  indicated : r.state ≠ .allAcked ∧ r.state ≠ .allWakelocksReleased
  queued : .allAcked ∈ s.stateEvents → r.Settled
  delivered : s.ackCollection.state = .allAcked → r.Settled
  counts : r.waiting ≠ [] → s.ackCollection.state = r.state → Awaited r.state → Counts s r
  mpms : s.ackCollection.state = .allAcked → s.ackCollection.hasNack = false ∧
    ∀ e ∈ r.mpms, (s.ackNeededClients.lookup e.1).isSome = true
  answer : AnswerOf r
  complete : Platform r.state → r.waiting = [] → r.refused = false → r.answers = [] →
    .allAcked ∈ s.stateEvents ∨ r.mpms ≠ []
  rebooted : r.reboots ≠ 0 → r.state = .restart ∧ (r.waiting = [] ∨ r.timedOut = true)

variable {s : State} {r : Round} {o : Outcome} {I : Interface} {w : Watched}

theorem Sound.answered (h : Sound w.pm w.round) : Answered w := by
  have hansw := h.answer
  refine ⟨?_, ?_, ?_, ?_, h.complete, h.rebooted⟩
  · cases hansw with
    | none answers | ack platform answers | nack platform answers => simp [answers]
  · intro e he
    cases hansw with
    | none answers => simp [answers] at he
    | ack platform answers | nack platform answers =>
      rw [answers, mem_singleton] at he
      exact ⟨platform, congrArg Prod.fst he⟩
  · intro hack
    cases hansw with
    | none answers | nack platform answers => simp [answers] at hack
    | ack platform answers waiting => exact waiting
  intro hplat hrefu
  cases hansw with
  | none answers refused =>
    rw [refused hplat] at hrefu
    cases hrefu
  | ack platform answers waiting refused =>
    rw [refused] at hrefu
    cases hrefu
  | nack platform answers => exact answers

theorem hear_silent (h : answersIn o.messages = []) (h' : .reboot ∉ o.messages) :
    r.hear o.messages = r := by
  unfold Round.hear
  rw [h, count_eq_zero_of_not_mem h', append_nil, Nat.add_zero]

/-! ## Calls that are not about acknowledgements -/

/-- A call that leaves the acknowledgements alone, and only makes requests to the platform. -/
structure Quiet (s : State) (o : Outcome) : Prop where
  ackNeededClients : o.state.ackNeededClients = s.ackNeededClients
  ackCollection : o.state.ackCollection = s.ackCollection
  queued : .allAcked ∈ o.state.stateEvents ↔ .allAcked ∈ s.stateEvents
  requests : ∀ m ∈ o.messages, ∃ state machineName, m = .setPowerStateAsMaster state machineName

theorem Quiet.hear (h : Quiet s o) : r.hear o.messages = r := by
  apply hear_silent
  · unfold answersIn
    rw [filterMap_eq_nil_iff]
    intro m hm
    obtain ⟨state, machineName, rfl⟩ := h.requests m hm
    rfl
  · intro hmem
    obtain ⟨state, machineName, heq⟩ := h.requests _ hmem
    cases heq

theorem Sound.quiet (h : Sound s r) (hqui : Quiet s o) : Sound o.state r := by
  refine ⟨h.indicated, ?_, ?_, ?_, ?_, h.answer, ?_, h.rebooted⟩
  · rw [hqui.queued]
    exact h.queued
  · rw [hqui.ackCollection]
    exact h.delivered
  · intro hwait hst hawt
    rw [hqui.ackCollection] at hst
    obtain ⟨hle, heq, hnack, hknw⟩ := h.counts hwait hst hawt
    refine ⟨?_, ?_, ?_, ?_⟩
    · rw [hqui.ackCollection]
      exact hle
    · rw [hqui.ackCollection]
      exact heq
    · rw [hqui.ackCollection]
      exact hnack
    · rw [hqui.ackNeededClients]
      exact hknw
  · rw [hqui.ackCollection, hqui.ackNeededClients]
    exact h.mpms
  · rw [hqui.queued]
    exact h.complete

theorem quiet_refl (s : State) (result : Result) : Quiet s { state := s, result := result } :=
  ⟨rfl, rfl, Iff.rfl, fun _ h => nomatch h⟩

variable {events : List PowerState}
variable {state : PowerState}

theorem mem_report (h : state ≠ .allAcked) :
    .allAcked ∈ events ++ [state] ↔ .allAcked ∈ events := by
  rw [mem_append, mem_singleton]
  constructor
  · rintro (hold | hnew)
    · exact hold
    · exact absurd hnew.symm h
  · exact Or.inl

theorem setAsMaster_quiet (s : State) (state : PowerState) (machineName : Name)
    (paRst : PaResult) : Quiet s (s.setPowerStateAsMaster state machineName paRst) := by
  have hreqs : ∀ m ∈ (s.setPowerStateAsMaster state machineName paRst).messages,
      ∃ state machineName, m = .setPowerStateAsMaster state machineName :=
    fun m hm => ⟨state, machineName, mem_singleton.1 hm⟩
  unfold setPowerStateAsMaster at hreqs ⊢
  dsimp only at hreqs ⊢
  split <;> exact ⟨rfl, rfl, Iff.rfl, hreqs⟩

theorem setPowerState_quiet (s : State) (state : PowerState) (machineName : Name)
    (paRst : PaResult) : Quiet s (s.setPowerState state machineName paRst) := by
  unfold setPowerState
  cases state with
  | suspend =>
    dsimp only
    split
    · exact setAsMaster_quiet ..
    · exact quiet_refl s .ok
  | resume | shutdown => exact setAsMaster_quiet ..
  | restart => exact ⟨rfl, rfl, mem_report (by decide), fun _ h => nomatch h⟩
  | _ => exact quiet_refl s .badParameter

theorem Quiet.of_same {t : State} (h : Quiet t o) (hcls : t.ackNeededClients = s.ackNeededClients)
    (hcoll : t.ackCollection = s.ackCollection) (hevs : t.stateEvents = s.stateEvents) :
    Quiet s o := by
  refine ⟨h.ackNeededClients.trans hcls, h.ackCollection.trans hcoll, ?_, h.requests⟩
  rw [h.queued, hevs]

theorem stayAwake_quiet (s : State) (session ref : Nat) (paRst : PaResult) :
    Quiet s (s.stayAwake session ref paRst) := by
  unfold stayAwake
  split
  · exact quiet_refl s .badParameter
  split
  · exact quiet_refl s .notPermitted
  split
  · exact quiet_refl s .ok
  split
  · exact quiet_refl s .fault
  unfold increaseTotal
  dsimp only
  (repeat' split)
  · exact (quiet_refl _ .fault).of_same rfl rfl rfl
  · exact (setPowerState_quiet _ _ _ _).of_same rfl rfl rfl
  · exact (quiet_refl _ .ok).of_same rfl rfl rfl

theorem checkReleased_quiet (s : State) : Quiet s { state := s.checkReleased } := by
  unfold checkReleased
  split
  · exact ⟨rfl, rfl, mem_report (by decide), fun _ h => nomatch h⟩
  · exact quiet_refl s .ok

theorem relax_quiet (s : State) (ref : Nat) : Quiet s (s.relax ref) := by
  unfold relax
  split
  · exact quiet_refl s .badParameter
  dsimp only
  (repeat' split)
  · exact quiet_refl s .ok
  · exact (quiet_refl _ .ok).of_same rfl rfl rfl
  all_goals exact (checkReleased_quiet _).of_same rfl rfl rfl

theorem removeWakeSrc_quiet (s : State) (ref : Nat) : Quiet s { state := s.removeWakeSrc ref } := by
  unfold removeWakeSrc
  split
  · exact quiet_refl s .ok
  rename_i ws _
  by_cases hzero : ws.acquired = 0
  · rw [if_neg (not_not.2 hzero)]
    exact ⟨rfl, rfl, Iff.rfl, fun _ h => nomatch h⟩
  rw [if_pos hzero]
  obtain ⟨hcls, hcoll, hqd, -⟩ := relax_quiet (s.uncount ref) ref
  exact ⟨hcls, hcoll, hqd, fun _ h => nomatch h⟩

theorem removeWakeSrcs_quiet (refs : List Nat) (s : State) :
    Quiet s { state := refs.foldl removeWakeSrc s } := by
  induction refs generalizing s with
  | nil => exact quiet_refl s .ok
  | cons ref rest ih =>
    have hfst := removeWakeSrc_quiet s ref
    have hrest := ih (s.removeWakeSrc ref)
    refine ⟨hrest.ackNeededClients.trans hfst.ackNeededClients,
      hrest.ackCollection.trans hfst.ackCollection, ?_, hrest.requests⟩
    exact hrest.queued.trans hfst.queued

theorem clientGone_quiet (s : State) (session : Nat) :
    Quiet s (s.clientDisconnected session) := by
  unfold clientDisconnected
  dsimp only
  split
  · exact (quiet_refl _ .ok).of_same rfl rfl rfl
  · exact (removeWakeSrcs_quiet _ _).of_same rfl rfl rfl

variable {mpms : List (Nat × Nat)}

/-- Fewer clients are waited for; an unanswered round of the platform still has its own. -/
theorem Sound.fewer (h : Sound s r) {waiting : List (Nat × Nat)}
    (hwait : waiting.Sublist r.waiting) (hmpms : mpms.Sublist r.mpms)
    (hkept : Platform r.state → r.refused = false → r.answers = [] →
      waiting = r.waiting ∧ (r.mpms ≠ [] → mpms ≠ [])) :
    Sound s { r with waiting := waiting, mpms := mpms } := by
  have hemp : r.waiting = [] → waiting = [] := by
    intro heq
    rw [heq] at hwait
    exact sublist_nil.1 hwait
  have hsett : r.Settled → Round.Settled { r with waiting := waiting, mpms := mpms } := by
    intro hr
    refine ⟨fun hplat => ?_, fun hrst => (hr.restart hrst).imp_left hemp⟩
    exact ⟨hemp (hr.platform hplat).1, (hr.platform hplat).2⟩
  refine ⟨h.indicated, hsett ∘ h.queued, hsett ∘ h.delivered, ?_, ?_, ?_, ?_, ?_⟩
  · intro hne hst hawt
    have hsome : r.waiting ≠ [] := fun heq => hne (hemp heq)
    obtain ⟨hle, heq, hnack, hknw⟩ := h.counts hsome hst hawt
    refine ⟨?_, ?_, hnack, fun e he => hknw e (hwait.subset he)⟩
    · have hlen := hwait.length_le
      dsimp only
      omega
    intro hplat hrefu
    have hans : r.answers = [] := by
      cases h.answer with
      | none answers => exact answers
      | ack _ _ waiting => exact absurd waiting hsome
      | nack _ _ refused =>
        rw [refused] at hrefu
        cases hrefu
    rw [(hkept hplat hrefu hans).1]
    exact heq hplat hrefu
  · intro hst
    obtain ⟨hnack, hknw⟩ := h.mpms hst
    exact ⟨hnack, fun e he => hknw e (hmpms.subset he)⟩
  · cases h.answer with
    | none answers refused => exact .none answers refused
    | ack platform answers waiting refused => exact .ack platform answers (hemp waiting) refused
    | nack platform answers refused => exact .nack platform answers refused
  · intro hplat hnil hrefu hans
    obtain ⟨hsame, hsome⟩ := hkept hplat hrefu hans
    exact (h.complete hplat (hsame.symm.trans hnil) hrefu hans).imp_right hsome
  · intro hrbt
    obtain ⟨hst, hdone⟩ := h.rebooted hrbt
    exact ⟨hst, hdone.imp_left hemp⟩

/-- A client that leaves does not owe the last acknowledgement. -/
theorem Sound.leave (h : Sound s r) {session : Nat}
    (hcare : Platform r.state → r.answers = [] →
      (∀ e ∈ r.waiting, e.2 ≠ session) ∧ (r.mpms = [] ∨ ∃ e ∈ r.mpms, e.2 ≠ session)) :
    Sound s { r with
      waiting := r.waiting.filter fun e => e.2 ≠ session
      mpms := r.mpms.filter fun e => e.2 ≠ session } := by
  apply h.fewer filter_sublist filter_sublist
  intro hplat _ hans
  obtain ⟨hwait, hmpms⟩ := hcare hplat hans
  constructor
  · rw [filter_eq_self]
    exact fun e he => decide_eq_true (hwait e he)
  intro hsome
  obtain ⟨e, he, hne⟩ := hmpms.resolve_left hsome
  exact ne_nil_of_mem (mem_filter.2 ⟨he, decide_eq_true hne⟩)

theorem Sound.restartTimerExpired (h : Sound s r)
    (hcare : Platform r.state → r.waiting = [] ∧ r.refused = false) :
    Sound s.restartTimerExpired.state { r with timedOut := r.timedOut || r.state = .restart } := by
  have hsett : Round.Settled { r with timedOut := r.timedOut || r.state = .restart } := by
    refine ⟨hcare, fun hrst => .inr ?_⟩
    dsimp only at hrst
    simp [hrst]
  refine ⟨h.indicated, fun _ => hsett, fun _ => hsett, ?_, h.mpms, ?_, ?_, ?_⟩
  · intro hwait hst hawt
    obtain ⟨hle, heq, hnack, hknw⟩ := h.counts hwait hst hawt
    exact ⟨hle, heq, hnack, hknw⟩
  · cases h.answer with
    | none answers refused => exact .none answers refused
    | ack platform answers waiting refused => exact .ack platform answers waiting refused
    | nack platform answers refused => exact .nack platform answers refused
  · intro _ _ _ _
    exact .inl (mem_append_right _ mem_cons_self)
  · intro hrbt
    obtain ⟨hst, hdone⟩ := h.rebooted hrbt
    refine ⟨hst, hdone.imp_right fun htime => ?_⟩
    simp [htime]

/-! ## Handling an event -/

/-- What telling handlers of a state makes of an outcome: `n` of them were told. -/
structure Told (reportState : PowerState) (events : List PowerState) (n : Nat) (o : Outcome) :
    Prop where
  collection : ∃ safeRef, o.state.ackCollection = ⟨reportState, false, n, 0, safeRef⟩
  length : (told o.messages).length = n
  known : ∀ e ∈ told o.messages, (o.state.ackNeededClients.lookup e.1).isSome = true
  events : o.state.stateEvents = events
  answers : answersIn o.messages = []
  reboot : .reboot ∉ o.messages

variable {n : Nat}

theorem Told.notify (h : Told state events n o) (handler : ApiHandler) :
    Told state events (if State.skips state handler then n else n + 1)
      (State.notify state o handler) := by
  unfold State.notify
  split
  · exact h
  obtain ⟨safeRef, hcoll⟩ := h.collection
  have hmsgs : told (o.messages ++
      [.stateChange handler.session o.state.ackNeededClients.next state]) =
        told o.messages ++ [(o.state.ackNeededClients.next, handler.session)] := by
    unfold told
    rw [filterMap_append]
    rfl
  refine ⟨⟨some o.state.ackNeededClients.next, ?_⟩, ?_, ?_, h.events, ?_, ?_⟩
  · dsimp only
    rw [hcoll]
  · dsimp only
    rw [hmsgs, length_append, h.length]
    rfl
  · dsimp only
    rw [hmsgs]
    intro e he
    rcases mem_append.1 he with hold | hnew
    · obtain ⟨a, ha⟩ := Option.isSome_iff_exists.1 (h.known e hold)
      rw [RefMap.lookup_create_of_some ha]
      rfl
    · rw [mem_singleton.1 hnew, RefMap.lookup_create_self]
      rfl
  · have hans := h.answers
    unfold answersIn at hans ⊢
    rw [filterMap_append, hans]
    rfl
  · dsimp only
    rw [mem_append, mem_singleton]
    rintro (hold | hnew)
    · exact h.reboot hold
    · cases hnew

theorem Told.foldl (h : Told state events n o) (handlers : List ApiHandler) :
    Told state events (n + handlers.countP fun handler => !State.skips state handler)
      (handlers.foldl (State.notify state) o) := by
  induction handlers generalizing n o with
  | nil => exact h
  | cons handler rest ih =>
    have hrest := ih (h.notify handler)
    rw [countP_cons]
    cases hskip : State.skips state handler with
    | true =>
      rw [hskip] at hrest
      simpa using hrest
    | false =>
      rw [hskip] at hrest
      have hcnt : n + ((rest.countP fun handler => !State.skips state handler) +
          if (!false) = true then 1 else 0) =
            n + 1 + rest.countP fun handler => !State.skips state handler := by
        simp only [Bool.not_false, if_true]
        omega
      rw [hcnt]
      exact hrest

theorem told_handlers (s : State) (state : PowerState) :
    Told state s.stateEvents (s.handlers.values.countP fun handler => !State.skips state handler)
      (s.handlers.values.foldl (State.notify state) { state := s.resetCollection state }) := by
  have hrset : Told state s.stateEvents 0 { state := s.resetCollection state } :=
    ⟨⟨none, rfl⟩, rfl, (fun _ h => nomatch h), rfl, rfl, not_mem_nil⟩
  have htold := hrset.foldl s.handlers.values
  rw [Nat.zero_add] at htold
  exact htold

theorem sendAck_silent (h : ¬ Platform state) (answer : Ack) :
    sendAckToPaLayer state answer = [] := by
  unfold sendAckToPaLayer
  rw [if_pos]
  exact ⟨fun hsusd => h (.inl hsusd), fun hshdn => h (.inr hshdn)⟩

theorem sendAck_platform (h : Platform state) (answer : Ack) :
    sendAckToPaLayer state answer = [.ackForStateUpdate state answer] := by
  unfold sendAckToPaLayer
  rw [if_neg]
  rintro ⟨hsusd, hshdn⟩
  rcases h with h | h
  · exact hsusd h
  · exact hshdn h

theorem handle_nobody (state : PowerState) (h : s.handlers.entries = []) :
    s.handleStateChangedAckNeeded state =
      { state := s, messages := sendAckToPaLayer state .ack } := by
  unfold handleStateChangedAckNeeded
  rw [if_pos h]

theorem handle_told (state : PowerState) (h : s.handlers.entries ≠ []) :
    Told state s.stateEvents (s.handlers.values.countP fun handler => !State.skips state handler)
      (s.handleStateChangedAckNeeded state) := by
  unfold handleStateChangedAckNeeded
  rw [if_neg h]
  exact told_handlers s state

theorem Told.counts
    (h : Told state events n o) :
    Counts o.state ⟨state, told o.messages, false, false, [], 0, []⟩ := by
  obtain ⟨safeRef, hcoll⟩ := h.collection
  refine ⟨?_, ?_, ?_, h.known⟩
  · rw [hcoll]
    exact Nat.le_of_eq ((Nat.zero_add _).trans h.length)
  · intro _ _
    rw [hcoll]
    exact (Nat.zero_add _).trans h.length
  · intro _
    rw [hcoll]

theorem Told.ne_nil (h : Told state events n o) (hn : n ≠ 0) : told o.messages ≠ [] := by
  intro heq
  have hlen := h.length
  rw [heq] at hlen
  exact hn hlen.symm

variable {rest : List PowerState}

theorem Told.begin (h : Told state rest n o) (hn : n ≠ 0)
    (hst : state ≠ .allAcked ∧ state ≠ .allWakelocksReleased) (hrest : .allAcked ∉ rest) :
    Sound o.state ⟨state, told o.messages, false, false, [], 0, []⟩ := by
  obtain ⟨safeRef, hcoll⟩ := h.collection
  refine ⟨hst, ?_, ?_, fun _ _ _ => h.counts, ?_, .none rfl fun _ => rfl, ?_,
    fun hne => absurd rfl hne⟩
  · rw [h.events]
    exact fun hmem => absurd hmem hrest
  · rw [hcoll]
    exact fun heq => absurd heq hst.1
  · rw [hcoll]
    exact fun heq => absurd heq hst.1
  · exact fun _ hwait => absurd hwait (h.ne_nil hn)

theorem Sound.beginNobody (h : Sound s r)
    (hst : state ≠ .allAcked ∧ state ≠ .allWakelocksReleased) (hrest : .allAcked ∉ rest) :
    Sound { s with stateEvents := rest }
      ⟨state, [], false, false, answersIn (sendAckToPaLayer state .ack), 0, []⟩ := by
  have hsett : ∀ answers, Round.Settled ⟨state, [], false, false, answers, 0, []⟩ :=
    fun _ => ⟨fun _ => ⟨rfl, rfl⟩, fun _ => .inl rfl⟩
  refine ⟨hst, fun hmem => absurd hmem hrest, fun _ => hsett _, fun hne => absurd rfl hne,
    fun hdlv => ⟨(h.mpms hdlv).1, fun _ he => nomatch he⟩, ?_, ?_, fun hne => absurd rfl hne⟩
  · by_cases hplat : Platform state
    · rw [sendAck_platform hplat]
      exact .ack hplat rfl rfl rfl
    · rw [sendAck_silent hplat]
      exact .none rfl fun _ => rfl
  · intro hplat _ _ hans
    dsimp only at hplat hans
    rw [sendAck_platform hplat] at hans
    cases hans

theorem sendAck_told (state : PowerState) (answer : Ack) :
    told (sendAckToPaLayer state answer) = [] ∧
      .reboot ∉ sendAckToPaLayer state answer := by
  unfold sendAckToPaLayer
  split <;> exact ⟨rfl, by simp⟩

theorem Sound.indication (h : Sound s r)
    (hst : state ≠ .allAcked ∧ state ≠ .allWakelocksReleased) (hrest : .allAcked ∉ rest)
    (ho : o = { s with stateEvents := rest }.handleStateChangedAckNeeded state) :
    Sound o.state (Round.hear ⟨state, told o.messages, false, false, [], 0, []⟩ o.messages) := by
  by_cases hnob : s.handlers.entries = []
  · have hhdld := handle_nobody (s := { s with stateEvents := rest }) state hnob
    obtain ⟨htold, hreb⟩ := sendAck_told state .ack
    rw [ho, hhdld]
    unfold Round.hear
    rw [htold, count_eq_zero_of_not_mem hreb]
    exact h.beginNobody hst hrest
  have htold := handle_told (s := { s with stateEvents := rest }) state hnob
  rw [← ho] at htold
  have hall : (s.handlers.values.countP fun handler => !State.skips state handler) ≠ 0 := by
    obtain ⟨e, he⟩ := exists_mem_of_ne_nil _ hnob
    have hpos : 0 < s.handlers.values.countP fun handler => !State.skips state handler := by
      rw [countP_pos_iff]
      refine ⟨e.2, mem_map.2 ⟨e, he, rfl⟩, ?_⟩
      simp [skips, hst]
    omega
  rw [hear_silent htold.answers htold.reboot]
  exact htold.begin hall hst hrest

/-- The internal event goes to the clients of the managed service. -/
theorem Sound.allAcked (h : Sound s r) (hevs : s.stateEvents = .allAcked :: rest)
    (hmpm : Platform r.state → r.answers = [] → ∃ handler ∈ s.handlers.values, handler.ismpm = true)
    (ho : o = { s with stateEvents := rest }.handleStateChangedAckNeeded .allAcked) :
    Sound o.state (Round.hear { r with mpms := told o.messages } o.messages) := by
  have hsett : r.Settled := by
    apply h.queued
    rw [hevs]
    exact mem_cons_self
  have hkept : Round.Settled { r with mpms := told o.messages } :=
    ⟨hsett.platform, hsett.restart⟩
  have hansw : AnswerOf { r with mpms := told o.messages } := by
    cases h.answer with
    | none answers refused => exact .none answers refused
    | ack platform answers waiting refused => exact .ack platform answers waiting refused
    | nack platform answers refused => exact .nack platform answers refused
  by_cases hnob : s.handlers.entries = []
  · have hhdld := handle_nobody (s := { s with stateEvents := rest }) .allAcked hnob
    have hsil : o.messages = [] := by
      rw [ho, hhdld]
      rfl
    have hst : o.state = { s with stateEvents := rest } := by rw [ho, hhdld]
    rw [hear_silent (by rw [hsil]; rfl) (by rw [hsil]; exact not_mem_nil), hst]
    refine ⟨h.indicated, fun _ => hkept, fun _ => hkept, ?_, ?_, hansw, ?_, h.rebooted⟩
    · intro hwait hst hawt
      obtain ⟨hle, heq, hnack, hknw⟩ := h.counts hwait hst hawt
      exact ⟨hle, heq, hnack, hknw⟩
    · intro hdlv
      refine ⟨(h.mpms hdlv).1, ?_⟩
      rw [hsil]
      exact fun _ he => nomatch he
    intro hplat _ _ hans
    obtain ⟨handler, hmem, -⟩ := hmpm hplat hans
    unfold RefMap.values at hmem
    rw [hnob] at hmem
    cases hmem
  · have htold := handle_told (s := { s with stateEvents := rest }) .allAcked hnob
    rw [← ho] at htold
    obtain ⟨safeRef, hcoll⟩ := htold.collection
    rw [hear_silent htold.answers htold.reboot]
    refine ⟨h.indicated, fun _ => hkept, fun _ => hkept, ?_, ?_, hansw, ?_, h.rebooted⟩
    · intro _ hst _
      rw [hcoll] at hst
      exact absurd hst.symm h.indicated.1
    · intro _
      rw [hcoll]
      exact ⟨rfl, htold.known⟩
    intro hplat _ _ hans
    obtain ⟨handler, hmem, hismp⟩ := hmpm hplat hans
    refine .inr (htold.ne_nil (Nat.pos_iff_ne_zero.1 ?_))
    rw [countP_pos_iff]
    refine ⟨handler, hmem, ?_⟩
    simp [skips, hismp]

theorem Sound.allWakelocksReleased (h : Sound s r)
    (hevs : s.stateEvents = .allWakelocksReleased :: rest)
    (ho : o = { s with stateEvents := rest }.handleStateChangedAckNeeded .allWakelocksReleased) :
    Sound o.state (r.hear o.messages) := by
  have hqd : .allAcked ∈ s.stateEvents ↔ .allAcked ∈ rest := by
    rw [hevs]
    simp
  by_cases hnob : s.handlers.entries = []
  · have hhdld := handle_nobody (s := { s with stateEvents := rest })
      .allWakelocksReleased hnob
    rw [ho, hhdld]
    have hqui : Quiet s { state := { s with stateEvents := rest } } :=
      ⟨rfl, rfl, hqd.symm, fun _ h => nomatch h⟩
    rw [hear_silent rfl (by simp [sendAckToPaLayer])]
    exact h.quiet hqui
  have htold := handle_told (s := { s with stateEvents := rest }) .allWakelocksReleased hnob
  rw [← ho] at htold
  obtain ⟨safeRef, hcoll⟩ := htold.collection
  rw [hear_silent htold.answers htold.reboot]
  refine ⟨h.indicated, ?_, ?_, ?_, ?_, h.answer, ?_, h.rebooted⟩
  · rw [htold.events, ← hqd]
    exact h.queued
  · rw [hcoll]
    exact fun heq => nomatch heq
  · intro _ hst _
    rw [hcoll] at hst
    exact absurd hst.symm h.indicated.2
  · rw [hcoll]
    exact fun heq => nomatch heq
  · rw [htold.events, ← hqd]
    exact h.complete

/-! ## Acknowledgements -/

section Acknowledgements

variable {session ref : Nat} {state : PowerState} {vmId : NadVm} {ackType : ClientAck}

theorem Round.acknowledge_ready (h : r.Own session ref state vmId) :
    r.acknowledge session ref state vmId .ready =
      { r with waiting := r.waiting.erase (ref, session) } := by
  unfold Round.acknowledge
  rw [if_pos h]

theorem Round.acknowledge_notReady (h : r.Own session ref state vmId) :
    r.acknowledge session ref state vmId .notReady = { r with refused := true } := by
  unfold Round.acknowledge
  rw [if_pos h]

theorem Round.acknowledge_allAcked (h : r.state ≠ .allAcked) (hval : ackType ≠ .invalid) :
    r.acknowledge session ref .allAcked .pvm ackType =
      { r with mpms := r.mpms.erase (ref, session) } := by
  unfold Round.acknowledge
  rw [if_neg fun hown : r.Own .. => h hown.2.1.symm, if_pos ⟨rfl, rfl, hval⟩]

/-- A refusal is new only to a round that the platform does not wait for. -/
theorem Sound.refuse (h : Sound s r) (hrefu : Platform r.state → r.refused = true) :
    Sound s { r with refused := true } := by
  by_cases hplat : Platform r.state
  · have hsame : { r with refused := true } = r := by rw [← hrefu hplat]
    rw [hsame]
    exact h
  have hsett : r.Settled → Round.Settled { r with refused := true } :=
    fun hr => ⟨fun hp => absurd hp hplat, hr.restart⟩
  refine ⟨h.indicated, hsett ∘ h.queued, hsett ∘ h.delivered, ?_, h.mpms, ?_,
    fun hp => absurd hp hplat, h.rebooted⟩
  · intro hwait hst hawt
    obtain ⟨hle, -, -, hknw⟩ := h.counts hwait hst hawt
    exact ⟨hle, fun hp => absurd hp hplat, fun hp => absurd hp hplat, hknw⟩
  · cases h.answer with
    | none answers => exact .none answers fun hp => absurd hp hplat
    | ack hp | nack hp => exact absurd hp hplat

theorem Sound.unheard (h : Sound s r)
    (hown : r.Own session ref state vmId → ackType ≠ .invalid → Platform r.state → r.refused = true)
    (hmpms : vmId = .pvm → state = .allAcked → ackType ≠ .invalid → (ref, session) ∈ r.mpms →
      Platform r.state → r.answers ≠ []) :
    Sound s (r.acknowledge session ref state vmId ackType) := by
  unfold Round.acknowledge
  split
  · rename_i howns
    cases ackType with
    | ready =>
      apply h.fewer erase_sublist (List.Sublist.refl _)
      intro hplat hrefu _
      rw [hown howns (by decide) hplat] at hrefu
      cases hrefu
    | notReady => exact h.refuse (hown howns (by decide))
    | invalid => exact h
  split
  · rename_i hinte
    obtain ⟨hvm, hst, hval⟩ := hinte
    apply h.fewer (List.Sublist.refl _) erase_sublist
    intro hplat _ hans
    refine ⟨rfl, fun hsome => ?_⟩
    have hnew : (ref, session) ∉ r.mpms :=
      fun hmem => hmpms hvm hst hval hmem hplat hans
    rw [erase_of_not_mem hnew]
    exact hsome
  · exact h

theorem acceptsAck_eq : s.acceptsAck ref state vmId ackType = true ↔
    (s.ackNeededClients.lookup ref).isSome = true ∧ state = s.ackCollection.state ∧
      vmId = .pvm ∧ ackType ≠ .invalid ∧ s.ackCollection.hasNack = false := by
  unfold acceptsAck
  rw [decide_eq_true_iff]

theorem Round.acknowledge_keeps (r : Round) (session ref : Nat) (state : PowerState) (vmId : NadVm)
    (ackType : ClientAck) : (r.acknowledge session ref state vmId ackType).state = r.state ∧
    (r.acknowledge session ref state vmId ackType).answers = r.answers ∧
    (r.acknowledge session ref state vmId ackType).reboots = r.reboots := by
  unfold Round.acknowledge
  split
  · cases ackType <;> exact ⟨rfl, rfl, rfl⟩
  · split <;> exact ⟨rfl, rfl, rfl⟩

/-- Nobody waits for the round, and the collection is not that of the internal event. -/
theorem Sound.idle {s' : State} (h : Sound s r) (hidle : ¬ Awaited r.state)
    (hcoll : s'.ackCollection.state ≠ .allAcked) :
    Sound s' ((r.acknowledge session ref state vmId ackType).hear []) := by
  obtain ⟨hst, hans, hrbt⟩ := Round.acknowledge_keeps r session ref state vmId ackType
  rw [hear_silent (o := { state := s }) rfl not_mem_nil]
  generalize r.acknowledge session ref state vmId ackType = r' at hst hans hrbt ⊢
  have hplat : ¬ Platform r'.state := by
    rw [hst]
    exact fun hp => hidle (.inl hp)
  have hrst : r'.state ≠ .restart := by
    rw [hst]
    exact fun hr => hidle (.inr hr)
  have hsett : r'.Settled := ⟨fun hp => absurd hp hplat, fun hr => absurd hr hrst⟩
  refine ⟨?_, fun _ => hsett, fun _ => hsett, ?_, fun heq => absurd heq hcoll, ?_,
    fun hp => absurd hp hplat, ?_⟩
  · rw [hst]
    exact h.indicated
  · rw [hst]
    exact fun _ _ hawt => absurd hawt hidle
  · refine .none ?_ fun hp => absurd hp hplat
    rw [hans]
    cases h.answer with
    | none answers => exact answers
    | ack hp | nack hp => exact absurd (.inl hp) hidle
  · rw [hrbt]
    exact fun hne => absurd (.inr (h.rebooted hne).1) hidle

theorem countAck_collection (s : State) :
    s.countAck.ackCollection.state = s.ackCollection.state := by
  unfold countAck
  dsimp only
  split <;> rfl

variable (h : Sound s r)
include h

theorem Sound.nack (hplat : Platform r.state) (hrefu : r.refused = false)
    (hwait : r.waiting ≠ []) (hcnts : Counts s r) (hcoll : s.ackCollection.state = r.state) :
    Sound { s with ackCollection := { s.ackCollection with hasNack := true } }
      { r with refused := true, answers := r.answers ++ [(r.state, .nack)] } := by
  have hunst : ¬ r.Settled := fun hr => hwait (hr.platform hplat).1
  have hnew : s.ackCollection.state ≠ .allAcked := by
    rw [hcoll]
    exact h.indicated.1
  refine ⟨h.indicated, fun hmem => absurd (h.queued hmem) hunst, fun heq => absurd heq hnew, ?_,
    fun heq => absurd heq hnew, ?_, fun _ hnil => absurd hnil hwait, h.rebooted⟩
  · exact fun _ _ _ => ⟨hcnts.le, (fun _ heq => nomatch heq), fun _ => rfl, hcnts.known⟩
  cases h.answer with
  | none answers =>
    refine .nack hplat ?_ rfl
    rw [answers]
    rfl
  | ack _ _ hnil => exact absurd hnil hwait
  | nack _ _ heq =>
    rw [heq] at hrefu
    cases hrefu

/-- A client that was waited for is counted; with the last one the internal event is reported. -/
theorem Sound.countAck (hmem : (ref, session) ∈ r.waiting) (hcnts : Counts s r)
    (hcoll : s.ackCollection.state = r.state) (hhasN : s.ackCollection.hasNack = false) :
    Sound s.countAck { r with waiting := r.waiting.erase (ref, session) } := by
  have hlen := length_erase_of_mem hmem
  have hpos := length_pos_of_mem hmem
  have hle := hcnts.le
  have hnew : s.ackCollection.state ≠ .allAcked := by
    rw [hcoll]
    exact h.indicated.1
  have hnil : ∀ {l : List (Nat × Nat)}, l.length = 0 → l = [] := eq_nil_of_length_eq_zero
  have hansw : AnswerOf { r with waiting := r.waiting.erase (ref, session) } := by
    cases h.answer with
    | none answers refused => exact .none answers refused
    | ack _ _ waiting =>
      rw [waiting] at hmem
      cases hmem
    | nack platform answers refused => exact .nack platform answers refused
  have hcnts' : Counts { s with ackCollection := { s.ackCollection with
      nAlreadyAcked := s.ackCollection.nAlreadyAcked + 1 } }
      { r with waiting := r.waiting.erase (ref, session) } := by
    refine ⟨?_, ?_, hcnts.hasNack, fun e he => hcnts.known e (mem_of_mem_erase he)⟩
    · dsimp only
      omega
    intro hplat hrefu
    have heq := hcnts.eq hplat hrefu
    dsimp only
    omega
  have hrebo : r.reboots ≠ 0 → r.state = .restart ∧
      (r.waiting.erase (ref, session) = [] ∨ r.timedOut = true) := by
    intro hrbt
    obtain ⟨hst, hdone⟩ := h.rebooted hrbt
    refine ⟨hst, hdone.imp_left fun hwait => ?_⟩
    rw [hwait, erase_nil]
  unfold State.countAck
  dsimp only
  split
  · rename_i hall
    have hsett : Round.Settled { r with waiting := r.waiting.erase (ref, session) } := by
      have hdone : r.waiting.erase (ref, session) = [] := hnil (by omega)
      refine ⟨fun hplat => ⟨hdone, ?_⟩, fun _ => .inl hdone⟩
      rw [← hcnts.hasNack hplat]
      exact hhasN
    exact ⟨h.indicated, fun _ => hsett, fun _ => hsett,
      fun _ _ _ => ⟨hcnts'.le, hcnts'.eq, hcnts'.hasNack, hcnts'.known⟩,
      fun heq => absurd heq hnew, hansw,
      fun _ _ _ _ => .inl (mem_append_right _ mem_cons_self), hrebo⟩
  rename_i hall
  have hunst : r.Settled → Round.Settled { r with waiting := r.waiting.erase (ref, session) } := by
    intro hr
    refine ⟨fun hplat => ?_, fun hrst => ?_⟩
    · rw [(hr.platform hplat).1] at hmem
      cases hmem
    · refine (hr.restart hrst).imp_left fun hwait => ?_
      rw [hwait, erase_nil]
  refine ⟨h.indicated, hunst ∘ h.queued, fun heq => absurd heq hnew, fun _ _ _ => hcnts',
    fun heq => absurd heq hnew, hansw, ?_, hrebo⟩
  intro hplat hdone hrefu _
  have heq := hcnts.eq hplat hrefu
  dsimp only at hdone
  rw [hdone] at hlen
  exact absurd (by simp at hlen; omega) hall

/-- A client of the managed service answers the internal event. -/
theorem Sound.answerAllAcked (hdlv : s.ackCollection.state = .allAcked)
    (hfst : Awaited s.currentState ∨ Awaited r.state →
      s.currentState = r.state ∧ r.answers = []) (hmpms : mpms.Sublist r.mpms) :
    Sound s (Round.hear { r with mpms := mpms }
      (if s.currentState = .restart then [.reboot]
        else sendAckToPaLayer s.currentState .ack)) := by
  have hsett := h.delivered hdlv
  have hknw : s.ackCollection.hasNack = false ∧
      ∀ e ∈ mpms, (s.ackNeededClients.lookup e.1).isSome = true :=
    ⟨(h.mpms hdlv).1, fun e he => (h.mpms hdlv).2 e (hmpms.subset he)⟩
  have hcoll : s.ackCollection.state ≠ r.state := by
    rw [hdlv]
    exact h.indicated.1.symm
  have hsnd : ∀ r' : Round, r'.state = r.state → r'.waiting = r.waiting →
      r'.refused = r.refused →
      r'.timedOut = r.timedOut → r'.mpms = mpms → AnswerOf r' →
      (Platform r.state → r'.answers ≠ []) → (r'.reboots ≠ 0 → r.state = .restart) →
      Sound s r' := by
    intro r' hst hwait hrefu htime hr' hansw hansd hrebo
    have hkept : r'.Settled := by
      refine ⟨?_, ?_⟩
      · rw [hst, hwait, hrefu]
        exact hsett.platform
      · rw [hst, hwait, htime]
        exact hsett.restart
    refine ⟨?_, fun _ => hkept, fun _ => hkept, ?_, ?_, hansw, ?_, ?_⟩
    · rw [hst]
      exact h.indicated
    · rw [hst]
      exact fun _ heq => absurd heq hcoll
    · rw [hr']
      exact fun _ => hknw
    · rw [hst]
      exact fun hplat _ _ hnil => absurd hnil (hansd hplat)
    · rw [hst, hwait, htime]
      exact fun hne => ⟨hrebo hne, hsett.restart (hrebo hne)⟩
  by_cases hrst : s.currentState = .restart
  · obtain ⟨hst, hans⟩ := hfst (.inl (.inr hrst))
    have hr : r.state = .restart := hst.symm.trans hrst
    have hplat : ¬ Platform r.state := by
      rw [hr]
      decide
    rw [if_pos hrst]
    refine hsnd _ rfl rfl rfl rfl rfl (.none ?_ fun hp => absurd hp hplat)
      (fun hp => absurd hp hplat) fun _ => hr
    unfold Round.hear
    rw [hans]
    rfl
  rw [if_neg hrst]
  by_cases hplat : Platform s.currentState
  · obtain ⟨hst, hans⟩ := hfst (.inl (.inl hplat))
    rw [sendAck_platform hplat, hst]
    rw [hst] at hplat
    have hnew : r.answers ++ answersIn [.ackForStateUpdate r.state .ack] = [(r.state, .ack)] := by
      rw [hans]
      rfl
    refine hsnd _ rfl rfl rfl rfl rfl (.ack hplat hnew (hsett.platform hplat).1
      (hsett.platform hplat).2) ?_ fun hne => (h.rebooted hne).1
    intro _ heq
    have hboth := hnew.symm.trans heq
    cases hboth
  · have hidle : ¬ Awaited r.state := by
      intro hawt
      obtain ⟨hst, -⟩ := hfst (.inr hawt)
      rw [← hst] at hawt
      rcases hawt with hp | hr
      · exact hplat hp
      · exact hrst hr
    rw [sendAck_silent hplat, hear_silent (o := { state := s }) rfl not_mem_nil]
    exact h.fewer (List.Sublist.refl _) hmpms fun hp => absurd (.inl hp) hidle

theorem Sound.sendStateChangeAck (hcare : CarefulAck ⟨s, r⟩ session ref state vmId ackType) :
    Sound (s.sendStateChangeAck ref state vmId ackType).state
      ((r.acknowledge session ref state vmId ackType).hear
        (s.sendStateChangeAck ref state vmId ackType).messages) := by
  obtain ⟨hown, hhear, hfst, hdlv⟩ := hcare
  dsimp only at hown hhear hfst hdlv
  have hsil : ∀ {r' : Round}, Sound s r' → Sound s (r'.hear []) := by
    intro r' hr'
    rw [hear_silent (o := { state := s }) rfl not_mem_nil]
    exact hr'
  -- a first acknowledgement of a round of the platform passes the checks
  have hpas : r.Own session ref state vmId → ackType ≠ .invalid → Platform r.state →
      r.refused = false → s.acceptsAck ref state vmId ackType = true ∧
        s.currentState = state := by
    intro howns hval hplat hrefu
    obtain ⟨hvm, hst, hmem⟩ := howns
    obtain ⟨hcoll, hcur⟩ := hhear ⟨hvm, hst, hmem⟩ hval hplat hrefu
    have hcnts := h.counts (ne_nil_of_mem hmem) (hcoll.trans hst) (.inl hplat)
    refine ⟨acceptsAck_eq.2 ⟨hcnts.known _ hmem, hcoll.symm, hvm, hval, ?_⟩, hcur⟩
    rw [hcnts.hasNack hplat]
    exact hrefu
  have hpass : vmId = .pvm → state = .allAcked → ackType ≠ .invalid →
      (ref, session) ∈ r.mpms →
      Platform r.state → r.answers = [] → s.acceptsAck ref state vmId ackType = true := by
    intro hvm hst hval hmem hplat hans
    have hcoll := hdlv hvm hst hval hmem hplat hans
    obtain ⟨hnack, hknw⟩ := h.mpms hcoll
    exact acceptsAck_eq.2 ⟨hknw _ hmem, hst.trans hcoll.symm, hvm, hval, hnack⟩
  unfold State.sendStateChangeAck
  cases hacc : s.acceptsAck ref state vmId ackType with
  | false =>
    rw [hacc] at hpas hpass
    apply hsil
    apply h.unheard
    · intro howns hval hplat
      rw [← Bool.not_eq_false]
      exact fun hrefu => nomatch (hpas howns hval hplat hrefu).1
    · exact fun hvm hst hval hmem hplat hans =>
        nomatch hpass hvm hst hval hmem hplat hans
  | true =>
    rw [if_neg (by decide)]
    obtain ⟨-, hcoll, hvm, hval, hnack⟩ := acceptsAck_eq.1 hacc
    by_cases hinte : state = .allAcked
    · rw [if_pos hinte]
      subst hinte hvm
      rw [Round.acknowledge_allAcked h.indicated.1 hval]
      have hansw := h.answerAllAcked hcoll.symm (hfst hacc rfl)
        (erase_sublist (a := (ref, session)))
      split
      · rename_i hrst
        rw [if_pos hrst] at hansw
        exact hansw
      · rename_i hrst
        rw [if_neg hrst] at hansw
        exact hansw
    rw [if_neg hinte]
    by_cases hcur : s.currentState = state
    · rw [if_pos hcur]
      by_cases hawt : Awaited state ∨ Awaited r.state
      · obtain ⟨-, hst, hmem⟩ := hown hacc hinte hcur hawt
        have howns : r.Own session ref state vmId := ⟨hvm, hst, hmem⟩
        rw [hst, or_self] at hawt
        have hsame := hcoll.symm.trans hst
        have hcnts := h.counts (ne_nil_of_mem hmem) hsame hawt
        cases ackType with
        | ready =>
          rw [if_neg (by decide), Round.acknowledge_ready howns]
          rw [hear_silent (o := { state := s.countAck }) rfl not_mem_nil]
          exact h.countAck hmem hcnts hsame hnack
        | notReady =>
          rw [if_pos rfl, Round.acknowledge_notReady howns]
          split
          · rename_i hrst
            apply hsil
            apply h.refuse
            intro hplat
            rw [← hst, hrst] at hplat
            exact absurd hplat (by decide)
          rename_i hrst
          have hplat : Platform r.state := by
            refine hawt.resolve_right fun hr => hrst ?_
            rw [hst, hr]
          have hmsgs : State.sendAckToPaLayer s.currentState .nack =
              [.ackForStateUpdate r.state .nack] := by
            rw [hcur, hst]
            exact sendAck_platform hplat .nack
          rw [hmsgs]
          exact h.nack hplat ((hcnts.hasNack hplat).symm.trans hnack)
            (ne_nil_of_mem hmem) hcnts hsame
        | invalid => exact absurd rfl hval
      · rw [not_or] at hawt
        have hoth : s.ackCollection.state ≠ .allAcked := fun heq => hinte (hcoll.trans heq)
        split
        · split
          · rename_i hrst
            exact absurd (.inr hrst) hawt.1
          have hmsgs : State.sendAckToPaLayer s.currentState .nack = [] := by
            rw [hcur]
            exact sendAck_silent (fun hp => hawt.1 (.inl hp)) .nack
          rw [hmsgs]
          exact h.idle hawt.2 hoth
        · exact h.idle hawt.2 (fun heq => hoth ((countAck_collection s).symm.trans heq))
    · rw [if_neg hcur]
      apply hsil
      apply h.unheard
      · intro howns _ hplat
        rw [← Bool.not_eq_false]
        exact fun hrefu => hcur (hpas howns hval hplat hrefu).2
      · exact fun _ heq => absurd heq hinte

end Acknowledgements

/-! ## Runs -/

theorem Sound.handleStateEvent (h : Sound w.pm w.round)
    (hcare : CarefulRound w .handleStateEvent) :
    Sound (perform I w.pm .handleStateEvent).state
      ((w.round.after w.pm (perform I w.pm .handleStateEvent).messages .handleStateEvent).hear
        (perform I w.pm .handleStateEvent).messages) := by
  cases hevs : w.pm.stateEvents with
  | nil =>
    have hnoth : perform I w.pm .handleStateEvent = { state := w.pm } := by
      unfold perform
      rw [hevs]
    rw [hnoth, hear_silent (o := { state := w.pm }) rfl not_mem_nil]
    unfold Round.after
    rw [hevs]
    exact h
  | cons state rest =>
    have hhand : perform I w.pm .handleStateEvent =
        { w.pm with stateEvents := rest }.handleStateChangedAckNeeded state := by
      unfold perform
      rw [hevs]
    have hgrd := hcare
    unfold CarefulRound at hgrd
    dsimp only at hgrd
    rw [hevs] at hgrd
    unfold Round.after
    rw [hevs]
    cases state with
    | allAcked => exact h.allAcked hevs hgrd hhand
    | allWakelocksReleased => exact h.allWakelocksReleased hevs hhand
    | _ => exact h.indication (by decide) hgrd hhand

theorem Sound.step {u : Watched} {a : Action} (h : Sound w.pm w.round) (hcare : CarefulRound w a)
    (hstep : watch I w a = some u) : Sound u.pm u.round := by
  unfold watch at hstep
  split at hstep
  swap
  · cases hstep
  cases hstep
  have hqui : ∀ {o : Outcome}, Quiet w.pm o → Sound o.state (w.round.hear o.messages) := by
    intro o ho
    rw [ho.hear]
    exact h.quiet ho
  cases a with
  | connect session client =>
    apply hqui
    change Quiet w.pm (w.pm.clientConnected session client)
    unfold clientConnected
    split
    · exact quiet_refl w.pm .ok
    · exact ⟨rfl, rfl, Iff.rfl, fun _ h => nomatch h⟩
  | disconnect session =>
    have hdisc := clientGone_quiet w.pm session
    change Sound _ (Round.hear _ (w.pm.clientDisconnected session).messages)
    rw [hdisc.hear]
    exact (h.leave hcare).quiet hdisc
  | newWakeupSource session options tag =>
    apply hqui
    change Quiet w.pm (w.pm.newWakeupSource I session options tag)
    unfold newWakeupSource
    (repeat' split) <;> first
      | exact quiet_refl w.pm .ok
      | exact ⟨rfl, rfl, Iff.rfl, fun _ h => nomatch h⟩
  | stayAwake session wsRef paRst => exact hqui (stayAwake_quiet w.pm session wsRef paRst)
  | relax wsRef => exact hqui (relax_quiet w.pm wsRef)
  | setPowerState state machineName paRst =>
    exact hqui (setPowerState_quiet w.pm state machineName paRst)
  | setPowerMode mode => cases mode <;> exact hqui ⟨rfl, rfl, Iff.rfl, fun _ h => nomatch h⟩
  | addStateChangeExHandler session =>
    apply hqui
    change Quiet w.pm (w.pm.addStateChangeExHandler session)
    unfold addStateChangeExHandler
    split <;> exact ⟨rfl, rfl, Iff.rfl, fun _ h => nomatch h⟩
  | removeStateChangeExHandler handlerRef =>
    exact hqui ⟨rfl, rfl, Iff.rfl, fun _ h => nomatch h⟩
  | powerStateUpdate state =>
    cases state with
    | suspend | resume | shutdown =>
      exact hqui ⟨rfl, rfl, mem_report (by decide), fun _ h => nomatch h⟩
    | _ => exact hqui (quiet_refl w.pm .ok)
  | handleStateEvent => exact h.handleStateEvent hcare
  | restartTimerExpired =>
    change Sound _ (Round.hear _ [])
    rw [hear_silent (o := { state := w.pm }) rfl not_mem_nil]
    exact h.restartTimerExpired hcare
  | sendStateChangeAck session ref state vmId ackType => exact h.sendStateChangeAck hcare

theorem sound_watched (mode : PowerMode) : Sound (watched mode).pm (watched mode).round := by
  refine ⟨⟨?_, ?_⟩, ?_, ?_, fun h => absurd rfl h, ?_, .none rfl fun _ => rfl, ?_,
    fun h => absurd rfl h⟩
  iterate 5 exact fun h => nomatch h
  rintro (h | h) <;> cases h

/-- In every careful run the platform is answered at most once for each indication, as the clients
answered it. -/
theorem answered_run {mode : PowerMode} {actions : List Action}
    (hcare : Meets (watch I) CarefulRound (watched mode) actions) :
    Meets (watch I) (fun w a => ∀ u ∈ watch I w a, Answered u) (watched mode) actions := by
  apply Meets.of_invariant (fun w => Sound w.pm w.round) _ _ (sound_watched mode) hcare
  · exact fun w a h hok u hu => (h.step hok hu).answered
  · exact fun w a u h hok hu => h.step hok hu

/-- A suspend that both clients acknowledge, a shutdown that one refuses, and a restart that one
leaves and the timer ends. -/
def threeRounds : List Action :=
  [.connect 1 ⟨10, "tafMngdPMSvc".toList⟩, .connect 2 ⟨11, "app".toList⟩,
   .addStateChangeExHandler 1, .addStateChangeExHandler 2,
   .setPowerState .suspend "PVM".toList .ok, .powerStateUpdate .suspend, .handleStateEvent,
   .sendStateChangeAck 1 0 .suspend .pvm .ready, .sendStateChangeAck 2 1 .suspend .pvm .ready,
   .handleStateEvent, .sendStateChangeAck 1 2 .allAcked .pvm .ready,
   .setPowerState .shutdown "PVM".toList .ok, .powerStateUpdate .shutdown, .handleStateEvent,
   .sendStateChangeAck 2 4 .shutdown .pvm .notReady, .sendStateChangeAck 1 3 .shutdown .pvm .ready,
   .setPowerState .restart [] .ok, .handleStateEvent, .disconnect 2,
   .sendStateChangeAck 1 5 .restart .pvm .ready, .restartTimerExpired, .handleStateEvent,
   .sendStateChangeAck 1 7 .allAcked .pvm .ready]

theorem answered_threeRounds :
    Meets (watch ⟨31, 1⟩) (fun w a => ∀ u ∈ watch ⟨31, 1⟩ w a, Answered u) (watched .normal)
      threeRounds :=
  answered_run (by decide +kernel)

/-- A suspend that all clients acknowledge, without the managed service. -/
def nobodyManages : List Action :=
  [.connect 2 ⟨11, "app".toList⟩, .addStateChangeExHandler 2,
   .setPowerState .suspend "PVM".toList .ok, .powerStateUpdate .suspend, .handleStateEvent,
   .sendStateChangeAck 2 0 .suspend .pvm .ready, .handleStateEvent]

theorem answer_missing :
    ¬ ∀ I mode actions,
      Meets (watch I) (fun w a => ∀ u ∈ watch I w a, Answered u) (watched mode) actions := by
  intro h
  have hrun := h ⟨31, 1⟩ .normal nobodyManages
  revert hrun
  decide +kernel

end TelAF.PmService
