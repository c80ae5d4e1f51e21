import TelAF.MngdCounts

/-!
# The outcomes of shutdown and restart requests

The requests are watched from outside the service: whose they are, whether the client is gone, and
what their handlers were called with. Every handler is called once, with the outcome of its own
request, and a request that ends with the node up leaves no trace in the power mode.
-/

namespace TelAF.MngdPm

open TransitionRuns List Option
open PmService (PowerState)

/-! ## Watching -/

/-- A request, with what its handler was called with. -/
structure Request where
  contextPtr : Nat
  sessionRef : Nat
  gone : Bool
  answers : List Response

/-- An action; a response of the driver is one to a request. -/
structure Event where
  action : Action
  request : Nat := 0

/-- The requests so far, and the one that the timer was started for. -/
structure Asked where
  service : State
  requests : List Request
  timerFor : Option Nat

def answersTo (contextPtr : Nat) (messages : List Message) : List Response :=
  messages.filterMap fun
    | .answer c response _ => if c = contextPtr then some response else none
    | _ => none

def Action.asks : Action → Option Nat
  | .shutdownReqAsync session .. | .restartReqAsync session .. => some session
  | _ => none

def Action.closes : Action → Option Nat
  | .clientDisconnection session .. => some session
  | _ => none

namespace Asked

variable (w : Asked)

def asked (a : Action) : List Request :=
  a.asks.toList.map fun session => ⟨w.service.window.nextContext, session, false, []⟩

/-- A client that is gone waits for nothing; the others hear the answers to their requests. -/
def hear (a : Action) (messages : List Message) (r : Request) : Request :=
  { r with
    gone := r.gone || (a.closes = some r.sessionRef && r.sessionRef ∈ w.service.clients)
    answers := r.answers ++ answersTo r.contextPtr messages }

def timerAfter (t : State) : Option Nat :=
  if t.window.vhalAckTimerRuns then
    if w.service.window.vhalAckTimerRuns then w.timerFor else some w.service.window.nextContext
  else none

def after (a : Action) : Asked where
  service := (perform w.service a).state
  requests := (w.requests ++ w.asked a).map (w.hear a (perform w.service a).messages)
  timerFor := w.timerAfter (perform w.service a).state

end Asked

def watched (handlerRef : Bool) (nodeState : NodePowerState) : Asked :=
  ⟨start handlerRef nodeState, [], none⟩

def watch (w : Asked) (e : Event) : Option Asked :=
  if enabled w.service e.action then some (w.after e.action) else none

/-! ## What the clients rely on -/

/-- The handlers that are still to be called. -/
def Window.callbacks (w : Window) : List Callback := w.shutdownCB.toList ++ w.restartCB.toList

/-- The requests whose handlers are still to be called. -/
def Window.waiting (w : Window) : List Nat := w.callbacks.map Callback.contextPtr

/-- A handler that waits has not been called, and the timer runs for it; every other handler was
called once, unless its client is gone. -/
structure Settled (w : Asked) : Prop where
  once : ∀ r ∈ w.requests, r.gone = false →
    if r.contextPtr ∈ w.service.window.waiting then r.answers = [] else r.answers.length = 1
  awaited : w.service.window.waiting ≠ [] →
    w.service.window.vhalAckTimerRuns = true ∧ w.service.window.vhalRespHandled = false

def HalRspReason.outcome : HalRspReason → Option Response
  | ready => some .ready
  | notReady => some .notReady
  | timeout => some .timeout
  | invalidRequest => some .invalidRequest
  | other _ => none

/-- The answer is the outcome of the request it is given to. -/
def OwnAnswer (w : Asked) (e : Event) : Message → Prop
  | .answer contextPtr response _ =>
    match e.action with
    | .shutdownReqAsync .. | .restartReqAsync .. => contextPtr = w.service.window.nextContext
    | .vhalPrepareResp payload _ => contextPtr = e.request ∧ payload.rsp.outcome = some response
    | .vhalAckTimer _ => w.timerFor = some contextPtr ∧ response = .timeout
    | _ => False
  | _ => True

/-- The node is going down: the power management service has accepted the power state. -/
def accepts (messages : List Message) : Bool := messages.any fun
  | .setAllVMPowerState _ accepted => accepted
  | _ => false

/-- The node is up, and the power mode does not tell of the request. -/
def State.Back (s : State) (requested : RequestedState) : Prop :=
  requested.flag s.power.powerMode = false ∧
    (s.power.stateMachine.currentState = .resume ∨
      s.power.stateMachine.currentState = .releasingWakeSource)
deriving Decidable

def Action.requested : Action → Option RequestedState
  | .shutdownReqAsync .. => some .systemNormalShutdown
  | .restartReqAsync _ mode .. => mode.requestedState
  | _ => none

/-- A request that ends in the action, in the window or at once. -/
structure EndsUp (s : State) (a : Action) : Prop where
  window : s.window.vhalAckTimerRuns = true →
    (perform s a).state.window.vhalAckTimerRuns = false →
    accepts (perform s a).messages = true ∨ (perform s a).state.Back s.window.statePtr
  atOnce : ∀ requested ∈ a.requested, Response.ready ∈ answersTo s.window.nextContext
    (perform s a).messages →
      accepts (perform s a).messages = true ∨ (perform s a).state.Back requested

structure OneOutcome (w : Asked) (e : Event) : Prop where
  settled : ∀ t ∈ watch w e, Settled t
  own : ∀ t ∈ watch w e, ∀ m ∈ (perform w.service e.action).messages, OwnAnswer w e m
  ends : ∀ t ∈ watch w e, EndsUp w.service e.action

instance (w : Asked) : Decidable (Settled w) :=
  decidable_of_iff (_ ∧ _) ⟨fun ⟨a, b⟩ => ⟨a, b⟩, fun ⟨a, b⟩ => ⟨a, b⟩⟩

instance (w : Asked) (e : Event) (m : Message) : Decidable (OwnAnswer w e m) := by
  unfold OwnAnswer
  split <;> try infer_instance
  split <;> infer_instance

instance (s : State) (a : Action) : Decidable (EndsUp s a) :=
  decidable_of_iff (_ ∧ _) ⟨fun ⟨a, b⟩ => ⟨a, b⟩, fun ⟨a, b⟩ => ⟨a, b⟩⟩

instance (w : Asked) (e : Event) : Decidable (OneOutcome w e) :=
  decidable_of_iff (_ ∧ _ ∧ _) ⟨fun ⟨a, b, c⟩ => ⟨a, b, c⟩, fun ⟨a, b, c⟩ => ⟨a, b, c⟩⟩

/-! ## Careful runs -/

namespace State

variable (s : State)

/-- The request is not refused for its session, its reason or the state of the machine. -/
def admits (session reason last : Nat) (toState final : MachineState) : Bool :=
  session ∈ s.clients && !(last < reason && reason < 15) &&
    s.power.stateMachine.currentState ≠ toState && s.power.stateMachine.currentState ≠ final &&
    s.power.requestStateChange toState

/-- A request that is admitted finds no window open; without a driver, the power management service
accepts the power state. -/
def CarefulOpening (env : PmsEnv) : Prop :=
  if s.preparesAsync then s.window.vhalAckTimerRuns = false else env.nad = true
deriving Decidable

def takesResp (payload : PrepareResp) : Bool :=
  !s.window.vhalRespHandled && modeToRequestedState payload.mode = s.window.statePtr

end State

def PrepareRespType.of : RequestedState → PrepareRespType
  | .systemNormalShutdown => shutdown
  | _ => restart

/-- Requests come with a known mode to a service that has its handler, one at a time. A response
that is taken is the one to the request that waits, as its callback sends it, for a reason that has
a branch; if the driver is ready, the power management service accepts the power state. -/
def CarefulRequest (w : Asked) (e : Event) : Prop :=
  match e.action with
  | .shutdownReqAsync session reason env =>
    w.service.admits session reason 1 .shuttingDown .shutdown = true → w.service.CarefulOpening env
  | .restartReqAsync session mode reason env =>
    session ∈ w.service.clients → ¬ (2 < reason ∧ reason < 15) →
      w.service.handlerRef = true ∧
      match mode with
      | .systemOffOn => w.service.admits session reason 2 .shuttingDown .shutdown = true →
          w.service.CarefulOpening env
      | .nadReboot => w.service.admits session reason 2 .restarting .restart = true →
          w.service.CarefulOpening env
      | .other _ => False
  | .vhalPrepareResp payload env =>
    w.service.takesResp payload = true → w.service.window.vhalAckTimerRuns = true →
      payload.type = .of w.service.window.statePtr ∧ (payload.rsp = .ready → env.nad = true) ∧
      ∀ cb ∈ w.service.window.callback w.service.window.statePtr, cb.contextPtr = e.request ∧
        (payload.rsp = .ready ∨ payload.rsp = .notReady ∨ payload.rsp = .invalidRequest)
  | _ => True

instance (w : Asked) (e : Event) : Decidable (CarefulRequest w e) := by
  unfold CarefulRequest
  split <;> try infer_instance
  rename_i mode _ _ _
  cases mode <;> infer_instance

variable {w : Asked} {a : Action}

/-! ## The requests that wait -/

theorem answersTo_append (c : Nat) (first rest : List Message) :
    answersTo c (first ++ rest) = answersTo c first ++ answersTo c rest :=
  filterMap_append

theorem answersTo_answer (c contextPtr : Nat) (response : Response) (result : Result) :
    answersTo c [.answer contextPtr response result] = if c = contextPtr then [response] else [] := by
  by_cases h : c = contextPtr
  · simp [answersTo, h]
  · have hne : contextPtr ≠ c := fun heq => h heq.symm
    simp [answersTo, h, hne]

variable {v : Window}

theorem callback_eq_none (h : v.callbacks = []) (requested : RequestedState) :
    v.callback requested = none := by
  obtain ⟨hshdn, hrst⟩ := append_eq_nil_iff.1 h
  cases requested with
  | systemNormalShutdown => exact toList_eq_nil_iff.1 hshdn
  | restartWithNadPowerOffOn | restartWithNadReboot => exact toList_eq_nil_iff.1 hrst
  | asyncReqUnknownSt => rfl

/-- At most one request waits, in the slot of the state that is asked for; the timer runs for it. -/
structure Tracked (w : Asked) : Prop where
  fresh : ∀ r ∈ w.requests, r.contextPtr < w.service.window.nextContext
  freshCallback : ∀ cb ∈ w.service.window.callbacks, cb.contextPtr < w.service.window.nextContext
  owner : ∀ cb ∈ w.service.window.callbacks, ∀ r ∈ w.requests, r.contextPtr = cb.contextPtr →
    r.sessionRef = cb.sessionRef
  once : ∀ r ∈ w.requests, r.gone = false →
    if r.contextPtr ∈ w.service.window.waiting then r.answers = [] else r.answers.length = 1
  slot : w.service.window.callbacks =
    (w.service.window.callback w.service.window.statePtr).toList
  running : w.service.window.callbacks ≠ [] → w.service.window.vhalAckTimerRuns = true
  opened : w.service.window.vhalAckTimerRuns = true → w.service.window.vhalRespHandled = false
  timer : ∀ cb ∈ w.service.window.callbacks, w.timerFor = some cb.contextPtr

theorem Tracked.settled (h : Tracked w) : Settled w where
  once := h.once
  awaited := fun hne => by
    have hcbs : w.service.window.callbacks ≠ [] := by
      intro hnil
      exact hne (by rw [Window.waiting, hnil]; rfl)
    exact ⟨h.running hcbs, h.opened (h.running hcbs)⟩

theorem Tracked.callbacks_nil (h : Tracked w) (hruns : w.service.window.vhalAckTimerRuns = false) :
    w.service.window.callbacks = [] := by
  by_contra hne
  rw [h.running hne] at hruns
  cases hruns

theorem Tracked.quiet (h : Tracked w) (hasks : a.asks = none)
    (hcloz : ∀ session, a.closes = some session → session ∉ w.service.clients)
    (hwin : (perform w.service a).state.window = w.service.window)
    (hans : ∀ c, answersTo c (perform w.service a).messages = []) : Tracked (w.after a) := by
  have hreqs : (w.after a).requests = w.requests := by
    change ((w.requests ++ w.asked a).map _) = _
    rw [Asked.asked, hasks]
    simp only [toList_none, map_nil, append_nil]
    apply (map_congr_left fun r _ => ?_).trans (map_id _)
    have hsty : (decide (a.closes = some r.sessionRef) && decide (r.sessionRef ∈ w.service.clients)) =
        false := by
      by_cases heq : a.closes = some r.sessionRef
      · simp [hcloz _ heq]
      · simp [heq]
    rw [Asked.hear, hsty, Bool.or_false, hans, append_nil]
    rfl
  have htim : (w.after a).timerFor =
      if w.service.window.vhalAckTimerRuns then w.timerFor else none := by
    change w.timerAfter _ = _
    rw [Asked.timerAfter, hwin]
    split_ifs <;> rfl
  have hsvc : (w.after a).service.window = w.service.window := hwin
  constructor
  · rw [hreqs, hsvc]
    exact h.fresh
  · rw [hsvc]
    exact h.freshCallback
  · rw [hsvc, hreqs]
    exact h.owner
  · rw [hsvc, hreqs]
    exact h.once
  · rw [hsvc]
    exact h.slot
  · rw [hsvc]
    exact h.running
  · rw [hsvc]
    exact h.opened
  rw [hsvc, htim]
  intro cb hcb
  rw [h.running (ne_nil_of_mem hcb)]
  exact h.timer cb hcb

variable {session : Nat}

theorem requests_asked (hasks : a.asks = some session) (hcloz : a.closes = none) :
    (w.after a).requests = (w.requests.map fun r =>
        { r with answers := r.answers ++ answersTo r.contextPtr (perform w.service a).messages }) ++
      [⟨w.service.window.nextContext, session, false,
        answersTo w.service.window.nextContext (perform w.service a).messages⟩] := by
  change ((w.requests ++ w.asked a).map _) = _
  rw [Asked.asked, hasks]
  simp [Asked.hear, hcloz]

variable {response : Response}

theorem Tracked.atOnce (h : Tracked w) (hasks : a.asks = some session) (hcloz : a.closes = none)
    (hwin : (perform w.service a).state.window =
      { w.service.window with nextContext := w.service.window.nextContext + 1 })
    (hans : ∀ c, answersTo c (perform w.service a).messages =
      if c = w.service.window.nextContext then [response] else []) : Tracked (w.after a) := by
  have hreqs : (w.after a).requests =
      w.requests ++ [⟨w.service.window.nextContext, session, false, [response]⟩] := by
    rw [requests_asked hasks hcloz, hans, if_pos rfl]
    congr 1
    apply (map_congr_left fun r hr => ?_).trans (map_id _)
    have hne : r.contextPtr ≠ w.service.window.nextContext := Nat.ne_of_lt (h.fresh r hr)
    rw [hans, if_neg hne, append_nil]
    rfl
  have hsvc : (w.after a).service.window =
      { w.service.window with nextContext := w.service.window.nextContext + 1 } := hwin
  have htim : (w.after a).timerFor =
      if w.service.window.vhalAckTimerRuns then w.timerFor else none := by
    change w.timerAfter _ = _
    rw [Asked.timerAfter, hwin]
    split_ifs <;> rfl
  have hnew : w.service.window.nextContext ∉ w.service.window.waiting := by
    intro hmem
    obtain ⟨cb, hcb, heq⟩ := mem_map.1 hmem
    have hlt := h.freshCallback cb hcb
    omega
  constructor
  · rw [hreqs, hsvc]
    intro r hr
    rcases mem_append.1 hr with hold | hlast
    · exact Nat.lt_succ_of_lt (h.fresh r hold)
    · rw [mem_singleton.1 hlast]
      exact Nat.lt_succ_self _
  · rw [hsvc]
    intro cb hcb
    exact Nat.lt_succ_of_lt (h.freshCallback cb hcb)
  · rw [hsvc, hreqs]
    intro cb hcb r hr heq
    rcases mem_append.1 hr with hold | hlast
    · exact h.owner cb hcb r hold heq
    rw [mem_singleton.1 hlast] at heq
    have hlt := h.freshCallback cb hcb
    exact absurd heq.symm (Nat.ne_of_lt hlt)
  · rw [hsvc, hreqs]
    intro r hr hgone
    rcases mem_append.1 hr with hold | hlast
    · exact h.once r hold hgone
    · rw [mem_singleton.1 hlast]
      exact (if_neg hnew).mpr rfl
  · rw [hsvc]
    exact h.slot
  · rw [hsvc]
    exact h.running
  · rw [hsvc]
    exact h.opened
  · rw [hsvc, htim]
    intro cb hcb
    rw [h.running (ne_nil_of_mem hcb)]
    exact h.timer cb hcb

variable {requested : RequestedState}

theorem Tracked.opens (h : Tracked w) (hasks : a.asks = some session) (hcloz : a.closes = none)
    (hknw : requested ≠ .asyncReqUnknownSt) (hruns : w.service.window.vhalAckTimerRuns = false)
    (hwin : (perform w.service a).state.window =
      { w.service.window with nextContext := w.service.window.nextContext + 1 }.openFor requested
        ⟨w.service.window.nextContext, session⟩)
    (hans : ∀ c, answersTo c (perform w.service a).messages = []) : Tracked (w.after a) := by
  have hnil := h.callbacks_nil hruns
  have hempty : w.service.window.shutdownCB = none ∧ w.service.window.restartCB = none := by
    unfold Window.callbacks at hnil
    cases hs : w.service.window.shutdownCB <;> cases hr : w.service.window.restartCB <;>
      simp_all
  have hreqs : (w.after a).requests =
      w.requests ++ [⟨w.service.window.nextContext, session, false, []⟩] := by
    rw [requests_asked hasks hcloz, hans]
    congr 1
    apply (map_congr_left fun r _ => ?_).trans (map_id _)
    rw [hans, append_nil]
    rfl
  have hcbs : (w.after a).service.window.callbacks =
      [⟨w.service.window.nextContext, session⟩] := by
    change (perform w.service a).state.window.callbacks = _
    cases requested <;>
      simp_all [Window.openFor, Window.setCallback, Window.callbacks]
  have hslot : (w.after a).service.window.callback (w.after a).service.window.statePtr =
      some ⟨w.service.window.nextContext, session⟩ := by
    change (perform w.service a).state.window.callback (perform w.service a).state.window.statePtr = _
    rw [hwin]
    cases requested <;> first | rfl | exact absurd rfl hknw
  have hflds : (w.after a).service.window.nextContext = w.service.window.nextContext + 1 ∧
      (w.after a).service.window.vhalAckTimerRuns = true ∧
      (w.after a).service.window.vhalRespHandled = false := by
    change (perform w.service a).state.window.nextContext = _ ∧
      (perform w.service a).state.window.vhalAckTimerRuns = _ ∧
      (perform w.service a).state.window.vhalRespHandled = _
    rw [hwin]
    cases requested <;> exact ⟨rfl, rfl, rfl⟩
  have htim : (w.after a).timerFor = some w.service.window.nextContext := by
    change w.timerAfter (w.after a).service = _
    rw [Asked.timerAfter, hflds.2.1, hruns]
    rfl
  have hwait : (w.after a).service.window.waiting = [w.service.window.nextContext] := by
    rw [Window.waiting, hcbs]
    rfl
  have hbef : w.service.window.waiting = [] := by
    rw [Window.waiting, hnil]
    rfl
  constructor
  · rw [hreqs, hflds.1]
    intro r hr
    rcases mem_append.1 hr with hold | hlast
    · exact Nat.lt_succ_of_lt (h.fresh r hold)
    · rw [mem_singleton.1 hlast]
      exact Nat.lt_succ_self _
  · rw [hcbs, hflds.1]
    intro cb hcb
    rw [mem_singleton.1 hcb]
    exact Nat.lt_succ_self _
  · rw [hcbs, hreqs]
    intro cb hcb r hr heq
    rw [mem_singleton.1 hcb] at heq ⊢
    rcases mem_append.1 hr with hold | hlast
    · exact absurd heq (Nat.ne_of_lt (h.fresh r hold))
    · rw [mem_singleton.1 hlast]
  · rw [hwait, hreqs]
    intro r hr hgone
    rcases mem_append.1 hr with hold | hlast
    · have hne : r.contextPtr ∉ [w.service.window.nextContext] := by
        rw [mem_singleton]
        exact Nat.ne_of_lt (h.fresh r hold)
      have honce := h.once r hold hgone
      rw [hbef] at honce
      exact (if_neg hne).mpr honce
    · rw [mem_singleton.1 hlast]
      exact (if_pos (mem_singleton.2 rfl)).mpr rfl
  · rw [hcbs, hslot]
    rfl
  · exact fun _ => hflds.2.1
  · exact fun _ => hflds.2.2
  · rw [hcbs, htim]
    intro cb hcb
    rw [mem_singleton.1 hcb]

/-! ## Requests that end -/

theorem requests_heard (hasks : a.asks = none) (hcloz : a.closes = none) :
    (w.after a).requests = w.requests.map fun r =>
      { r with answers := r.answers ++ answersTo r.contextPtr (perform w.service a).messages } := by
  change ((w.requests ++ w.asked a).map _) = _
  rw [Asked.asked, hasks]
  simp [Asked.hear, hcloz]

/-- The window is closed, and the handler in its slot is called. -/
theorem Tracked.closed (h : Tracked w) (hasks : a.asks = none) (hcloz : a.closes = none)
    (hcbs : (perform w.service a).state.window.callbacks = [])
    (hnext : (perform w.service a).state.window.nextContext = w.service.window.nextContext)
    (hruns : (perform w.service a).state.window.vhalAckTimerRuns = false)
    (hans : ∀ c, answersTo c (perform w.service a).messages =
      if c ∈ w.service.window.waiting then [response] else []) : Tracked (w.after a) := by
  have hreqs := requests_heard (w := w) hasks hcloz
  have haft : (w.after a).service.window.callbacks = [] := hcbs
  have hwait : (w.after a).service.window.waiting = [] := by
    rw [Window.waiting, haft]
    rfl
  constructor
  · rw [hreqs]
    intro r hr
    obtain ⟨old, hold, rfl⟩ := mem_map.1 hr
    change old.contextPtr < (perform w.service a).state.window.nextContext
    rw [hnext]
    exact h.fresh old hold
  · rw [haft]
    exact nofun
  · rw [haft]
    exact nofun
  · rw [hreqs, hwait]
    intro r hr hgone
    obtain ⟨old, hold, rfl⟩ := mem_map.1 hr
    have honce := h.once old hold hgone
    rw [hans, length_append]
    by_cases hmem : old.contextPtr ∈ w.service.window.waiting
    · rw [if_pos hmem] at honce ⊢
      rw [honce]
      rfl
    · rw [if_neg hmem] at honce ⊢
      rw [honce]
      rfl
  · rw [haft]
    rw [callback_eq_none haft]
    rfl
  · exact fun hne => absurd haft hne
  · intro hruns'
    change (perform w.service a).state.window.vhalAckTimerRuns = true at hruns'
    rw [hruns] at hruns'
    cases hruns'
  · rw [haft]
    exact nofun

theorem Tracked.left (h : Tracked w) (hcloz : a.closes = some session)
    (hasks : a.asks = none) (hcl : session ∈ w.service.clients)
    (hwin : (perform w.service a).state.window = { w.service.window with
      restartCB := w.service.window.restartCB.filter fun cb => cb.sessionRef ≠ session
      shutdownCB := w.service.window.shutdownCB.filter fun cb => cb.sessionRef ≠ session })
    (hans : ∀ c, answersTo c (perform w.service a).messages = []) : Tracked (w.after a) := by
  have hreqs : (w.after a).requests = w.requests.map fun r =>
      { r with gone := r.gone || r.sessionRef = session } := by
    change ((w.requests ++ w.asked a).map _) = _
    rw [Asked.asked, hasks]
    simp only [toList_none, map_nil, append_nil]
    apply map_congr_left
    intro r _
    unfold Asked.hear
    rw [hans, hcloz]
    by_cases heq : r.sessionRef = session
    · simp [heq, hcl]
    · have hne : session ≠ r.sessionRef := fun hs => heq hs.symm
      simp [heq, hne]
  have hfilt : ∀ cb : Option Callback, (cb.filter fun cb => cb.sessionRef ≠ session).toList =
      cb.toList.filter fun cb => cb.sessionRef ≠ session := by
    intro cb
    cases cb with
    | none => rfl
    | some cb => by_cases hs : cb.sessionRef = session <;> simp [hs]
  have hcbs : (w.after a).service.window.callbacks =
      w.service.window.callbacks.filter fun cb => cb.sessionRef ≠ session := by
    change (perform w.service a).state.window.callbacks = _
    rw [hwin]
    unfold Window.callbacks
    rw [hfilt, hfilt, filter_append]
  have hsub : ∀ cb ∈ (w.after a).service.window.callbacks, cb ∈ w.service.window.callbacks := by
    intro cb hcb
    rw [hcbs] at hcb
    exact (mem_filter.1 hcb).1
  have hflds : (w.after a).service.window.nextContext = w.service.window.nextContext ∧
      (w.after a).service.window.vhalAckTimerRuns = w.service.window.vhalAckTimerRuns ∧
      (w.after a).service.window.vhalRespHandled = w.service.window.vhalRespHandled := by
    change (perform w.service a).state.window.nextContext = _ ∧
      (perform w.service a).state.window.vhalAckTimerRuns = _ ∧
      (perform w.service a).state.window.vhalRespHandled = _
    rw [hwin]
    exact ⟨rfl, rfl, rfl⟩
  have htim : (w.after a).timerFor =
      if w.service.window.vhalAckTimerRuns then w.timerFor else none := by
    change w.timerAfter (w.after a).service = _
    rw [Asked.timerAfter, hflds.2.1]
    split_ifs <;> rfl
  constructor
  · rw [hreqs, hflds.1]
    intro r hr
    obtain ⟨old, hold, rfl⟩ := mem_map.1 hr
    exact h.fresh old hold
  · rw [hflds.1]
    exact fun cb hcb => h.freshCallback cb (hsub cb hcb)
  · rw [hreqs]
    intro cb hcb r hr heq
    obtain ⟨old, hold, rfl⟩ := mem_map.1 hr
    exact h.owner cb (hsub cb hcb) old hold heq
  · rw [hreqs]
    intro r hr hgone
    obtain ⟨old, hold, rfl⟩ := mem_map.1 hr
    obtain ⟨hbef, hoth⟩ := Bool.or_eq_false_iff.1 hgone
    have honce := h.once old hold hbef
    have hwait : old.contextPtr ∈ (w.after a).service.window.waiting ↔
        old.contextPtr ∈ w.service.window.waiting := by
      constructor
      · intro hmem
        obtain ⟨cb, hcb, heq⟩ := mem_map.1 hmem
        exact mem_map.2 ⟨cb, hsub cb hcb, heq⟩
      intro hmem
      obtain ⟨cb, hcb, heq⟩ := mem_map.1 hmem
      have hownr := h.owner cb hcb old hold heq.symm
      refine mem_map.2 ⟨cb, ?_, heq⟩
      rw [hcbs, mem_filter]
      refine ⟨hcb, ?_⟩
      rw [← hownr]
      simpa using hoth
    by_cases hmem : old.contextPtr ∈ w.service.window.waiting
    · rw [if_pos hmem] at honce
      rw [if_pos (hwait.2 hmem)]
      exact honce
    · rw [if_neg hmem] at honce
      rw [if_neg fun hm => hmem (hwait.1 hm)]
      exact honce
  · have hslot : ∀ requested, (perform w.service a).state.window.callback requested =
        (w.service.window.callback requested).filter fun cb => cb.sessionRef ≠ session := by
      intro requested
      rw [hwin]
      cases requested <;> rfl
    have hst : (perform w.service a).state.window.statePtr = w.service.window.statePtr := by
      rw [hwin]
    rw [hcbs, h.slot]
    change _ = ((perform w.service a).state.window.callback
      (perform w.service a).state.window.statePtr).toList
    rw [hslot, hst, hfilt]
  · intro hne
    rw [hflds.2.1]
    apply h.running
    intro hnil
    rw [hcbs, hnil] at hne
    exact hne rfl
  · rw [hflds.2.1, hflds.2.2]
    exact h.opened
  · rw [htim]
    intro cb hcb
    have hold := hsub cb hcb
    rw [h.running (ne_nil_of_mem hold)]
    exact h.timer cb hold

/-! ## What the handlers answer -/

variable {messages : List Message} {env : PmsEnv} {payload : PrepareResp}

section Handlers

open State

variable {s : State}

theorem answersTo_eq_nil (c : Nat) (h : messages.all Message.idle = true) :
    answersTo c messages = [] := by
  unfold answersTo
  rw [filterMap_eq_nil_iff]
  intro m hm
  have hidle := all_eq_true.1 h m hm
  cases m <;> first | rfl | cases hidle

theorem answersTo_answerCB (c : Nat) (requested : RequestedState) (response : Response) :
    answersTo c (s.answerCB requested response) =
      if c ∈ (s.window.callback requested).toList.map Callback.contextPtr then [response] else [] := by
  unfold answerCB
  cases s.window.callback requested with
  | none => rfl
  | some cb =>
    rw [answersTo_answer]
    simp

theorem window_setNadMode (state : PowerState) (change : PowerMode → PowerMode) (env : PmsEnv) :
    (s.setNadMode state change env).state.window = s.window := by
  unfold setNadMode
  split <;> rfl

theorem window_handleReason (requested : RequestedState) (rsp : HalRspReason) (env : PmsEnv) :
    (s.handleReason requested rsp env).state.window = s.window := by
  cases rsp with
  | ready => exact window_setNadMode _ _ env
  | notReady | timeout | invalidRequest | other value => rfl

variable {rsp : HalRspReason}

theorem answersTo_handleReason (c : Nat) (requested : RequestedState)
    (env : PmsEnv) (hrsp : ∀ cb ∈ s.window.callback requested,
      rsp = .ready ∨ rsp = .notReady ∨ rsp = .invalidRequest) :
    answersTo c (s.handleReason requested rsp env).messages =
      if c ∈ (s.window.callback requested).toList.map Callback.contextPtr then
        [rsp.outcome.getD .ready] else [] := by
  have hnone : rsp ≠ .ready → rsp ≠ .notReady → rsp ≠ .invalidRequest →
      s.window.callback requested = none := by
    intro h₁ h₂ h₃
    rcases hcb : s.window.callback requested with _ | cb
    · rfl
    rcases hrsp cb hcb with h | h | h
    · exact absurd h h₁
    · exact absurd h h₂
    · exact absurd h h₃
  cases rsp with
  | ready =>
    change answersTo c (s.answerCB requested .ready ++ [.setAllVMPowerState _ _]) = _
    rw [answersTo_append, answersTo_answerCB]
    exact append_nil _
  | notReady | invalidRequest => exact answersTo_answerCB c requested _
  | timeout | other value =>
    rw [hnone nofun nofun nofun]
    rfl

def Action.idle : Action → Bool
  | .shutdownReqAsync .. | .restartReqAsync .. | .vhalPrepareResp .. | .vhalAckTimer _
  | .clientDisconnection .. => false
  | _ => true

theorem window_ofClient (session : Nat) (f : Power → Power) :
    (s.ofClient session f).window = s.window := by
  unfold ofClient
  split <;> rfl

theorem State.Idle.unasked {o : Outcome} (h : Idle s o) :
    o.state.window = s.window ∧ ∀ c, answersTo c o.messages = [] :=
  ⟨h.window, fun c => answersTo_eq_nil c h.messages⟩

/-- Most actions leave the window and call no handler of a request. -/
theorem window_idle (h : a.idle = true) : (perform s a).state.window = s.window ∧
    ∀ c, answersTo c (perform s a).messages = [] := by
  cases a with
  | shutdownReqAsync | restartReqAsync | vhalPrepareResp | vhalAckTimer | clientDisconnection =>
    cases h
  | clientConnection session allocated =>
    refine ⟨?_, fun _ => rfl⟩
    change (s.clientConnection session allocated).window = _
    unfold clientConnection
    split <;> rfl
  | pmVhalReady | wakeSourceTimer => exact ⟨rfl, fun _ => rfl⟩
  | createWakeupSource session | deleteWakeupSource session | stayAwake session | relax session =>
    exact ⟨window_ofClient session _, fun _ => rfl⟩
  | authorizeStayAwakeReason => exact ⟨rfl, fun _ => rfl⟩
  | createNodeWakeupSource session | deleteNodeWakeupSource session | stayAwakeNode session
  | relaxNode session | setNodeTargetedPowerMode session =>
    exact ⟨window_ofClient session _, fun _ => rfl⟩
  | vhalStayAwake | vhalRelax => exact ⟨rfl, fun _ => rfl⟩
  | shutdownNode session env =>
    change (Outcome.state (if session ∈ s.clients then s.shutdownNode env else ⟨s, []⟩)).window = _ ∧
      ∀ c, answersTo c (Outcome.messages (if session ∈ s.clients then s.shutdownNode env else ⟨s, []⟩)) = _
    split
    · exact (sets_shutdownNode env).idle.unasked
    · exact ⟨rfl, fun _ => rfl⟩
  | restartNode session env =>
    change (Outcome.state (if session ∈ s.clients then s.restartNode env else ⟨s, []⟩)).window = _ ∧
      ∀ c, answersTo c (Outcome.messages (if session ∈ s.clients then s.restartNode env else ⟨s, []⟩)) = _
    split
    · exact (sets_restartNode env).idle.unasked
    · exact ⟨rfl, fun _ => rfl⟩
  | vhalStateChangeResp => exact ⟨rfl, fun _ => rfl⟩
  | stateChangeEx psRef state env => exact (idle_stateChangeEx psRef state env).unasked
  | nodePowerStateChanged => exact idle_nodeStateChanged.unasked
  | addHandler session stateMask old =>
    exact (idle_addNodeHandler session stateMask old).unasked
  | removeHandler => exact ⟨rfl, fun _ => rfl⟩
  | sendAck session ref ready => exact (idle_sendNodeAck session ref ready).unasked
  | stateChangeAckTimer => exact idle_ackTimer.unasked

/-! ## What a request does -/

/-- The handler of a request is called at once, or a window opens for it. -/
inductive Taken (s : State) (session : Nat) (o : Outcome) : Prop where
  | answered (response : Response)
      (window : o.state.window = { s.window with nextContext := s.window.nextContext + 1 })
      (answers : ∀ c, answersTo c o.messages = if c = s.window.nextContext then [response] else [])
      (accepted : response = .ready → accepts o.messages = true)
  | opened (requested : RequestedState) (known : requested ≠ .asyncReqUnknownSt)
      (runs : s.window.vhalAckTimerRuns = false)
      (window : o.state.window =
        { s.window with nextContext := s.window.nextContext + 1 }.openFor requested
          ⟨s.window.nextContext, session⟩)
      (answers : ∀ c, answersTo c o.messages = [])

theorem taken_refused (session : Nat) (result : Result) :
    Taken s session ⟨s.newContext, [.answer s.window.nextContext .notReady result]⟩ :=
  .answered .notReady rfl (fun c => answersTo_answer c _ _ _) nofun

/-- Once the state is taken: the driver is asked, or the node goes down. -/
theorem taken_opening {t : State}
    (known : requested ≠ .asyncReqUnknownSt) (hwin : t.window = s.newContext.window)
    (hinf : t.pmInf = s.pmInf) (hopen : s.CarefulOpening env) (state : PowerState)
    (change : PowerMode → PowerMode) :
    Taken s session (if t.preparesAsync then t.sendPrepare requested ⟨s.window.nextContext, session⟩
      else
        let o := t.setNadMode state change env
        { o with messages := o.messages ++ [.answer s.window.nextContext .ready .ok] }) := by
  have hasyn : t.preparesAsync = s.preparesAsync := by
    unfold preparesAsync
    rw [hinf]
  unfold CarefulOpening at hopen
  rw [hasyn]
  split_ifs at hopen ⊢ with h
  · refine .opened requested known hopen ?_ fun _ => rfl
    change t.window.openFor requested _ = _
    rw [hwin]
    rfl
  refine .answered .ready ?_ (fun c => ?_) fun _ => ?_
  · exact (window_setNadMode state change env).trans hwin
  · change answersTo c ([.setAllVMPowerState state env.nad] ++ [.answer _ _ _]) = _
    rw [answersTo_append, answersTo_answer]
    rfl
  · change accepts ([.setAllVMPowerState state env.nad] ++ [.answer _ _ _]) = true
    rw [hopen]
    rfl

variable {reason : Nat} {final : MachineState}

theorem admits_iff {last : Nat} {toState : MachineState} :
    s.admits session reason last toState final = true ↔
      ¬ (session ∉ s.clients ∨ last < reason ∧ reason < 15) ∧
      ¬ (s.power.stateMachine.currentState = toState ∨ s.power.stateMachine.currentState = final) ∧
      ¬ s.power.requestStateChange toState = false := by
  unfold admits
  simp only [Bool.and_eq_true, decide_eq_true_eq, Bool.not_eq_true', Bool.and_eq_false_iff,
    decide_eq_false_iff_not, not_or, Bool.not_eq_false]
  tauto

theorem taken_shutdownReqAsync
    (h : s.admits session reason 1 .shuttingDown .shutdown = true → s.CarefulOpening env) :
    Taken s session (s.shutdownReqAsync session reason env) := by
  unfold shutdownReqAsync
  dsimp only
  split
  case isTrue => exact taken_refused session .unsupported
  case isFalse h₁ =>
    split
    case isTrue => exact taken_refused session .busy
    case isFalse h₂ =>
      split
      case isTrue => exact taken_refused session .ok
      case isFalse h₃ =>
        refine taken_opening ?_ ?_ ?_ (h (admits_iff.2 ⟨h₁, h₂, h₃⟩)) .shutdown _
        · exact nofun
        all_goals rfl

variable {mode : RestartMode}

/-- A restart that is not refused for its session or its reason. -/
theorem taken_restartFrom (hmode : mode.requestedState = some requested) {transient : MachineState}
    (h₁ : ¬ (session ∉ s.clients ∨ 2 < reason ∧ reason < 15))
    (h : s.admits session reason 2 transient final = true → s.CarefulOpening env) :
    Taken s session
      (s.newContext.restartFrom mode transient final ⟨s.window.nextContext, session⟩ env) := by
  have hknw : requested ≠ .asyncReqUnknownSt := by
    intro heq
    rw [heq] at hmode
    cases mode <;> cases hmode
  unfold restartFrom restartPrepare
  dsimp only
  split
  case isTrue => exact taken_refused session .busy
  case isFalse h₂ =>
    split
    case isTrue => exact taken_refused session .ok
    case isFalse h₃ =>
      rw [hmode]
      refine taken_opening hknw ?_ ?_ (h (admits_iff.2 ⟨h₁, h₂, h₃⟩)) requested.powerState _
      all_goals rfl

theorem taken_restartReqAsync
    (h : session ∈ s.clients → ¬ (2 < reason ∧ reason < 15) → s.handlerRef = true ∧
      match mode with
      | .systemOffOn => s.admits session reason 2 .shuttingDown .shutdown = true →
          s.CarefulOpening env
      | .nadReboot => s.admits session reason 2 .restarting .restart = true → s.CarefulOpening env
      | .other _ => False) : Taken s session (s.restartReqAsync session mode reason env) := by
  unfold restartReqAsync
  dsimp only
  split
  case isTrue => exact taken_refused session .unsupported
  case isFalse h₁ =>
    obtain ⟨hcl, hreas⟩ := not_or.1 h₁
    obtain ⟨hhdl, hmode⟩ := h (not_not.1 hcl) hreas
    split
    case isTrue hnone => exact absurd hhdl (ne_true_of_eq_false hnone)
    case isFalse =>
      cases mode with
      | systemOffOn | nadReboot => exact taken_restartFrom rfl h₁ hmode
      | other value => exact hmode.elim

/-! ## What ends a request -/

/-- The slot that a response of the type empties. -/
def PrepareRespType.slot : PrepareRespType → RequestedState
  | shutdown => .systemNormalShutdown
  | restart => .restartWithNadReboot

theorem prepareResp_dropped (env : PmsEnv)
    (h : s.takesResp payload = false) : s.vhalPrepareRespHandler payload env = ⟨s, []⟩ := by
  unfold vhalPrepareRespHandler
  unfold takesResp at h
  cases hhdld : s.window.vhalRespHandled with
  | true => rfl
  | false =>
    have hmode : modeToRequestedState payload.mode ≠ s.window.statePtr := by
      simpa [hhdld] using h
    rw [if_neg Bool.false_ne_true, if_pos hmode]

theorem prepareResp_taken (env : PmsEnv)
    (h : s.takesResp payload = true) : s.vhalPrepareRespHandler payload env =
      match payload.type with
      | .shutdown => s.closeWindow.handleShutdownPrepareResp payload env
      | .restart => s.closeWindow.handleRestartPrepareResp payload env := by
  obtain ⟨hhdld, hmode⟩ := Bool.and_eq_true_iff.1 h
  exact (if_neg (by simpa using hhdld)).trans (if_neg (not_not.2 (of_decide_eq_true hmode)))

theorem window_dropCallback {t : State} (slot : RequestedState) (h : t.window = v) :
    (t.dropCallback slot).window = v.setCallback none slot := by
  rw [← h]
  rfl

/-- A response that is taken closes the window and empties a slot. -/
theorem window_vhalPrepareResp (env : PmsEnv)
    (h : s.takesResp payload = true) : (s.vhalPrepareRespHandler payload env).state.window =
      s.closeWindow.window.setCallback none payload.type.slot := by
  rw [prepareResp_taken env h]
  cases htype : payload.type with
  | shutdown =>
    unfold handleShutdownPrepareResp
    dsimp only
    split
    · exact window_dropCallback _ (window_handleReason _ payload.rsp env)
    · rfl
  | restart =>
    unfold handleRestartPrepareResp
    split_ifs
    iterate 2 exact window_dropCallback _ (window_handleReason _ payload.rsp env)
    rfl

theorem answersTo_vhalPrepareResp (env : PmsEnv) (c : Nat)
    (h : ∀ requested, s.window.callback requested = none) :
    answersTo c (s.vhalPrepareRespHandler payload env).messages = [] := by
  have hreas : ∀ requested,
      answersTo c (s.closeWindow.handleReason requested payload.rsp env).messages = [] := by
    intro requested
    have hnone : s.closeWindow.window.callback requested = none := by
      rw [← h requested]
      cases requested <;> rfl
    rw [answersTo_handleReason c requested env]
    · rw [hnone]
      rfl
    · rw [hnone]
      exact nofun
  rcases htake : s.takesResp payload with _ | _
  · rw [prepareResp_dropped env htake]
    rfl
  rw [prepareResp_taken env htake]
  cases payload.type with
  | shutdown =>
    unfold handleShutdownPrepareResp
    dsimp only
    split
    · exact hreas .systemNormalShutdown
    · rfl
  | restart =>
    unfold handleRestartPrepareResp
    split_ifs
    · exact hreas .restartWithNadPowerOffOn
    · exact hreas .restartWithNadReboot
    · rfl

theorem prepareResp_own (env : PmsEnv)
    (h : s.takesResp payload = true) (htype : payload.type = .of s.window.statePtr)
    (hknw : s.window.statePtr ≠ .asyncReqUnknownSt) :
    s.vhalPrepareRespHandler payload env =
      { s.closeWindow.handleReason s.window.statePtr payload.rsp env with
        state := (s.closeWindow.handleReason s.window.statePtr payload.rsp env).state.dropCallback
          s.window.statePtr } := by
  have hmode : modeToRequestedState payload.mode = s.window.statePtr := by
    exact of_decide_eq_true (Bool.and_eq_true_iff.1 h).2
  rw [prepareResp_taken env h, htype]
  unfold handleShutdownPrepareResp handleRestartPrepareResp
  rw [← hmode] at hknw ⊢
  cases hm : payload.mode with
  | shutdownModeNormal | restartModeNadReboot | restartModeSystemOffOnNadOff => rfl
  | shutdownModeGraceful | suspendModeFull | other value =>
    exact (hknw (congrArg modeToRequestedState hm)).elim

/-- A window without a request has nobody to call; the node is back. -/
theorem prepareResp_unknown (env : PmsEnv)
    (h : s.takesResp payload = true) (htype : payload.type = .of s.window.statePtr)
    (hunk : s.window.statePtr = .asyncReqUnknownSt) :
    s.vhalPrepareRespHandler payload env =
      ⟨(s.closeWindow.revertPendingWindow env).dropCallback .restartWithNadReboot, []⟩ := by
  have hmode : modeToRequestedState payload.mode = .asyncReqUnknownSt := by
    exact (of_decide_eq_true (Bool.and_eq_true_iff.1 h).2).trans hunk
  rw [prepareResp_taken env h, htype, hunk]
  change handleRestartPrepareResp _ payload env = _
  unfold handleRestartPrepareResp
  rw [if_neg, if_neg]
  all_goals
    intro heq
    rw [heq] at hmode
    cases hmode

theorem stateMachine_reconcile (p : Power) (env : PmsEnv) :
    (p.reconcile env).stateMachine = p.stateMachine := by
  unfold Power.reconcile
  split_ifs <;> rfl

theorem currentState_revertWindow (p : Power) (env : PmsEnv) :
    (p.revertPendingWindow env).stateMachine.currentState = .resume ∨
      (p.revertPendingWindow env).stateMachine.currentState = .releasingWakeSource := by
  unfold Power.revertPendingWindow
  rw [stateMachine_reconcile]
  exact p.revertTarget_eq

theorem back_revert (requested : RequestedState) (answers : List Message) (env : PmsEnv) :
    (s.revert requested answers env).state.Back requested := by
  refine ⟨?_, currentState_revertWindow s.power env⟩
  cases requested <;> rfl

/-- After the reason is handled, the node is back or goes down. -/
theorem ends_handleReason (requested : RequestedState) (hrdy : rsp = .ready → env.nad = true) :
    accepts (s.handleReason requested rsp env).messages = true ∨
      (s.handleReason requested rsp env).state.Back requested := by
  cases rsp with
  | ready =>
    left
    change accepts (s.answerCB requested .ready ++ [.setAllVMPowerState _ env.nad]) = true
    unfold accepts
    rw [hrdy rfl]
    simp
  | notReady | timeout | invalidRequest | other value => exact .inr (back_revert requested _ env)

/-! ## Slots -/

theorem callbacks_setCallback_none (h : v.callbacks = []) (slot : RequestedState) :
    (v.setCallback none slot).callbacks = [] := by
  obtain ⟨hshdn, hrst⟩ := append_eq_nil_iff.1 h
  cases slot with
  | systemNormalShutdown => exact hrst
  | restartWithNadPowerOffOn | restartWithNadReboot => exact append_eq_nil_iff.2 ⟨hshdn, rfl⟩
  | asyncReqUnknownSt => exact h

/-- The slot of the state that is asked for is the only one that was taken. -/
theorem callbacks_setCallback_slot (h : v.callbacks = (v.callback v.statePtr).toList) :
    (v.setCallback none v.statePtr).callbacks = [] := by
  cases hst : v.statePtr with
  | systemNormalShutdown =>
    rw [hst] at h
    exact append_right_eq_self.1 h
  | restartWithNadPowerOffOn | restartWithNadReboot =>
    rw [hst] at h
    exact append_eq_nil_iff.2 ⟨append_left_eq_self.1 h, rfl⟩
  | asyncReqUnknownSt =>
    rw [hst] at h
    exact h

/-- The window of a request is closed: its handler is called, and the node goes down or is back. -/
structure Closing (s : State) (o : Outcome) (response : Response) : Prop where
  callbacks : o.state.window.callbacks = []
  next : o.state.window.nextContext = s.window.nextContext
  stopped : o.state.window.vhalAckTimerRuns = false
  answers : ∀ c, answersTo c o.messages = if c ∈ s.window.waiting then [response] else []
  ends : s.window.vhalAckTimerRuns = true →
    accepts o.messages = true ∨ o.state.Back s.window.statePtr

theorem waiting_of_slot (h : s.window.callbacks = (s.window.callback s.window.statePtr).toList) :
    s.window.waiting = (s.window.callback s.window.statePtr).toList.map Callback.contextPtr := by
  rw [Window.waiting, h]

theorem window_setCallback (v : Window) (cb : Option Callback) (slot : RequestedState) :
    (v.setCallback cb slot).nextContext = v.nextContext ∧
      (v.setCallback cb slot).vhalAckTimerRuns = v.vhalAckTimerRuns := by
  cases slot <;> exact ⟨rfl, rfl⟩

theorem closing_vhalAckTimer (env : PmsEnv)
    (hslot : s.window.callbacks = (s.window.callback s.window.statePtr).toList)
    (hopen : s.window.vhalRespHandled = false) :
    Closing s (s.vhalAckTimerHandler env) .timeout := by
  have heq : s.vhalAckTimerHandler env = ⟨(s.closeWindow.revert s.window.statePtr
      (s.answerCB s.window.statePtr .timeout) env).state.dropCallback s.window.statePtr,
      s.answerCB s.window.statePtr .timeout⟩ := by
    unfold vhalAckTimerHandler
    rw [if_neg (ne_true_of_eq_false hopen)]
    rfl
  rw [heq]
  constructor
  · exact callbacks_setCallback_slot (v := s.closeWindow.window) hslot
  · exact (window_setCallback s.closeWindow.window none s.window.statePtr).1
  · exact (window_setCallback s.closeWindow.window none s.window.statePtr).2
  · intro c
    rw [waiting_of_slot hslot]
    exact answersTo_answerCB c _ _
  · intro _
    exact .inr (back_revert (s := s.closeWindow) s.window.statePtr
      (s.answerCB s.window.statePtr .timeout) env)

/-- Without a request that waits, a response of any type closes the window. -/
theorem closing_unasked (env : PmsEnv) (htake : s.takesResp payload = true)
    (hnil : s.window.callbacks = []) (hstop : s.window.vhalAckTimerRuns = false) :
    Closing s (s.vhalPrepareRespHandler payload env) .ready := by
  have hwin := window_vhalPrepareResp env htake
  have hset := window_setCallback s.closeWindow.window none payload.type.slot
  constructor
  · rw [hwin]
    exact callbacks_setCallback_none (v := s.closeWindow.window) hnil payload.type.slot
  · rw [hwin]
    exact hset.1
  · rw [hwin]
    exact hset.2
  · intro c
    rw [answersTo_vhalPrepareResp env c (callback_eq_none hnil), Window.waiting, hnil]
    rfl
  · intro hruns
    rw [hstop] at hruns
    cases hruns

/-- A response of the type of the request closes its window, for a reason that has a branch. -/
theorem closing_vhalPrepareResp (htake : s.takesResp payload = true)
    (hslot : s.window.callbacks = (s.window.callback s.window.statePtr).toList)
    (htype : payload.type = .of s.window.statePtr) (hrdy : payload.rsp = .ready → env.nad = true)
    (hrsp : ∀ cb ∈ s.window.callback s.window.statePtr,
      payload.rsp = .ready ∨ payload.rsp = .notReady ∨ payload.rsp = .invalidRequest) :
    Closing s (s.vhalPrepareRespHandler payload env) (payload.rsp.outcome.getD .ready) := by
  have hwin := window_vhalPrepareResp env htake
  have hset := window_setCallback s.closeWindow.window none payload.type.slot
  by_cases hknw : s.window.statePtr = .asyncReqUnknownSt
  · have hnil : s.window.callbacks = [] := by
      rw [hslot, hknw]
      rfl
    constructor
    · rw [hwin]
      exact callbacks_setCallback_none (v := s.closeWindow.window) hnil payload.type.slot
    · rw [hwin]
      exact hset.1
    · rw [hwin]
      exact hset.2
    · intro c
      rw [answersTo_vhalPrepareResp env c (callback_eq_none hnil), Window.waiting, hnil]
      rfl
    · intro _
      rw [prepareResp_unknown env htake htype hknw, hknw]
      exact .inr ⟨rfl, currentState_revertWindow s.closeWindow.power env⟩
  · have heq := prepareResp_own env htake htype hknw
    have hclsd : s.closeWindow.window.callback s.window.statePtr =
        s.window.callback s.window.statePtr := by
      cases s.window.statePtr <;> rfl
    constructor
    · rw [heq]
      rw [window_dropCallback _ (window_handleReason s.window.statePtr payload.rsp env)]
      exact callbacks_setCallback_slot (v := s.closeWindow.window) hslot
    · rw [hwin]
      exact hset.1
    · rw [hwin]
      exact hset.2
    · intro c
      rw [heq, waiting_of_slot hslot]
      apply answersTo_handleReason c s.window.statePtr env
      exact hrsp
    · intro _
      rw [heq]
      exact ends_handleReason s.window.statePtr hrdy

end Handlers

/-! ## A step -/

variable {result : Result}

theorem mem_answersTo {c : Nat}
    (h : .answer c response result ∈ messages) : response ∈ answersTo c messages := by
  refine mem_filterMap.2 ⟨_, h, ?_⟩
  exact if_pos rfl

theorem Taken.tracked (h : Tracked w) (hasks : a.asks = some session)
    (hcloz : a.closes = none) (htkn : Taken w.service session (perform w.service a)) :
    Tracked (w.after a) := by
  cases htkn with
  | answered response hwin hans => exact h.atOnce hasks hcloz hwin hans
  | opened requested hknw hruns hwin hans =>
    exact h.opens hasks hcloz hknw hruns hwin hans

variable {s : State}

theorem Taken.own {o : Outcome} (h : Taken s session o) {c : Nat}
    (hm : .answer c response result ∈ o.messages) : c = s.window.nextContext := by
  have hmem := mem_answersTo hm
  cases h with
  | answered given hwin hans =>
    rw [hans] at hmem
    by_contra hne
    rw [if_neg hne] at hmem
    cases hmem
  | opened requested hknw hruns hwin hans =>
    rw [hans] at hmem
    cases hmem

theorem Taken.ends (h : Taken s session (perform s a)) : EndsUp s a := by
  cases h with
  | answered response hwin hans haccd =>
    constructor
    · intro hruns hstop
      rw [hwin] at hstop
      rw [show s.window.vhalAckTimerRuns = false from hstop] at hruns
      cases hruns
    · intro requested _ hrdy
      rw [hans, if_pos rfl, mem_singleton] at hrdy
      exact .inl (haccd hrdy.symm)
  | opened requested hknw hruns hwin hans =>
    constructor
    · intro hruns'
      rw [hruns] at hruns'
      cases hruns'
    · intro requested _ hrdy
      rw [hans] at hrdy
      cases hrdy

theorem Closing.tracked (h : Tracked w) (hasks : a.asks = none) (hcloz : a.closes = none)
    (hclsg : Closing w.service (perform w.service a) response) : Tracked (w.after a) :=
  h.closed hasks hcloz hclsg.callbacks hclsg.next hclsg.stopped hclsg.answers

theorem Closing.own {o : Outcome} (h : Closing s o response)
    {c : Nat} {given : Response} (hm : .answer c given result ∈ o.messages) :
    (∃ cb ∈ s.window.callbacks, cb.contextPtr = c) ∧ given = response := by
  have hmem := mem_answersTo hm
  rw [h.answers] at hmem
  by_cases hc : c ∈ s.window.waiting
  · rw [if_pos hc] at hmem
    exact ⟨mem_map.1 hc, mem_singleton.1 hmem⟩
  · rw [if_neg hc] at hmem
    cases hmem

theorem Closing.ended (hreqd : a.requested = none)
    (h : Closing s (perform s a) response) : EndsUp s a where
  window := fun hruns _ => h.ends hruns
  atOnce := by
    rw [hreqd]
    exact nofun

theorem ends_quiet (hruns : (perform s a).state.window.vhalAckTimerRuns =
    s.window.vhalAckTimerRuns) (hans : ∀ c, answersTo c (perform s a).messages = []) :
    EndsUp s a where
  window := fun hruns' hstop => by
    rw [hruns, hruns'] at hstop
    cases hstop
  atOnce := fun requested _ hrdy => by
    rw [hans] at hrdy
    cases hrdy

/-- What a step keeps, and what the clients rely on in it. -/
structure Served (w : Asked) (e : Event) : Prop where
  tracked : Tracked (w.after e.action)
  own : ∀ c response result, .answer c response result ∈ (perform w.service e.action).messages →
    OwnAnswer w e (.answer c response result)
  ends : EndsUp w.service e.action

variable {e : Event}

theorem Served.oneOutcome (h : Served w e) : OneOutcome w e := by
  have haft : ∀ t ∈ watch w e, t = w.after e.action := by
    intro t ht
    unfold watch at ht
    split at ht
    · cases ht
      rfl
    · cases ht
  constructor
  · intro t ht
    rw [haft t ht]
    exact h.tracked.settled
  · intro t _ m hm
    cases m with
    | answer c response result => exact h.own c response result hm
    | setAllVMPowerState | sendStateChangeAck | nodeStateChangePrepare | nodeStateChangeReq
    | nodePowerState => trivial
  · exact fun _ _ => h.ends

theorem served_taken (h : Tracked w) (hasks : e.action.asks = some session)
    (htkn : Taken w.service session (perform w.service e.action)) : Served w e := by
  obtain ⟨action, request⟩ := e
  cases action with
  | shutdownReqAsync | restartReqAsync =>
    exact ⟨htkn.tracked h hasks rfl, fun _ _ _ hm => htkn.own hm, htkn.ends⟩
  | _ => cases hasks

theorem served_quiet (h : Tracked w) (hasks : e.action.asks = none)
    (hcloz : ∀ session, e.action.closes = some session → session ∉ w.service.clients)
    (hwin : (perform w.service e.action).state.window = w.service.window)
    (hans : ∀ c, answersTo c (perform w.service e.action).messages = []) : Served w e where
  tracked := h.quiet hasks hcloz hwin hans
  own := fun c _ _ hm => by
    have hmem := mem_answersTo hm
    rw [hans] at hmem
    cases hmem
  ends := ends_quiet (congrArg Window.vhalAckTimerRuns hwin) hans

theorem closes_idle (h : a.idle = true) : a.asks = none ∧ a.closes = none := by
  cases a <;> first | exact ⟨rfl, rfl⟩ | cases h

variable {request : Nat}

theorem served_vhalPrepareResp
    (h : Tracked w) (hok : CarefulRequest w ⟨.vhalPrepareResp payload env, request⟩) :
    Served w ⟨.vhalPrepareResp payload env, request⟩ := by
  cases htake : w.service.takesResp payload with
  | false =>
    have heq : perform w.service (.vhalPrepareResp payload env) = ⟨w.service, []⟩ :=
      prepareResp_dropped env htake
    refine served_quiet h rfl nofun ?_ ?_
    · exact congrArg (fun o => o.state.window) heq
    · intro c
      exact congrArg (fun o => answersTo c o.messages) heq
  | true =>
    cases hruns : w.service.window.vhalAckTimerRuns with
    | false =>
      have hnil := h.callbacks_nil hruns
      have hclsg := closing_unasked env htake hnil hruns
      refine ⟨hclsg.tracked h rfl rfl, ?_, hclsg.ended rfl⟩
      intro c response result hm
      obtain ⟨⟨cb, hcb, -⟩, -⟩ := hclsg.own hm
      rw [hnil] at hcb
      cases hcb
    | true =>
      obtain ⟨htype, hrdy, hcb⟩ := hok htake hruns
      have hclsg := closing_vhalPrepareResp htake h.slot htype hrdy fun cb hm => (hcb cb hm).2
      refine ⟨hclsg.tracked h rfl rfl, ?_, hclsg.ended rfl⟩
      intro c response result hm
      obtain ⟨⟨cb, hmem, hc⟩, hresp⟩ := hclsg.own hm
      rw [h.slot, mem_toList] at hmem
      obtain ⟨hreq, hrsp⟩ := hcb cb hmem
      refine ⟨hc.symm.trans hreq, ?_⟩
      rw [hresp]
      rcases hrsp with hr | hr | hr <;>
        · rw [hr]
          rfl

theorem served_vhalAckTimer (h : Tracked w) (hruns : w.service.window.vhalAckTimerRuns = true) :
    Served w ⟨.vhalAckTimer env, request⟩ := by
  have hclsg := closing_vhalAckTimer env h.slot (h.opened hruns)
  refine ⟨hclsg.tracked h rfl rfl, ?_, hclsg.ended rfl⟩
  intro c response result hm
  obtain ⟨⟨cb, hmem, hc⟩, hresp⟩ := hclsg.own hm
  refine ⟨?_, hresp⟩
  rw [← hc]
  exact h.timer cb hmem

theorem served_clientLeaves {env : Nat → PmsEnv} {nodeOk : Nat → Bool}
    (h : Tracked w) : Served w ⟨.clientDisconnection session env nodeOk, request⟩ := by
  by_cases hcl : session ∈ w.service.clients
  · have hpfm : perform w.service (.clientDisconnection session env nodeOk) =
        ⟨w.service.clientDisconnection session env nodeOk, []⟩ := rfl
    have hwin : (perform w.service (.clientDisconnection session env nodeOk)).state.window =
        { w.service.window with
          restartCB := w.service.window.restartCB.filter fun cb => cb.sessionRef ≠ session
          shutdownCB :=
            w.service.window.shutdownCB.filter fun cb => cb.sessionRef ≠ session } := by
      rw [hpfm]
      unfold State.clientDisconnection
      rw [if_neg (not_not.2 hcl)]
    refine ⟨h.left rfl rfl hcl hwin fun _ => rfl, ?_, ?_⟩
    · exact fun _ _ _ hm => absurd hm not_mem_nil
    · refine ends_quiet ?_ fun _ => rfl
      exact (congrArg Window.vhalAckTimerRuns hwin :)
  · have hpfm : perform w.service (.clientDisconnection session env nodeOk) = ⟨w.service, []⟩ := by
      change (⟨State.clientDisconnection _ _ _ _, []⟩ : Outcome) = _
      unfold State.clientDisconnection
      rw [if_pos hcl]
    refine served_quiet h rfl ?_ ?_ ?_
    · intro other hoth
      cases hoth
      exact hcl
    · exact congrArg (fun o => o.state.window) hpfm
    · intro c
      exact congrArg (fun o => answersTo c o.messages) hpfm

/-- A careful step: every handler is called once, with its own outcome. -/
theorem served_careful (h : Tracked w) (hok : CarefulRequest w e)
    (hen : enabled w.service e.action = true) : Served w e := by
  by_cases hidle : e.action.idle = true
  · obtain ⟨hwin, hans⟩ := window_idle (s := w.service) hidle
    obtain ⟨hasks, hcloz⟩ := closes_idle hidle
    refine served_quiet h hasks ?_ hwin hans
    rw [hcloz]
    exact nofun
  obtain ⟨action, request⟩ := e
  cases action with
  | shutdownReqAsync session reason env => exact served_taken h rfl (taken_shutdownReqAsync hok)
  | restartReqAsync session mode reason env => exact served_taken h rfl (taken_restartReqAsync hok)
  | vhalPrepareResp payload env => exact served_vhalPrepareResp h hok
  | vhalAckTimer env => exact served_vhalAckTimer h (Bool.and_eq_true_iff.1 hen).2
  | clientDisconnection session env nodeOk => exact served_clientLeaves h
  | _ => exact absurd rfl hidle

theorem tracked_watched (handlerRef : Bool) (nodeState : NodePowerState) :
    Tracked (watched handlerRef nodeState) where
  fresh := nofun
  freshCallback := nofun
  owner := nofun
  once := nofun
  slot := rfl
  running := fun h => absurd rfl h
  opened := nofun
  timer := nofun

/-- In careful runs, every request has one outcome, its own. -/
theorem oneOutcome_run (handlerRef : Bool) (nodeState : NodePowerState) (events : List Event)
    (hok : Meets watch CarefulRequest (watched handlerRef nodeState) events) :
    Meets watch OneOutcome (watched handlerRef nodeState) events := by
  have hserved : ∀ w e t, Tracked w → CarefulRequest w e →
      watch w e = some t → Served w e := by
    intro w e t h hcare ht
    unfold watch at ht
    split at ht
    case isTrue hen => exact served_careful h hcare hen
    case isFalse => cases ht
  refine Meets.of_invariant Tracked ?_ ?_ (tracked_watched handlerRef nodeState) hok
  · intro w e h hcare
    cases ht : watch w e with
    | none => constructor <;> simp [ht]
    | some t => exact (hserved w e t h hcare ht).oneOutcome
  intro w e t h hcare ht
  have hkeeps := (hserved w e t h hcare ht).tracked
  unfold watch at ht
  split at ht
  · cases ht
    exact hkeeps
  · cases ht

/-- One driver refuses a restart and does not answer a shutdown in time; a second client is refused
in between, and is gone when the driver is ready for its restart. -/
theorem oneOutcome_two_clients :
    let events : List Event :=
      [⟨.pmVhalReady (some ⟨true, true⟩) allOk, 0⟩, ⟨.clientConnection 1 true, 0⟩,
        ⟨.clientConnection 2 true, 0⟩, ⟨.restartReqAsync 2 .nadReboot 0 allOk, 0⟩,
        ⟨.vhalPrepareResp ⟨.restart, .restartModeNadReboot, .notReady⟩ allOk, 0⟩,
        ⟨.shutdownReqAsync 1 0 allOk, 0⟩, ⟨.shutdownReqAsync 2 0 allOk, 0⟩, ⟨.vhalAckTimer allOk, 0⟩,
        ⟨.restartReqAsync 2 .systemOffOn 0 allOk, 0⟩,
        ⟨.clientDisconnection 2 (fun _ => allOk) (fun _ => true), 0⟩,
        ⟨.vhalPrepareResp ⟨.restart, .restartModeSystemOffOnNadOff, .ready⟩ allOk, 3⟩]
    Meets watch CarefulRequest (watched true .resume) events ∧
      Meets watch OneOutcome (watched true .resume) events :=
  ⟨by decide +kernel, oneOutcome_run true .resume _ (by decide +kernel)⟩

/-- The driver tells that it has run out of time, and the handler of the request is never called. -/
theorem oneOutcome_fails :
    ¬ ∀ (handlerRef : Bool) (nodeState : NodePowerState) (events : List Event),
    Meets watch OneOutcome (watched handlerRef nodeState) events := by
  intro h
  have hrun := h true .resume
    [⟨.pmVhalReady (some ⟨true, true⟩) allOk, 0⟩, ⟨.clientConnection 1 true, 0⟩,
      ⟨.shutdownReqAsync 1 0 allOk, 0⟩,
      ⟨.vhalPrepareResp ⟨.shutdown, .shutdownModeNormal, .timeout⟩ allOk, 0⟩]
  exact absurd hrun (by decide +kernel)

end TelAF.MngdPm
