import TelAF.MngdConnAdmin

/-!
# The clients of a session

A session that is not started by the service lives for the clients that have started it. The ledger
has the clients whose `StartData` was accepted and who have neither stopped nor disconnected, and
what was asked of the session whenever a client left it or had it retried. The service keeps clients
of its own in the context; where both agree, the session is asked to stop for the last of its
clients and for nobody else.
-/

namespace TelAF.MngdConn

open TransitionRuns State List

/-! ## The ledger -/

/-- A client leaves a session that the service has not started, or has it retried. -/
structure Leave where
  dataId : Nat
  retries : Bool
  /-- The client's own `StartData` was accepted, and it had not stopped before. -/
  held : Bool
  /-- The other clients that hold the session. -/
  others : List Nat
  /-- The session is asked to stop. -/
  requested : Bool
deriving DecidableEq

structure Ledger where
  state : State
  /-- The connected clients with an accepted `StartData` that they have not stopped. -/
  holds : List (Nat × Nat)
  leaves : List Leave
  /-- The sessions started by the service that were stopped on behalf of a client. -/
  autoStops : List Nat

/-- The answers by which `StartData` is accepted. -/
def Result.Accepted (r : Result) : Prop :=
  r = .ok ∨ r = .duplicate ∨ r = .timeout ∨ r = .inProgress
deriving Decidable

/-- The clients and sessions of the calls that are accepted here. -/
def acceptedIn (acts : List Act) : List (Nat × Nat) :=
  acts.filterMap fun
    | .answered (.startData client dataId) r => if r.Accepted then some (client, dataId) else none
    | _ => none

def asksStop (dataId : Nat) (events : List SmEvent) : Bool :=
  events.any fun e => decide (e = .dataStop dataId ∨ e = .dataStopSync dataId)

/-- The data service is told to stop the session. -/
def stopsData (dataId : Nat) (acts : List Act) : Bool :=
  acts.any fun
    | .stopData other _ => decide (other = dataId)
    | _ => false

namespace Ledger

variable (l : Ledger) (t : State)

def others (client dataId : Nat) : List Nat :=
  (l.holds.filter fun h => h.2 = dataId ∧ h.1 ≠ client).map Prod.fst

/-- The record of a client that leaves, with the events that are new. -/
def leave (client dataId : Nat) (retries : Bool) (events : List SmEvent) : Leave where
  dataId := dataId
  retries := retries
  held := decide ((client, dataId) ∈ l.holds)
  others := l.others client dataId
  requested := asksStop dataId events

/-- The clients that hold a session after the step to `t`; `StopData` is refused during a test. -/
def holdsAfter : Event → List (Nat × Nat)
  | .startData _ _ | .resume => l.holds ++ acceptedIn (t.acts.drop l.state.acts.length)
  | .stopData client dataId =>
    match l.state.ctx dataId with
    | some c =>
      if c.isDStartConnTestInProgress = true then l.holds
      else l.holds.filter (· ≠ (client, dataId))
    | none => l.holds
  | .disconnect client => l.holds.filter (·.1 ≠ client)
  | _ => l.holds

/-- The clients that leave in the step to `t`. -/
def newLeaves : Event → List Leave
  | .stopData client dataId =>
    match l.state.ctx dataId with
    | some c =>
      if c.autoStart = false ∧ c.isDStartConnTestInProgress = false then
        [l.leave client dataId false (t.events.drop l.state.events.length)]
      else []
    | none => []
  | .disconnect client =>
    l.state.dataIds.filterMap fun dataId => (l.state.ctx dataId).bind fun c =>
      if c.autoStart = false then
        some (l.leave client dataId false (t.events.drop l.state.events.length))
      else none
  | .handle _ =>
    match l.state.events with
    | .dataStartRetryAppReq dataId client :: rest =>
      match l.state.ctx dataId with
      | some c =>
        if c.autoStart = false then [l.leave client dataId true (t.events.drop rest.length)] else []
      | none => []
    | _ => []
  | _ => []

/-- The sessions started by the service that the step to `t` stops on behalf of a client. -/
def newAutoStops : Event → List Nat
  | .handle _ =>
    match l.state.events with
    | .dataStartRetryAppReq dataId _ :: rest =>
      match l.state.ctx dataId with
      | some c => if c.autoStart && asksStop dataId (t.events.drop rest.length) then [dataId] else []
      | none => []
    | .dataStopSync dataId :: _ =>
      match l.state.ctx dataId with
      | some c =>
        if c.autoStart && stopsData dataId (t.acts.drop l.state.acts.length) then [dataId] else []
      | none => []
    | _ => []
  | _ => []

end Ledger

/-- A step of the machine and what it means for the clients. -/
def Ledger.watch (p : Policy) (l : Ledger) (e : Event) : Option Ledger :=
  (l.state.step p e).map fun t =>
    { state := t
      holds := l.holdsAfter t e
      leaves := l.leaves ++ l.newLeaves t e
      autoStops := l.autoStops ++ l.newAutoStops t e }

def Ledger.initial (config : List DataConfig) : Ledger where
  state := State.initial config
  holds := []
  leaves := []
  autoStops := []

/-- What is asked of a session when a client leaves it. -/
structure Leave.Fair (v : Leave) : Prop where
  /-- The session is asked to stop only where no other client holds it. -/
  alone : v.requested = true → v.others = []
  /-- It is asked to stop when the last client that holds it leaves. -/
  last : v.retries = false → v.held = true → v.others = [] → v.requested = true

structure Shared (l : Ledger) : Prop where
  leaves : ∀ v ∈ l.leaves, v.Fair
  /-- No client stops a session that the service has started. -/
  auto : l.autoStops = []

/-! ## What the steps must avoid -/

namespace DataCtx

variable (c : DataCtx)

/-- `EventStopData` gives the connection up. -/
def TestsOver (a : Answers) : Prop :=
  c.adminState = .connectedInactiveRetrying ∧ a.stopData = .ok ∧
    c.dataConnTestFailedRetryCount ≥ c.maxdataRetryCount
deriving Decidable

/-- `EventStartDataRetryAppReq` has the session stopped. -/
def RetryStops (p : Policy) (client : Nat) (a : Answers) : Prop :=
  p.appMngdEnable = true ∧ (p.verifyCallingApp = true → client ∈ c.clients) ∧
    c.minTimeBetweenTriggers = false ∧ c.maxTimeBetweenTriggers = false ∧
    c.adminState = .connectedActive ∧ a.retryClient = true
deriving Decidable

/-- The answer to `StartData` is one by which the client is remembered. -/
def Remembers (r : Result) : Prop :=
  r = .ok ∨ r = .duplicate ∨ r = .timeout ∨ (c.dataRetry = true ∧ c.dataStartRetryCount > 0)
deriving Decidable

end DataCtx

/-- There are clients that are forgotten when the connection is given up. -/
def DataCtx.Forgets (p : Policy) (c : DataCtx) : Prop :=
  c.autoStart = false ∧ p.level = .none ∧ c.clients ≠ []
deriving Decidable

/-- The condition on the event the state machine handles next. -/
def CarefulEvent (p : Policy) (s : State) (a : Answers) : SmEvent → Prop
  | .dataStartRetry dataId => ∀ c ∈ s.ctx dataId, c.GivesUp → ¬ c.Forgets p
  | .dataStop dataId => ∀ c ∈ s.ctx dataId, c.TestsOver a → ¬ c.Forgets p
  | .dataStopSync dataId => ∀ c ∈ s.ctx dataId, (c.TestsOver a → ¬ c.Forgets p) ∧
      (c.autoStart = true → c.adminState ≠ .connectedInactiveRetrying)
  | .dataStartRetryAppReq dataId client => ∀ c ∈ s.ctx dataId, c.RetryStops p client a →
      c.autoStart = false ∧ ∀ other ∈ c.clients, other = client
  | _ => True

/-- The condition on a client that disconnects: the service has a record of it where it is a client
of a session, and it is not the last client of a session in a state in which none is asked to
stop. -/
def CarefulDisconnect (s : State) (client : Nat) (c : DataCtx) : Prop :=
  c.autoStart = false → client ∈ c.clients → client ∈ s.connectedClients ∧
    ((∀ other ∈ c.clients, other = client) → c.adminState.StopsWithLastClient)
deriving Decidable

/-- The condition on a `StartData` with this answer: it is accepted just where the client is
remembered. -/
def CarefulStart (client : Nat) (r : Result) (c : DataCtx) : Prop :=
  c.autoStart = false → client ∉ c.clients → (r.Accepted ↔ c.Remembers r)
deriving Decidable

/-- The condition on a `StartData` that is answered at once. -/
def CarefulRetrying (client : Nat) (c : DataCtx) : Prop :=
  c.autoStart = false → c.adminState = .connectedInactiveRetrying ∨
    c.adminState = .notConnectedRetrying →
    client ∈ c.clients
deriving Decidable

def CarefulClients (p : Policy) (s : State) : Event → Prop
  | .startData client dataId => ∀ c ∈ s.ctx dataId, CarefulRetrying client c
  | .resume =>
    match s.call with
    | some (.startData client dataId, some r) => ∀ c ∈ s.ctx dataId, CarefulStart client r c
    | _ => True
  | .disconnect client =>
    ∀ dataId ∈ s.dataIds, ∀ c ∈ s.ctx dataId, CarefulDisconnect s client c
  | .handle a =>
    match s.events with
    | e :: _ => CarefulEvent p s a e
    | [] => True
  | _ => True

instance {p : Policy} {s : State} {a : Answers} : DecidablePred (CarefulEvent p s a) := fun e => by
  cases e
  all_goals unfold CarefulEvent; infer_instance

instance {p : Policy} : DecidableRel (CarefulClients p) := fun s e => by
  unfold CarefulClients
  split
  all_goals first | infer_instance | (split; all_goals infer_instance)

/-! ## The handlers and the clients on record -/

/-- A session that the service has not started has the same clients on record. -/
def DataCtx.SameClients (c c' : DataCtx) : Prop :=
  c'.autoStart = c.autoStart ∧ (c.autoStart = false → c'.clients = c.clients)

theorem DataCtx.SameClients.trans {b c d : DataCtx} (h : b.SameClients c) (h' : c.SameClients d) :
    b.SameClients d :=
  ⟨h'.1.trans h.1, fun hauto => (h'.2 (h.1.trans hauto)).trans (h.2 hauto)⟩

variable {retryClients : Nat → Option Bool}

section
variable {p : Policy} {dataId : Nat} {a : Answers} {w : Work}

open DataCtx (SameClients)

theorem same_eventStartData : w.ctx.SameClients (eventStartData dataId a w).2.ctx := by
  unfold eventStartData
  split
  all_goals try (dsimp only; split)
  all_goals simp [SameClients]

theorem same_fail (h : ¬ w.ctx.Forgets p) : w.ctx.SameClients (w.fail p dataId).ctx := by
  unfold Work.fail
  refine ⟨by simp, fun hauto => ?_⟩
  simp only [Work.setState, Work.ctx_reportDataState, Work.ctx_clearClients]
  split_ifs with hlvl
  · by_contra hcls
    exact h ⟨hauto, hlvl, Ne.symm hcls⟩
  · rfl

theorem same_eventStartDataRetry (h : w.ctx.GivesUp → ¬ w.ctx.Forgets p) :
    w.ctx.SameClients (eventStartDataRetry p dataId w).ctx := by
  unfold eventStartDataRetry
  dsimp only
  split_ifs with hrtry hcnt
  · exact same_fail (h (Or.inl hrtry))
  · exact same_fail (w := w.update fun c => { c with dataStartRetryTimer := false })
      (h (Or.inr hcnt))
  · simp [SameClients]

theorem same_retryAppReq {client : Nat} :
    w.ctx.SameClients (eventStartDataRetryAppReq p dataId client a retryClients w).2.1.ctx := by
  unfold eventStartDataRetryAppReq
  dsimp only
  split_ifs
  all_goals simp [SameClients]

theorem same_stoppedForRetry
    (h : w.ctx.dataConnTestFailedRetryCount ≥ w.ctx.maxdataRetryCount → ¬ w.ctx.Forgets p) :
    w.ctx.SameClients (w.stoppedForRetry p dataId).2.ctx := by
  unfold Work.stoppedForRetry
  dsimp only
  split_ifs with hcnt
  · simp only [Work.setState, Work.ctx_reportDataState] at hcnt
    refine SameClients.trans ?_ (same_fail fun hforg => h hcnt ?_)
    · simp [SameClients]
    · simpa [DataCtx.Forgets] using hforg
  · simp [SameClients]

theorem same_eventStopData (h : w.ctx.TestsOver a → ¬ w.ctx.Forgets p) :
    w.ctx.SameClients (eventStopData p dataId a w).2.ctx := by
  unfold eventStopData
  split_ifs
  · simp [SameClients]
  split
  · rename_i hst
    split
    · rename_i hstop
      exact same_stoppedForRetry (w := w.act _) fun hcnt => h ⟨hst, hstop, hcnt⟩
    all_goals simp [SameClients]
  · dsimp only
    split
    all_goals simp [SameClients]
  all_goals simp [SameClients]

theorem same_eventSetRadioPowerOn : w.ctx.SameClients (eventSetRadioPowerOn dataId a w).ctx := by
  unfold eventSetRadioPowerOn
  split_ifs
  all_goals simp [SameClients]

variable {generation phoneId slotId : Nat}

theorem same_eventSimReadyState : w.ctx.SameClients (eventSimReadyState slotId dataId a w).ctx := by
  unfold eventSimReadyState
  split_ifs
  all_goals simp [SameClients]

theorem same_simNotReady :
    w.ctx.SameClients (eventSimNotReadyState slotId dataId w).ctx := by
  unfold eventSimNotReadyState
  split_ifs
  all_goals simp [SameClients]

theorem same_networkReg :
    w.ctx.SameClients (eventNetworkRegState phoneId dataId w).ctx := by
  unfold eventNetworkRegState
  split
  · split
    all_goals try split
    all_goals simp [SameClients]
  · simp [SameClients]

theorem same_networkUnreg :
    w.ctx.SameClients (eventNetworkUnregState phoneId dataId w).ctx := by
  unfold eventNetworkUnregState
  split_ifs
  all_goals simp [SameClients]

theorem same_eventDataConnected : w.ctx.SameClients (eventDataConnected dataId a w).ctx := by
  unfold eventDataConnected
  split_ifs
  all_goals simp [SameClients]

theorem same_connectedActive : w.ctx.SameClients (eventDataConnectedActive w).ctx := by
  unfold eventDataConnectedActive
  dsimp only
  split_ifs
  all_goals simp [SameClients]

theorem same_dataDisconnected : w.ctx.SameClients (eventDataDisconnected dataId w).ctx := by
  unfold eventDataDisconnected
  split
  all_goals try split
  all_goals simp [SameClients]

theorem same_startTest :
    w.ctx.SameClients (eventDataStartConnectionTest dataId w).ctx := by
  unfold eventDataStartConnectionTest Work.connect Work.scheduleConnectivityTest
  split_ifs
  all_goals simp [SameClients]

theorem same_startTestDone {passed : Bool} :
    w.ctx.SameClients (eventDataStartConnectionTestDone dataId passed generation w).ctx := by
  unfold eventDataStartConnectionTestDone Work.connect
  dsimp only
  split_ifs
  all_goals simp [SameClients]

theorem same_periodicTest :
    w.ctx.SameClients (eventDataPeriodicConnectivityTest dataId w).ctx := by
  unfold eventDataPeriodicConnectivityTest Work.scheduleConnectivityTest
  split_ifs
  all_goals simp [SameClients]

theorem same_periodicTestDone {passed : Bool} :
    w.ctx.SameClients (eventDataPeriodicConnectivityTestDone dataId passed generation w).ctx := by
  unfold eventDataPeriodicConnectivityTestDone
  dsimp only
  split_ifs
  all_goals simp [SameClients]

theorem same_eventL1ConnRecoverySchedule :
    w.ctx.SameClients (eventL1ConnRecoverySchedule p dataId w).ctx := by
  unfold eventL1ConnRecoverySchedule
  split_ifs
  all_goals simp [SameClients]

theorem same_eventL2ConnRecoverySchedule :
    w.ctx.SameClients (eventL2ConnRecoverySchedule p dataId w).ctx := by
  unfold eventL2ConnRecoverySchedule
  split_ifs
  all_goals simp [SameClients]

theorem same_eventL3ConnRecoverySchedule :
    w.ctx.SameClients (eventL3ConnRecoverySchedule p dataId w).ctx := by
  unfold eventL3ConnRecoverySchedule
  split_ifs
  all_goals simp [SameClients]

theorem same_eventConnRecoveryInterrupted :
    w.ctx.SameClients (eventConnRecoveryInterrupted p dataId w).ctx := by
  unfold eventConnRecoveryInterrupted
  split_ifs
  all_goals simp [SameClients]

theorem same_eventConnRecoveryCancelSendInd :
    w.ctx.SameClients (eventConnRecoveryCancelSendInd dataId w).ctx := by
  unfold eventConnRecoveryCancelSendInd
  split
  all_goals simp [SameClients]

theorem same_eventL1ConnRecoveryStart :
    w.ctx.SameClients (eventL1ConnRecoveryStart dataId a w).ctx := by
  unfold eventL1ConnRecoveryStart
  split_ifs
  all_goals simp [SameClients]

theorem same_eventL2ConnRecoveryStart :
    w.ctx.SameClients (eventL2ConnRecoveryStart dataId a w).ctx := by
  unfold eventL2ConnRecoveryStart
  split_ifs
  all_goals simp [SameClients]

theorem same_eventL3ConnRecoveryStart :
    w.ctx.SameClients (eventL3ConnRecoveryStart dataId a w).ctx := by
  unfold eventL3ConnRecoveryStart
  split_ifs
  all_goals simp [SameClients]

theorem same_markReconnect {c : DataCtx} : c.SameClients c.markReconnect := by
  unfold DataCtx.markReconnect
  split_ifs
  all_goals simp [SameClients]

theorem same_timerHandler {timer : Timer} : w.ctx.SameClients (timerHandler dataId timer w).ctx := by
  cases timer with
  | dataStartRetry =>
    simp only [timerHandler, dataRetryTimerHandler]
    split_ifs
    all_goals simp [SameClients]
  | recoverySchedule =>
    simp only [timerHandler, recoveryScheduleTimerHandler]
    split
    all_goals simp [SameClients]
  | recoveryRetry =>
    simp only [timerHandler, recoveryRetryTimerHandler]
    split
    all_goals simp [SameClients]
  | periodicConnectivityTest | radioOffOnInterval | simOffOnInterval | minTimeBetweenTriggers
  | maxTimeBetweenTriggers => exact ⟨rfl, fun _ => rfl⟩

theorem same_requestCancel : w.ctx.SameClients (w.requestCancel dataId).ctx := by
  unfold Work.requestCancel
  split_ifs
  all_goals simp [SameClients]

end

/-- Every session that the service has not started has the clients on record it had. -/
def State.SameClients (s t : State) : Prop :=
  t.dataIds = s.dataIds ∧
    ∀ dataId c', t.ctx dataId = some c' → ∃ c, s.ctx dataId = some c ∧ c.SameClients c'

variable {r : Result}

namespace State.SameClients

variable {p : Policy} {s t u : State} {a : Answers} {dataId : Nat} {f : Work → Work}

theorem of_ctx (hids : t.dataIds = s.dataIds) (hctx : t.ctx = s.ctx) : s.SameClients t :=
  ⟨hids, fun dataId c' h => ⟨c', congrFun hctx dataId ▸ h, rfl, fun _ => rfl⟩⟩

theorem refl : s.SameClients s := of_ctx rfl rfl

theorem trans (h : s.SameClients t) (h' : t.SameClients u) : s.SameClients u := by
  refine ⟨h'.1.trans h.1, fun dataId c' hc' => ?_⟩
  obtain ⟨c, hc, hsame'⟩ := h'.2 dataId c' hc'
  obtain ⟨b, hb, hsame⟩ := h.2 dataId c hc
  exact ⟨b, hb, hsame.trans hsame'⟩

theorem onCtx (h : ∀ c, s.ctx dataId = some c → c.SameClients (f { ctx := c }).ctx) :
    s.SameClients (s.onCtx dataId f) := by
  refine ⟨dataIds_onCtx, fun other c' hc' => ?_⟩
  by_cases heq : other = dataId
  · subst other
    obtain ⟨c, hc, rfl⟩ := ctx_onCtx_eq_some.1 hc'
    exact ⟨c, hc, h c hc⟩
  · rw [ctx_onCtx, if_neg heq] at hc'
    exact ⟨c', hc', rfl, fun _ => rfl⟩

theorem onCtx_of (h : ∀ w : Work, w.ctx.SameClients (f w).ctx) :
    s.SameClients (s.onCtx dataId f) :=
  onCtx fun _ _ => h _

theorem forAll {g : Nat → Work → Work}
    (h : ∀ dataId (w : Work), w.ctx.SameClients (g dataId w).ctx) :
    s.SameClients (s.forAll g) :=
  forAll_induction (fun _ dataId hs => hs.trans (onCtx_of (h dataId))) refl

theorem fulfill : s.SameClients (s.fulfill r) := by
  unfold State.fulfill
  split
  · exact of_ctx rfl rfl
  · exact refl

theorem onCtxSync {f : Work → Result × Work}
    (h : ∀ c, s.ctx dataId = some c → c.SameClients (f { ctx := c }).2.ctx) :
    s.SameClients (s.onCtxSync dataId r f) := by
  unfold State.onCtxSync
  split
  · exact fulfill
  rename_i c hc
  have hput := onCtx (f := fun w => (f w).2) h
  rw [onCtx_of_some hc] at hput
  exact hput.trans fulfill

theorem resetAll : s.SameClients s.resetAll := forAll fun _ _ => ⟨rfl, fun _ => rfl⟩

theorem reset : s.SameClients (s.reset dataId) := onCtx_of fun _ => ⟨rfl, fun _ => rfl⟩

theorem startRecovery (h : ∀ w : Work, w.ctx.SameClients (f w).ctx) :
    s.SameClients (s.startRecovery dataId a f) := by
  unfold State.startRecovery
  split
  · exact refl
  split_ifs
  · exact onCtx_of h
  · exact (onCtx_of h).trans (forAll fun _ _ => same_markReconnect)

theorem startL3 : s.SameClients (s.startL3 dataId a) := by
  have hsta : s.SameClients (s.onCtx dataId (eventL3ConnRecoveryStart dataId a)) :=
    onCtx_of fun _ => same_eventL3ConnRecoveryStart
  unfold State.startL3
  split
  · exact refl
  split_ifs
  · exact hsta.trans (of_ctx rfl rfl)
  · exact hsta

theorem startDataRetryAppReq {client : Nat} :
    s.SameClients (s.startDataRetryAppReq p dataId client a) := by
  unfold State.startDataRetryAppReq
  split
  · exact fulfill
  rename_i c hc
  have hput : s.SameClients (s.onCtx dataId
      fun w => (eventStartDataRetryAppReq p dataId client a s.retryClients w).2.1) :=
    onCtx_of fun w => same_retryAppReq
  rw [onCtx_of_some hc] at hput
  exact (hput.trans (of_ctx rfl rfl)).trans fulfill

theorem resetThen (h : ∀ c, s.ctx dataId = some c → c.resetDataRetryPeriodicConnCheckValues.SameClients
      (f { ctx := c.resetDataRetryPeriodicConnCheckValues }).ctx) :
    s.SameClients ((s.reset dataId).onCtx dataId f) := by
  refine ⟨dataIds_onCtx.trans dataIds_onCtx, fun other c' hc' => ?_⟩
  by_cases heq : other = dataId
  · subst other
    obtain ⟨c₁, hc₁, rfl⟩ := ctx_onCtx_eq_some.1 hc'
    obtain ⟨c, hc, rfl⟩ := ctx_onCtx_eq_some.1 hc₁
    have hrset : c.SameClients c.resetDataRetryPeriodicConnCheckValues := ⟨rfl, fun _ => rfl⟩
    exact ⟨c, hc, hrset.trans (h c hc)⟩
  · rw [ctx_onCtx, if_neg heq] at hc'
    exact reset.2 other c' hc'

/-- What the handler of an event leaves alone, under the condition on the event. -/
theorem handle {e : SmEvent} (h : CarefulEvent p s a e) : s.SameClients (s.handle p a e) := by
  unfold State.handle
  cases e with
  | radioPowerOn => exact resetAll.trans (forAll fun _ _ => same_eventSetRadioPowerOn)
  | simReady slotId => exact resetAll.trans (forAll fun _ _ => same_eventSimReadyState)
  | simNotReady slotId => exact forAll fun _ _ => same_simNotReady
  | networkRegState phoneId => exact resetAll.trans (forAll fun _ _ => same_networkReg)
  | networkUnregState phoneId => exact resetAll.trans (forAll fun _ _ => same_networkUnreg)
  | dataStart dataId => exact onCtx_of fun _ => same_eventStartData
  | dataStartSync dataId => exact onCtxSync fun _ _ => same_eventStartData
  | dataStartRetry dataId => exact onCtx fun c hc => same_eventStartDataRetry (h c hc)
  | dataStartRetryAppReq dataId client => exact startDataRetryAppReq
  | dataStop dataId => exact resetThen fun c hc => same_eventStopData (h c hc)
  | dataStopSync dataId =>
    have hstop := resetThen (f := fun w => (eventStopData p dataId a w).2) fun c hc =>
      same_eventStopData (h c hc).1
    dsimp only
    unfold State.onCtxSync
    split
    · exact reset.trans fulfill
    rename_i c hc
    rw [onCtx_of_some hc] at hstop
    exact hstop.trans fulfill
  | connected dataId => exact reset.trans (onCtx_of fun _ => same_eventDataConnected)
  | connectedActive dataId => exact onCtx_of fun _ => same_connectedActive
  | disconnected dataId => exact onCtx_of fun _ => same_dataDisconnected
  | startConnectionTest dataId => exact onCtx_of fun _ => same_startTest
  | periodicConnectionTest dataId => exact onCtx_of fun _ => same_periodicTest
  | startConnectionTestDone dataId passed generation =>
    exact onCtx_of fun _ => same_startTestDone
  | periodicConnectionTestDone dataId passed generation =>
    exact onCtx_of fun _ => same_periodicTestDone
  | recoveryScheduleL1 dataId => exact onCtx_of fun _ => same_eventL1ConnRecoverySchedule
  | recoveryStartL1 dataId => exact startRecovery fun _ => same_eventL1ConnRecoveryStart
  | recoveryScheduleL2 dataId => exact onCtx_of fun _ => same_eventL2ConnRecoverySchedule
  | recoveryStartL2 dataId => exact startRecovery fun _ => same_eventL2ConnRecoveryStart
  | recoveryScheduleL3 dataId => exact onCtx_of fun _ => same_eventL3ConnRecoverySchedule
  | recoveryStartL3 dataId => exact startL3
  | recoveryCancel dataId => exact onCtx_of fun _ => ⟨rfl, fun _ => rfl⟩
  | recoveryCancelSync dataId => exact onCtxSync fun _ _ => ⟨rfl, fun _ => rfl⟩
  | recoveryCancelSendInd dataId => exact onCtx_of fun _ => same_eventConnRecoveryCancelSendInd
  | recoveryInterrupted dataId => exact onCtx_of fun _ => same_eventConnRecoveryInterrupted

end State.SameClients

/-! ## The clients of the service and of the ledger -/

/-- The service has the clients of the ledger on record. -/
structure Agree (l : Ledger) : Prop where
  nodup : l.state.dataIds.Nodup
  known : ∀ dataId c, l.state.ctx dataId = some c → dataId ∈ l.state.dataIds
  clients : ∀ dataId c, l.state.ctx dataId = some c → c.autoStart = false →
    ∀ client, client ∈ c.clients ↔ (client, dataId) ∈ l.holds
  shared : Shared l

theorem Ledger.others_eq_nil {l : Ledger} {client dataId : Nat} : l.others client dataId = [] ↔
    ∀ other, (other, dataId) ∈ l.holds → other = client := by
  unfold Ledger.others
  simp only [map_eq_nil_iff, filter_eq_nil_iff, decide_eq_true_eq, not_and, not_not,
    Prod.forall]
  exact ⟨fun h other hin => h other dataId hin rfl, fun h other _ hin heq => h other (heq ▸ hin)⟩

variable {holds : List (Nat × Nat)}

namespace Agree

variable {p : Policy} {l : Ledger} {s t : State} {dataId client : Nat} {c : DataCtx}

/-- The other clients of a session, by the record of the service. -/
theorem others_iff (h : Agree l) (hc : l.state.ctx dataId = some c) (hauto : c.autoStart = false) :
    l.others client dataId = [] ↔ (c.eraseClient client).clients = [] := by
  rw [Ledger.others_eq_nil]
  unfold DataCtx.eraseClient
  simp only [filter_eq_nil_iff, decide_eq_true_eq, not_not]
  exact forall_congr' fun other => by rw [h.clients dataId c hc hauto]

theorem leave_fair (h : Agree l) (hc : l.state.ctx dataId = some c) (hauto : c.autoStart = false)
    {retries : Bool} {events : List SmEvent}
    (halon : asksStop dataId events = true → (c.eraseClient client).clients = [])
    (hlast : retries = false → client ∈ c.clients → (c.eraseClient client).clients = [] →
      asksStop dataId events = true) : (l.leave client dataId retries events).Fair where
  alone := fun hask => (h.others_iff hc hauto).2 (halon hask)
  last := fun hret hheld hoths => hlast hret
    ((h.clients dataId c hc hauto client).2 (of_decide_eq_true hheld)) ((h.others_iff hc hauto).1 hoths)

variable {leaves : List Leave}

/-- A step after which the service and the ledger have the same clients. -/
theorem step (h : Agree l) (hids : t.dataIds = l.state.dataIds)
    (hcls : ∀ dataId c', t.ctx dataId = some c' → ∃ c, l.state.ctx dataId = some c ∧
      (c'.autoStart = false → ∀ client, client ∈ c'.clients ↔ (client, dataId) ∈ holds))
    (hlvs : ∀ v ∈ leaves, v.Fair) :
    Agree ⟨t, holds, l.leaves ++ leaves, l.autoStops ++ []⟩ where
  nodup := hids ▸ h.nodup
  known := by
    intro dataId c' hc'
    obtain ⟨c, hc, -⟩ := hcls dataId c' hc'
    rw [hids]
    exact h.known dataId c hc
  clients := by
    intro dataId c' hc' hauto
    obtain ⟨c, hc, hiff⟩ := hcls dataId c' hc'
    exact hiff hauto
  shared := {
    leaves := fun v hv => (mem_append.1 hv).elim (h.shared.leaves v) (hlvs v)
    auto := (append_nil _).trans h.shared.auto }

theorem same (h : Agree l) (hsame : l.state.SameClients t)
    (hhld : ∀ dataId c, l.state.ctx dataId = some c → c.autoStart = false →
      ∀ client, (client, dataId) ∈ holds ↔ (client, dataId) ∈ l.holds)
    (hlvs : ∀ v ∈ leaves, v.Fair) :
    Agree ⟨t, holds, l.leaves ++ leaves, l.autoStops ++ []⟩ := by
  refine h.step hsame.1 (fun dataId c' hc' => ?_) hlvs
  obtain ⟨c, hc, hauto, hcls⟩ := hsame.2 dataId c' hc'
  refine ⟨c, hc, fun hauto' client => ?_⟩
  rw [hcls (hauto ▸ hauto'), hhld dataId c hc (hauto ▸ hauto')]
  exact h.clients dataId c hc (hauto ▸ hauto') client

theorem quiet (h : Agree l) (hsame : l.state.SameClients t) :
    Agree ⟨t, l.holds, l.leaves ++ [], l.autoStops ++ []⟩ :=
  h.same hsame (fun _ _ _ _ _ => Iff.rfl) fun _ hv => absurd hv not_mem_nil

end Agree

/-! ## The calls of the clients -/

variable {other : Nat}

theorem DataCtx.mem_eraseClient {client : Nat} {c : DataCtx} :
    other ∈ (c.eraseClient client).clients ↔ other ∈ c.clients ∧ other ≠ client := by
  unfold DataCtx.eraseClient
  simp

theorem DataCtx.mem_insertClient {client : Nat} {c : DataCtx} :
    other ∈ (c.insertClient client).clients ↔ other ∈ c.clients ∨ other = client := by
  unfold DataCtx.insertClient
  split_ifs with hin
  · exact ⟨Or.inl, fun h => h.elim id fun heq => heq ▸ hin⟩
  · simp

namespace Agree

variable {p : Policy} {l : Ledger} {s t : State} {dataId client : Nat} {c : DataCtx}

theorem stopData (h : Agree l) (ht : t = l.state.stopdata client dataId) :
    Agree ⟨t, l.holdsAfter t (.stopData client dataId),
      l.leaves ++ l.newLeaves t (.stopData client dataId),
      l.autoStops ++ []⟩ := by
  unfold Ledger.holdsAfter Ledger.newLeaves
  unfold stopdata at ht
  rcases hc : l.state.ctx dataId with _ | c
  · simp only [hc] at ht ⊢
    exact h.quiet (ht ▸ .of_ctx rfl rfl)
  simp only [hc] at ht ⊢
  by_cases htest : c.isDStartConnTestInProgress = true
  · simp only [htest, Bool.true_eq_false, and_false] at ht ⊢
    exact h.quiet (ht ▸ .of_ctx rfl rfl)
  rw [if_neg htest] at ht ⊢
  have hctx (other : Nat) : t.ctx other =
      if other = dataId then some (c.eraseClient client) else l.state.ctx other := by
    rw [onCtx_of_some hc] at ht
    split_ifs at ht <;> rw [ht] <;> exact ctx_put
  have hids : t.dataIds = l.state.dataIds := by
    split_ifs at ht <;> rw [ht] <;> exact dataIds_onCtx
  refine h.step hids (fun other c' hc' => ?_) fun v hv => ?_
  · rw [hctx] at hc'
    by_cases heq : other = dataId
    · subst other
      rw [if_pos rfl, Option.some.injEq] at hc'
      subst hc'
      refine ⟨c, hc, fun hauto other => ?_⟩
      rw [DataCtx.mem_eraseClient, h.clients dataId c hc hauto]
      simp
    · rw [if_neg heq] at hc'
      refine ⟨c', hc', fun hauto client' => ?_⟩
      rw [h.clients other c' hc' hauto]
      simp [heq]
  · split_ifs at hv with hmanu
    · obtain rfl := mem_singleton.1 hv
      have hevs : t.events.drop l.state.events.length =
          if (c.eraseClient client).clients ≠ [] then [] else [.dataStopSync dataId] := by
        rw [onCtx_of_some hc] at ht
        split_ifs at ht ⊢ <;> rw [ht] <;> simp [answer, await, put]
      rw [hevs]
      refine h.leave_fair hc hmanu.1 (fun hask => ?_) fun _ _ hersd => ?_
      · by_contra hne
        rw [if_pos hne] at hask
        exact Bool.false_ne_true hask
      · rw [if_neg (not_not.2 hersd)]
        simp [asksStop]
    · exact absurd hv not_mem_nil

variable {w : Work}

/-- What the disconnection of a client does with a session and asks of it. -/
theorem ctx_clientGone (hauto : w.ctx.autoStart = false) :
    (clientDisconnected client dataId w).ctx.clients = (w.ctx.eraseClient client).clients := by
  unfold clientDisconnected Work.requestCancel
  dsimp only
  split_ifs
  all_goals rfl

theorem autoStart_clientGone :
    (clientDisconnected client dataId w).ctx.autoStart = w.ctx.autoStart := by
  unfold clientDisconnected Work.requestCancel
  dsimp only
  split_ifs
  all_goals rfl

theorem asksStop_clientGone :
    asksStop dataId (clientDisconnected client other { ctx := c }).posted = true ↔
      other = dataId ∧ c.autoStart = false ∧ (c.eraseClient client).clients = [] ∧
        c.adminState.StopsWithLastClient := by
  have hst : (c.eraseClient client).adminState = c.adminState := rfl
  unfold clientDisconnected Work.requestCancel
  dsimp only
  split_ifs with hauto hlast hsto hreco hreco
  all_goals simp_all [asksStop]

theorem disconnect (h : Agree l) (hcare : CarefulClients p l.state (.disconnect client))
    (ht : t = l.state.onClientDisconnect client) :
    Agree ⟨t, l.holdsAfter t (.disconnect client), l.leaves ++ l.newLeaves t (.disconnect client),
      l.autoStops ++ []⟩ := by
  unfold Ledger.holdsAfter
  unfold onClientDisconnect at ht
  dsimp only at ht
  split_ifs at ht with hrec
  · obtain ⟨hctx, hevs⟩ := forAll_spec (g := clientDisconnected client)
      (s := { l.state with
        sessions := l.state.sessions.filter (· ≠ client)
        connectedClients := l.state.connectedClients.filter (· ≠ client) }) h.nodup
    rw [← ht] at hctx hevs
    have hids : t.dataIds = l.state.dataIds := by
      rw [ht]
      exact forAll_induction (P := fun u => u.dataIds = l.state.dataIds)
        (fun u _ hu => dataIds_onCtx.trans hu) rfl
    refine h.step hids (fun other c' hc' => ?_) fun v hv => ?_
    · rw [hctx] at hc'
      split_ifs at hc' with hin
      · obtain ⟨w, hw, rfl⟩ := Option.map_eq_some_iff.1 hc'
        obtain ⟨c, hc, rfl⟩ := Option.map_eq_some_iff.1 hw
        refine ⟨c, hc, fun hauto client' => ?_⟩
        rw [autoStart_clientGone] at hauto
        rw [ctx_clientGone hauto, DataCtx.mem_eraseClient, h.clients other c hc hauto]
        simp
      · exact absurd (h.known other c' hc') hin
    obtain ⟨other, hin, hv⟩ := mem_filterMap.1 hv
    obtain ⟨c, hc, hv⟩ := Option.bind_eq_some_iff.1 hv
    split_ifs at hv with hauto
    cases hv
    have hask : asksStop other (t.events.drop l.state.events.length) = true ↔
        (c.eraseClient client).clients = [] ∧ c.adminState.StopsWithLastClient := by
      rw [hevs, drop_left]
      unfold asksStop
      rw [any_flatMap, any_eq_true]
      constructor
      · rintro ⟨x, hx, hasks⟩
        unfold worked at hasks
        rcases hcx : l.state.ctx x with _ | cx
        · rw [hcx] at hasks
          exact absurd hasks Bool.false_ne_true
        rw [hcx] at hasks
        obtain ⟨rfl, -, hlast, hsto⟩ := asksStop_clientGone.1 hasks
        obtain rfl := Option.some.inj (hc.symm.trans hcx)
        exact ⟨hlast, hsto⟩
      · rintro ⟨hlast, hsto⟩
        refine ⟨other, hin, ?_⟩
        unfold worked
        rw [show ({ l.state with
          sessions := _
          connectedClients := _ } : State).ctx other = some c from hc]
        exact asksStop_clientGone.2 ⟨rfl, hauto, hlast, hsto⟩
    refine h.leave_fair hc hauto (fun hasks => (hask.1 hasks).1) fun _ hmem hlast => ?_
    refine hask.2 ⟨hlast, (hcare other hin c hc hauto hmem).2 fun x hx => ?_⟩
    by_contra hne
    exact eq_nil_iff_forall_not_mem.1 hlast x (DataCtx.mem_eraseClient.2 ⟨hx, hne⟩)
  · -- The service has no record of the client, which is not among its clients then.
    have hnoti (other : Nat) (c : DataCtx) (hc : l.state.ctx other = some c)
        (hauto : c.autoStart = false) : client ∉ c.clients := fun hin =>
      hrec (hcare other (h.known other c hc) c hc hauto hin).1
    refine h.same (ht ▸ .of_ctx rfl rfl) (fun other c hc hauto client' => ?_) fun v hv => ?_
    · have hne := hnoti other c hc hauto
      rw [h.clients other c hc hauto] at hne
      simp only [mem_filter, decide_eq_true_eq, and_iff_left_iff_imp]
      rintro hin rfl
      exact hne hin
    obtain ⟨other, hin, hv⟩ := mem_filterMap.1 hv
    obtain ⟨c, hc, hv⟩ := Option.bind_eq_some_iff.1 hv
    split_ifs at hv with hauto
    cases hv
    refine h.leave_fair hc hauto (fun hasks => ?_) fun _ hmem _ => absurd hmem (hnoti other c hc hauto)
    rw [ht, drop_length] at hasks
    exact absurd hasks Bool.false_ne_true

/-- A client whose call is accepted, and who is on record already. -/
theorem mem_accepted {client' : Nat}
    (hmem : other = dataId → client' = client → r.Accepted → (client', other) ∈ holds) :
    (client', other) ∈ holds ++ acceptedIn [.answered (.startData client dataId) r] ↔
      (client', other) ∈ holds := by
  rw [mem_append, or_iff_left_iff_imp]
  unfold acceptedIn
  by_cases hr : r.Accepted
  · simp only [filterMap_cons, if_pos hr, filterMap_nil, mem_singleton, Prod.mk.injEq]
    exact fun heq => hmem heq.2 heq.1 hr
  · simp [if_neg hr]

theorem startData (h : Agree l) (hcare : CarefulClients p l.state (.startData client dataId))
    (ht : t = l.state.startdata client dataId) :
    Agree ⟨t, l.holdsAfter t (.startData client dataId), l.leaves ++ [], l.autoStops ++ []⟩ := by
  unfold Ledger.holdsAfter
  unfold startdata at ht
  have hsame : l.state.SameClients t := by
    split at ht
    · exact ht ▸ .of_ctx rfl rfl
    · split_ifs at ht <;> exact ht ▸ .of_ctx rfl rfl
  refine h.same hsame (fun other c' hc' hauto client' => ?_) fun _ hv => absurd hv not_mem_nil
  cases hc : l.state.ctx dataId with
  | none =>
    rw [hc] at ht
    rw [ht]
    unfold answer
    rw [drop_left]
    refine mem_accepted fun heq _ _ => ?_
    rw [heq, hc] at hc'
    cases hc'
  | some c =>
    rw [hc] at ht
    dsimp only at ht
    split_ifs at ht with hretr
    · rw [ht]
      unfold answer
      rw [drop_left]
      refine mem_accepted fun heq heq' _ => ?_
      subst heq heq'
      obtain rfl := Option.some.inj (hc.symm.trans hc')
      exact (h.clients other c hc hauto client').1 (hcare c hc hauto hretr)
    · rw [ht]
      unfold await
      simp [acceptedIn]

theorem ctx_started (hauto : w.ctx.autoStart = false) :
    (w.started client r).ctx.autoStart = false ∧
      ∀ other, other ∈ (w.started client r).ctx.clients ↔
        other ∈ w.ctx.clients ∨ (other = client ∧ w.ctx.Remembers r) := by
  unfold Work.started DataCtx.Remembers
  simp only [hauto, and_true]
  by_cases hok : r = .ok ∨ r = .duplicate ∨ r = .timeout
  · have hr : r = .ok ∨ r = .duplicate ∨ r = .timeout ∨
        (w.ctx.dataRetry = true ∧ w.ctx.dataStartRetryCount > 0) := by tauto
    simp only [hr, and_true]
    split_ifs
    · refine ⟨hauto, fun other => ?_⟩
      simp [DataCtx.mem_insertClient]
    · exact ⟨hauto, fun other => DataCtx.mem_insertClient⟩
  rw [if_neg hok]
  have hr : (r = .ok ∨ r = .duplicate ∨ r = .timeout ∨
      (w.ctx.dataRetry = true ∧ w.ctx.dataStartRetryCount > 0)) ↔
        r ≠ .ok ∧ w.ctx.dataRetry = true ∧ w.ctx.dataStartRetryCount > 0 := by tauto
  rw [hr]
  split_ifs with hrtry
  · refine ⟨hauto, fun other => ?_⟩
    simp [DataCtx.mem_insertClient, hrtry]
  · refine ⟨hauto, fun other => ?_⟩
    simp [hrtry]

theorem acts_started : (w.started client r).acts = w.acts := by
  unfold Work.started
  dsimp only
  split_ifs
  all_goals rfl

theorem acts_requestCancel : (w.requestCancel dataId).acts = w.acts := by
  unfold Work.requestCancel
  split_ifs
  all_goals rfl

theorem resume (h : Agree l) (hcare : CarefulClients p l.state .resume) {call : Call}
    (hcall : l.state.call = some (call, some r)) (ht : t = l.state.finish call r) :
    Agree ⟨t, l.holdsAfter t .resume, l.leaves ++ [], l.autoStops ++ []⟩ := by
  unfold Ledger.holdsAfter
  unfold finish at ht
  cases call with
  | startData client dataId =>
    simp only [CarefulClients, hcall] at hcare
    dsimp only at ht
    have hacts : t.acts = l.state.acts ++ [.answered (.startData client dataId) r] := by
      rw [ht]
      unfold answer
      rcases hc : l.state.ctx dataId with _ | c
      · rw [onCtx_of_none hc]
      rw [onCtx_of_some hc]
      unfold put
      rw [acts_started, append_nil]
    have hctx (other : Nat) : t.ctx other =
        (l.state.onCtx dataId (Work.started client r)).ctx other := by
      rw [ht]
      rfl
    rw [hacts, drop_left]
    refine h.step (ht ▸ dataIds_onCtx) (fun other c' hc' => ?_) fun _ hv => absurd hv not_mem_nil
    rw [hctx] at hc'
    by_cases heq : other = dataId
    · subst other
      obtain ⟨c, hc, rfl⟩ := ctx_onCtx_eq_some.1 hc'
      refine ⟨c, hc, fun hauto client' => ?_⟩
      have hauto₀ : c.autoStart = false := by
        revert hauto
        unfold Work.started
        dsimp only
        split_ifs <;> exact id
      rw [(ctx_started (w := { ctx := c }) hauto₀).2, h.clients dataId c hc hauto₀, mem_append]
      unfold acceptedIn
      by_cases hin : client ∈ c.clients
      · have hhld := (h.clients dataId c hc hauto₀ client).1 hin
        by_cases hr : r.Accepted
        · simp only [filterMap_cons, if_pos hr, filterMap_nil, mem_singleton,
            Prod.mk.injEq]
          grind
        · simp only [filterMap_cons, if_neg hr, filterMap_nil, not_mem_nil]
          grind
      · rw [← hcare c hc hauto₀ hin]
        by_cases hr : r.Accepted
        all_goals simp [hr]
    · rw [ctx_onCtx, if_neg heq] at hc'
      refine ⟨c', hc', fun hauto client' => ?_⟩
      rw [h.clients other c' hc' hauto]
      exact (mem_accepted fun heq' _ _ => absurd heq' heq).symm
  | stopData client dataId =>
    dsimp only at ht
    have hsame : l.state.SameClients t := by
      have hcanc : l.state.SameClients (l.state.onCtx dataId fun w =>
          if w.ctx.autoStart = false then w.requestCancel dataId else w) := by
        refine State.SameClients.onCtx_of fun w => ?_
        split_ifs
        · exact same_requestCancel
        · exact ⟨rfl, fun _ => rfl⟩
      exact ht ▸ hcanc.trans (.of_ctx rfl rfl)
    have hacts : t.acts = l.state.acts ++ [.answered (.stopData client dataId) r] := by
      rw [ht]
      unfold answer
      rcases hc : l.state.ctx dataId with _ | c
      · rw [onCtx_of_none hc]
      rw [onCtx_of_some hc]
      unfold put
      split_ifs
      · rw [acts_requestCancel, append_nil]
      · exact congrArg (· ++ _) (append_nil _)
    rw [hacts]
    unfold acceptedIn
    exact h.same hsame (fun _ _ _ _ _ => by simp) fun _ hv => absurd hv not_mem_nil
  | startDataRetry client dataId =>
    have hacts : t.acts = l.state.acts ++ [.answered (.startDataRetry client dataId) r] := ht ▸ rfl
    rw [hacts]
    unfold acceptedIn
    exact h.same (ht ▸ .of_ctx rfl rfl) (fun _ _ _ _ _ => by simp) fun _ hv => absurd hv not_mem_nil
  | cancelRecovery client dataId =>
    have hacts : t.acts = l.state.acts ++ [.answered (.cancelRecovery client dataId) r] := ht ▸ rfl
    rw [hacts]
    unfold acceptedIn
    exact h.same (ht ▸ .of_ctx rfl rfl) (fun _ _ _ _ _ => by simp) fun _ hv => absurd hv not_mem_nil

variable {a : Answers}

theorem asksStop_retryAppReq
    (hask : asksStop dataId
      (eventStartDataRetryAppReq p dataId client a retryClients { ctx := c }).2.1.posted = true) :
    c.RetryStops p client a := by
  revert hask
  unfold eventStartDataRetryAppReq DataCtx.RetryStops
  dsimp only
  split_ifs
  all_goals simp_all [asksStop]

variable {rest : List SmEvent}

/-- The event that has a session retried asks for its stop only where no other client holds it. -/
theorem retry_asksStop
    (ht : t = { l.state with events := rest }.startDataRetryAppReq p dataId client a)
    (hc : l.state.ctx dataId = some c) (hask : asksStop dataId (t.events.drop rest.length) = true) :
    c.RetryStops p client a := by
  rw [ht] at hask
  unfold startDataRetryAppReq at hask
  simp only [hc] at hask
  rw [fulfill_keeps events fun _ => rfl, put, drop_left] at hask
  exact asksStop_retryAppReq hask

/-- A client does not stop a session that the service has started and does not retry. -/
theorem stopSync_stopsData
    (ht : t = ({ l.state with events := rest }.reset dataId).onCtxSync dataId .fault
      (eventStopData p dataId a))
    (hc : l.state.ctx dataId = some c) (hauto : c.autoStart = true)
    (hst : c.adminState ≠ .connectedInactiveRetrying) : t.acts = l.state.acts := by
  have hrset : ({ l.state with events := rest }.reset dataId).ctx dataId =
      some c.resetDataRetryPeriodicConnCheckValues := ctx_onCtx_eq_some.2 ⟨c, hc, rfl⟩
  have hstop : eventStopData p dataId a { ctx := c.resetDataRetryPeriodicConnCheckValues } =
      (.notPermitted, { ctx := c.resetDataRetryPeriodicConnCheckValues }) := by
    exact if_pos ⟨hauto, hst⟩
  rw [ht]
  unfold onCtxSync
  rw [hrset]
  rw [fulfill_keeps acts fun _ => rfl, hstop]
  unfold put reset
  rw [acts_onCtx]
  unfold worked
  simp [hc]

theorem handle (h : Agree l) (hcare : CarefulClients p l.state (.handle a))
    {e : SmEvent} (hevs : l.state.events = e :: rest)
    (ht : t = { l.state with events := rest }.handle p a e) :
    Agree ⟨t, l.holdsAfter t (.handle a), l.leaves ++ l.newLeaves t (.handle a),
      l.autoStops ++ l.newAutoStops t (.handle a)⟩ := by
  simp only [CarefulClients, hevs] at hcare
  have hsame : l.state.SameClients t :=
    (State.SameClients.of_ctx (t := { l.state with events := rest }) rfl rfl).trans
      (ht ▸ State.SameClients.handle (p := p) hcare)
  have hsto : l.newAutoStops t (.handle a) = [] := by
    unfold Ledger.newAutoStops
    rw [hevs]
    dsimp only
    split
    · rename_i dataId client rest' heq
      obtain ⟨rfl, rfl⟩ := cons.inj heq
      split
      · rename_i c hc
        apply if_neg
        intro hboth
        obtain ⟨hauto, hask⟩ := (Bool.and_eq_true _ _).mp hboth
        have hfal := (hcare c hc (retry_asksStop ht hc hask)).1
        exact Bool.false_ne_true (hfal.symm.trans hauto)
      · rfl
    · rename_i dataId rest' heq
      obtain ⟨rfl, rfl⟩ := cons.inj heq
      split
      · rename_i c hc
        apply if_neg
        intro hboth
        obtain ⟨hauto, hstop⟩ := (Bool.and_eq_true _ _).mp hboth
        rw [stopSync_stopsData ht hc hauto ((hcare c hc).2 hauto), drop_length] at hstop
        exact Bool.false_ne_true hstop
      · rfl
    · rfl
  rw [hsto]
  refine h.same hsame (fun _ _ _ _ _ => Iff.rfl) fun v hv => ?_
  unfold Ledger.newLeaves at hv
  rw [hevs] at hv
  dsimp only at hv
  split at hv
  swap
  · exact absurd hv not_mem_nil
  rename_i dataId client rest' heq
  obtain ⟨rfl, rfl⟩ := cons.inj heq
  split at hv
  · rename_i c hc
    split_ifs at hv with hauto
    · obtain rfl := mem_singleton.1 hv
      refine h.leave_fair hc hauto (fun hask => ?_) fun hfal => absurd hfal (by decide)
      have hoths := (hcare c hc (retry_asksStop ht hc hask)).2
      refine eq_nil_iff_forall_not_mem.2 fun other hin => ?_
      obtain ⟨hin, hne⟩ := DataCtx.mem_eraseClient.1 hin
      exact hne (hoths other hin)
    · exact absurd hv not_mem_nil
  · exact absurd hv not_mem_nil

theorem watch (h : Agree l) {e : Event} (hcare : CarefulClients p l.state e) {l' : Ledger}
    (hstep : l.watch p e = some l') : Agree l' := by
  obtain ⟨t, ht, rfl⟩ := Option.map_eq_some_iff.1 hstep
  cases e with
  | connect client =>
    simp only [State.step, Option.ite_none_right_eq_some, Option.some.injEq] at ht
    exact h.quiet (ht.2 ▸ .of_ctx rfl rfl)
  | disconnect client =>
    simp only [State.step, Option.ite_none_right_eq_some, Option.some.injEq] at ht
    exact h.disconnect hcare ht.2.symm
  | startData client dataId =>
    simp only [State.step, Option.ite_none_right_eq_some, Option.some.injEq] at ht
    exact h.startData hcare ht.2.symm
  | stopData client dataId =>
    simp only [State.step, Option.ite_none_right_eq_some, Option.some.injEq] at ht
    exact h.stopData ht.2.symm
  | startDataRetry client dataId =>
    simp only [State.step, Option.ite_none_right_eq_some, Option.some.injEq] at ht
    refine h.quiet (ht.2 ▸ ?_)
    unfold State.startDataRetry
    split
    · exact .of_ctx rfl rfl
    · split_ifs <;> exact .of_ctx rfl rfl
  | cancelRecovery client dataId =>
    simp only [State.step, Option.ite_none_right_eq_some, Option.some.injEq] at ht
    refine h.quiet (ht.2 ▸ ?_)
    unfold State.cancelRecovery
    split
    · exact .of_ctx rfl rfl
    · split_ifs <;> exact .of_ctx rfl rfl
  | resume =>
    simp only [State.step] at ht
    split at ht
    · rename_i call r hcall
      exact h.resume hcare hcall (Option.some.inj ht).symm
    · cases ht
  | handle a =>
    simp only [State.step] at ht
    split at ht
    · cases ht
    · rename_i e rest hevs
      exact h.handle hcare hevs (Option.some.inj ht).symm
  | expire dataId timer =>
    obtain ⟨c, hc, ht⟩ := Option.bind_eq_some_iff.1 ht
    split_ifs at ht with hrunning htimer
    all_goals
      obtain rfl := Option.some.inj ht
      exact h.quiet (.trans (.of_ctx rfl rfl) (.onCtx_of fun _ => same_timerHandler))
  | runTest url ipv4Addr =>
    simp only [State.step, State.runTest] at ht
    split at ht
    · cases ht
    · obtain rfl := Option.some.inj ht
      exact h.quiet (.of_ctx rfl rfl)
  | restartResponse ready =>
    simp only [State.step, State.restartReqAsyncCallBack] at ht
    split at ht
    · cases ht
    obtain rfl := Option.some.inj ht
    refine h.quiet (.trans (.of_ctx rfl rfl) (.onCtx_of fun w => ?_))
    split_ifs <;> exact ⟨rfl, fun _ => rfl⟩
  | sessionConnected dataId | sessionDisconnected dataId | registered phoneId
  | unregistered phoneId | simReady slotId | simNotReady slotId =>
    exact h.quiet (Option.some.inj ht ▸ .of_ctx rfl rfl)

theorem initial {config : List DataConfig} : Agree (Ledger.initial config) where
  nodup := listed_initial.nodup
  known := fun dataId c hc => (listed_initial.mem_iff dataId).2 ⟨c, hc⟩
  clients := by
    have hnone {dataId : Nat} {c : DataCtx} (hc : (State.initial config).ctx dataId = some c) :
        c.clients = [] := by
      apply initial_ctx (Q := fun _ c => c.clients = []) _ hc
      intro d b _
      unfold Work.initializeAdminState
      split_ifs <;> simp [DataCtx.configure]
    intro dataId c hc _ client
    rw [hnone hc]
    exact ⟨fun hin => absurd hin not_mem_nil, fun hin => absurd hin not_mem_nil⟩
  shared := ⟨fun _ hv => absurd hv not_mem_nil, rfl⟩

end Agree

/-- In every careful run a shared session lives as long as its clients. -/
theorem shared_run {p : Policy} {config : List DataConfig} {l : Ledger} {events : List Event}
    (hcare : Meets (Ledger.watch p) (fun l e => CarefulClients p l.state e) (Ledger.initial config) events)
    (hrun : exec (Ledger.watch p) (Ledger.initial config) events = some l) : Shared l :=
  (exec_invariant (fun _ _ _ h hok hstep => h.watch hok hstep) Agree.initial hcare hrun).shared

/-! Two clients share a session. -/

def noRecovery : Policy where
  level := .none
  allowCancel := false
  verifyCancelingApp := false
  retryWaitTime := 0
  appMngdEnable := false
  verifyCallingApp := false
  maxSessions := 4

def manualData : DataConfig where
  dataId := 1
  slotId := 1
  phoneId := 1
  autoStart := false
  connTestUrl := []
  connTestIpv4Addr := []
  dataRetry := true
  maxdataRetryCount := 2
  connPeriodicTestUrl := []
  connPeriodicTestMaxRetryCount := 0
  simReady := true
  registered := true

/-- Both start the session; one stops it and the other disconnects. -/
def shareSession : List Event :=
  [.connect 7, .connect 8, .handle (answering .ok), .startData 7 1, .handle (answering .ok), .resume,
    .sessionConnected 1, .handle (answering .ok), .handle (answering .ok), .startData 8 1,
    .handle (answering .ok), .handle (answering .ok), .resume, .stopData 7 1, .disconnect 8,
    .handle (answering .ok)]

theorem shared_run_shareSession : ∃ l,
    exec (Ledger.watch noRecovery) (Ledger.initial [manualData]) shareSession = some l ∧ Shared l :=
  ⟨_, rfl, @shared_run noRecovery [manualData] _ shareSession (by decide +kernel) rfl⟩

/-- The first call of the client fails, and the retry succeeds; another client connects and goes. -/
def retryThenLeave : List Event :=
  [.connect 7, .connect 8, .handle (answering .ok), .startData 7 1,
    .handle (answering .fault), .resume,
    .handle (answering .ok), .expire 1 .dataStartRetry, .handle (answering .ok), .disconnect 8]

/-- A client whose start is in progress is not on record, and its session is stopped for another
one. -/
theorem not_shared_run :
    ¬ ∀ (p : Policy) (config : List DataConfig) (events : List Event) (l : Ledger),
    exec (Ledger.watch p) (Ledger.initial config) events = some l → Shared l := by
  intro h
  have hshared := h noRecovery [manualData] retryThenLeave _ rfl
  have hfair := hshared.leaves ⟨1, false, false, [7], true⟩ (by decide +kernel)
  exact absurd (hfair.alone rfl) (by decide)

end TelAF.MngdConn
