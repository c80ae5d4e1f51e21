import TelAF.MngdConnAdmin

/-!
# Scheduled recoveries

The ledger has the recoveries that were scheduled for a data object, the newest first, and marks
each with what the applications were told of it, with the operation when it is performed and with
its cancellation. The second half of the module says where a recovery can stand: nothing has been
scheduled, the schedule timer runs, it has expired and the start is queued, or the recovery is over.
-/

namespace TelAF.MngdConn

open List

inductive Mark where
  | told (event : RecoveryEvent)
  /-- The operation is performed, after the one of the level below or not. -/
  | performed (inOrder : Bool)
  /-- A cancel event is handled; where `CancelRecovery` has asked for it, the call returns
  `LE_OK`. -/
  | cancelled
deriving DecidableEq

structure Schedule where
  operation : RecoveryOperation
  marks : List Mark
deriving DecidableEq

structure Recoveries where
  schedules : List Schedule := []
  /-- The marks that belong to no schedule. -/
  stray : List Mark := []
  /-- The operations performed or failed since the session was last connected. -/
  since : List RecoveryOperation := []

def AdminState.scheduledOperation : AdminState → Option RecoveryOperation
  | .recoveryScheduledL1 => some .radioOffOn
  | .recoveryScheduledL2 => some .simOffOn
  | .recoveryScheduledL3 => some .nadReboot
  | _ => none

def AdminState.failedOperation : AdminState → Option RecoveryOperation
  | .recoveryFailedL1 => some .radioOffOn
  | .recoveryFailedL2 => some .simOffOn
  | .recoveryFailedL3 => some .nadReboot
  | _ => none

def RecoveryOperation.lower : RecoveryOperation → Option RecoveryOperation
  | .simOffOn => some .radioOffOn
  | .nadReboot => some .simOffOn
  | _ => Option.none

def Schedule.mark (b : Schedule) (m : Mark) : Schedule := { b with marks := b.marks ++ [m] }

namespace Recoveries

variable (v : Recoveries)

/-- What happens belongs to the newest schedule, if that has the operation. -/
def mark (operation : RecoveryOperation) (m : Mark) : Recoveries :=
  match v.schedules with
  | b :: older =>
    if b.operation = operation then { v with schedules := b.mark m :: older }
    else { v with stray := v.stray ++ [m] }
  | [] => { v with stray := v.stray ++ [m] }

def cancel : Recoveries :=
  match v.schedules with
  | b :: older => { v with schedules := b.mark .cancelled :: older }
  | [] => v

def perform (operation : RecoveryOperation) : Recoveries :=
  { v.mark operation (.performed (operation.lower.all fun lower => lower ∈ v.since)) with
    since := operation :: v.since }

/-- A recovery is scheduled where the data object comes to such a state. -/
def schedule (before after : AdminState) : Recoveries :=
  match after.scheduledOperation with
  | some operation =>
    if before = after then v else { v with schedules := ⟨operation, []⟩ :: v.schedules }
  | none => v

def fail (before after : AdminState) : Recoveries :=
  match after.failedOperation with
  | some operation => if before = after then v else { v with since := operation :: v.since }
  | none => v

end Recoveries

def Recoveries.act (dataId : Nat) (v : Recoveries) : Act → Recoveries
  | .recovery other event operation => if other = dataId then v.mark operation (.told event) else v
  | .radioOff other => if other = dataId then v.perform .radioOffOn else v
  | .simOff other => if other = dataId then v.perform .simOffOn else v
  | .restart other => if other = dataId then v.perform .nadReboot else v
  | .dataState other .connected => if other = dataId then { v with since := [] } else v
  | _ => v

/-- A step is made of a change of the state, a cancellation perhaps, and what is done meanwhile. -/
def Recoveries.after (dataId : Nat) (before after : AdminState) (cancelled : Bool) (acts : List Act)
    (v : Recoveries) : Recoveries :=
  let v := v.schedule before after
  let v := if cancelled then v.cancel else v
  (acts.foldl (Recoveries.act dataId) v).fail before after

/-- The step from `s` to `t` cancels a recovery of the data object. -/
def State.cancels (s t : State) (dataId : Nat) : Event → Bool
  | .handle _ =>
    match s.events with
    | .recoveryCancel other :: _ => decide (other = dataId)
    | .recoveryCancelSync other :: _ => decide (other = dataId ∧ t.call.bind Prod.snd = some .ok)
    | _ => false
  | _ => false

/-- The recoveries of a data object after the step from `s` to `t`. -/
def State.recoveries (s t : State) (e : Event) (dataId : Nat) (v : Recoveries) : Recoveries :=
  match s.ctx dataId, t.ctx dataId with
  | some c, some c' =>
    v.after dataId c.adminState c'.adminState (s.cancels t dataId e) (t.acts.drop s.acts.length)
  | _, _ => v

structure RecoveryLedger where
  state : State
  log : Nat → Recoveries

/-- A step of the machine and what it means for the recoveries. -/
def RecoveryLedger.watch (p : Policy) (l : RecoveryLedger) (e : Event) : Option RecoveryLedger :=
  (l.state.step p e).map fun t =>
    { state := t
      log := fun dataId => l.state.recoveries t e dataId (l.log dataId) }

def RecoveryLedger.initial (config : List DataConfig) : RecoveryLedger where
  state := State.initial config
  log := fun _ => {}

structure Schedule.Proper (b : Schedule) : Prop where
  scheduled : b.marks.count (.told .scheduled) = 1
  once : b.marks.count (.told .started) + b.marks.count (.told .canceled) ≤ 1
  /-- A recovery that is cancelled does not start any more. -/
  cancelled : ∀ m ∈ b.marks.dropWhile (· ≠ .cancelled),
    m ≠ .told .started ∧ ∀ inOrder, m ≠ .performed inOrder
  inOrder : .performed false ∉ b.marks

/-- The recoveries of a data object with this context are in order. -/
structure DataCtx.Recovers (c : DataCtx) (v : Recoveries) : Prop where
  timer : c.recoveryScheduleTimer = true ↔
    c.adminState.scheduledOperation ≠ none ∧ c.isConnectivityRecoveryScheduled = true
  proper : ∀ b ∈ v.schedules, b.Proper
  stray : v.stray = []

/-- The recoveries of every data object are in order. -/
def RecoveryLedger.Orderly (l : RecoveryLedger) : Prop :=
  ∀ dataId c, l.state.ctx dataId = some c → c.Recovers (l.log dataId)

/-- The events of one data object by which a recovery goes on. -/
inductive Note where
  | start
  | cancel
  | interrupted
  | indicate
deriving DecidableEq

def SmEvent.note (dataId : Nat) : SmEvent → Option Note
  | .recoveryStartL1 other => if other = dataId then some .start else none
  | .recoveryCancelSync other => if other = dataId then some .cancel else none
  | .recoveryInterrupted other => if other = dataId then some .interrupted else none
  | .recoveryCancelSendInd other => if other = dataId then some .indicate else none
  | _ => none

namespace State

variable (s : State) (dataId : Nat)

def notes : List Note := s.events.filterMap (SmEvent.note dataId)

/-- The `CancelRecovery` for the data object that has not returned, with its result. -/
def asked : Option (Option Result) :=
  match s.call with
  | some (.cancelRecovery _ other, r) => if other = dataId then some r else none
  | _ => none

end State

/-- No `y` is queued behind an `x`. -/
def NoneBehind (x y : Note) (q : List Note) : Prop := y ∉ q.dropWhile (· ≠ x)
deriving Decidable

/-- A recovery of the first level can be scheduled. -/
def DataCtx.AwaitsRecovery (c : DataCtx) : Prop :=
  c.adminState = .notConnectedFailed ∨ c.adminState = .recoveryCanceledL1
deriving Decidable

/-- Nothing of an earlier recovery is queued that the next one would take for its own. -/
def Unhindered (q : List Note) : Prop :=
  .start ∉ q ∧ .indicate ∉ q ∧ NoneBehind .cancel .interrupted q
deriving Decidable

/-- The condition on the event the state machine handles next. -/
def CarefulRecoveryEvent (p : Policy) (s : State) (a : Answers) : SmEvent → Prop
  | .networkUnregState phoneId =>
    ∀ dataId ∈ s.dataIds, ∀ c ∈ s.ctx dataId, c.phoneId = phoneId →
      c.recoveryScheduleTimer = false
  | .connected dataId => ∀ c ∈ s.ctx dataId, c.recoveryScheduleTimer = true →
      a.interfaceName = true ∧ (a.dnsAddresses = false ∨ a.setDNS = false)
  | .startConnectionTest dataId => ∀ c ∈ s.ctx dataId, c.recoveryScheduleTimer = true →
      c.connTestUrl ≠ [] ∨ c.connTestIpv4Addr ≠ []
  | .dataStartRetry dataId => ∀ c ∈ s.ctx dataId, c.recoveryScheduleTimer = true → ¬ c.GivesUp
  | .recoveryScheduleL1 dataId => ∀ c ∈ s.ctx dataId, p.level ≠ .none →
      if c.AwaitsRecovery then c.wasL1ConnectivityRecoveryDone = false →
        Unhindered (s.notes dataId)
      else c.recoveryOperation = .none
  | .recoveryScheduleL2 dataId => ∀ _ ∈ s.ctx dataId, p.level ≠ .l2 ∧ p.level ≠ .l3
  | _ => True

def CarefulRecovery (p : Policy) (s : State) : Event → Prop
  | .disconnect client =>
    client ∈ s.connectedClients → ∀ dataId ∈ s.dataIds, ∀ c ∈ s.ctx dataId,
      c.autoStart = false → (c.eraseClient client).clients = [] →
        c.isConnectivityRecoveryScheduled = false
  | .resume =>
    match s.call with
    | some (.stopData _ dataId, some _) => ∀ c ∈ s.ctx dataId,
        c.autoStart = false → c.isConnectivityRecoveryScheduled = false
    | _ => True
  | .handle a =>
    match s.events with
    | e :: rest => CarefulRecoveryEvent p { s with events := rest } a e
    | [] => True
  | .expire dataId .recoverySchedule => s.asked dataId = none
  | _ => True

instance {p : Policy} {s : State} {a : Answers} : DecidablePred (CarefulRecoveryEvent p s a) := by
  rintro ⟨⟩
  all_goals unfold CarefulRecoveryEvent; infer_instance

instance {p : Policy} : DecidableRel (CarefulRecovery p) := fun s => by
  rintro ⟨⟩
  case resume =>
    unfold CarefulRecovery
    rcases s.call with _ | ⟨⟨⟩, _ | _⟩ <;> infer_instance
  case handle =>
    unfold CarefulRecovery
    rcases s.events with _ | _ <;> infer_instance
  case expire timer => rcases timer with ⟨⟩ <;> unfold CarefulRecovery <;> infer_instance
  all_goals unfold CarefulRecovery; infer_instance

/-- The level of the recovery that a state belongs to. -/
def AdminState.recoveryLevel : AdminState → Nat
  | .recoveryScheduledL1 | .recoveryStartedL1 | .recoveryCanceledL1 | .recoveryFailedL1 => 1
  | .recoveryScheduledL2 | .recoveryStartedL2 | .recoveryCanceledL2 | .recoveryFailedL2 => 2
  | .recoveryScheduledL3 | .recoveryStartedL3 | .recoveryCanceledL3 | .recoveryFailedL3 => 3
  | _ => 0

/-- A change that leaves the recovery alone; a state with a scheduled recovery stays. -/
structure DataCtx.Calm (c c' : DataCtx) : Prop where
  timer : c'.recoveryScheduleTimer = c.recoveryScheduleTimer
  scheduled : c'.isConnectivityRecoveryScheduled = c.isConnectivityRecoveryScheduled
  operation : c'.recoveryOperation = c.recoveryOperation
  done : c.wasL1ConnectivityRecoveryDone = false → c'.wasL1ConnectivityRecoveryDone = false
  state : c'.adminState = c.adminState ∨
    c'.adminState.recoveryLevel = 0 ∧ c.adminState ≠ .recoveryScheduledL1

theorem DataCtx.Calm.refl {c : DataCtx} : c.Calm c := ⟨rfl, rfl, rfl, id, Or.inl rfl⟩

theorem DataCtx.Calm.trans {b c d : DataCtx} (h : b.Calm c) (h' : c.Calm d) : b.Calm d where
  timer := h'.timer.trans h.timer
  scheduled := h'.scheduled.trans h.scheduled
  operation := h'.operation.trans h.operation
  done := fun hdone => h'.done (h.done hdone)
  state := by
    rcases h'.state with hsame | ⟨hlvl, hne⟩
    · rw [hsame]
      exact h.state
    rcases h.state with hsame | ⟨-, hne'⟩
    · exact Or.inr ⟨hlvl, hsame ▸ hne⟩
    · exact Or.inr ⟨hlvl, hne'⟩

/-- The events that do not carry a recovery on and that nobody waits for. -/
def SmEvent.Plain : SmEvent → Prop
  | .dataStartSync _ | .dataStopSync _ | .dataStartRetryAppReq _ _ | .recoveryStartL1 _
  | .recoveryStartL2 _ | .recoveryScheduleL3 _ | .recoveryStartL3 _ | .recoveryCancel _
  | .recoveryCancelSync _ | .recoveryCancelSendInd _ | .recoveryInterrupted _ => False
  | _ => True

def Act.Plain : Act → Prop
  | .recovery _ _ _ | .radioOff _ | .simOff _ | .restart _ => False
  | _ => True

/-- The work of a handler for the context `c`, which leaves its recovery alone. -/
structure Work.Calm (w : Work) (c : DataCtx) : Prop where
  ctx : c.Calm w.ctx
  posted : ∀ e ∈ w.posted, e.Plain
  acts : ∀ a ∈ w.acts, a.Plain

namespace Work.Calm

variable {p : Policy} {c : DataCtx} {w : Work} {dataId : Nat}

theorem idle : Work.Calm { ctx := c } c :=
  ⟨.refl, fun _ he => absurd he not_mem_nil, fun _ ha => absurd ha not_mem_nil⟩

variable {e : SmEvent} {a : Act} {f : DataCtx → DataCtx} (h : w.Calm c)
include h

theorem post (he : e.Plain) : (w.post e).Calm c :=
  ⟨h.ctx, fun _ hin => (mem_append.1 hin).elim (h.posted _) fun heq => mem_singleton.1 heq ▸ he,
    h.acts⟩

theorem act (ha : a.Plain) : (w.act a).Calm c :=
  ⟨h.ctx, h.posted,
    fun _ hin => (mem_append.1 hin).elim (h.acts _) fun heq => mem_singleton.1 heq ▸ ha⟩

theorem update (hf : ∀ b : DataCtx, b.Calm (f b)) : (w.update f).Calm c :=
  ⟨h.ctx.trans (hf _), h.posted, h.acts⟩

theorem set (hf : ∀ b : DataCtx, (f b).recoveryScheduleTimer = b.recoveryScheduleTimer ∧
      (f b).isConnectivityRecoveryScheduled = b.isConnectivityRecoveryScheduled ∧
      (f b).recoveryOperation = b.recoveryOperation ∧
      (f b).wasL1ConnectivityRecoveryDone = b.wasL1ConnectivityRecoveryDone ∧
      (f b).adminState = b.adminState) : (w.update f).Calm c :=
  h.update fun b => ⟨(hf b).1, (hf b).2.1, (hf b).2.2.1, fun hdone => (hf b).2.2.2.1.trans hdone,
    Or.inl (hf b).2.2.2.2⟩

theorem setState {state : AdminState} (hne : c.adminState ≠ .recoveryScheduledL1)
    (hlvl : state.recoveryLevel = 0) : (w.setState state).Calm c where
  ctx := ⟨h.ctx.timer, h.ctx.scheduled, h.ctx.operation, h.ctx.done, Or.inr ⟨hlvl, hne⟩⟩
  posted := h.posted
  acts := h.acts

theorem reconnect {need : Bool} : (w.reconnect need).Calm c :=
  h.set fun _ => ⟨rfl, rfl, rfl, rfl, rfl⟩

theorem report {newstate : DataState} : (w.reportAndUpdateDataState dataId newstate).Calm c := by
  have hupd : ((w.act (.dataState dataId newstate)).update
      fun c => { c with dataState := newstate }).Calm c :=
    (h.act (by trivial)).set fun _ => ⟨rfl, rfl, rfl, rfl, rfl⟩
  unfold reportAndUpdateDataState
  dsimp only
  split_ifs
  · exact h
  iterate 2 exact hupd.post (by trivial)
  exact hupd

theorem clearClients : (w.clearClients p dataId).Calm c := by
  unfold Work.clearClients
  split_ifs
  · exact (h.act (by trivial)).set fun _ => ⟨rfl, rfl, rfl, rfl, rfl⟩
  · exact h

theorem fail (hne : c.adminState ≠ .recoveryScheduledL1) : (w.fail p dataId).Calm c :=
  ((h.setState hne rfl).clearClients).report

theorem scheduleConnectivityTest {periodic : Bool} :
    (w.scheduleConnectivityTest dataId periodic).Calm c :=
  ⟨h.ctx.trans ⟨rfl, rfl, rfl, id, Or.inl rfl⟩, h.posted, h.acts⟩

theorem connect (hne : c.adminState ≠ .recoveryScheduledL1) : (w.connect dataId).Calm c :=
  (h.setState hne rfl).report.reconnect

end Work.Calm

variable {p : Policy} {c : DataCtx} {dataId : Nat} {a : Answers}

open Work.Calm

theorem calm_eventStartData : (eventStartData dataId a { ctx := c }).2.Calm c := by
  by_cases hne : c.adminState = .recoveryScheduledL1
  · unfold eventStartData
    rw [hne]
    exact idle
  unfold eventStartData
  split
  all_goals try (dsimp only; split)
  all_goals first
    | exact idle
    | exact idle.report
    | exact (idle.act (by trivial)).setState hne (by rfl)
    | exact ((idle.act (by trivial)).setState hne (by rfl)).post (by trivial)
    | exact idle.act (by trivial)
    | exact (((idle.act (by trivial)).setState hne (by rfl)).report).post (by trivial)

theorem calm_eventStartDataRetry (h : c.adminState = .recoveryScheduledL1 → ¬ c.GivesUp) :
    (eventStartDataRetry p dataId { ctx := c }).Calm c := by
  have htim : Work.Calm ⟨{ c with dataStartRetryTimer := false }, [], [], []⟩ c :=
    idle.set (f := fun c => { c with dataStartRetryTimer := false }) fun _ => by simp
  unfold eventStartDataRetry
  dsimp only
  split_ifs with hretr hcnt
  · exact idle.fail fun hst => h hst (Or.inl hretr)
  · exact htim.fail fun hst => h hst (Or.inr hcnt)
  · exact htim.set fun _ => by simp

theorem calm_retryAppReq {client : Nat} {retryClients : Nat → Option Bool} :
    (eventStartDataRetryAppReq p dataId client a retryClients { ctx := c }).2.1.Calm c := by
  have htim : Work.Calm ⟨{ c with periodicConnectivityTestTimer := false }, [], [], []⟩ c :=
    idle.set (f := fun c => { c with periodicConnectivityTestTimer := false }) fun _ => by simp
  have hbusy : Work.Calm ⟨{ c with
      periodicConnectivityTestTimer := false
      sessionRef := client
      minTimeBetweenTriggers := true
      maxTimeBetweenTriggers := true }, [], [], []⟩ c :=
    htim.set (f := fun c => { c with
      sessionRef := client
      minTimeBetweenTriggers := true
      maxTimeBetweenTriggers := true }) fun _ => by simp
  unfold eventStartDataRetryAppReq
  dsimp only
  split_ifs with happ hclient hmin hmax hown hst halloc
  iterate 3 exact idle
  · exact htim.post (by trivial)
  · exact htim
  · exact hbusy
  · have hne : c.adminState ≠ .recoveryScheduledL1 := fun heq => by cases heq.symm.trans hst
    exact (hbusy.setState hne (by rfl)).post (by trivial)
  · exact htim

theorem calm_stoppedForRetry {w : Work} (h : w.Calm c)
    (hne : c.adminState ≠ .recoveryScheduledL1) :
    (w.stoppedForRetry p dataId).2.Calm c := by
  have hstop : ((w.setState .notConnectedInactiveRetrying).reportAndUpdateDataState dataId
      .disconnected).Calm c := (h.setState hne (by rfl)).report
  unfold Work.stoppedForRetry
  dsimp only
  split_ifs
  · exact (hstop.set fun _ => by simp).fail hne
  · exact ((hstop.set fun _ => by simp).setState hne (by rfl)).post (by trivial)

theorem calm_eventStopData : (eventStopData p dataId a { ctx := c }).2.Calm c := by
  by_cases hne : c.adminState = .recoveryScheduledL1
  · unfold eventStopData
    simp only [hne]
    split_ifs
    all_goals exact idle
  have hcall : (Work.act { ctx := c } (.stopData dataId a.stopData)).Calm c := idle.act (by trivial)
  have hdown : (((Work.act { ctx := c } (.stopData dataId a.stopData)).setState
      .notConnected).reportAndUpdateDataState dataId .disconnected).Calm c :=
    (hcall.setState hne (by rfl)).report
  unfold eventStopData
  split_ifs
  · exact idle
  split
  · dsimp only
    split
    · exact calm_stoppedForRetry hcall hne
    · exact hcall
    all_goals exact hdown
  · dsimp only
    split
    · exact hdown.reconnect
    · exact hcall
    · exact hdown
  · dsimp only
    exact ((idle.setState hne (by rfl)).report.reconnect).set fun _ => by simp
  all_goals exact idle

theorem calm_eventSetRadioPowerOn : (eventSetRadioPowerOn dataId a { ctx := c }).Calm c := by
  unfold eventSetRadioPowerOn
  split_ifs
  · exact idle.report
  · exact idle

variable {generation phoneId slotId : Nat}

theorem calm_eventSimReadyState : (eventSimReadyState slotId dataId a { ctx := c }).Calm c := by
  unfold eventSimReadyState
  split_ifs with hslot hst
  · have hne : c.adminState ≠ .recoveryScheduledL1 := by
      rcases hst with hst | hst
      all_goals exact fun heq => by cases heq.symm.trans hst
    exact (idle.setState hne (by rfl)).report
  · have hne : c.adminState ≠ .recoveryScheduledL1 := by
      rcases hst with hst | hst
      all_goals exact fun heq => by cases heq.symm.trans hst
    exact idle.setState hne (by rfl)
  · exact idle.report
  · exact idle

theorem calm_simNotReady : (eventSimNotReadyState slotId dataId { ctx := c }).Calm c := by
  unfold eventSimNotReadyState
  split_ifs with hslot hst
  · have hne : c.adminState ≠ .recoveryScheduledL1 := fun heq => by cases heq.symm.trans hst
    exact (idle.setState hne (by rfl)).report
  · exact idle.report
  · exact idle

theorem calm_networkReg : (eventNetworkRegState phoneId dataId { ctx := c }).Calm c := by
  by_cases hne : c.adminState = .recoveryScheduledL1
  · unfold eventNetworkRegState
    rw [hne]
    split
    all_goals exact idle
  unfold eventNetworkRegState
  split
  · split
    all_goals try split
    all_goals first
      | exact idle
      | exact idle.setState hne (by rfl)
      | exact (idle.setState hne (by rfl)).post (by trivial)
  · exact idle

theorem calm_networkUnreg
    (h : c.phoneId = phoneId → c.adminState ≠ .recoveryScheduledL1) :
    (eventNetworkUnregState phoneId dataId { ctx := c }).Calm c := by
  unfold eventNetworkUnregState
  split_ifs with hphon hst
  · exact ((idle.set (f := fun c => { c with dataStartRetryTimer := false })
      fun _ => by simp).setState (h hphon.symm) (by rfl)).report
  · exact (idle.setState (h hphon.symm) (by rfl)).report
  · exact idle

theorem calm_eventDataConnected (h : c.adminState = .recoveryScheduledL1 →
      a.interfaceName = true ∧ (a.dnsAddresses = false ∨ a.setDNS = false)) :
    (eventDataConnected dataId a { ctx := c }).Calm c := by
  unfold eventDataConnected
  split_ifs with hname hdns hset
  · have hne : c.adminState ≠ .recoveryScheduledL1 := fun heq => by simp [(h heq).1] at hname
    exact (idle.setState hne (by rfl)).post (by trivial)
  · exact idle
  · exact idle
  · have hne : c.adminState ≠ .recoveryScheduledL1 := fun heq => (h heq).2.elim hdns hset
    exact (idle.setState hne (by rfl)).post (by trivial)

theorem calm_connectedActive : (eventDataConnectedActive { ctx := c }).Calm c := by
  have hdone : Work.Calm ⟨{ c with wasL1ConnectivityRecoveryDone := false }, [], [], []⟩ c :=
    idle.update (f := fun c => { c with wasL1ConnectivityRecoveryDone := false })
      fun _ => ⟨rfl, rfl, rfl, fun _ => rfl, Or.inl rfl⟩
  unfold eventDataConnectedActive
  dsimp only
  split_ifs
  · exact hdone.set fun _ => by simp
  · exact hdone

theorem calm_dataDisconnected : (eventDataDisconnected dataId { ctx := c }).Calm c := by
  by_cases hne : c.adminState = .recoveryScheduledL1
  · unfold eventDataDisconnected
    rw [hne]
    exact idle
  unfold eventDataDisconnected
  split
  all_goals try split_ifs
  all_goals first
    | exact idle
    | exact (idle.setState hne (by rfl)).report
    | exact ((idle.setState hne (by rfl)).report).post (by trivial)

theorem calm_startTest (h : c.adminState = .recoveryScheduledL1 →
      c.connTestUrl ≠ [] ∨ c.connTestIpv4Addr ≠ []) :
    (eventDataStartConnectionTest dataId { ctx := c }).Calm c := by
  unfold eventDataStartConnectionTest
  split_ifs with hnone
  · exact idle.connect fun heq => (h heq).elim (absurd hnone.1) (absurd hnone.2)
  · exact (idle.set fun _ => by simp).scheduleConnectivityTest

theorem calm_startTestDone {passed : Bool} :
    (eventDataStartConnectionTestDone dataId passed generation { ctx := c }).Calm c := by
  have hdone : Work.Calm ⟨{ c with isDStartConnTestInProgress := false }, [], [], []⟩ c :=
    idle.set (f := fun c => { c with isDStartConnTestInProgress := false }) fun _ => by simp
  have hne (hst : ¬ c.adminState ≠ .startConnectionTestStart) :
      c.adminState ≠ .recoveryScheduledL1 :=
    fun heq => by cases heq.symm.trans (not_not.1 hst)
  unfold eventDataStartConnectionTestDone
  dsimp only
  split_ifs with hgen hst hpass
  · exact idle
  · exact hdone
  · exact hdone.connect (hne hst)
  · exact (hdone.setState (hne hst) (by rfl)).post (by trivial)

theorem calm_periodicTest :
    (eventDataPeriodicConnectivityTest dataId { ctx := c }).Calm c := by
  unfold eventDataPeriodicConnectivityTest
  split_ifs
  · exact idle.set fun _ => by simp
  · exact idle.scheduleConnectivityTest

theorem calm_periodicTestDone {passed : Bool} :
    (eventDataPeriodicConnectivityTestDone dataId passed generation { ctx := c }).Calm c := by
  unfold eventDataPeriodicConnectivityTestDone
  split_ifs with hgen hst hpass
  · exact idle
  · exact idle
  all_goals
    have hne : c.adminState ≠ .recoveryScheduledL1 :=
      fun heq => by cases heq.symm.trans (not_not.1 hst)
    dsimp only
    split_ifs
  · exact ((idle.set fun _ => by simp).setState hne (by rfl)).report
  · exact idle.set (f := fun c => { c with
      connPeriodicTestRetryCount := 1
      periodicConnectivityTestTimer := true }) fun _ => by simp
  · exact (idle.report.set fun _ => by simp).set fun _ => by simp
  · exact ((idle.report.set fun _ => by simp).setState hne (by rfl)).post (by trivial)

end TelAF.MngdConn
