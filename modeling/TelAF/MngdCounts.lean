import TelAF.MngdService
import TelAF.RefSums

/-!
# The counting of wake sources

`wsCount` is the number of wake sources that count, and `wsNodeCount` that of the node's own ones,
as long as no count reaches its end, no call that gives the lock back fails under its source, and
every demand that is noted down is really counted.
-/

namespace TelAF.MngdPm

open TransitionRuns List Bool

namespace Power

variable {p q r : Power}

/-- A source counts if it is acquired and its reason is authorized. -/
def weight (mask : BitVec 32) (w : WakeSource) : Nat :=
  if w.acquired && isAuthorizedStayAwakeReason w.reason mask then 1 else 0

/-- The demand: the sources that count, the vehicle side, and the boot timer. -/
def demand (p : Power) : Nat :=
  p.wsRefList.total (fun _ w => weight p.stayAwakeReasonMask w) + p.vhalWsAcquired.toNat +
    (decide (p.bootTimer = .running)).toNat

def nodeDemand (p : Power) : Nat := p.nodeWsRefList.total fun _ w => w.isAcquiredLock.toNat

theorem revertTarget_eq (p : Power) :
    p.revertTarget = .resume ∨ p.revertTarget = .releasingWakeSource := by
  unfold revertTarget
  dsimp only
  split
  · exact .inl rfl
  split_ifs
  · exact .inr rfl
  · exact .inl rfl

structure Counted (p : Power) : Prop where
  ws : p.wsCount.toNat = p.demand
  node : p.wsNodeCount.toNat = p.nodeDemand

instance (p : Power) : Decidable (Counted p) :=
  decidable_of_iff (_ ∧ _) ⟨fun ⟨a, b⟩ => ⟨a, b⟩, fun ⟨a, b⟩ => ⟨a, b⟩⟩

/-- The node's wake source is held while one of its sources is locked, and the state is one that the
service knows. -/
structure Sound (p : Power) : Prop where
  counted : Counted p
  held : p.wsNodeCount ≠ 0 → p.powerMode.isWsNodeAcquired = true
  known : p.stateMachine.currentState ≠ .unknown

/-! ## What decides whether demand is counted -/

/-- Acquiring the lock counts: it is held, it can be taken, or it is deferred. -/
def countsNow (p : Power) (env : PmsEnv) : Bool :=
  acquiresLock p.stateMachine.currentState && (p.powerMode.isWsAcquired || env.stayAwake) ||
    defersLock p.stateMachine.currentState

/-- Giving the lock back fails with the last demand. -/
def losesRelease (p : Power) (env : PmsEnv) : Bool :=
  p.wsCount = 1 && releasesLock p.stateMachine.currentState && p.powerMode.isWsAcquired && !env.relax

/-- The session acquires its source, and the source counts. -/
def wakes (p : Power) (session wsRef : Nat) (env : PmsEnv) : Bool :=
  (p.findWakeSource session wsRef).any (fun w =>
    !w.acquired && isAuthorizedStayAwakeReason w.reason p.stayAwakeReasonMask) &&
  p.requestStateChange .wakingUp && p.countsNow env

/-- The session gives its source back, and the source counted. -/
def releases (p : Power) (session wsRef : Nat) : Bool :=
  (p.findWakeSource session wsRef).any (fun w =>
    w.acquired && isAuthorizedStayAwakeReason w.reason p.stayAwakeReasonMask) &&
  p.requestStateChange .releasingWakeSource

def targetPermitted (p : Power) (target : TargetedPowerMode) : Bool :=
  target = .resume || p.requestStateChange .releasingWakeSource

/-- The demand under other authorized reasons. -/
def demandUnder (p : Power) (mask : BitVec 32) : Nat :=
  demand { p with stayAwakeReasonMask := mask &&& authorizeAll }

end Power

/-- The counts are not at their end when they grow, demand that is noted down is counted, and giving
the lock back with the last demand does not fail under a source that stays acquired. -/
def Careful (s : State) : Action → Prop
  | .pmVhalReady _ env => s.power.countsNow env = true ∧ s.power.wsCount ≠ 255
  | .stayAwake session wsRef env => session ∈ s.clients →
      s.power.wakes session wsRef env = true → s.power.wsCount ≠ 255
  | .relax session wsRef env => session ∈ s.clients →
      s.power.releases session wsRef = true → s.power.losesRelease env = false
  | .authorizeStayAwakeReason mask _ => s.power.demandUnder mask < 256
  | .vhalStayAwake env => s.power.requestStateChange .wakingUp = true →
      s.power.vhalWsAcquired = false → s.power.countsNow env = true → s.power.wsCount ≠ 255
  | .vhalRelax env => s.power.requestStateChange .releasingWakeSource = true →
      s.power.vhalWsAcquired = true → s.power.losesRelease env = false
  | .setNodeTargetedPowerMode session target env => session ∈ s.clients →
      s.power.targetPermitted target = true →
        if s.power.countsNow env then s.power.wsCount ≠ 255 else s.power.wsCount = 0
  | .stayAwakeNode session wsRef ok => session ∈ s.clients →
      (∃ w ∈ s.power.findNodeWakeSource session wsRef, w.isAcquiredLock = false) →
      (s.power.powerMode.isWsNodeAcquired || ok) = true → s.power.wsNodeCount ≠ 255
  | .relaxNode session wsRef ok => session ∈ s.clients →
      (∃ w ∈ s.power.findNodeWakeSource session wsRef, w.isAcquiredLock = true) →
      s.power.wsNodeCount = 1 → ok = true
  | _ => True

instance (s : State) : DecidablePred (Careful s) := by
  rintro ⟨⟩ <;> unfold Careful <;> infer_instance

variable {toState : MachineState} {change : PowerMode → PowerMode}

namespace Power

variable {p q r : Power}

/-! ## Handlers that leave the demand -/

structure Kept (p q : Power) : Prop where
  wsRefList : q.wsRefList = p.wsRefList
  nodeWsRefList : q.nodeWsRefList = p.nodeWsRefList
  vhalWsAcquired : q.vhalWsAcquired = p.vhalWsAcquired
  wsCount : q.wsCount = p.wsCount
  wsNodeCount : q.wsNodeCount = p.wsNodeCount
  mask : q.stayAwakeReasonMask = p.stayAwakeReasonMask
  bootTimer : q.bootTimer = p.bootTimer
  held : q.powerMode.isWsNodeAcquired = p.powerMode.isWsNodeAcquired
  known : p.stateMachine.currentState ≠ .unknown → q.stateMachine.currentState ≠ .unknown

theorem Kept.refl (p : Power) : Kept p p := ⟨rfl, rfl, rfl, rfl, rfl, rfl, rfl, rfl, id⟩

theorem Kept.trans (h : Kept p q) (h' : Kept q r) : Kept p r where
  wsRefList := h'.wsRefList.trans h.wsRefList
  nodeWsRefList := h'.nodeWsRefList.trans h.nodeWsRefList
  vhalWsAcquired := h'.vhalWsAcquired.trans h.vhalWsAcquired
  wsCount := h'.wsCount.trans h.wsCount
  wsNodeCount := h'.wsNodeCount.trans h.wsNodeCount
  mask := h'.mask.trans h.mask
  bootTimer := h'.bootTimer.trans h.bootTimer
  held := h'.held.trans h.held
  known := fun hp => h'.known (h.known hp)

theorem Kept.demand (h : Kept p q) : q.demand = p.demand := by
  unfold Power.demand
  rw [h.wsRefList, h.mask, h.vhalWsAcquired, h.bootTimer]

theorem Kept.sound (h : Kept p q) (hp : Sound p) : Sound q where
  counted := {
    ws := by rw [h.wsCount, h.demand, hp.counted.ws]
    node := by rw [h.wsNodeCount, hp.counted.node, nodeDemand, nodeDemand, h.nodeWsRefList] }
  held := by
    rw [h.wsNodeCount, h.held]
    exact hp.held
  known := h.known hp.known

theorem foldState_known {current : MachineState} (h : current ≠ .unknown)
    (hto : toState ≠ .unknown) : foldState current toState ≠ .unknown := by
  cases toState <;> simp only [foldState] <;> first | exact hto | (split_ifs <;> assumption)

theorem kept_process (toState : MachineState) (hto : toState ≠ .unknown) :
    Kept p (p.processStateChange toState) := by
  unfold processStateChange
  dsimp only
  split
  · exact ⟨rfl, rfl, rfl, rfl, rfl, rfl, rfl, rfl, fun hp => foldState_known hp hto⟩
  · exact Kept.refl p

theorem kept_setPowerMode
    (h : ∀ m, (change m).isWsNodeAcquired = m.isWsNodeAcquired) : Kept p (p.setPowerMode change) :=
  ⟨rfl, rfl, rfl, rfl, rfl, rfl, rfl, h _, id⟩

theorem kept_setAllVMPowerState (accepted : Bool) : Kept p (p.setAllVMPowerState accepted) :=
  ⟨rfl, rfl, rfl, rfl, rfl, rfl, rfl, rfl, id⟩

theorem kept_pmsStayAwake : Kept p p.pmsStayAwake := ⟨rfl, rfl, rfl, rfl, rfl, rfl, rfl, rfl, id⟩

theorem kept_pmsRelax : Kept p p.pmsRelax := ⟨rfl, rfl, rfl, rfl, rfl, rfl, rfl, rfl, id⟩

theorem kept_reconcile (env : PmsEnv) : Kept p (p.reconcile env) := by
  unfold reconcile
  split_ifs
  · exact kept_pmsStayAwake
  · exact Kept.refl p
  · exact kept_pmsRelax
  all_goals exact Kept.refl p

theorem revertTarget_known : p.revertTarget ≠ .unknown := by
  unfold revertTarget
  dsimp only
  split
  · exact nofun
  · split_ifs <;> exact nofun

theorem kept_revertWindow (env : PmsEnv) : Kept p (p.revertPendingWindow env) := by
  have hreve : Kept p { p with stateMachine := ⟨p.revertTarget, p.stateMachine.currentState⟩ } :=
    ⟨rfl, rfl, rfl, rfl, rfl, rfl, rfl, rfl, fun _ => revertTarget_known⟩
  exact hreve.trans (kept_reconcile env)

end Power

/-- What is sent when the node is set. -/
def Message.sets : Message → Bool
  | .setAllVMPowerState .. | .nodeStateChangeReq _ => true
  | _ => false

/-- Neither about a suspend nor about node power states. -/
def Message.aside : Message → Bool
  | .setAllVMPowerState .suspend _ | .sendStateChangeAck .. | .nodePowerState .. => false
  | _ => true

/-- Not the call of a handler of a request. -/
def Message.idle : Message → Bool
  | .answer .. => false
  | _ => true

namespace State

open Power

variable {s : State} {o : Outcome} {messages : List Message}

structure Sets (s : State) (o : Outcome) : Prop where
  state : o.state = s.setPower o.state.power
  kept : Kept s.power o.state.power
  messages : o.messages.all Message.sets = true

structure Aside (s : State) (o : Outcome) : Prop where
  nodeStates : o.state.nodeStates = s.nodeStates
  clients : o.state.clients = s.clients
  crashed : o.state.crashed = s.crashed
  kept : Kept s.power o.state.power
  messages : o.messages.all Message.aside = true

structure Idle (s : State) (o : Outcome) : Prop where
  kept : Kept s.power o.state.power
  window : o.state.window = s.window
  messages : o.messages.all Message.idle = true

theorem sets_setNadMode (state : PmService.PowerState) (env : PmsEnv)
    (h : ∀ m, (change m).isWsNodeAcquired = m.isWsNodeAcquired) :
    Sets s (s.setNadMode state change env) := by
  have hnad : Kept s.power (s.power.setAllVMPowerState env.nad) := kept_setAllVMPowerState _
  unfold setNadMode
  split
  · exact ⟨rfl, hnad.trans (kept_setPowerMode h), rfl⟩
  · exact ⟨rfl, hnad, rfl⟩

theorem sets_shutdownNode (env : PmsEnv) : Sets s (s.shutdownNode env) :=
  sets_setNadMode .shutdown env fun _ => rfl

theorem sets_restartNode (env : PmsEnv) : Sets s (s.restartNode env) :=
  sets_setNadMode .restart env fun _ => rfl

theorem Sets.rest (h : Sets s o) :
    o.state.nodeStates = s.nodeStates ∧ o.state.clients = s.clients ∧
    o.state.crashed = s.crashed ∧ o.state.window = s.window := by
  rw [h.state]
  exact ⟨rfl, rfl, rfl, rfl⟩

theorem Sets.thenChange (h : Sets s o) (env : PmsEnv) (hto : toState ≠ .unknown) :
    Sets s (o.thenChange toState env) := by
  unfold Outcome.thenChange
  split
  · refine ⟨?_, h.kept.trans (kept_process toState hto), h.messages⟩
    exact congrArg (·.setPower (o.state.power.processStateChange toState)) h.state
  · exact h

theorem sets_allReleased (env : PmsEnv) : Sets s (s.allWakelocksReleased env) := by
  unfold allWakelocksReleased
  split_ifs
  · refine Sets.thenChange ?_ env nofun
    exact sets_setNadMode .shutdown env fun _ => rfl
  · refine Sets.thenChange ?_ env nofun
    exact sets_setNadMode .suspend env fun _ => rfl
  · exact ⟨rfl, Kept.refl _, rfl⟩

theorem sets_allAcked : Sets s s.allAcked := by
  have htell (clear : PowerMode → PowerMode) (modes : MachineState → Option HalPowerMode)
      (h : ∀ m,
        (clear m).isWsNodeAcquired = m.isWsNodeAcquired) : Sets s (s.tellMode clear modes) := by
    refine ⟨rfl, kept_setPowerMode h, all_eq_true.2 fun m hm => ?_⟩
    obtain ⟨mode, -, rfl⟩ := mem_map.1 hm
    rfl
  unfold allAcked
  dsimp only
  split_ifs
  all_goals first
    | exact htell _ _ fun _ => rfl
    | exact ⟨rfl, Kept.refl _, rfl⟩

/-! ## Requests -/

theorem kept_setFlag (requested : RequestedState) (value : Bool) {p : Power} :
    Kept p (p.setPowerMode fun m => requested.setFlag value m) :=
  kept_setPowerMode fun m => by cases requested <;> rfl

theorem aside_refused (h : messages.all Message.aside = true) : Aside s ⟨s, messages⟩ :=
  ⟨rfl, rfl, rfl, Kept.refl _, h⟩

theorem Aside.of_window {w : Window} (h : Aside { s with window := w } o) : Aside s o :=
  ⟨h.nodeStates, h.clients, h.crashed, h.kept, h.messages⟩

theorem Aside.of_power {q : Power} (h : Aside (s.setPower q) o) (hq : Kept s.power q) : Aside s o :=
  ⟨h.nodeStates, h.clients, h.crashed, hq.trans h.kept, h.messages⟩

theorem Aside.dropCallback (h : Aside s o) (requested : RequestedState) :
    Aside s { o with state := o.state.dropCallback requested } :=
  ⟨h.nodeStates, h.clients, h.crashed, h.kept, h.messages⟩

theorem Aside.answer (h : Aside s o) (contextPtr : Nat) (response : Response) (result : Result) :
    Aside s { o with messages := o.messages ++ [.answer contextPtr response result] } := by
  refine ⟨h.nodeStates, h.clients, h.crashed, h.kept, ?_⟩
  exact all_append.trans (and_eq_true_iff.2 ⟨h.messages, rfl⟩)

theorem aside_answerCB (requested : RequestedState) (response : Response) :
    (s.answerCB requested response).all Message.aside = true := by
  unfold answerCB
  cases s.window.callback requested <;> rfl

theorem aside_setNadMode {state : PmService.PowerState} (hst : state ≠ .suspend) (env : PmsEnv)
    (h : ∀ m, (change m).isWsNodeAcquired = m.isWsNodeAcquired) :
    Aside s (s.setNadMode state change env) := by
  have hsets := sets_setNadMode (s := s) state env h
  obtain ⟨hnode, hcls, hcrsh, -⟩ := hsets.rest
  refine ⟨hnode, hcls, hcrsh, hsets.kept, ?_⟩
  cases state <;> first | rfl | exact absurd rfl hst

theorem powerState_ne_suspend (requested : RequestedState) : requested.powerState ≠ .suspend := by
  cases requested <;> exact nofun

theorem aside_revert (requested : RequestedState) (env : PmsEnv)
    (h : messages.all Message.aside = true) : Aside s (s.revert requested messages env) :=
  ⟨rfl, rfl, rfl, (kept_revertWindow env).trans (kept_setFlag requested false), h⟩

theorem aside_handleReason (requested : RequestedState) (rsp : HalRspReason) (env : PmsEnv) :
    Aside s (s.handleReason requested rsp env) := by
  cases rsp with
  | ready =>
    have hset : Aside s (s.setNadMode requested.powerState (fun m =>
        if requested = .restartWithNadReboot then m else { m with isGraceful := false }) env) :=
      aside_setNadMode (powerState_ne_suspend requested) env fun m => by split_ifs <;> rfl
    refine ⟨hset.nodeStates, hset.clients, hset.crashed, hset.kept, ?_⟩
    exact all_append.trans
      (and_eq_true_iff.2 ⟨aside_answerCB requested .ready, hset.messages⟩)
  | notReady | invalidRequest => exact aside_revert requested env (aside_answerCB requested _)
  | timeout | other value => exact aside_revert requested env rfl

theorem aside_prepareResp (payload : PrepareResp) (env : PmsEnv) :
    Aside s (s.vhalPrepareRespHandler payload env) := by
  unfold vhalPrepareRespHandler
  split_ifs
  iterate 2 exact aside_refused rfl
  refine Aside.of_window (?_ : Aside s.closeWindow _)
  cases payload.type with
  | shutdown =>
    apply Aside.dropCallback
    split
    · exact aside_handleReason _ _ env
    · exact aside_revert _ env rfl
  | restart =>
    apply Aside.dropCallback
    split_ifs
    iterate 2 exact aside_handleReason _ _ env
    exact ⟨rfl, rfl, rfl, kept_revertWindow env, rfl⟩

theorem aside_vhalAckTimerHandler (env : PmsEnv) : Aside s (s.vhalAckTimerHandler env) := by
  unfold vhalAckTimerHandler
  split
  · exact ⟨rfl, rfl, rfl, Kept.refl _, rfl⟩
  have hreve : Aside s.closeWindow
      (s.closeWindow.revert s.window.statePtr (s.answerCB s.window.statePtr .timeout) env) :=
    aside_revert _ env (aside_answerCB _ _)
  exact Aside.of_window (hreve.dropCallback _)

theorem aside_sendPrepare (requested : RequestedState) (cb : Callback) :
    Aside s (s.sendPrepare requested cb) := ⟨rfl, rfl, rfl, kept_setFlag requested true, rfl⟩

theorem aside_shutdownReqAsync (session reason : Nat) (env : PmsEnv) :
    Aside s (s.shutdownReqAsync session reason env) := by
  have hforc : Kept s.newContext.power
      ((s.newContext.power.setPowerMode fun m => { m with isForceful := true })
        |>.processStateChange .shuttingDown) := by
    refine Kept.trans ?_ (kept_process .shuttingDown nofun)
    exact kept_setPowerMode fun _ => rfl
  refine Aside.of_window (?_ : Aside s.newContext _)
  unfold shutdownReqAsync
  dsimp only
  split_ifs
  iterate 3 exact aside_refused rfl
  · exact (aside_sendPrepare _ _).of_power hforc
  refine Aside.of_power (Aside.answer ?_ _ _ _) hforc
  apply aside_setNadMode
  · exact nofun
  · exact fun _ => rfl

theorem aside_restartPrepare (mode : RestartMode) (cb : Callback) (env : PmsEnv) :
    Aside s (s.restartPrepare mode cb env) := by
  unfold restartPrepare
  split
  · split
    all_goals exact aside_refused rfl
  rename_i requested _
  split
  · exact aside_sendPrepare requested cb
  · refine Aside.answer ?_ cb.contextPtr .ready .ok
    exact aside_setNadMode (powerState_ne_suspend requested) env fun m => by cases requested <;> rfl

theorem aside_restartFrom (mode : RestartMode) {transient : MachineState} (final : MachineState)
    (cb : Callback) (env : PmsEnv) (h : transient ≠ .unknown) :
    Aside s (s.restartFrom mode transient final cb env) := by
  unfold restartFrom
  dsimp only
  split_ifs
  iterate 2 exact aside_refused rfl
  exact (aside_restartPrepare mode cb env).of_power (kept_process transient h)

theorem aside_restartReqAsync (session : Nat) (mode : RestartMode) (reason : Nat) (env : PmsEnv) :
    Aside s (s.restartReqAsync session mode reason env) := by
  refine Aside.of_window (?_ : Aside s.newContext _)
  unfold restartReqAsync
  dsimp only
  split_ifs
  iterate 2 exact aside_refused rfl
  cases mode with
  | systemOffOn | nadReboot => exact aside_restartFrom _ _ _ env nofun
  | other value => exact aside_restartPrepare _ _ env

/-! ## Notifications and node power states -/

theorem Sets.idle (h : Sets s o) : Idle s o := by
  refine ⟨h.kept, h.rest.2.2.2, all_eq_true.2 fun m hm => ?_⟩
  have hsets := all_eq_true.1 h.messages m hm
  cases m <;> first | rfl | cases hsets

theorem Idle.of_nodeStates {n : NodeStates} (h : Idle (s.setNodeStates n) o) : Idle s o :=
  ⟨h.kept, h.window, h.messages⟩

theorem kept_enter (toState : MachineState) (h : toState ≠ .unknown) :
    Kept s.power (s.enter toState).power :=
  (kept_process toState h).trans ⟨rfl, rfl, rfl, rfl, rfl, rfl, rfl, rfl, id⟩

theorem idle_suspendNotified (env : PmsEnv) : Idle s (s.suspendNotified env) := by
  unfold suspendNotified
  split_ifs
  · exact ⟨Kept.refl _, rfl, rfl⟩
  · exact ⟨kept_pmsStayAwake, rfl, rfl⟩
  · exact ⟨Kept.refl _, rfl, rfl⟩
  · exact ⟨kept_enter .suspend nofun, rfl, rfl⟩

theorem idle_shutdownNotified : Idle s ⟨s.shutdownNotified, []⟩ := by
  unfold shutdownNotified
  dsimp only
  split <;> exact ⟨kept_enter .shutdown nofun, rfl, rfl⟩

theorem idle_restartNotified : Idle s ⟨s.restartNotified, []⟩ := by
  unfold restartNotified
  split <;> exact ⟨kept_enter .restart nofun, rfl, rfl⟩

theorem idle_resumeNotified (env : PmsEnv) : Idle s ⟨s.resumeNotified env, []⟩ := by
  have hrsm := kept_enter (s := s) .resume nofun
  unfold resumeNotified
  dsimp only
  split_ifs
  · exact ⟨hrsm.trans kept_pmsRelax, rfl, rfl⟩
  all_goals exact ⟨hrsm, rfl, rfl⟩

theorem idle_stateChangeEx (psRef : Nat) (state : PmService.PowerState) (env : PmsEnv) :
    Idle s (s.stateChangeExHandler psRef state env) := by
  refine Idle.of_nodeStates (?_ : Idle (s.setPowerStateRef psRef) _)
  cases state with
  | unknown => exact ⟨Kept.refl _, rfl, rfl⟩
  | resume => exact idle_resumeNotified env
  | suspend => exact idle_suspendNotified env
  | shutdown => exact idle_shutdownNotified
  | restart => exact idle_restartNotified
  | allWakelocksReleased => exact (sets_allReleased env).idle
  | allAcked =>
    unfold stateChangeExHandler
    dsimp only
    split
    · exact ⟨Kept.refl _, rfl, rfl⟩
    split
    · exact sets_allAcked.idle
    · exact ⟨Kept.refl _, rfl, rfl⟩

theorem idle_callHandler (state : NodePowerState) :
    Idle s (s.callNodePowerStateHandlerFunc state) := by
  have htold : ((s.numbered state).map fun e =>
      Message.nodePowerState e.1.1 e.1.2.sessionRef e.2 state).all Message.idle = true := by
    refine all_eq_true.2 fun m hm => ?_
    obtain ⟨e, -, rfl⟩ := mem_map.1 hm
    rfl
  unfold callNodePowerStateHandlerFunc
  dsimp only
  split
  · exact ⟨Kept.refl _, rfl, all_append.trans (and_eq_true_iff.2 ⟨htold, rfl⟩)⟩
  · exact ⟨Kept.refl _, rfl, htold⟩

theorem idle_nodeStateChanged : Idle s s.nodePowerStateChanged := by
  unfold nodePowerStateChanged
  split
  · exact ⟨Kept.refl _, rfl, rfl⟩
  · exact (idle_callHandler _).of_nodeStates

theorem idle_sendNodeAck (session ref : Nat) (ready : Bool) :
    Idle s (s.sendNodePowerStateChangeAck session ref ready) := by
  have hack (state : NodePowerState) : Idle s (s.acknowledge session state ready) := by
    unfold acknowledge
    dsimp only
    split_ifs
    iterate 2 exact ⟨Kept.refl _, rfl, rfl⟩
    split
    · exact ⟨Kept.refl _, rfl, rfl⟩
    · split <;> exact ⟨Kept.refl _, rfl, rfl⟩
  unfold sendNodePowerStateChangeAck
  split
  · exact ⟨Kept.refl _, rfl, rfl⟩
  split
  · exact ⟨Kept.refl _, rfl, rfl⟩
  split
  · exact ⟨Kept.refl _, rfl, rfl⟩
  split
  · exact hack _
  · exact ⟨Kept.refl _, rfl, rfl⟩

theorem idle_addNodeHandler (session : Nat) (stateMask : BitVec 32)
    (old : Option Nat) : Idle s (s.addNodePowerStateChangeHandler session stateMask old) := by
  unfold addNodePowerStateChangeHandler
  dsimp only
  split_ifs <;> exact ⟨Kept.refl _, rfl, rfl⟩

theorem idle_ackTimer : Idle s s.stateChangeAckTimerHandler := by
  unfold stateChangeAckTimerHandler
  split <;> exact ⟨Kept.refl _, rfl, rfl⟩

end State

namespace Power

variable {p q : Power} {env : PmsEnv} {session wsRef : Nat} {w : WakeSource}

/-! ## Wake sources -/

structure SameNode (p q : Power) : Prop where
  nodeWsRefList : q.nodeWsRefList = p.nodeWsRefList
  wsNodeCount : q.wsNodeCount = p.wsNodeCount
  held : q.powerMode.isWsNodeAcquired = p.powerMode.isWsNodeAcquired
  known : p.stateMachine.currentState ≠ .unknown → q.stateMachine.currentState ≠ .unknown

theorem Kept.sameNode (h : Kept p q) : SameNode p q :=
  ⟨h.nodeWsRefList, h.wsNodeCount, h.held, h.known⟩

theorem SameNode.sound (h : SameNode p q) (hp : Sound p) (hws : q.wsCount.toNat = q.demand) :
    Sound q where
  counted := {
    ws := hws
    node := by rw [h.wsNodeCount, hp.counted.node, nodeDemand, nodeDemand, h.nodeWsRefList] }
  held := by
    rw [h.wsNodeCount, h.held]
    exact hp.held
  known := h.known hp.known

theorem lookup_of_find (h : p.findWakeSource session wsRef = some w) :
    p.wsRefList.lookup wsRef = some w := (Option.filter_eq_some_iff.1 h).1

theorem acquireLock_counts (h : p.countsNow env = true) :
    ∃ q, Kept p q ∧ p.acquireWakeLock env = (q.increment, true) := by
  unfold acquireWakeLock
  cases hacqs : acquiresLock p.stateMachine.currentState with
  | true =>
    rw [if_pos rfl]
    cases hheld : p.powerMode.isWsAcquired with
    | true => exact ⟨p, Kept.refl p, rfl⟩
    | false =>
      have hstay : env.stayAwake = true := by
        have hdefr : defersLock p.stateMachine.currentState = false := by
          cases hst : p.stateMachine.currentState <;> simp_all [acquiresLock, defersLock]
        simpa [countsNow, hacqs, hheld, hdefr] using h
      rw [if_pos hstay]
      exact ⟨p.pmsStayAwake, kept_pmsStayAwake, rfl⟩
  | false =>
    have hdefr : defersLock p.stateMachine.currentState = true := by
      simpa [countsNow, hacqs] using h
    rw [if_pos hdefr]
    exact ⟨p, Kept.refl p, rfl⟩

theorem acquireLock_fst (h : p.countsNow env = false) : (p.acquireWakeLock env).1 = p := by
  simp only [countsNow, or_eq_false_iff, and_eq_false_iff] at h
  obtain ⟨hacqs, hdefr⟩ := h
  unfold acquireWakeLock
  rw [hdefr]
  rcases hacqs with hacqs | ⟨hheld, hstay⟩
  · rw [hacqs]
    rfl
  · rw [hheld, hstay]
    split_ifs <;> first | rfl | contradiction

/-- In a state that demand may come in, acquiring the lock fails if it does not count. -/
theorem acquireLock_refused (hp : p.stateMachine.currentState ≠ .unknown)
    (hreq : p.requestStateChange .wakingUp = true) (h : p.countsNow env = false) :
    p.acquireWakeLock env = (p, false) := by
  simp only [countsNow, or_eq_false_iff, and_eq_false_iff] at h
  obtain ⟨hacqs, hdefr⟩ := h
  have hcome : acquiresLock p.stateMachine.currentState = true := by
    unfold requestStateChange at hreq
    cases hst : p.stateMachine.currentState <;>
      simp_all [acquiresLock, defersLock]
  rw [hcome] at hacqs
  have hboth := hacqs.resolve_left nofun
  unfold acquireWakeLock
  rw [if_pos hcome, hboth.1, hboth.2]
  rfl

theorem sameNode_decrement : SameNode p p.decrement := by
  unfold decrement
  split_ifs
  · exact (Kept.refl p).sameNode
  · exact ⟨rfl, rfl, rfl, id⟩

/-- Whatever the call that gives the lock back returns, the demand is one less. -/
theorem kept_releaseLock (env : PmsEnv) : Kept p.decrement (p.releaseWakeLock env).1 := by
  unfold releaseWakeLock
  split_ifs
  · exact kept_pmsRelax
  all_goals exact Kept.refl _

theorem releaseLock_snd (hn : p.wsCount ≠ 0) (h : p.losesRelease env = false) :
    (p.releaseWakeLock env).2 = true := by
  unfold releaseWakeLock
  split_ifs with hlast hrela
  · rfl
  · obtain ⟨hzero, hrels, hheld⟩ := hlast
    have hone : p.wsCount = 1 := by
      rw [decrement, if_neg hn] at hzero
      dsimp only at hzero
      bv_omega
    simp [losesRelease, hone, hrels, hheld, hrela] at h
  · exact decide_eq_true hn

theorem wsCount_decrement (hn : p.wsCount ≠ 0) :
    p.decrement.wsCount.toNat + 1 = p.wsCount.toNat := by
  unfold decrement
  rw [if_neg hn]
  bv_omega

theorem wsCount_increment (hk : Kept p q) (hn : p.wsCount ≠ 255) :
    q.increment.wsCount.toNat = p.wsCount.toNat + 1 := by
  change (q.wsCount + 1).toNat = p.wsCount.toNat + 1
  rw [hk.wsCount]
  bv_omega

section

variable (hw : p.wsRefList.lookup wsRef = some w)
include hw

theorem demand_setAcquired (acquired : Bool) :
    (p.setAcquired wsRef acquired).demand + weight p.stayAwakeReasonMask w =
      p.demand + weight p.stayAwakeReasonMask { w with acquired := acquired } := by
  have hsum := RefMap.total_modify (w := fun _ w => weight p.stayAwakeReasonMask w) hw
    fun w => { w with acquired := acquired }
  beta_reduce at hsum
  have hdem : (p.setAcquired wsRef acquired).demand =
      (p.wsRefList.modify wsRef fun w => { w with acquired := acquired }).total
        (fun _ w => weight p.stayAwakeReasonMask w) + p.vhalWsAcquired.toNat +
        (decide (p.bootTimer = .running)).toNat := rfl
  rw [hdem]
  unfold demand
  omega

theorem demand_erase :
    demand { p with wsRefList := p.wsRefList.erase wsRef } + weight p.stayAwakeReasonMask w =
      p.demand := by
  have hsum := RefMap.total_erase (w := fun _ w => weight p.stayAwakeReasonMask w) hw
  beta_reduce at hsum
  have hdem : demand { p with wsRefList := p.wsRefList.erase wsRef } =
      (p.wsRefList.erase wsRef).total (fun _ w => weight p.stayAwakeReasonMask w) +
        p.vhalWsAcquired.toNat + (decide (p.bootTimer = .running)).toNat := rfl
  rw [hdem]
  unfold demand
  omega

theorem weight_le_demand : weight p.stayAwakeReasonMask w ≤ p.demand := by
  have hle := RefMap.le_total (w := fun _ w => weight p.stayAwakeReasonMask w) hw
  beta_reduce at hle
  unfold demand
  omega

end

variable {mask : BitVec 32}

theorem weight_acquired (hacqd : w.acquired = true)
    (hauth : isAuthorizedStayAwakeReason w.reason mask = true) : weight mask w = 1 := by
  simp [weight, hacqd, hauth]

theorem weight_not_acquired (hacqd : w.acquired = false) : weight mask w = 0 := by
  simp [weight, hacqd]

theorem weight_not_authorized
    (hauth : isAuthorizedStayAwakeReason w.reason mask = false) : weight mask w = 0 := by
  simp [weight, hauth]

theorem wsCount_ne_zero (hp : Sound p) (h : p.demand ≠ 0) : p.wsCount ≠ 0 := by
  intro hzero
  have hws := hp.counted.ws
  rw [hzero] at hws
  exact h hws.symm

theorem sound_stayAwake (hp : Sound p)
    (hcare : p.wakes session wsRef env = true → p.wsCount ≠ 255) :
    Sound (p.stayAwake session wsRef env).1 := by
  unfold stayAwake
  rcases hfind : p.findWakeSource session wsRef with _ | w
  · exact hp
  have hlook := lookup_of_find hfind
  dsimp only
  cases hacqd : w.acquired with
  | true => exact hp
  | false =>
    rw [if_neg nofun]
    cases hauth : isAuthorizedStayAwakeReason w.reason p.stayAwakeReasonMask with
    | false =>
      rw [if_neg nofun]
      split_ifs
      · exact hp
      have hsum := demand_setAcquired hlook true
      rw [weight_not_authorized hauth, weight_not_authorized (w := { w with acquired := true }) hauth]
        at hsum
      have hsame : SameNode p (p.setAcquired wsRef true) := ⟨rfl, rfl, rfl, id⟩
      apply hsame.sound hp
      change p.wsCount.toNat = _
      have hws := hp.counted.ws
      omega
    | true =>
      rw [if_pos rfl]
      unfold acquireWakeSource
      rcases hreq : p.requestStateChange .wakingUp with _ | _
      · exact hp
      rcases hcnts : p.countsNow env with _ | _
      · rw [acquireLock_refused hp.known hreq hcnts]
        exact hp
      obtain ⟨q, hk, hq⟩ := acquireLock_counts hcnts
      rw [hq]
      have hwake : p.wakes session wsRef env = true := by
        simp [wakes, hfind, hacqd, hauth, hreq, hcnts]
      have hlook' : q.increment.wsRefList.lookup wsRef = some w := by
        change q.wsRefList.lookup wsRef = some w
        rw [hk.wsRefList, hlook]
      have hsum := demand_setAcquired hlook' true
      have hmask : q.increment.stayAwakeReasonMask = p.stayAwakeReasonMask := hk.mask
      have hdem : q.increment.demand = p.demand := hk.demand
      rw [hmask, weight_not_acquired hacqd,
        weight_acquired (w := { w with acquired := true }) rfl hauth] at hsum
      have hcnt := wsCount_increment hk (hcare hwake)
      have hsame : SameNode p (q.increment.setAcquired wsRef true) :=
        ⟨hk.nodeWsRefList, hk.wsNodeCount, hk.held, hk.known⟩
      have hacq : Sound (q.increment.setAcquired wsRef true) := by
        apply hsame.sound hp
        change q.increment.wsCount.toNat = _
        have hws := hp.counted.ws
        omega
      exact (kept_process .wakingUp nofun).sound hacq

/-- One demand is counted off, and nothing else that the counts depend on changes. -/
structure CountedOff (p q : Power) : Prop extends SameNode p q where
  wsRefList : q.wsRefList = p.wsRefList
  vhalWsAcquired : q.vhalWsAcquired = p.vhalWsAcquired
  mask : q.stayAwakeReasonMask = p.stayAwakeReasonMask
  bootTimer : q.bootTimer = p.bootTimer
  wsCount : q.wsCount.toNat + 1 = p.wsCount.toNat

theorem Kept.countedOff (hk : Kept p.decrement q) (hn : p.wsCount ≠ 0) : CountedOff p q := by
  have hnode := sameNode_decrement (p := p)
  have hcnt := wsCount_decrement hn
  rw [← hk.wsCount] at hcnt
  have hdec := hk
  rw [decrement, if_neg hn] at hdec
  exact ⟨⟨hk.nodeWsRefList.trans hnode.nodeWsRefList, hk.wsNodeCount.trans hnode.wsNodeCount,
    hk.held.trans hnode.held, fun hknw => hk.known (hnode.known hknw)⟩,
    hdec.wsRefList, hdec.vhalWsAcquired, hdec.mask, hdec.bootTimer, hcnt⟩

theorem CountedOff.demand (h : CountedOff p q) : q.demand = p.demand := by
  unfold Power.demand
  rw [h.wsRefList, h.mask, h.vhalWsAcquired, h.bootTimer]

/-- A source that was acquired is not any longer, and was counted off. -/
theorem sound_setAcquired_false (hp : Sound p) (hq : CountedOff p q)
    (hw : p.wsRefList.lookup wsRef = some w) (hacqd : w.acquired = true)
    (hauth : isAuthorizedStayAwakeReason w.reason p.stayAwakeReasonMask = true) :
    Sound (q.setAcquired wsRef false) := by
  have hlook : q.wsRefList.lookup wsRef = some w := by rw [hq.wsRefList, hw]
  have hsum := demand_setAcquired hlook false
  rw [hq.mask, weight_acquired hacqd hauth,
    weight_not_acquired (w := { w with acquired := false }) rfl, hq.demand] at hsum
  have hnode : SameNode p (q.setAcquired wsRef false) :=
    ⟨hq.nodeWsRefList, hq.wsNodeCount, hq.held, hq.known⟩
  apply hnode.sound hp
  change q.wsCount.toNat = _
  have hws := hp.counted.ws
  have hcnt := hq.wsCount
  omega

theorem sound_relax (hp : Sound p)
    (hcare : p.releases session wsRef = true → p.losesRelease env = false) :
    Sound (p.relax session wsRef env).1 := by
  unfold relax
  rcases hfind : p.findWakeSource session wsRef with _ | w
  · exact hp
  have hlook := lookup_of_find hfind
  dsimp only
  rcases hacqd : w.acquired with _ | _
  · exact hp
  cases hauth : isAuthorizedStayAwakeReason w.reason p.stayAwakeReasonMask with
  | false =>
    have hsum := demand_setAcquired hlook false
    rw [weight_not_authorized hauth, weight_not_authorized (w := { w with acquired := false }) hauth]
      at hsum
    have hsame : SameNode p (p.setAcquired wsRef false) := ⟨rfl, rfl, rfl, id⟩
    apply hsame.sound hp
    change p.wsCount.toNat = _
    have hws := hp.counted.ws
    omega
  | true =>
    unfold releaseWakeSource
    rcases hreq : p.requestStateChange .releasingWakeSource with _ | _
    · exact hp
    have hle := weight_le_demand hlook
    rw [weight_acquired hacqd hauth] at hle
    have hn := wsCount_ne_zero hp (by omega)
    have hrels : p.releases session wsRef = true := by
      simp [releases, hfind, hacqd, hauth, hreq]
    have hok := releaseLock_snd hn (hcare hrels)
    have hkept := kept_releaseLock (p := p) env
    generalize p.releaseWakeLock env = result at hok hkept
    obtain ⟨q, ok⟩ := result
    cases hok
    have hst := hkept.trans (kept_process .releasingWakeSource nofun)
    exact sound_setAcquired_false hp (hst.countedOff hn) hlook hacqd hauth

/-! ## The vehicle side and the boot timer -/

section

variable (hp : Sound p)
include hp

theorem sound_vhalStayAwake
    (hcare : p.requestStateChange .wakingUp = true → p.vhalWsAcquired = false →
      p.countsNow env = true → p.wsCount ≠ 255) : Sound (p.vhalStayAwake env) := by
  unfold vhalStayAwake
  rcases hreq : p.requestStateChange .wakingUp with _ | _
  · exact hp
  cases hvhal : p.vhalWsAcquired with
  | true => exact hp
  | false =>
    rcases hcnts : p.countsNow env with _ | _
    · rw [acquireLock_refused hp.known hreq hcnts]
      exact hp
    obtain ⟨q, hk, hq⟩ := acquireLock_counts hcnts
    rw [hq]
    have hcnt := wsCount_increment hk (hcare hreq hvhal hcnts)
    have hst := kept_process (p := q.increment) .wakingUp nofun
    dsimp only
    generalize q.increment.processStateChange .wakingUp = r at hst
    have hsame : SameNode p { r with vhalWsAcquired := true } :=
      ⟨hst.nodeWsRefList.trans hk.nodeWsRefList, hst.wsNodeCount.trans hk.wsNodeCount,
        hst.held.trans hk.held, fun hknw => hst.known (hk.known hknw)⟩
    apply hsame.sound hp
    change r.wsCount.toNat = r.wsRefList.total (fun _ w => weight r.stayAwakeReasonMask w) + 1 +
      (decide (r.bootTimer = .running)).toNat
    have hws := hp.counted.ws
    rw [hst.wsRefList, hst.mask, hst.bootTimer, hst.wsCount, hcnt, hws]
    change _ = q.wsRefList.total (fun _ w => weight q.stayAwakeReasonMask w) + 1 +
      (decide (q.bootTimer = .running)).toNat
    rw [hk.wsRefList, hk.mask, hk.bootTimer, demand, hvhal]
    simp only [toNat_false]
    omega

theorem sound_vhalRelax
    (hcare : p.requestStateChange .releasingWakeSource = true → p.vhalWsAcquired = true →
      p.losesRelease env = false) : Sound (p.vhalRelax env) := by
  unfold vhalRelax
  rcases hreq : p.requestStateChange .releasingWakeSource with _ | _
  · exact hp
  rcases hvhal : p.vhalWsAcquired with _ | _
  · exact hp
  have hdem : p.demand = p.wsRefList.total (fun _ w => weight p.stayAwakeReasonMask w) + 1 +
      (decide (p.bootTimer = .running)).toNat := by
    rw [demand, hvhal]
    rfl
  have hn := wsCount_ne_zero hp (by omega)
  have hok := releaseLock_snd hn (hcare hreq hvhal)
  have hkept := kept_releaseLock (p := p) env
  generalize p.releaseWakeLock env = result at hok hkept
  obtain ⟨q, ok⟩ := result
  cases hok
  have hq := (hkept.trans (kept_process .releasingWakeSource nofun)).countedOff hn
  dsimp only at hq ⊢
  generalize q.processStateChange .releasingWakeSource = r at hq
  have hsame : SameNode p { r with vhalWsAcquired := false } :=
    ⟨hq.nodeWsRefList, hq.wsNodeCount, hq.held, hq.known⟩
  apply hsame.sound hp
  change r.wsCount.toNat = r.wsRefList.total (fun _ w => weight r.stayAwakeReasonMask w) + 0 +
    (decide (r.bootTimer = .running)).toNat
  rw [hq.wsRefList, hq.mask, hq.bootTimer]
  have hws := hp.counted.ws
  have hcnt := hq.wsCount
  omega

theorem sound_waitWakeSourceTimer (hboot : p.bootTimer = .notStarted)
    (hcnts : p.countsNow env = true) (hn : p.wsCount ≠ 255) :
    Sound (p.waitWakeSourceTimer env) := by
  obtain ⟨q, hk, hq⟩ := acquireLock_counts hcnts
  have hcnt := wsCount_increment hk hn
  unfold waitWakeSourceTimer
  rw [hq]
  have hsame : SameNode p { q.increment with bootTimer := .running } :=
    ⟨hk.nodeWsRefList, hk.wsNodeCount, hk.held, hk.known⟩
  apply hsame.sound hp
  change q.increment.wsCount.toNat =
    q.wsRefList.total (fun _ w => weight q.stayAwakeReasonMask w) + q.vhalWsAcquired.toNat + 1
  rw [hcnt, hk.wsRefList, hk.mask, hk.vhalWsAcquired, hp.counted.ws, demand, hboot]
  rfl

/-- The demand of the boot timer ends, whatever the call returns. -/
theorem sound_wakeSourceTimer (hboot : p.bootTimer = .running) : Sound (p.wakeSourceTimer env) := by
  have hdem : p.demand = demand { p with bootTimer := .expired } + 1 := by
    simp only [demand, hboot, decide_true]
    rfl
  have hn : p.wsCount ≠ 0 := wsCount_ne_zero hp (by omega)
  have hq := (kept_releaseLock (p := { p with bootTimer := .expired }) env).countedOff hn
  have hsame : SameNode p (p.wakeSourceTimer env) :=
    ⟨hq.nodeWsRefList, hq.wsNodeCount, hq.held, hq.known⟩
  apply hsame.sound hp
  have hfinal : (p.wakeSourceTimer env).demand = demand { p with bootTimer := .expired } := hq.demand
  have hcnt : (p.wakeSourceTimer env).wsCount.toNat + 1 = p.wsCount.toNat := hq.wsCount
  have hws := hp.counted.ws
  omega

end

/-! ## The targeted mode -/

theorem sound_release_acquire (hp : Sound p)
    (hcare : if p.countsNow env then p.wsCount ≠ 255 else p.wsCount = 0) :
    Sound ((p.acquireWakeLock env).1.releaseWakeLock env).1 := by
  cases hcnts : p.countsNow env with
  | false =>
    rw [hcnts, if_neg nofun] at hcare
    rw [acquireLock_fst hcnts]
    have hk := kept_releaseLock (p := p) env
    rw [decrement, if_pos hcare] at hk
    exact hk.sound hp
  | true =>
    rw [hcnts] at hcare
    obtain ⟨q, hk, hq⟩ := acquireLock_counts hcnts
    rw [hq]
    have hcnt := wsCount_increment hk hcare
    have hn : q.increment.wsCount ≠ 0 := by
      intro hzero
      rw [hzero] at hcnt
      exact absurd hcnt (by simp)
    have hoff := (kept_releaseLock (p := q.increment) env).countedOff hn
    generalize (q.increment.releaseWakeLock env).1 = r at hoff
    have hsame : SameNode p r :=
      ⟨hoff.nodeWsRefList.trans hk.nodeWsRefList, hoff.wsNodeCount.trans hk.wsNodeCount,
        hoff.held.trans hk.held, fun hknw => hoff.known (hk.known hknw)⟩
    apply hsame.sound hp
    have hdem : q.increment.demand = p.demand := hk.demand
    have hwsCount := hoff.wsCount
    have hws := hp.counted.ws
    rw [hoff.demand]
    omega

theorem sound_setTarget (hp : Sound p) {target : TargetedPowerMode}
    (hcare : p.targetPermitted target = true →
      if p.countsNow env then p.wsCount ≠ 255 else p.wsCount = 0) :
    Sound (p.setTargetedPowerMode target env).1 := by
  have htgt : Kept p { p with targetedPowerMode := target } :=
    ⟨rfl, rfl, rfl, rfl, rfl, rfl, rfl, rfl, id⟩
  unfold setTargetedPowerMode
  dsimp only
  split
  · exact htgt.sound hp
  rename_i hperm
  have hper : p.targetPermitted target = true := by
    unfold targetPermitted
    by_cases hrsm : target = .resume
    · simp [hrsm]
    have hreq : p.requestStateChange .releasingWakeSource = true := by
      cases hr : p.requestStateChange .releasingWakeSource with
      | true => rfl
      | false => exact absurd ⟨hrsm, hr⟩ hperm
    simp [hreq]
  have hgrd := hcare hper
  apply sound_release_acquire
  · split_ifs
    · exact htgt.sound hp
    have hgrac : Kept p { p with
        targetedPowerMode := target
        powerMode := { p.powerMode with isGraceful := true } } :=
      ⟨rfl, rfl, rfl, rfl, rfl, rfl, rfl, rfl, id⟩
    exact hgrac.sound hp
  · split_ifs at hgrd ⊢ <;> first | exact hgrd | contradiction

/-! ## Created and deleted sources -/

theorem sound_createWakeupSource (hp : Sound p) (reason : Nat) :
    Sound (p.createWakeupSource session reason) := by
  unfold createWakeupSource
  split_ifs
  · exact hp
  have hsame : SameNode p
      { p with wsRefList := p.wsRefList.create ⟨session, reason, false⟩ } :=
        ⟨rfl, rfl, rfl, id⟩
  apply hsame.sound hp
  change _ = (p.wsRefList.create ⟨session, reason, false⟩).total
    (fun _ w => weight p.stayAwakeReasonMask w) + p.vhalWsAcquired.toNat +
      (decide (p.bootTimer = .running)).toNat
  rw [RefMap.total_create]
  exact hp.counted.ws

theorem sound_deleteWakeupSource (hp : Sound p) : Sound (p.deleteWakeupSource session wsRef).1 := by
  unfold deleteWakeupSource
  rcases hfind : p.findWakeSource session wsRef with _ | w
  · exact hp
  dsimp only
  cases hacqd : w.acquired with
  | true => exact hp
  | false =>
    have hsum := demand_erase (lookup_of_find hfind)
    rw [weight_not_acquired hacqd] at hsum
    have hsame : SameNode p { p with wsRefList := p.wsRefList.erase wsRef } :=
      ⟨rfl, rfl, rfl, id⟩
    apply hsame.sound hp
    change p.wsCount.toNat = _
    have hws := hp.counted.ws
    omega

/-! ## Authorization -/

/-- The sources are counted again: those that counted before go, and those that count now come. -/
theorem foldr_recount (mask previous : BitVec 32) (sources : List WakeSource) (n : BitVec 8) :
    ((sources.foldr (recount mask previous) n).toNat + (sources.map (weight previous)).sum) % 256 =
      (n.toNat + (sources.map (weight mask)).sum) % 256 := by
  induction sources with
  | nil => rfl
  | cons w rest ih =>
    simp only [foldr_cons, map_cons, sum_cons]
    generalize rest.foldr (recount mask previous) n = count at ih ⊢
    generalize (rest.map (weight previous)).sum = before at ih ⊢
    generalize (rest.map (weight mask)).sum = after at ih ⊢
    unfold recount weight
    cases w.acquired <;>
      cases isAuthorizedStayAwakeReason w.reason mask <;>
      cases isAuthorizedStayAwakeReason w.reason previous <;>
      simp [BitVec.toNat_sub] <;> omega

theorem total_weight (mask : BitVec 32) :
    (p.wsRefList.total fun _ w => weight mask w) = (p.wsRefList.values.map (weight mask)).sum := by
  simp [RefMap.total, RefMap.values, Function.comp_def]

theorem kept_refreshLock (env : PmsEnv) : Kept p (p.refreshLock env) := by
  unfold refreshLock
  dsimp only
  split
  · exact Kept.refl p
  split
  · rename_i hzero
    have hk := kept_releaseLock (p := p) env
    rwa [decrement, if_pos hzero] at hk
  · split
    · exact kept_pmsStayAwake
    · exact Kept.refl p

theorem sound_authorizeReason (hp : Sound p) (mask : BitVec 32)
    (hcare : p.demandUnder mask < 256) : Sound (p.authorizeStayAwakeReason mask env) := by
  refine (kept_refreshLock env).sound ?_
  have hmod :=
    foldr_recount (mask &&& authorizeAll) p.stayAwakeReasonMask p.wsRefList.values p.wsCount
  generalize p.wsRefList.values.foldr _ p.wsCount = count at hmod ⊢
  have hnode : SameNode p { p with
      previousStayAwakeReasonMask := p.stayAwakeReasonMask
      stayAwakeReasonMask := mask &&& authorizeAll
      wsCount := count } := ⟨rfl, rfl, rfl, id⟩
  apply hnode.sound hp
  change count.toNat = p.demandUnder mask
  have hdem : p.demandUnder mask = (p.wsRefList.values.map (weight (mask &&& authorizeAll))).sum +
      p.vhalWsAcquired.toNat + (decide (p.bootTimer = .running)).toNat := by
    rw [← total_weight]
    rfl
  have hbef := hp.counted.ws
  rw [demand, total_weight] at hbef
  omega

/-! ## Wake sources of the node -/

variable {n : NodeWakeSource} {ok : Bool}

/-- What changes the demand of the clients, the vehicle side and the boot timer is not touched. -/
structure SameWs (p q : Power) : Prop where
  wsCount : q.wsCount = p.wsCount
  demand : q.demand = p.demand
  state : q.stateMachine = p.stateMachine

theorem SameWs.sound (h : SameWs p q) (hp : Sound p) (hnode : q.wsNodeCount.toNat = q.nodeDemand)
    (hheld : q.wsNodeCount ≠ 0 → q.powerMode.isWsNodeAcquired = true) : Sound q where
  counted := {
    ws := by rw [h.wsCount, h.demand, hp.counted.ws]
    node := hnode }
  held := hheld
  known := by
    rw [h.state]
    exact hp.known

theorem lookup_of_findNode (h : p.findNodeWakeSource session wsRef = some n) :
    p.nodeWsRefList.lookup wsRef = some n := (Option.filter_eq_some_iff.1 h).1

section

variable (hn : p.nodeWsRefList.lookup wsRef = some n)
include hn

theorem nodeDemand_setAcquiredLock (locked : Bool) :
    (p.setAcquiredLock wsRef locked).nodeDemand + n.isAcquiredLock.toNat =
      p.nodeDemand + locked.toNat :=
  RefMap.total_modify (w := fun _ n => n.isAcquiredLock.toNat) hn
    fun n => { n with isAcquiredLock := locked }

theorem le_nodeDemand : n.isAcquiredLock.toNat ≤ p.nodeDemand :=
  RefMap.le_total (w := fun _ n => n.isAcquiredLock.toNat) hn

end

theorem sound_createNodeSource (hp : Sound p) (wsTag : List Char) :
    Sound (p.createNodeWakeupSource session wsTag) := by
  unfold createNodeWakeupSource
  split
  · exact hp
  have hsame : SameWs p
      { p with nodeWsRefList := p.nodeWsRefList.create ⟨wsTag, session, false⟩ } :=
        ⟨rfl, rfl, rfl⟩
  apply hsame.sound hp
  · change _ = (p.nodeWsRefList.create ⟨wsTag, session, false⟩).total
      fun _ n => n.isAcquiredLock.toNat
    rw [RefMap.total_create]
    exact hp.counted.node
  · exact hp.held

theorem sound_deleteNodeSource (hp : Sound p) :
    Sound (p.deleteNodeWakeupSource session wsRef).1 := by
  unfold deleteNodeWakeupSource
  rcases hfind : p.findNodeWakeSource session wsRef with _ | n
  · exact hp
  dsimp only
  cases hlkd : n.isAcquiredLock with
  | true => exact hp
  | false =>
    have hsum := RefMap.total_erase (w := fun _ n => n.isAcquiredLock.toNat)
      (lookup_of_findNode hfind)
    beta_reduce at hsum
    rw [hlkd] at hsum
    have hsame : SameWs p { p with nodeWsRefList := p.nodeWsRefList.erase wsRef } :=
      ⟨rfl, rfl, rfl⟩
    apply hsame.sound hp
    · change p.wsNodeCount.toNat =
          (p.nodeWsRefList.erase wsRef).total fun _ n => n.isAcquiredLock.toNat
      rw [hp.counted.node, nodeDemand, ← hsum]
      rfl
    · exact hp.held

theorem sound_stayAwakeNode (hp : Sound p)
    (hcare : (∃ n ∈ p.findNodeWakeSource session wsRef, n.isAcquiredLock = false) →
      (p.powerMode.isWsNodeAcquired || ok) = true → p.wsNodeCount ≠ 255) :
    Sound (p.stayAwakeNode session wsRef ok).1 := by
  unfold stayAwakeNode
  rcases hfind : p.findNodeWakeSource session wsRef with _ | n
  · exact hp
  dsimp only
  cases hlkd : n.isAcquiredLock with
  | true => exact hp
  | false =>
    have hgrd := hcare ⟨n, hfind, hlkd⟩
    have hlook := lookup_of_findNode hfind
    have hnode := hp.counted.node
    -- the source is locked, and the node's wake source is held
    have hlock : ∀ q : Power, q.nodeWsRefList = p.nodeWsRefList → SameWs p q →
        q.wsNodeCount = p.wsNodeCount + 1 → q.powerMode.isWsNodeAcquired = true →
        p.wsNodeCount ≠ 255 → Sound (q.setAcquiredLock wsRef true) := by
      intro q hlist hws hcnt hheld hend
      have hsum := nodeDemand_setAcquiredLock (p := q) (by rw [hlist, hlook]) true
      have hdem : q.nodeDemand = p.nodeDemand := by rw [nodeDemand, nodeDemand, hlist]
      rw [hlkd, toNat_true] at hsum
      have hsame : SameWs p (q.setAcquiredLock wsRef true) :=
        ⟨hws.wsCount, hws.demand, hws.state⟩
      apply hsame.sound hp
      · change q.wsNodeCount.toNat = _
        bv_omega
      · exact fun _ => hheld
    unfold acquireNodeWakeLock
    cases hheld : p.powerMode.isWsNodeAcquired with
    | true =>
      have hend := hgrd (by rw [hheld]; rfl)
      exact hlock { p with wsNodeCount := p.wsNodeCount + 1 } rfl ⟨rfl, rfl, rfl⟩ rfl hheld hend
    | false =>
      rcases ok with _ | _
      · exact hp
      have hend := hgrd (by rw [hheld]; rfl)
      exact hlock { p with
        wsNodeCount := p.wsNodeCount + 1
        powerMode :=
          { p.powerMode with isWsNodeAcquired := true } } rfl ⟨rfl, rfl, rfl⟩ rfl rfl hend

structure NodeCountedOff (p q : Power) : Prop extends SameWs p q where
  nodeWsRefList : q.nodeWsRefList = p.nodeWsRefList
  wsNodeCount : q.wsNodeCount.toNat + 1 = p.wsNodeCount.toNat
  held : q.wsNodeCount ≠ 0 → q.powerMode.isWsNodeAcquired = true

section

variable (hp : Sound p)
include hp

theorem releaseNodeLock_countedOff (hn : p.wsNodeCount ≠ 0) (ok : Bool) :
    NodeCountedOff p (p.releaseNodeWakeLock ok).1 := by
  have hcnt : (p.wsNodeCount - 1).toNat + 1 = p.wsNodeCount.toNat := by bv_omega
  unfold releaseNodeWakeLock
  dsimp only
  rw [if_neg hn]
  split_ifs with hrest
  · exact ⟨⟨rfl, rfl, rfl⟩, rfl, hcnt, fun _ => hp.held hn⟩
  all_goals
    refine ⟨⟨rfl, rfl, rfl⟩, rfl, hcnt, fun h => ?_⟩
    exact absurd h hrest

theorem releaseNodeLock_snd (hn : p.wsNodeCount ≠ 0)
    (hok : p.wsNodeCount = 1 → ok = true) : (p.releaseNodeWakeLock ok).2 = true := by
  unfold releaseNodeWakeLock
  rw [if_neg hn, hp.held hn]
  by_cases hrest : p.wsNodeCount - 1 = 0
  · have hone : p.wsNodeCount = 1 := by bv_omega
    rw [if_neg (not_not.2 hrest), if_neg nofun, if_pos (hok hone)]
  · rw [if_pos hrest]

theorem wsNodeCount_ne_zero (h : p.nodeDemand ≠ 0) : p.wsNodeCount ≠ 0 := by
  intro hzero
  have hnode := hp.counted.node
  rw [hzero] at hnode
  exact h hnode.symm

theorem sound_relaxNode
    (hcare : (∃ n ∈ p.findNodeWakeSource session wsRef, n.isAcquiredLock = true) →
      p.wsNodeCount = 1 → ok = true) : Sound (p.relaxNode session wsRef ok).1 := by
  unfold relaxNode
  rcases hfind : p.findNodeWakeSource session wsRef with _ | n
  · exact hp
  dsimp only
  rcases hlkd : n.isAcquiredLock with _ | _
  · exact hp
  have hlook := lookup_of_findNode hfind
  have hle := le_nodeDemand hlook
  rw [hlkd, toNat_true] at hle
  have hn := wsNodeCount_ne_zero hp (by omega)
  have hok := releaseNodeLock_snd hp hn (hcare ⟨n, hfind, hlkd⟩)
  have hoff := releaseNodeLock_countedOff hp hn ok
  generalize p.releaseNodeWakeLock ok = result at hok hoff
  obtain ⟨q, returned⟩ := result
  cases hok
  dsimp only at hoff ⊢
  have hsum := nodeDemand_setAcquiredLock (p := q) (by rw [hoff.nodeWsRefList, hlook]) false
  have hdem : q.nodeDemand = p.nodeDemand := by rw [nodeDemand, nodeDemand, hoff.nodeWsRefList]
  rw [hlkd, toNat_false, toNat_true] at hsum
  have hsame : SameWs p (q.setAcquiredLock wsRef false) :=
    ⟨hoff.wsCount, hoff.demand, hoff.state⟩
  apply hsame.sound hp
  · change q.wsNodeCount.toNat = _
    have hnode := hp.counted.node
    have hcnt := hoff.wsNodeCount
    omega
  · exact hoff.held

end

/-! ## Sessions that close -/

theorem sound_dropWakeSource (env : Nat → PmsEnv) (wsRef : Nat) (hp : Sound p) :
    Sound (dropWakeSource env wsRef p) := by
  unfold dropWakeSource
  rcases hlook : p.wsRefList.lookup wsRef with _ | w
  · exact hp
  dsimp only
  cases hcnts : p.counts w with
  | false =>
    have hzero : weight p.stayAwakeReasonMask w = 0 := by
      rw [weight]
      unfold counts at hcnts
      rw [hcnts]
      rfl
    have hsum := demand_erase hlook
    have hsame : SameNode p { p with wsRefList := p.wsRefList.erase wsRef } :=
      ⟨rfl, rfl, rfl, id⟩
    apply hsame.sound hp
    change p.wsCount.toNat = _
    have hws := hp.counted.ws
    omega
  | true =>
    have hone : weight p.stayAwakeReasonMask w = 1 := by
      rw [weight]
      unfold counts at hcnts
      rw [hcnts]
      rfl
    have hle := weight_le_demand hlook
    have hn := wsCount_ne_zero hp (by omega)
    have hq := (kept_releaseLock (p := p) (env wsRef)).countedOff hn
    generalize (p.releaseWakeLock (env wsRef)).1 = q at hq
    have hlook' : q.wsRefList.lookup wsRef = some w := by rw [hq.wsRefList, hlook]
    have hsum := demand_erase hlook'
    have hweight : weight q.stayAwakeReasonMask w = 1 := by rw [hq.mask, hone]
    rw [hq.demand] at hsum
    have hsame : SameNode p { q with wsRefList := q.wsRefList.erase wsRef } :=
      ⟨hq.nodeWsRefList, hq.wsNodeCount, hq.held, hq.known⟩
    apply hsame.sound hp
    change q.wsCount.toNat = _
    have hws := hp.counted.ws
    have hcnt := hq.wsCount
    omega

theorem sound_dropNodeWakeSource (nodeOk : Nat → Bool) (wsRef : Nat) (hp : Sound p) :
    Sound (dropNodeWakeSource nodeOk wsRef p) := by
  unfold dropNodeWakeSource
  rcases hlook : p.nodeWsRefList.lookup wsRef with _ | n
  · exact hp
  dsimp only
  cases hlkd : n.isAcquiredLock with
  | false =>
    have hsum := RefMap.total_erase (w := fun _ n => n.isAcquiredLock.toNat) hlook
    beta_reduce at hsum
    rw [hlkd, toNat_false] at hsum
    have hsame : SameWs p { p with nodeWsRefList := p.nodeWsRefList.erase wsRef } :=
      ⟨rfl, rfl, rfl⟩
    apply hsame.sound hp
    · change p.wsNodeCount.toNat =
          (p.nodeWsRefList.erase wsRef).total fun _ n => n.isAcquiredLock.toNat
      have hnode := hp.counted.node
      unfold nodeDemand at hnode
      omega
    · exact hp.held
  | true =>
    have hle := le_nodeDemand hlook
    rw [hlkd, toNat_true] at hle
    have hn := wsNodeCount_ne_zero hp (by omega)
    have hoff := releaseNodeLock_countedOff hp hn (nodeOk wsRef)
    generalize (p.releaseNodeWakeLock (nodeOk wsRef)).1 = q at hoff
    have hsum := RefMap.total_erase (w := fun _ n => n.isAcquiredLock.toNat) hlook
    beta_reduce at hsum
    rw [hlkd, toNat_true] at hsum
    have hsame : SameWs p { q with nodeWsRefList := q.nodeWsRefList.erase wsRef } :=
      ⟨hoff.wsCount, hoff.demand, hoff.state⟩
    apply hsame.sound hp
    · change q.wsNodeCount.toNat =
          (q.nodeWsRefList.erase wsRef).total fun _ n => n.isAcquiredLock.toNat
      rw [hoff.nodeWsRefList]
      have hnode := hp.counted.node
      have hcnt := hoff.wsNodeCount
      unfold nodeDemand at hnode
      omega
    · exact hoff.held

/-- What one source that goes preserves, all sources of the session preserve. -/
theorem sound_foldr {drop : Nat → Power → Power} (h : ∀ ref p, Sound p → Sound (drop ref p))
    (hp : Sound p) (refs : List Nat) : Sound (refs.foldr drop p) := by
  induction refs with
  | nil => exact hp
  | cons ref rest ih => exact h ref _ ih

theorem sound_disconnect (hp : Sound p) (session : Nat) (env : Nat → PmsEnv)
    (nodeOk : Nat → Bool) :
    Sound (p.disconnect session env nodeOk) := by
  have hsour := sound_foldr (fun ref _ => sound_dropWakeSource env ref) hp (p.wakeSourcesOf session)
  exact sound_foldr (fun ref _ => sound_dropNodeWakeSource nodeOk ref) hsour _

end Power

/-! ## Runs -/

section Runs

variable {s t : State} {a : Action}

theorem sound_ofClient {session : Nat} {f : Power → Power} (hs : s.power.Sound)
    (h : session ∈ s.clients → (f s.power).Sound) : (s.ofClient session f).power.Sound := by
  unfold State.ofClient
  split
  · rename_i hcl
    exact h hcl
  · exact hs

theorem sound_perform (hs : s.power.Sound) (hcare : Careful s a) (henab : enabled s a = true) :
    (perform s a).state.power.Sound := by
  unfold enabled at henab
  rw [and_eq_true] at henab
  have hon := henab.2
  cases a with
  | clientConnection session allocated =>
    change (s.clientConnection session allocated).power.Sound
    unfold State.clientConnection
    split <;> exact hs
  | clientDisconnection session env nodeOk =>
    change (s.clientDisconnection session env nodeOk).power.Sound
    unfold State.clientDisconnection
    split
    · exact hs
    · exact Power.sound_disconnect hs session env nodeOk
  | pmVhalReady pmInf env =>
    exact Power.sound_waitWakeSourceTimer hs (of_decide_eq_true hon) hcare.1 hcare.2
  | wakeSourceTimer env => exact Power.sound_wakeSourceTimer hs (of_decide_eq_true hon)
  | createWakeupSource session reason =>
    exact sound_ofClient hs fun _ => Power.sound_createWakeupSource hs reason
  | deleteWakeupSource session wsRef =>
    exact sound_ofClient hs fun _ => Power.sound_deleteWakeupSource hs
  | stayAwake session wsRef env =>
    exact sound_ofClient hs fun hcl => Power.sound_stayAwake hs (hcare hcl)
  | relax session wsRef env =>
    exact sound_ofClient hs fun hcl => Power.sound_relax hs (hcare hcl)
  | authorizeStayAwakeReason mask env => exact Power.sound_authorizeReason hs mask hcare
  | createNodeWakeupSource session wsTag =>
    exact sound_ofClient hs fun _ => Power.sound_createNodeSource hs wsTag
  | deleteNodeWakeupSource session wsRef =>
    exact sound_ofClient hs fun _ => Power.sound_deleteNodeSource hs
  | stayAwakeNode session wsRef ok =>
    exact sound_ofClient hs fun hcl => Power.sound_stayAwakeNode hs (hcare hcl)
  | relaxNode session wsRef ok =>
    exact sound_ofClient hs fun hcl => Power.sound_relaxNode hs (hcare hcl)
  | setNodeTargetedPowerMode session target env =>
    exact sound_ofClient hs fun hcl => Power.sound_setTarget hs (hcare hcl)
  | vhalStayAwake env => exact Power.sound_vhalStayAwake hs hcare
  | vhalRelax env => exact Power.sound_vhalRelax hs hcare
  | shutdownReqAsync session reason env =>
    exact (State.aside_shutdownReqAsync session reason env).kept.sound hs
  | restartReqAsync session mode reason env =>
    exact (State.aside_restartReqAsync session mode reason env).kept.sound hs
  | shutdownNode session env =>
    change (State.power (Outcome.state (if _ then s.shutdownNode env else ⟨s, []⟩))).Sound
    split
    · exact (State.sets_shutdownNode env).kept.sound hs
    · exact hs
  | restartNode session env =>
    change (State.power (Outcome.state (if _ then s.restartNode env else ⟨s, []⟩))).Sound
    split
    · exact (State.sets_restartNode env).kept.sound hs
    · exact hs
  | vhalPrepareResp payload env => exact (State.aside_prepareResp payload env).kept.sound hs
  | vhalAckTimer env => exact (State.aside_vhalAckTimerHandler env).kept.sound hs
  | vhalStateChangeResp | removeHandler handlerRef => exact hs
  | stateChangeEx psRef state env =>
    exact (State.idle_stateChangeEx psRef state env).kept.sound hs
  | nodePowerStateChanged => exact State.idle_nodeStateChanged.kept.sound hs
  | addHandler session stateMask old =>
    exact (State.idle_addNodeHandler session stateMask old).kept.sound hs
  | sendAck session ref ready => exact (State.idle_sendNodeAck session ref ready).kept.sound hs
  | stateChangeAckTimer => exact State.idle_ackTimer.kept.sound hs

theorem sound_step (hs : s.power.Sound) (hcare : Careful s a) (ht : step s a = some t) :
    t.power.Sound := by
  unfold step at ht
  split at ht
  · rename_i henab
    cases ht
    exact sound_perform hs hcare henab
  · cases ht

theorem sound_start (handlerRef : Bool) (nodeState : NodePowerState) :
    (start handlerRef nodeState).power.Sound := ⟨⟨rfl, rfl⟩, fun h => absurd rfl h, nofun⟩

/-- The counts are right in every state of a careful run. -/
theorem wsCount_run (handlerRef : Bool) (nodeState : NodePowerState) (actions : List Action)
    (hcare : Meets step Careful (start handlerRef nodeState) actions) :
    Meets step (fun s a => ∀ t ∈ step s a, t.power.Counted) (start handlerRef nodeState) actions := by
  apply Meets.of_invariant (fun s => s.power.Sound) ?_ ?_ (sound_start handlerRef nodeState) hcare
  · intro s a hs hguard t ht
    exact (sound_step hs hguard ht).counted
  · intro s a t hs hguard ht
    exact sound_step hs hguard ht

/-- Two clients stay awake, one of them for a reason that is not authorized for a while, and the
other one disconnects. -/
theorem wsCount_two_clients :
    let actions : List Action :=
      [.pmVhalReady none allOk, .clientConnection 1 true, .clientConnection 2 true,
        .createWakeupSource 1 0, .createWakeupSource 2 3, .stayAwake 1 0 allOk, .wakeSourceTimer allOk,
        .stayAwake 2 1 allOk, .authorizeStayAwakeReason 1 allOk, .relax 1 0 allOk,
        .authorizeStayAwakeReason 9 allOk, .createNodeWakeupSource 2 [], .stayAwakeNode 2 0 true,
        .clientDisconnection 2 (fun _ => ⟨true, false, true⟩) fun _ => false]
    Meets step Careful (start true .resume) actions ∧
      Meets step (fun s a => ∀ t ∈ step s a, t.power.Counted) (start true .resume) actions :=
  ⟨by decide +kernel, wsCount_run true .resume _ (by decide +kernel)⟩

/-- A source whose lock cannot be given back stays acquired and is not counted any longer. -/
theorem wsCount_fails :
    ¬ ∀ (handlerRef : Bool) (nodeState : NodePowerState) (actions : List Action),
    Meets step (fun s a => ∀ t ∈ step s a, t.power.Counted) (start handlerRef nodeState) actions := by
  intro h
  have hrun := h true .resume
    [.pmVhalReady none allOk, .clientConnection 1 true, .createWakeupSource 1 0, .stayAwake 1 0 allOk,
      .wakeSourceTimer allOk, .relax 1 0 ⟨true, false, true⟩]
  exact absurd hrun (by decide +kernel)

end Runs

end TelAF.MngdPm
