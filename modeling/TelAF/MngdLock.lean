import TelAF.MngdCounts

/-!
# The wake lock follows the demand

Outside the states in which a suspend, a shutdown, a restart or a wake-up is under way, the wake
lock is held just while there is demand. Nobody is told that the node is ready for a suspend while
there is demand, and a state that is under way has an event that ends it.
-/

namespace TelAF.MngdPm

open TransitionRuns List
open PmService (PowerState)

/-! ## What the node relies on -/

/-- The states in which the lock may differ from the demand. -/
def MachineState.transient (m : MachineState) : Bool :=
  m = .suspending ∨ m = .wakingUp ∨ m = .shuttingDown ∨ m = .restarting

/-- A suspend, a shutdown or a restart is under way. -/
def MachineState.underWay (m : MachineState) : Bool :=
  m = .suspending ∨ m = .shuttingDown ∨ m = .restarting

def Power.Follows (p : Power) : Prop :=
  p.stateMachine.currentState.transient = false → (p.pmsHolds = true ↔ p.wsCount ≠ 0)
deriving Decidable

/-- What is under way is notified by the power management service, or ended by the driver or the
timer of the window. -/
def State.Ends (s : State) : Prop :=
  s.power.stateMachine.currentState.underWay = true →
    s.power.pmsPending = true ∨ s.window.vhalAckTimerRuns = true ∧
      s.window.vhalRespHandled = false
deriving Decidable

/-- The power management service is asked for a suspend, or told that the node is ready for it. -/
def Message.suspends : Message → Bool
  | .setAllVMPowerState .suspend _ => true
  | .sendStateChangeAck _ .suspend true => true
  | _ => false

structure Awake (s : State) (a : Action) : Prop where
  follows : ∀ t ∈ step s a, t.power.Follows
  quiet : ∀ t ∈ step s a, ∀ m ∈ (perform s a).messages, m.suspends = true →
    s.power.wsCount = 0
  ends : ∀ t ∈ step s a, t.Ends

instance (s : State) (a : Action) : Decidable (Awake s a) :=
  decidable_of_iff (_ ∧ _ ∧ _) ⟨fun ⟨a, b, c⟩ => ⟨a, b, c⟩, fun ⟨a, b, c⟩ => ⟨a, b, c⟩⟩

/-! ## Runs in which the lock follows -/

/-- Every call of the power management service succeeds. -/
def Succeeds (s : State) : Action → Prop
  | .clientDisconnection _ env _ => ∀ e ∈ s.power.wsRefList.entries, env e.1 = allOk
  | .pmVhalReady _ env | .wakeSourceTimer env | .stayAwake _ _ env | .relax _ _ env
  | .authorizeStayAwakeReason _ env | .setNodeTargetedPowerMode _ _ env | .vhalStayAwake env
  | .vhalRelax env | .shutdownReqAsync _ _ env | .restartReqAsync _ _ _ env | .shutdownNode _ env
  | .restartNode _ env | .vhalPrepareResp _ env | .vhalAckTimer env | .stateChangeEx _ _ env =>
    env = allOk
  | _ => True

instance (s : State) : DecidablePred (Succeeds s) := by
  rintro ⟨⟩ <;> unfold Succeeds <;> infer_instance

namespace Power

/-- The node goes down: the lock is not touched by demand any longer. -/
def down (p : Power) : Bool :=
  p.stateMachine.currentState = .shutdown ∨ p.stateMachine.currentState = .restart

/-- The demand that a source in the list adds. -/
def weightAt (p : Power) (wsRef : Nat) : Nat :=
  match p.wsRefList.lookup wsRef with
  | some w => weight p.stayAwakeReasonMask w
  | none => 0

def demandOf (p : Power) (session : Nat) : Nat := ((p.wakeSourcesOf session).map p.weightAt).sum

/-- The sources that count under a set of reasons. -/
def countedUnder (p : Power) (mask : BitVec 32) : Nat := (p.wsRefList.values.map (weight mask)).sum

/-- The count once other reasons are authorized. -/
def recounted (p : Power) (mask : BitVec 32) : BitVec 8 :=
  p.wsCount + BitVec.ofNat 8 (p.countedUnder (mask &&& authorizeAll)) -
    BitVec.ofNat 8 (p.countedUnder p.stayAwakeReasonMask)

/-- The lock is held just while there is demand. -/
def agrees (p : Power) : Bool := p.powerMode.isWsAcquired == decide (p.wsCount ≠ 0)

end Power

/-- A suspend was notified, and is not answered for all clients. -/
def State.suspendUnanswered (s : State) : Bool :=
  .suspendPrepare ∈ s.nodeStates.nodePowerStateChange ∨
    s.nodeStates.stateChangeAckTimerRuns = true ∧
      (s.nodeStates.currentStateChange = .suspendPrepare ∨
        ∃ client ∈ s.nodeStates.regClientrecrd, client.state = .suspendPrepare)

/-- The count of demand is not at its end, and no demand comes while a suspend is unanswered. -/
def mayGrow (s : State) : Prop := s.power.wsCount ≠ 255 ∧ s.suspendUnanswered = false
deriving Decidable

/-- Authorization does not bring the first demand where the lock is not taken for it, demand neither
comes nor ends in a node that goes down, and the notification that ends what is under way finds
the lock as it must be. -/
def CarefulLock (s : State) : Action → Prop
  | .pmVhalReady _ env => s.power.countsNow env = true → mayGrow s
  | .stayAwake session wsRef env => session ∈ s.clients →
      s.power.wakes session wsRef env = true → mayGrow s
  | .vhalStayAwake env => s.power.requestStateChange .wakingUp = true →
      s.power.vhalWsAcquired = false → s.power.countsNow env = true → mayGrow s
  | .authorizeStayAwakeReason mask _ =>
      (s.power.stateMachine.currentState = .resume ∨
          s.power.stateMachine.currentState = .releasingWakeSource →
        s.power.wsCount = 0 → s.power.recounted mask = 0) ∧
      (s.power.down = true → (s.power.recounted mask = 0 ↔ s.power.wsCount = 0)) ∧
      (s.suspendUnanswered = true → s.power.recounted mask = 0)
  | .clientDisconnection session _ _ => s.power.down = true → s.power.wsCount ≠ 0 →
      s.power.demandOf session < s.power.wsCount.toNat
  | .wakeSourceTimer _ => s.power.down = true → s.power.wsCount ≠ 1
  | .setNodeTargetedPowerMode session target _ => session ∈ s.clients → target = .resume →
      s.power.down = true → s.power.wsCount ≠ 1
  | .stateChangeEx _ .suspend _ => s.power.wsCount = 0 → s.power.powerMode.isWsAcquired = false
  | .stateChangeEx _ .shutdown _ | .stateChangeEx _ .restart _ => s.power.agrees = true
  | .stateChangeEx _ .resume _ => s.power.wsCount ≠ 0 → s.power.powerMode.isWsAcquired = true
  | _ => True

instance (s : State) : DecidablePred (CarefulLock s) := by
  rintro ⟨⟩
  case stateChangeEx state _ =>
    rcases state with ⟨⟩ <;> unfold CarefulLock <;> infer_instance
  all_goals unfold CarefulLock; infer_instance

variable {toState : MachineState}

namespace Power

variable {p q : Power}

/-! ## What the calls leave of the lock -/

structure LockedAt (holds acquired : Bool) (m : MachineState) (n : BitVec 8) : Prop where
  holds : holds = acquired
  known : m ≠ .unknown
  stable : m.transient = false → (acquired = true ↔ n ≠ 0)
  waking : m = .wakingUp → acquired = true

def Locked (p : Power) : Prop :=
  LockedAt p.pmsHolds p.powerMode.isWsAcquired p.stateMachine.currentState p.wsCount

theorem Locked.follows (h : p.Locked) : p.Follows := by
  intro hstb
  rw [h.holds]
  exact h.stable hstb

structure Taken (p q : Power) : Prop where
  state : q.stateMachine = p.stateMachine
  pending : q.pmsPending = p.pmsPending
  held : acquiresLock p.stateMachine.currentState = true →
    q.pmsHolds = true ∧ q.powerMode.isWsAcquired = true
  kept : acquiresLock p.stateMachine.currentState = false →
    q.pmsHolds = p.pmsHolds ∧ q.powerMode.isWsAcquired = p.powerMode.isWsAcquired
  count : q.wsCount = if acquiresLock p.stateMachine.currentState ∨
    defersLock p.stateMachine.currentState then p.wsCount + 1 else p.wsCount

theorem taken_acquireLock (hp : p.Locked) : Taken p (p.acquireWakeLock allOk).1 := by
  unfold acquireWakeLock
  split_ifs with hacqs hheld hstay hdefr
  · exact ⟨rfl, rfl, fun _ => ⟨hp.holds.trans hheld, hheld⟩, fun h => absurd hacqs (by simp [h]),
      (if_pos (Or.inl hacqs)).symm⟩
  · exact ⟨rfl, rfl, fun _ => ⟨rfl, rfl⟩, fun h => absurd hacqs (by simp [h]),
      (if_pos (Or.inl hacqs)).symm⟩
  · exact absurd rfl hstay
  · exact ⟨rfl, rfl, fun h => absurd h hacqs, fun _ => ⟨rfl, rfl⟩, (if_pos (Or.inr hdefr)).symm⟩
  have hno : ¬ (acquiresLock p.stateMachine.currentState = true ∨
      defersLock p.stateMachine.currentState = true) := by simp [hacqs, hdefr]
  exact ⟨rfl, rfl, fun h => absurd h hacqs, fun _ => ⟨rfl, rfl⟩, (if_neg hno).symm⟩

structure Given (p q : Power) : Prop where
  state : q.stateMachine = p.stateMachine
  pending : q.pmsPending = p.pmsPending
  count : q.wsCount = p.decrement.wsCount
  released : releasesLock p.stateMachine.currentState = true → q.wsCount = 0 →
    q.pmsHolds = false ∧ q.powerMode.isWsAcquired = false
  kept : releasesLock p.stateMachine.currentState = false ∨ q.wsCount ≠ 0 →
    q.pmsHolds = p.pmsHolds ∧ q.powerMode.isWsAcquired = p.powerMode.isWsAcquired

theorem state_decrement : p.decrement.stateMachine = p.stateMachine ∧
    p.decrement.pmsPending = p.pmsPending ∧ p.decrement.pmsHolds = p.pmsHolds ∧
    p.decrement.powerMode = p.powerMode := by
  unfold decrement
  split_ifs <;> exact ⟨rfl, rfl, rfl, rfl⟩

theorem given_releaseLock (hp : p.pmsHolds = p.powerMode.isWsAcquired) :
    Given p (p.releaseWakeLock allOk).1 := by
  obtain ⟨hst, hpend, hhld, hmode⟩ := state_decrement (p := p)
  unfold releaseWakeLock
  split_ifs with hlast hrela
  · obtain ⟨hzero, hrels, -⟩ := hlast
    refine ⟨hst, hpend, rfl, fun _ _ => ⟨rfl, rfl⟩, fun h => ?_⟩
    rcases h with h | h
    · exact absurd hrels (by simp [h])
    · exact absurd hzero h
  · exact absurd rfl hrela
  refine ⟨hst, hpend, rfl, fun hrels hzero => ?_, fun _ => ⟨hhld, by rw [hmode]⟩⟩
  have hnot : p.powerMode.isWsAcquired = false := by
    cases hacq : p.powerMode.isWsAcquired with
    | false => rfl
    | true => exact absurd ⟨hzero, hrels, hacq⟩ hlast
  rw [hhld, hmode, hp, hnot]
  exact ⟨rfl, rfl⟩

theorem decrement_eq_zero : p.decrement.wsCount = 0 ↔ p.wsCount = 0 ∨ p.wsCount = 1 := by
  unfold decrement
  split_ifs with hzero
  · simp [hzero]
  constructor
  · intro h
    exact Or.inr (by bv_omega)
  intro h
  have hone := h.resolve_left hzero
  rw [hone]
  rfl

/-- There is the lock for demand, as it must be before the demand is given back. -/
structure Holding (p : Power) : Prop where
  holds : p.pmsHolds = p.powerMode.isWsAcquired
  known : p.stateMachine.currentState ≠ .unknown
  enough : p.stateMachine.currentState.transient = false → p.wsCount ≠ 0 →
    p.powerMode.isWsAcquired = true
  waking : p.stateMachine.currentState = .wakingUp → p.powerMode.isWsAcquired = true
  down : p.down = true → p.powerMode.isWsAcquired = true → p.wsCount ≠ 0

theorem transient_of_down (h : p.down = true) : p.stateMachine.currentState.transient = false := by
  rcases of_decide_eq_true h with h | h <;> rw [h] <;> rfl

theorem Locked.holding (h : p.Locked) : p.Holding :=
  ⟨h.holds, h.known, fun hs => (h.stable hs).2, h.waking,
    fun hd => (h.stable (transient_of_down hd)).1⟩

/-- Demand that is given back leaves the lock with the demand, unless the node goes down with its
last demand. -/
theorem Given.locked (h : Given p q) (hp : p.Holding) (hdown : p.down = true → p.wsCount ≠ 1) :
    q.Locked := by
  have hhld : q.pmsHolds = q.powerMode.isWsAcquired := by
    by_cases hkept : releasesLock p.stateMachine.currentState = false ∨ q.wsCount ≠ 0
    · rw [(h.kept hkept).1, (h.kept hkept).2, hp.holds]
    · rw [not_or, Bool.not_eq_false, not_not] at hkept
      rw [(h.released hkept.1 hkept.2).1, (h.released hkept.1 hkept.2).2]
  refine ⟨hhld, by rw [h.state]; exact hp.known, fun hstb => ?_, fun hwak => ?_⟩
  · rw [h.state] at hstb
    have hbef := hp.enough hstb
    have hzero : q.wsCount = 0 ↔ p.wsCount = 0 ∨ p.wsCount = 1 := by
      rw [h.count]
      exact decrement_eq_zero
    cases hrels : releasesLock p.stateMachine.currentState with
    | true =>
      by_cases hq : q.wsCount = 0
      · simp [(h.released hrels hq).2, hq]
      have hp0 : p.wsCount ≠ 0 := fun h0 => hq (hzero.2 (Or.inl h0))
      rw [(h.kept (Or.inr hq)).2]
      exact ⟨fun _ => hq, fun _ => hbef hp0⟩
    | false =>
      have hd : p.down = true := by
        have hknw := hp.known
        unfold down
        cases hm : p.stateMachine.currentState <;>
          simp_all [MachineState.transient, releasesLock]
      have hafter := hp.down hd
      rw [(h.kept (Or.inl hrels)).2, Ne]
      tauto
  · rw [h.state] at hwak
    have hrels : releasesLock p.stateMachine.currentState = false := by rw [hwak]; rfl
    rw [(h.kept (Or.inl hrels)).2]
    exact hp.waking hwak

theorem currentState_process (toState : MachineState) :
    (p.processStateChange toState).stateMachine.currentState =
      foldState p.stateMachine.currentState toState := by
  unfold processStateChange
  dsimp only
  split_ifs with h
  · rfl
  · exact (not_not.1 h).symm

theorem lock_process (toState : MachineState) :
    (p.processStateChange toState).pmsHolds = p.pmsHolds ∧
      (p.processStateChange toState).powerMode = p.powerMode ∧
      (p.processStateChange toState).wsCount = p.wsCount ∧
      (p.processStateChange toState).pmsPending = p.pmsPending := by
  unfold processStateChange
  dsimp only
  split_ifs <;> exact ⟨rfl, rfl, rfl, rfl⟩

theorem locked_process
    (h : LockedAt p.pmsHolds p.powerMode.isWsAcquired
      (foldState p.stateMachine.currentState toState) p.wsCount) :
    (p.processStateChange toState).Locked := by
  obtain ⟨hhld, hmode, hcnt, -⟩ := lock_process (p := p) toState
  unfold Locked
  rw [hhld, hmode, hcnt, currentState_process]
  exact h

theorem locked_releasing (hp : p.Locked) : (p.processStateChange .releasingWakeSource).Locked := by
  apply locked_process
  have hknw := hp.known
  have hstb := hp.stable
  have hwak := hp.waking
  refine ⟨hp.holds, foldState_known hknw nofun, ?_, ?_⟩
  · cases hm : p.stateMachine.currentState <;>
      simp_all [foldState, MachineState.transient]
  · cases hm : p.stateMachine.currentState <;>
      simp_all [foldState]

/-- Demand that comes takes the lock, and wakes the node up from a suspend. -/
theorem Taken.locked (h : Taken p q) (hp : p.Locked) (hreq : p.requestStateChange .wakingUp = true)
    (hn : p.wsCount ≠ 255) : (q.processStateChange .wakingUp).Locked := by
  apply locked_process
  have hgro : p.wsCount + 1 ≠ 0 := by bv_omega
  have hheld := h.held
  have hkept := h.kept
  have hcnt := h.count
  have hhld := hp.holds
  have hknw := hp.known
  rw [h.state]
  unfold requestStateChange at hreq
  refine ⟨?_, foldState_known hknw nofun, ?_, ?_⟩
  all_goals
    cases hm : p.stateMachine.currentState <;>
      simp_all [foldState, acquiresLock, MachineState.transient]

end Power

namespace Power

variable {p q r : Power} {session wsRef : Nat} {u : Bool}

/-! ## Demand that comes and goes -/

/-- What demand does: the lock follows, no demand comes while a suspend is unanswered (`u`), and
nothing begins or ends to be under way. -/
structure Moved (u : Bool) (p q : Power) : Prop where
  locked : q.Locked
  quiet : u = true → p.wsCount = 0 → q.wsCount = 0
  pending : q.pmsPending = p.pmsPending
  underWay : q.stateMachine.currentState.underWay = true →
    p.stateMachine.currentState.underWay = true

theorem Moved.refl (hp : p.Locked) : Moved u p p := ⟨hp, fun _ h => h, rfl, id⟩

/-- Demand moves the machine to one of two states, and both are not under way. -/
theorem underWay_foldState {m : MachineState} (hto : toState.underWay = false)
    (h : (foldState m toState).underWay = true) : m.underWay = true := by
  cases toState <;> cases m <;> simp_all [foldState]

theorem wsCount_given (h : Given p q) (hzero : p.wsCount = 0) : q.wsCount = 0 := by
  rw [h.count]
  exact decrement_eq_zero.2 (Or.inl hzero)

/-- Demand is given back, and the machine may go on to release. -/
theorem Given.moved (h : Given p q) (hp : p.Locked) (hdown : p.down = true → p.wsCount ≠ 1) :
    Moved u p q := by
  refine ⟨h.locked hp.holding hdown, fun _ hzero => wsCount_given h hzero, h.pending, ?_⟩
  rw [h.state]
  exact id

theorem Given.moved_releasing (h : Given p q) (hp : p.Locked)
    (hdown : p.down = true → p.wsCount ≠ 1) :
    Moved u p (q.processStateChange .releasingWakeSource) := by
  obtain ⟨-, -, hcnt, hpend⟩ := lock_process (p := q) .releasingWakeSource
  refine ⟨locked_releasing (h.locked hp.holding hdown), fun _ hzero => ?_, hpend.trans h.pending, ?_⟩
  · rw [hcnt]
    exact wsCount_given h hzero
  · rw [currentState_process, h.state]
    exact underWay_foldState rfl

theorem down_of_request (hto : toState = .releasingWakeSource ∨ toState = .wakingUp)
    (h : p.requestStateChange toState = true) : p.down = false := by
  unfold requestStateChange at h
  unfold down
  rcases hto with rfl | rfl <;>
    cases hm : p.stateMachine.currentState <;> simp_all

theorem Taken.moved (h : Taken p q) (hp : p.Locked) (hreq : p.requestStateChange .wakingUp = true)
    (hgrow : p.wsCount ≠ 255 ∧ u = false) : Moved u p (q.processStateChange .wakingUp) := by
  obtain ⟨-, -, hcnt, hpend⟩ := lock_process (p := q) .wakingUp
  refine ⟨h.locked hp hreq hgrow.1, fun hu _ => absurd hu (by simp [hgrow.2]),
    hpend.trans h.pending, ?_⟩
  rw [currentState_process, h.state]
  exact underWay_foldState rfl

variable (hp : p.Locked)
include hp

/-- Where demand may come, every call succeeding, it is counted. -/
theorem countsNow_of_request (hreq : p.requestStateChange .wakingUp = true) :
    p.countsNow allOk = true := by
  have hknw := hp.known
  unfold requestStateChange at hreq
  unfold countsNow
  cases hm : p.stateMachine.currentState <;>
    simp_all [acquiresLock, defersLock, allOk]

theorem moved_stayAwake (hgrow : p.wakes session wsRef allOk = true → p.wsCount ≠ 255 ∧ u = false) :
    Moved u p (p.stayAwake session wsRef allOk).1 := by
  unfold stayAwake
  rcases hfind : p.findWakeSource session wsRef with _ | w
  · exact Moved.refl hp
  dsimp only
  split_ifs with hacqd hauth hsusd
  · exact Moved.refl hp
  · unfold acquireWakeSource
    rcases hreq : p.requestStateChange .wakingUp with _ | _
    · exact Moved.refl hp
    have hcnts := countsNow_of_request hp hreq
    have hwake : p.wakes session wsRef allOk = true := by
      simp [wakes, hfind, hacqd, hauth, hreq, hcnts]
    have htkn := taken_acquireLock hp
    obtain ⟨q, -, hq⟩ := acquireLock_counts hcnts
    rw [hq] at htkn ⊢
    have hset : Taken p (q.increment.setAcquired wsRef true) :=
      ⟨htkn.state, htkn.pending, htkn.held, htkn.kept, htkn.count⟩
    exact hset.moved hp hreq (hgrow hwake)
  · exact Moved.refl hp
  · exact ⟨hp, fun _ h => h, rfl, id⟩

theorem moved_relax : Moved u p (p.relax session wsRef allOk).1 := by
  unfold relax
  rcases hfind : p.findWakeSource session wsRef with _ | w
  · exact Moved.refl hp
  dsimp only
  split_ifs with hacqd hauth
  · exact Moved.refl hp
  · unfold releaseWakeSource
    rcases hreq : p.requestStateChange .releasingWakeSource with _ | _
    · exact Moved.refl hp
    have hgvn := given_releaseLock hp.holds
    have hup := down_of_request (Or.inl rfl) hreq
    have hdown : p.down = true → p.wsCount ≠ 1 := fun h => absurd h (by simp [hup])
    generalize p.releaseWakeLock allOk = result at hgvn ⊢
    obtain ⟨q, ok⟩ := result
    cases ok with
    | true =>
      have hmov := hgvn.moved_releasing (u := u) hp hdown
      exact ⟨hmov.locked, hmov.quiet, hmov.pending, hmov.underWay⟩
    | false => exact hgvn.moved hp hdown
  · exact ⟨hp, fun _ h => h, rfl, id⟩

theorem moved_vhalStayAwake
    (hgrow : p.requestStateChange .wakingUp = true → p.vhalWsAcquired = false →
      p.countsNow allOk = true → p.wsCount ≠ 255 ∧ u = false) :
    Moved u p (p.vhalStayAwake allOk) := by
  unfold vhalStayAwake
  rcases hreq : p.requestStateChange .wakingUp with _ | _
  · exact Moved.refl hp
  rw [if_neg nofun]
  split_ifs with hvhal
  · exact Moved.refl hp
  have hcnts := countsNow_of_request hp hreq
  have htkn := taken_acquireLock hp
  obtain ⟨q, -, hq⟩ := acquireLock_counts hcnts
  rw [hq] at htkn ⊢
  have hmov := htkn.moved hp hreq (hgrow hreq (Bool.eq_false_iff.2 hvhal) hcnts)
  exact ⟨hmov.locked, hmov.quiet, hmov.pending, hmov.underWay⟩

theorem moved_vhalRelax : Moved u p (p.vhalRelax allOk) := by
  unfold vhalRelax
  rcases hreq : p.requestStateChange .releasingWakeSource with _ | _
  · exact Moved.refl hp
  rw [if_neg nofun]
  split_ifs with hvhal
  · exact Moved.refl hp
  have hgvn := given_releaseLock hp.holds
  have hup := down_of_request (Or.inl rfl) hreq
  have hdown : p.down = true → p.wsCount ≠ 1 := fun h => absurd h (by simp [hup])
  generalize p.releaseWakeLock allOk = result at hgvn ⊢
  obtain ⟨q, ok⟩ := result
  cases ok with
  | true =>
    have hmov := hgvn.moved_releasing (u := u) hp hdown
    exact ⟨hmov.locked, hmov.quiet, hmov.pending, hmov.underWay⟩
  | false => exact hgvn.moved hp hdown

end Power

namespace Power

variable {p q r : Power} {session wsRef : Nat} {u : Bool}

/-! ## The boot timer and the targeted mode -/

theorem Taken.holding (h : Taken p q) (hp : p.Locked) : q.Holding := by
  have hbef := hp.holding
  have hcnt := h.count
  cases hacqs : acquiresLock p.stateMachine.currentState with
  | true =>
    obtain ⟨hhld, hacq⟩ := h.held hacqs
    refine ⟨by rw [hhld, hacq], by rw [h.state]; exact hp.known, fun _ _ => hacq, fun _ => hacq, ?_⟩
    intro hd
    unfold down at hd
    rw [h.state] at hd
    rcases of_decide_eq_true hd with hm | hm <;> rw [hm] at hacqs <;> cases hacqs
  | false =>
    obtain ⟨hhld, hacq⟩ := h.kept hacqs
    refine ⟨by rw [hhld, hacq, hp.holds], by rw [h.state]; exact hp.known, ?_, ?_, ?_⟩
    · rw [h.state, hacq]
      intro hstb hn
      cases hdefr : defersLock p.stateMachine.currentState with
      | true =>
        exfalso
        cases hm : p.stateMachine.currentState <;>
          simp_all [defersLock, MachineState.transient]
      | false =>
        rw [hcnt, hacqs, hdefr] at hn
        exact hbef.enough hstb hn
    · rw [h.state, hacq]
      exact hp.waking
    · have hdow : q.down = p.down := by rw [down, down, h.state]
      rw [hdow, hacq]
      intro hd hacqd
      have hdefr : defersLock p.stateMachine.currentState = false := by
        rcases of_decide_eq_true hd with hm | hm <;> rw [hm] <;> rfl
      rw [hcnt, hacqs, hdefr]
      exact hbef.down hd hacqd

variable (hp : p.Locked)
include hp

theorem moved_waitWakeSourceTimer
    (hgrow : p.countsNow allOk = true → p.wsCount ≠ 255 ∧ u = false) :
    Moved u p (p.waitWakeSourceTimer allOk) := by
  have htkn := taken_acquireLock hp
  unfold waitWakeSourceTimer
  generalize (p.acquireWakeLock allOk).1 = q at htkn ⊢
  have hhldg := htkn.holding hp
  have hcnt := htkn.count
  have hcnts : p.countsNow allOk = (acquiresLock p.stateMachine.currentState ||
      defersLock p.stateMachine.currentState) := by simp [countsNow, allOk]
  cases hyes : p.countsNow allOk with
  | true =>
    obtain ⟨hend, hansd⟩ := hgrow hyes
    rw [hcnts, Bool.or_eq_true] at hyes
    rw [if_pos hyes] at hcnt
    have hgro : q.wsCount ≠ 0 := by
      bv_omega
    refine ⟨⟨hhldg.holds, hhldg.known, fun hstb => ?_, hhldg.waking⟩,
      fun hu => absurd hu (by simp [hansd]), htkn.pending, ?_⟩
    · exact ⟨fun _ => hgro, hhldg.enough hstb⟩
    rw [htkn.state]
    exact id
  | false =>
    rw [hcnts, Bool.or_eq_false_iff] at hyes
    rw [hyes.1, hyes.2] at hcnt
    obtain ⟨hhld, hacq⟩ := htkn.kept hyes.1
    refine ⟨?_, fun _ hzero => hcnt.trans hzero, htkn.pending, ?_⟩
    · change LockedAt q.pmsHolds q.powerMode.isWsAcquired q.stateMachine.currentState q.wsCount
      rw [hhld, hacq, htkn.state, hcnt]
      exact hp
    · change q.stateMachine.currentState.underWay = true → _
      rw [htkn.state]
      exact id

theorem moved_wakeSourceTimer (hdown : p.down = true → p.wsCount ≠ 1) :
    Moved u p (p.wakeSourceTimer allOk) := by
  have hgvn := given_releaseLock (p := { p with bootTimer := .expired }) hp.holds
  exact ⟨(hgvn.moved (u := u) hp hdown).locked,
    (hgvn.moved hp hdown).quiet, hgvn.pending,
    (hgvn.moved (u := u) hp hdown).underWay⟩

theorem moved_release_acquire (hdown : p.down = true → p.wsCount ≠ 1) :
    Moved u p ((p.acquireWakeLock allOk).1.releaseWakeLock allOk).1 := by
  have htkn := taken_acquireLock hp
  generalize (p.acquireWakeLock allOk).1 = q at htkn ⊢
  have hhldg := htkn.holding hp
  have hgvn := given_releaseLock hhldg.holds
  have hst := hgvn.state.trans htkn.state
  refine ⟨hgvn.locked hhldg ?_, ?_, hgvn.pending.trans htkn.pending, ?_⟩
  · intro hd
    have hdow : q.down = p.down := by rw [down, down, htkn.state]
    rw [hdow] at hd
    have hno : acquiresLock p.stateMachine.currentState = false ∧
        defersLock p.stateMachine.currentState = false := by
      rcases of_decide_eq_true hd with hm | hm <;> rw [hm] <;> exact ⟨rfl, rfl⟩
    rw [htkn.count, hno.1, hno.2]
    exact hdown hd
  · intro _ hzero
    rw [hgvn.count, decrement_eq_zero, htkn.count, hzero]
    split_ifs
    · exact Or.inr rfl
    · exact Or.inl rfl
  · rw [hst]
    exact id

theorem moved_setTarget {target : TargetedPowerMode}
    (hdown : target = .resume → p.down = true → p.wsCount ≠ 1) :
    Moved u p (p.setTargetedPowerMode target allOk).1 := by
  unfold setTargetedPowerMode
  dsimp only
  split
  · exact ⟨hp, fun _ h => h, rfl, id⟩
  rename_i hperm
  have hgrd : p.down = true → p.wsCount ≠ 1 := by
    by_cases hrsm : target = .resume
    · exact hdown hrsm
    have hreq : p.requestStateChange .releasingWakeSource = true := by
      cases hr : p.requestStateChange .releasingWakeSource with
      | true => rfl
      | false => exact absurd ⟨hrsm, hr⟩ hperm
    have hup := down_of_request (Or.inl rfl) hreq
    exact fun h => absurd h (by simp [hup])
  by_cases hrsm : target = .resume
  · rw [if_pos hrsm]
    have hmov := moved_release_acquire (u := u)
      (p := { p with targetedPowerMode := target }) hp hgrd
    exact ⟨hmov.locked, hmov.quiet, hmov.pending, hmov.underWay⟩
  rw [if_neg hrsm]
  have hmov := moved_release_acquire (u := u)
    (p := { p with
      targetedPowerMode := target
      powerMode := { p.powerMode with isGraceful := true } }) hp hgrd
  exact ⟨hmov.locked, hmov.quiet, hmov.pending, hmov.underWay⟩

end Power

namespace Power

variable {p q r : Power} {session wsRef : Nat} {u : Bool}

/-! ## Authorization and sessions -/

theorem wsCount_recounted (mask : BitVec 32) :
    p.wsRefList.values.foldr (recount (mask &&& authorizeAll) p.stayAwakeReasonMask) p.wsCount =
      p.recounted mask := by
  have hmod :=
    foldr_recount (mask &&& authorizeAll) p.stayAwakeReasonMask p.wsRefList.values p.wsCount
  have hcntd := BitVec.toNat_ofNat (p.countedUnder (mask &&& authorizeAll)) 8
  have hbef := BitVec.toNat_ofNat (p.countedUnder p.stayAwakeReasonMask) 8
  apply BitVec.eq_of_toNat_eq
  rw [recounted, BitVec.toNat_sub, BitVec.toNat_add]
  unfold countedUnder at hcntd hbef ⊢
  generalize p.wsRefList.values.foldr _ p.wsCount = count at hmod ⊢
  omega

theorem moved_authorizeReason (hp : p.Locked) (mask : BitVec 32)
    (hrsm : p.stateMachine.currentState = .resume ∨
      p.stateMachine.currentState = .releasingWakeSource → p.wsCount = 0 → p.recounted mask = 0)
    (hdown : p.down = true → (p.recounted mask = 0 ↔ p.wsCount = 0))
    (hu : u = true → p.recounted mask = 0) :
    Moved u p (p.authorizeStayAwakeReason mask allOk) := by
  unfold authorizeStayAwakeReason refreshWakeSources
  rw [wsCount_recounted]
  generalize p.recounted mask = n at hrsm hdown hu
  have hhld := hp.holds
  have hknw := hp.known
  have hstb := hp.stable
  have hwak := hp.waking
  unfold refreshLock
  dsimp only
  split_ifs with hwin hzero hsusd
  · refine ⟨⟨hhld, hknw, fun hs => ?_, hwak⟩, fun h _ => hu h, rfl, id⟩
    rcases hwin with hm | hm <;> rw [hm] at hs <;> cases hs
  · -- the count is zero, and what is held is given back
    have hdown' : p.down = true → n ≠ 1 := fun _ h => by rw [hzero] at h; cases h
    have hgvn := given_releaseLock (p := { p with
      previousStayAwakeReasonMask := p.stayAwakeReasonMask
      stayAwakeReasonMask := mask &&& authorizeAll
      wsCount := n }) hhld
    have hhldg : Holding { p with
        previousStayAwakeReasonMask := p.stayAwakeReasonMask
        stayAwakeReasonMask := mask &&& authorizeAll
        wsCount := n } := by
      refine ⟨hhld, hknw, fun _ h => absurd hzero h, hwak, fun hd hacq => ?_⟩
      have hbef := (hstb (transient_of_down (p := p) hd)).1 hacq
      exact absurd ((hdown hd).1 hzero) hbef
    exact ⟨hgvn.locked hhldg hdown', fun h _ => wsCount_given hgvn (hu h), hgvn.pending,
      by rw [hgvn.state]; exact id⟩
  · exact ⟨⟨rfl, hknw, fun _ => ⟨fun _ => hzero, fun _ => rfl⟩, fun _ => rfl⟩,
      fun h _ => hu h, rfl, id⟩
  · refine ⟨⟨hhld, hknw, fun hs => ?_, hwak⟩, fun h _ => hu h, rfl, id⟩
    constructor
    · exact fun _ => hzero
    unfold down at hdown
    cases hm : p.stateMachine.currentState <;>
      simp_all [MachineState.transient, allOk]

/-- What the sources of a session leave that are gone: the demand is less by no more than they
had. -/
structure Dropped (p q : Power) (k : Nat) : Prop where
  state : q.stateMachine = p.stateMachine
  pending : q.pmsPending = p.pmsPending
  mask : q.stayAwakeReasonMask = p.stayAwakeReasonMask
  sources : ∀ ref w, q.wsRefList.lookup ref = some w → p.wsRefList.lookup ref = some w
  quiet : p.wsCount = 0 → q.wsCount = 0
  count : p.wsCount.toNat ≤ q.wsCount.toNat + k
  holds : q.pmsHolds = q.powerMode.isWsAcquired
  kept : p.down = true → q.powerMode.isWsAcquired = p.powerMode.isWsAcquired
  locked : p.down = false → q.Locked

theorem mask_releaseLock (env : PmsEnv) :
    (p.releaseWakeLock env).1.stayAwakeReasonMask = p.stayAwakeReasonMask ∧
      (p.releaseWakeLock env).1.wsRefList = p.wsRefList := by
  have hdec : p.decrement.stayAwakeReasonMask = p.stayAwakeReasonMask ∧
      p.decrement.wsRefList = p.wsRefList := by
    unfold decrement
    split_ifs <;> exact ⟨rfl, rfl⟩
  have hkept := kept_releaseLock (p := p) env
  exact ⟨hkept.mask.trans hdec.1, hkept.wsRefList.trans hdec.2⟩

theorem releasesLock_of_down (h : p.down = true) :
    releasesLock p.stateMachine.currentState = false := by
  rcases of_decide_eq_true h with hm | hm <;> rw [hm] <;> rfl

theorem toNat_decrement : p.wsCount.toNat ≤ p.decrement.wsCount.toNat + 1 := by
  unfold decrement
  split_ifs with h
  · omega
  · dsimp only
    bv_omega

theorem Dropped.refl (hp : p.Locked) : Dropped p p 0 :=
  ⟨rfl, rfl, rfl, fun _ _ h => h, id, Nat.le_refl _, hp.holds, fun _ => rfl, fun _ => hp⟩

theorem Dropped.drop {k : Nat} (h : Dropped p q k) (env : Nat → PmsEnv)
    (henv : ∀ ref w, p.wsRefList.lookup ref = some w → env ref = allOk) (ref : Nat) :
    Dropped p (dropWakeSource env ref q) (p.weightAt ref + k) := by
  have hcnt := h.count
  unfold dropWakeSource
  rcases hlook : q.wsRefList.lookup ref with _ | w
  · dsimp only
    exact { h with count := by omega }
  have hbef := h.sources ref w hlook
  dsimp only
  split_ifs with hcnts
  · rw [henv ref w hbef]
    have hone : p.weightAt ref = 1 := by
      unfold weightAt
      rw [hbef]
      unfold counts at hcnts
      rw [h.mask] at hcnts
      simp [weight, hcnts]
    obtain ⟨hmask, hlist⟩ := mask_releaseLock (p := q) allOk
    have hgvn := given_releaseLock h.holds
    generalize (q.releaseWakeLock allOk).1 = r at hgvn hmask hlist ⊢
    have hst := hgvn.state.trans h.state
    have hdow : q.down = p.down := by rw [down, down, h.state]
    refine ⟨hst, hgvn.pending.trans h.pending, hmask.trans h.mask, ?_, ?_, ?_, ?_, ?_, ?_⟩
    · intro other v hv
      have hr := (RefMap.lookup_of_erase hv).2
      rw [hlist] at hr
      exact h.sources other v hr
    · intro hzero
      change r.wsCount = 0
      exact wsCount_given hgvn (h.quiet hzero)
    · have hdec := toNat_decrement (p := q)
      rw [← hgvn.count] at hdec
      dsimp only
      omega
    · dsimp only
      by_cases hkept : releasesLock q.stateMachine.currentState = false ∨ r.wsCount ≠ 0
      · rw [(hgvn.kept hkept).1, (hgvn.kept hkept).2, h.holds]
      · rw [not_or, Bool.not_eq_false, not_not] at hkept
        rw [(hgvn.released hkept.1 hkept.2).1, (hgvn.released hkept.1 hkept.2).2]
    · intro hd
      rw [← hdow] at hd
      exact ((hgvn.kept (Or.inl (releasesLock_of_down hd))).2).trans (h.kept (hdow ▸ hd))
    · intro hup
      have hq := h.locked hup
      exact hgvn.locked hq.holding fun hd => absurd hd (by rw [hdow, hup]; exact Bool.false_ne_true)
  · refine ⟨h.state, h.pending, h.mask, ?_, h.quiet, ?_, h.holds, h.kept, h.locked⟩
    · exact fun other v hv => h.sources other v (RefMap.lookup_of_erase hv).2
    · dsimp only
      omega

theorem dropped_foldr (hp : p.Locked) (env : Nat → PmsEnv)
    (henv : ∀ ref w, p.wsRefList.lookup ref = some w → env ref = allOk) (refs : List Nat) :
    Dropped p (refs.foldr (dropWakeSource env) p) ((refs.map p.weightAt).sum) := by
  induction refs with
  | nil => exact Dropped.refl hp
  | cons ref rest ih => exact ih.drop env henv ref

structure SameLock (p q : Power) : Prop where
  holds : q.pmsHolds = p.pmsHolds
  acquired : q.powerMode.isWsAcquired = p.powerMode.isWsAcquired
  state : q.stateMachine = p.stateMachine
  count : q.wsCount = p.wsCount
  pending : q.pmsPending = p.pmsPending

theorem SameLock.locked (h : SameLock p q) (hp : p.Locked) : q.Locked := by
  unfold Locked
  rw [h.holds, h.acquired, h.state, h.count]
  exact hp

theorem SameLock.trans (h : SameLock p q) (h' : SameLock q r) : SameLock p r :=
  ⟨h'.holds.trans h.holds, h'.acquired.trans h.acquired, h'.state.trans h.state,
    h'.count.trans h.count, h'.pending.trans h.pending⟩

theorem SameLock.moved (h : SameLock p q) (hp : p.Locked) : Moved u p q :=
  ⟨h.locked hp, fun _ hzero => h.count.trans hzero, h.pending, by rw [h.state]; exact id⟩

theorem sameLock_refl (p : Power) : SameLock p p := ⟨rfl, rfl, rfl, rfl, rfl⟩

theorem sameLock_createWakeupSource (reason : Nat) :
    SameLock p (p.createWakeupSource session reason) := by
  unfold createWakeupSource
  split_ifs <;> exact ⟨rfl, rfl, rfl, rfl, rfl⟩

theorem sameLock_deleteWakeupSource : SameLock p (p.deleteWakeupSource session wsRef).1 := by
  unfold deleteWakeupSource
  cases p.findWakeSource session wsRef with
  | none => exact sameLock_refl p
  | some w =>
    dsimp only
    split_ifs <;> exact ⟨rfl, rfl, rfl, rfl, rfl⟩

theorem sameLock_createNodeSource (wsTag : List Char) :
    SameLock p (p.createNodeWakeupSource session wsTag) := by
  unfold createNodeWakeupSource
  split <;> exact ⟨rfl, rfl, rfl, rfl, rfl⟩

theorem sameLock_deleteNodeSource :
    SameLock p (p.deleteNodeWakeupSource session wsRef).1 := by
  unfold deleteNodeWakeupSource
  cases p.findNodeWakeSource session wsRef with
  | none => exact sameLock_refl p
  | some n =>
    dsimp only
    split_ifs <;> exact ⟨rfl, rfl, rfl, rfl, rfl⟩

theorem sameLock_releaseNodeLock (ok : Bool) : SameLock p (p.releaseNodeWakeLock ok).1 := by
  unfold releaseNodeWakeLock
  dsimp only
  split_ifs <;> exact ⟨rfl, rfl, rfl, rfl, rfl⟩

theorem sameLock_stayAwakeNode (ok : Bool) : SameLock p (p.stayAwakeNode session wsRef ok).1 := by
  unfold stayAwakeNode acquireNodeWakeLock
  cases p.findNodeWakeSource session wsRef with
  | none => exact sameLock_refl p
  | some n =>
    dsimp only
    split_ifs <;> exact ⟨rfl, rfl, rfl, rfl, rfl⟩

theorem sameLock_relaxNode (ok : Bool) : SameLock p (p.relaxNode session wsRef ok).1 := by
  unfold relaxNode
  rcases p.findNodeWakeSource session wsRef with _ | n
  · exact sameLock_refl p
  dsimp only
  split_ifs
  · exact sameLock_refl p
  have hrele := sameLock_releaseNodeLock (p := p) ok
  generalize p.releaseNodeWakeLock ok = result at hrele ⊢
  obtain ⟨q, returned⟩ := result
  cases returned with
  | true => exact hrele.trans ⟨rfl, rfl, rfl, rfl, rfl⟩
  | false => exact hrele

theorem sameLock_dropNodeWakeSource (nodeOk : Nat → Bool) (ref : Nat) :
    SameLock p (dropNodeWakeSource nodeOk ref p) := by
  unfold dropNodeWakeSource
  rcases p.nodeWsRefList.lookup ref with _ | n
  · exact sameLock_refl p
  dsimp only
  split_ifs
  · exact (sameLock_releaseNodeLock (nodeOk ref)).trans ⟨rfl, rfl, rfl, rfl, rfl⟩
  · exact ⟨rfl, rfl, rfl, rfl, rfl⟩

theorem sameLock_foldr (nodeOk : Nat → Bool) (refs : List Nat) :
    SameLock p (refs.foldr (dropNodeWakeSource nodeOk) p) := by
  induction refs with
  | nil => exact sameLock_refl p
  | cons ref rest ih => exact ih.trans (sameLock_dropNodeWakeSource nodeOk ref)

theorem moved_disconnect (hp : p.Locked) (session : Nat) (env : Nat → PmsEnv)
    (nodeOk : Nat → Bool)
    (henv : ∀ e ∈ p.wsRefList.entries, env e.1 = allOk)
    (hdown : p.down = true → p.wsCount ≠ 0 → p.demandOf session < p.wsCount.toNat) :
    Moved u p (p.disconnect session env nodeOk) := by
  have hdrop := dropped_foldr hp env (fun ref w h => henv _ (RefMap.lookup_eq_some_iff.1 h))
    (p.wakeSourcesOf session)
  unfold disconnect
  generalize (p.wakeSourcesOf session).foldr (dropWakeSource env) p = q at hdrop ⊢
  have hnode := sameLock_foldr (p := q) nodeOk (q.nodeWakeSourcesOf session)
  have hq : q.Locked := by
    rcases hd : p.down with _ | _
    · exact hdrop.locked hd
    refine ⟨hdrop.holds, by rw [hdrop.state]; exact hp.known, fun hstb => ?_, fun hm => ?_⟩
    · have hbef := hp.stable (transient_of_down hd)
      have hcnt := hdrop.count
      rw [hdrop.kept hd, hbef]
      constructor
      · intro hn hzero
        have hlt := hdown hd hn
        unfold demandOf at hlt
        have hq0 : q.wsCount.toNat = 0 := by
          rw [hzero]
          rfl
        omega
      · exact fun hn hzero => hn (hdrop.quiet hzero)
    · rw [hdrop.kept hd]
      rw [hdrop.state] at hm
      exact hp.waking hm
  have hmov := hnode.moved (u := u) hq
  exact ⟨hmov.locked, fun _ hzero => hnode.count.trans (hdrop.quiet hzero),
    hnode.pending.trans hdrop.pending, by rw [hnode.state, hdrop.state]; exact id⟩

end Power

namespace State

open Power

variable {s t : State}

/-! ## Windows -/

structure Calm (s : State) : Prop where
  locked : s.power.Locked
  quiet : s.suspendUnanswered = true → s.power.wsCount = 0

structure Steady (s : State) : Prop extends Calm s where
  ends : s.Ends

variable {p : Power}

theorem Steady.moved (hs : s.Steady) (hp : Moved s.suspendUnanswered s.power p)
    (hpowe : t.power = p) (hwin : t.window.vhalAckTimerRuns = s.window.vhalAckTimerRuns ∧
      t.window.vhalRespHandled = s.window.vhalRespHandled)
    (hnode : t.suspendUnanswered = true → s.suspendUnanswered = true) : t.Steady where
  locked := by
    rw [hpowe]
    exact hp.locked
  quiet := fun ht => by
    rw [hpowe]
    exact hp.quiet (hnode ht) (hs.quiet (hnode ht))
  ends := fun ht => by
    rw [hpowe] at ht
    rw [hpowe, hp.pending, hwin.1, hwin.2]
    exact hs.ends (hp.underWay ht)

theorem Calm.sameLock (hs : s.Calm) (hp : SameLock s.power t.power)
    (hnode : t.nodeStates = s.nodeStates) :
    t.Calm where
  locked := hp.locked hs.locked
  quiet := by
    unfold suspendUnanswered
    rw [hp.count, hnode]
    exact hs.quiet

theorem steady_setNadMode (hs : s.Calm) (state : PowerState) {change : PowerMode → PowerMode}
    (hchg : ∀ m, (change m).isWsAcquired = m.isWsAcquired) :
    (s.setNadMode state change allOk).state.Steady where
  locked := by
    change LockedAt s.power.pmsHolds (change s.power.powerMode).isWsAcquired _ _
    rw [hchg]
    exact hs.locked
  quiet := hs.quiet
  ends := fun _ => Or.inl (Bool.or_true _)

theorem setFlag_isWsAcquired (requested : RequestedState) (value : Bool) (m : PowerMode) :
    (requested.setFlag value m).isWsAcquired = m.isWsAcquired := by cases requested <;> rfl

variable {requested : RequestedState}

theorem steady_sendPrepare (hs : s.Calm) (cb : Callback)
    (hknw : requested ≠ .asyncReqUnknownSt) : (s.sendPrepare requested cb).state.Steady where
  locked := by
    change LockedAt s.power.pmsHolds (requested.setFlag true s.power.powerMode).isWsAcquired _ _
    rw [setFlag_isWsAcquired]
    exact hs.locked
  quiet := hs.quiet
  ends := fun _ => by
    cases requested with
    | asyncReqUnknownSt => exact absurd rfl hknw
    | systemNormalShutdown | restartWithNadPowerOffOn | restartWithNadReboot =>
      exact Or.inr ⟨rfl, rfl⟩

/-- After a window the lock is taken or given back as the demand says. -/
theorem locked_reconcile (hhld : p.pmsHolds = p.powerMode.isWsAcquired)
    (hst : p.stateMachine.currentState = .resume ∨
      p.stateMachine.currentState = .releasingWakeSource) : (p.reconcile allOk).Locked := by
  have hknw : p.stateMachine.currentState ≠ .unknown := by
    rcases hst with h | h <;> rw [h] <;> exact nofun
  have hwak : p.stateMachine.currentState ≠ .wakingUp := by
    rcases hst with h | h <;> rw [h] <;> exact nofun
  unfold reconcile
  split_ifs with htake hstay hgive hrela
  · exact ⟨rfl, hknw, fun _ => ⟨fun _ => htake.1, fun _ => rfl⟩, fun h => absurd h hwak⟩
  · exact absurd rfl hstay
  · exact ⟨rfl, hknw, fun _ => ⟨nofun, fun h => absurd hgive.1 h⟩, fun h => absurd h hwak⟩
  · exact absurd rfl hrela
  refine ⟨hhld, hknw, fun _ => ?_, fun h => absurd h hwak⟩
  cases hacq : p.powerMode.isWsAcquired with
  | true =>
    refine ⟨fun _ hzero => ?_, fun _ => rfl⟩
    exact hgive ⟨hzero, hacq⟩
  | false =>
    refine ⟨nofun, fun hn => ?_⟩
    exact absurd ⟨hn, hacq⟩ htake

theorem state_reconcile (p : Power) : (p.reconcile allOk).stateMachine = p.stateMachine ∧
    (p.reconcile allOk).wsCount = p.wsCount := by
  unfold reconcile
  split_ifs <;> exact ⟨rfl, rfl⟩

/-- A window that is closed with the node up leaves nothing under way. -/
theorem steady_revertWindow (hs : s.Calm)
    (hp : SameLock (s.power.revertPendingWindow allOk) p) (hpowe : t.power = p)
    (hnode : t.nodeStates = s.nodeStates) : t.Steady := by
  have hlkd : (s.power.revertPendingWindow allOk).Locked :=
    locked_reconcile hs.locked.holds (s.power.revertTarget_eq)
  obtain ⟨hst, hcnt⟩ := state_reconcile
    { s.power with stateMachine := ⟨s.power.revertTarget, s.power.stateMachine.currentState⟩ }
  refine ⟨⟨by rw [hpowe]; exact hp.locked hlkd, fun ht => ?_⟩, fun hunde => ?_⟩
  · unfold suspendUnanswered at ht
    rw [hnode] at ht
    rw [hpowe, hp.count]
    exact hcnt.trans (hs.quiet ht)
  rw [hpowe, hp.state] at hunde
  have htgt : (s.power.revertPendingWindow allOk).stateMachine.currentState =
      s.power.revertTarget := by rw [Power.revertPendingWindow, hst]
  rw [htgt] at hunde
  rcases s.power.revertTarget_eq with h | h <;> rw [h] at hunde <;> cases hunde

theorem sameLock_setFlag (p : Power) (requested : RequestedState) (value : Bool) :
    SameLock p (p.setPowerMode fun m => requested.setFlag value m) :=
  ⟨rfl, setFlag_isWsAcquired requested value _, rfl, rfl, rfl⟩

theorem steady_revert (hs : s.Calm) (requested : RequestedState) (answers : List Message) :
    (s.revert requested answers allOk).state.Steady :=
  steady_revertWindow hs (sameLock_setFlag _ requested false) rfl rfl

theorem steady_proceed (hs : s.Calm) (requested : RequestedState) :
    (s.proceed requested allOk).state.Steady :=
  steady_setNadMode hs _ fun m => by split_ifs <;> rfl

theorem steady_handleReason (hs : s.Calm) (requested : RequestedState) (rsp : HalRspReason) :
    (s.handleReason requested rsp allOk).state.Steady := by
  cases rsp with
  | ready => exact steady_proceed hs requested
  | notReady | timeout | invalidRequest | other value => exact steady_revert hs requested _

theorem steady_dropCallback (ht : t.Steady) (requested : RequestedState) :
    (t.dropCallback requested).Steady := by
  refine ⟨⟨ht.locked, ht.quiet⟩, fun hunde => ?_⟩
  have hends := ht.ends hunde
  cases requested <;> exact hends

theorem steady_prepareResp (hs : s.Steady) (payload : PrepareResp) :
    (s.vhalPrepareRespHandler payload allOk).state.Steady := by
  have hclsd : s.closeWindow.Calm := hs.toCalm.sameLock (sameLock_refl _) rfl
  unfold vhalPrepareRespHandler
  split_ifs
  · exact hs
  · exact hs
  cases payload.type with
  | shutdown =>
    apply steady_dropCallback
    split_ifs
    · exact steady_handleReason hclsd _ _
    · exact steady_revert hclsd _ _
  | restart =>
    apply steady_dropCallback
    split_ifs
    iterate 2 exact steady_handleReason hclsd _ _
    exact steady_revertWindow hclsd (sameLock_refl _) rfl rfl

theorem steady_vhalAckTimerHandler (hs : s.Steady) :
    (s.vhalAckTimerHandler allOk).state.Steady := by
  have hclsd : s.closeWindow.Calm := hs.toCalm.sameLock (sameLock_refl _) rfl
  unfold vhalAckTimerHandler
  split_ifs with hhdld
  · refine ⟨⟨hs.locked, hs.quiet⟩, fun hunde => ?_⟩
    rcases hs.ends hunde with hpend | ⟨-, hopen⟩
    · exact Or.inl hpend
    · exact absurd hhdld (by simp [hopen])
  · exact steady_dropCallback (steady_revert hclsd s.window.statePtr _) _

/-- A state that is under way is one in which the lock may differ. -/
theorem calm_underWay (hs : s.Calm) (hunde : toState.underWay = true)
    (hp : SameLock s.power p) : (s.setPower (p.processStateChange toState)).Calm := by
  obtain ⟨-, -, hcnt, -⟩ := lock_process (p := p) toState
  have hfold : foldState p.stateMachine.currentState toState = toState := by
    cases toState <;> first | rfl | cases hunde
  refine ⟨locked_process ?_, fun ht => ?_⟩
  · rw [hfold, hp.holds, hp.acquired]
    refine ⟨hs.locked.holds, ?_, fun hstb => ?_, fun hwak => ?_⟩
    · rintro rfl
      cases hunde
    · exfalso
      cases toState <;> simp_all [MachineState.transient, MachineState.underWay]
    · rw [hwak] at hunde
      cases hunde
  · exact hcnt.trans (hp.count.trans (hs.quiet ht))

theorem steady_shutdownReqAsync (hs : s.Steady) (session reason : Nat) :
    (s.shutdownReqAsync session reason allOk).state.Steady := by
  have hnew : s.newContext.Steady := ⟨hs.toCalm.sameLock (sameLock_refl _) rfl, hs.ends⟩
  have hforc : SameLock s.power (s.power.setPowerMode fun m => { m with isForceful := true }) :=
    ⟨rfl, rfl, rfl, rfl, rfl⟩
  have hcalm : (s.newContext.setPower ((s.power.setPowerMode fun m => { m with isForceful := true })
      |>.processStateChange .shuttingDown)).Calm := calm_underWay hnew.toCalm rfl hforc
  unfold shutdownReqAsync
  dsimp only
  split_ifs
  iterate 3 exact hnew
  · exact steady_sendPrepare hcalm _ nofun
  · exact steady_setNadMode hcalm .shutdown fun _ => rfl

variable {mode : RestartMode}

theorem requestedState_known
    (h : mode.requestedState = some requested) : requested ≠ .asyncReqUnknownSt := by
  cases mode <;> cases h <;> exact nofun

theorem steady_restartPrepare (hs : s.Calm) (cb : Callback)
    (hmode : mode.requestedState = none → s.Ends) :
    (s.restartPrepare mode cb allOk).state.Steady := by
  unfold restartPrepare
  split
  · rename_i hnone
    have hends := hmode hnone
    split
    all_goals exact ⟨hs, hends⟩
  · rename_i requested hsome
    split
    · exact steady_sendPrepare hs cb (requestedState_known hsome)
    · exact steady_setNadMode hs _ fun m => by cases requested <;> rfl

theorem steady_restartFrom (hs : s.Steady)
    (final : MachineState) (cb : Callback) (hunde : toState.underWay = true)
    (hmode : mode.requestedState ≠ none) :
    (s.restartFrom mode toState final cb allOk).state.Steady := by
  unfold restartFrom
  dsimp only
  split_ifs
  · exact hs
  · exact hs
  · exact steady_restartPrepare (calm_underWay hs.toCalm hunde (sameLock_refl _)) cb
      fun h => absurd h hmode

theorem steady_restartReqAsync (hs : s.Steady) (session : Nat) (mode : RestartMode) (reason : Nat) :
    (s.restartReqAsync session mode reason allOk).state.Steady := by
  have hnew : s.newContext.Steady := ⟨hs.toCalm.sameLock (sameLock_refl _) rfl, hs.ends⟩
  unfold restartReqAsync
  dsimp only
  split_ifs
  · exact hnew
  · exact hnew
  cases mode with
  | systemOffOn | nadReboot => exact steady_restartFrom hnew _ _ rfl nofun
  | other value => exact steady_restartPrepare hnew.toCalm _ fun _ => hnew.ends

end State

variable {state : NodePowerState}

namespace State

open Power

variable {s t : State}

/-! ## Notifications -/

theorem steady_enter (toState : MachineState) (hto : toState.transient = false)
    (hknw : toState ≠ .unknown) (hfold : ∀ m, foldState m toState = toState)
    (hhld : s.power.pmsHolds = s.power.powerMode.isWsAcquired)
    (hagr : s.power.powerMode.isWsAcquired = true ↔ s.power.wsCount ≠ 0)
    (hqui : s.suspendUnanswered = true → s.power.wsCount = 0) : (s.enter toState).Steady := by
  obtain ⟨hh, hmode, hcnt, -⟩ := lock_process (p := s.power) toState
  have hst : (s.enter toState).power.stateMachine.currentState = toState :=
    (currentState_process toState).trans (hfold _)
  refine ⟨⟨?_, fun ht => hcnt.trans (hqui ht)⟩, fun hunde => ?_⟩
  · change LockedAt (s.power.processStateChange toState).pmsHolds
      (s.power.processStateChange toState).powerMode.isWsAcquired
      (s.power.processStateChange toState).stateMachine.currentState
      (s.power.processStateChange toState).wsCount
    rw [hh, hmode, hcnt, currentState_process, hfold]
    refine ⟨hhld, hknw, fun _ => hagr, ?_⟩
    rintro rfl
    cases hto
  · rw [hst] at hunde
    cases toState <;> simp_all [MachineState.transient, MachineState.underWay]

theorem steady_report (ht : t.Steady) (hsusd : state = .suspendPrepare → t.power.wsCount = 0) :
    (t.reportNodePowerStateChange state).Steady := by
  refine ⟨⟨ht.locked, fun hu => ?_⟩, ht.ends⟩
  by_cases hst : state = .suspendPrepare
  · exact hsusd hst
  apply ht.quiet
  rcases of_decide_eq_true hu with hque | htim
  · rcases mem_append.1 hque with hold | hnew
    · exact decide_eq_true (Or.inl hold)
    · exact absurd (mem_singleton.1 hnew).symm hst
  · exact decide_eq_true (Or.inr htim)

theorem agrees_iff (p : Power) :
    p.agrees = true ↔ (p.powerMode.isWsAcquired = true ↔ p.wsCount ≠ 0) := by
  unfold agrees
  rw [beq_iff_eq]
  by_cases hn : p.wsCount = 0
  · cases p.powerMode.isWsAcquired <;> simp [hn]
  have hdec : decide (p.wsCount ≠ 0) = true := decide_eq_true hn
  rw [hdec]
  exact ⟨fun h => ⟨fun _ => hn, fun _ => h⟩, fun h => h.2 hn⟩

section

variable (hs : s.Steady)
include hs

theorem steady_suspendNotified
    (hcare : s.power.wsCount = 0 → s.power.powerMode.isWsAcquired = false) :
    (s.suspendNotified allOk).state.Steady := by
  unfold suspendNotified
  split_ifs with hn hacq hstay
  · exact hs
  · -- the lock is taken for the demand that came in between
    refine ⟨⟨⟨rfl, hs.locked.known, fun _ => ⟨fun _ => hn, fun _ => rfl⟩, fun _ => rfl⟩, hs.quiet⟩, ?_⟩
    exact hs.ends
  · exact absurd rfl hstay
  rw [not_not] at hn
  have hagr : s.power.powerMode.isWsAcquired = true ↔ s.power.wsCount ≠ 0 := by
    simp [hcare hn, hn]
  have hente := steady_enter .suspend rfl nofun (fun _ => rfl) hs.locked.holds hagr hs.quiet
  exact steady_report hente fun _ =>
    (lock_process (p := s.power) .suspend).2.2.1.trans hn

theorem steady_shutdownNotified (hcare : s.power.agrees = true) : s.shutdownNotified.Steady := by
  have hente := steady_enter .shutdown rfl nofun (fun _ => rfl) hs.locked.holds
    ((agrees_iff _).1 hcare) hs.quiet
  unfold shutdownNotified
  dsimp only
  split_ifs
  · exact steady_report hente nofun
  · exact hente

theorem steady_restartNotified (hcare : s.power.agrees = true) : s.restartNotified.Steady := by
  have hente := steady_enter .restart rfl nofun (fun _ => rfl) hs.locked.holds
    ((agrees_iff _).1 hcare) hs.quiet
  unfold restartNotified
  split_ifs
  · exact steady_report hente nofun
  · exact hente

theorem steady_resumeNotified
    (hcare : s.power.wsCount ≠ 0 → s.power.powerMode.isWsAcquired = true) :
    (s.resumeNotified allOk).Steady := by
  obtain ⟨hhld, hmode, hcnt, -⟩ := lock_process (p := s.power) .resume
  have hst : (s.enter .resume).power.stateMachine.currentState = .resume :=
    currentState_process .resume
  unfold resumeNotified
  dsimp only
  split
  · rename_i hzero
    have hends : ∀ p : Power, p.stateMachine = (s.enter .resume).power.stateMachine →
        ((s.setPower p).Ends) := by
      intro p hp hunde
      change p.stateMachine.currentState.underWay = true at hunde
      rw [hp, hst] at hunde
      cases hunde
    split_ifs with hgive
    · refine ⟨⟨⟨rfl, ?_, fun _ => ⟨nofun, fun h => absurd hzero h⟩, fun h => ?_⟩,
        fun _ => hzero⟩, hends _ rfl⟩
      · change (s.enter .resume).power.stateMachine.currentState ≠ .unknown
        rw [hst]
        exact nofun
      · change (s.enter .resume).power.stateMachine.currentState = .wakingUp at h
        rw [hst] at h
        cases h
    have hno : (s.enter .resume).power.powerMode.isWsAcquired = false := by
      cases hacq : (s.enter .resume).power.powerMode.isWsAcquired with
      | false => rfl
      | true => exact absurd ⟨hacq, rfl⟩ hgive
    refine ⟨⟨⟨?_, ?_, fun _ => ?_, fun h => ?_⟩, fun _ => hzero⟩, hends _ rfl⟩
    · change (s.power.processStateChange .resume).pmsHolds =
        (s.power.processStateChange .resume).powerMode.isWsAcquired
      rw [hhld, hmode, hs.locked.holds]
    · change (s.enter .resume).power.stateMachine.currentState ≠ .unknown
      rw [hst]
      exact nofun
    · change (s.enter .resume).power.powerMode.isWsAcquired = true ↔
        (s.enter .resume).power.wsCount ≠ 0
      rw [hno, hzero]
      simp
    · change (s.enter .resume).power.stateMachine.currentState = .wakingUp at h
      rw [hst] at h
      cases h
  · rename_i hn
    have hn' : s.power.wsCount ≠ 0 := fun h => hn (hcnt.trans h)
    have hagr : s.power.powerMode.isWsAcquired = true ↔ s.power.wsCount ≠ 0 :=
      ⟨fun _ => hn', fun _ => hcare hn'⟩
    have hente := steady_enter .resume rfl nofun (fun _ => rfl) hs.locked.holds hagr hs.quiet
    exact steady_report hente nofun

end

theorem steady_thenChange {o : Outcome} (ho : o.state.Steady) (toState : MachineState)
    (hunde : toState.underWay = true) (hpend : o.state.power.pmsPending = true) :
    (o.thenChange toState allOk).state.Steady := by
  have hcalm := calm_underWay ho.toCalm hunde (sameLock_refl _)
  obtain ⟨-, -, -, hsame⟩ := lock_process (p := o.state.power) toState
  exact ⟨⟨hcalm.locked, hcalm.quiet⟩, fun _ => Or.inl (hsame.trans hpend)⟩

variable (hs : s.Steady)
include hs

theorem steady_allReleased : (s.allWakelocksReleased allOk).state.Steady := by
  unfold allWakelocksReleased
  split_ifs
  · refine steady_thenChange ?_ .shuttingDown rfl (Bool.or_true _)
    exact steady_setNadMode hs.toCalm .shutdown fun _ => rfl
  · refine steady_thenChange ?_ .suspending rfl (Bool.or_true _)
    exact steady_setNadMode hs.toCalm .suspend fun _ => rfl
  · exact hs

theorem steady_tellMode {clear : PowerMode → PowerMode}
    (modes : MachineState → Option HalPowerMode)
    (hclr : (clear s.power.powerMode).isWsAcquired = s.power.powerMode.isWsAcquired) :
    (s.tellMode clear modes).state.Steady := by
  have hsame : SameLock s.power (s.power.setPowerMode clear) := ⟨rfl, hclr, rfl, rfl, rfl⟩
  exact hs.moved (hsame.moved hs.locked) rfl ⟨rfl, rfl⟩ id

theorem steady_allAcked : s.allAcked.state.Steady := by
  unfold allAcked
  dsimp only
  split_ifs
  all_goals first | exact steady_tellMode hs _ rfl | exact hs

theorem steady_stateChangeEx {psRef : Nat} {state : PowerState}
    (hcare : CarefulLock s (.stateChangeEx psRef state allOk)) :
    (s.stateChangeExHandler psRef state allOk).state.Steady := by
  have href : (s.setPowerStateRef psRef).Steady := ⟨⟨hs.locked, hs.quiet⟩, hs.ends⟩
  cases state with
  | unknown => exact href
  | resume => exact steady_resumeNotified href hcare
  | suspend => exact steady_suspendNotified href hcare
  | shutdown => exact steady_shutdownNotified href hcare
  | restart => exact steady_restartNotified href hcare
  | allWakelocksReleased => exact steady_allReleased href
  | allAcked =>
    unfold stateChangeExHandler
    dsimp only
    split
    · exact href
    split
    · exact steady_allAcked href
    · exact href

end State

namespace State

open Power

variable {s t : State}

/-! ## Acknowledgements -/

/-- The rounds do not decide about the lock; what is left of a suspend was there before. -/
theorem Steady.sameNode (hs : s.Steady) (hpowe : t.power = s.power) (hwin : t.window = s.window)
    (hnode : t.suspendUnanswered = true → s.suspendUnanswered = true) : t.Steady :=
  hs.moved (Moved.refl hs.locked) hpowe (by rw [hwin]; exact ⟨rfl, rfl⟩) hnode

theorem steady_callHandler (hs : s.Steady)
    (hsusd : state = .suspendPrepare → s.power.wsCount = 0) :
    (s.callNodePowerStateHandlerFunc state).state.Steady := by
  have hrecs : ∀ client ∈ (s.numbered state).map fun e =>
      (⟨e.2, e.1.2.sessionRef, state, false⟩ : Record), client.state = state := by
    intro client hcl
    obtain ⟨e, -, rfl⟩ := mem_map.1 hcl
    rfl
  unfold callNodePowerStateHandlerFunc
  dsimp only
  split
  · refine ⟨⟨hs.locked, fun hu => ?_⟩, hs.ends⟩
    rcases of_decide_eq_true hu with hque | ⟨htim, hcur | ⟨client, hcl, hst⟩⟩
    · exact hs.quiet (decide_eq_true (Or.inl hque))
    · exact hs.quiet (decide_eq_true (Or.inr ⟨htim, Or.inl hcur⟩))
    · exact hsusd ((hrecs client hcl).symm.trans hst)
  · refine ⟨⟨hs.locked, fun hu => ?_⟩, hs.ends⟩
    rcases of_decide_eq_true hu with hque | ⟨-, hcur | ⟨client, hcl, hst⟩⟩
    · exact hs.quiet (decide_eq_true (Or.inl hque))
    · exact hsusd hcur
    · exact hsusd ((hrecs client hcl).symm.trans hst)

theorem steady_nodeStateChanged (hs : s.Steady) : s.nodePowerStateChanged.state.Steady := by
  unfold nodePowerStateChanged
  split
  · exact hs
  rename_i state rest hque
  apply steady_callHandler
  · refine ⟨⟨hs.locked, fun hu => hs.quiet ?_⟩, hs.ends⟩
    rcases of_decide_eq_true hu with hrest | htim
    · exact decide_eq_true (Or.inl (by rw [hque]; exact mem_cons_of_mem _ hrest))
    · exact decide_eq_true (Or.inr htim)
  · rintro rfl
    apply hs.quiet
    exact decide_eq_true (Or.inl (by rw [hque]; exact mem_cons_self))

variable {session : Nat}

theorem markAcked_map {before after : List Record} {β : Type} {f : Record → β}
    (hf : ∀ client, f { client with isAcked := true } = f client)
    (h : markAcked session before = some after) : after.map f = before.map f := by
  induction before generalizing after with
  | nil =>
    cases h
    rfl
  | cons client rest ih =>
    unfold markAcked at h
    split_ifs at h
    · cases h
      rw [map_cons, map_cons, hf]
    · obtain ⟨after', hrest, rfl⟩ := Option.map_eq_some_iff.1 h
      rw [map_cons, map_cons, ih hrest]

section

variable (hs : s.Steady)
include hs

theorem steady_acknowledge (session : Nat) (state : NodePowerState) (ready : Bool) :
    (s.acknowledge session state ready).state.Steady := by
  unfold acknowledge
  dsimp only
  split_ifs
  · exact hs
  · exact hs
  split
  · exact hs
  rename_i records hmark
  have hstat := markAcked_map (f := Record.state) (fun _ => rfl) hmark
  split_ifs
  · refine hs.sameNode rfl rfl ?_
    intro hu
    rcases of_decide_eq_true hu with hque | ⟨htim, -⟩
    · exact decide_eq_true (Or.inl hque)
    · cases htim
  refine hs.sameNode rfl rfl ?_
  intro hu
  rcases of_decide_eq_true hu with hque | ⟨htim, hcur | ⟨client, hcl, hst⟩⟩
  · exact decide_eq_true (Or.inl hque)
  · exact decide_eq_true (Or.inr ⟨htim, Or.inl hcur⟩)
  have hmem : NodePowerState.suspendPrepare ∈ s.nodeStates.regClientrecrd.map Record.state := by
    rw [← hstat]
    exact mem_map.2 ⟨client, hcl, hst⟩
  obtain ⟨old, hold, hsame⟩ := mem_map.1 hmem
  exact decide_eq_true (Or.inr ⟨htim, Or.inr ⟨old, hold, hsame⟩⟩)

theorem steady_sendNodeAck (session ref : Nat) (ready : Bool) :
    (s.sendNodePowerStateChangeAck session ref ready).state.Steady := by
  unfold sendNodePowerStateChangeAck
  split
  · exact hs
  split
  · exact hs
  split
  · exact hs
  split
  · exact steady_acknowledge hs session _ ready
  · exact hs

theorem steady_ackTimer : s.stateChangeAckTimerHandler.state.Steady := by
  unfold stateChangeAckTimerHandler
  split_ifs
  all_goals
    refine hs.sameNode rfl rfl ?_
    intro hu
    rcases of_decide_eq_true hu with hque | ⟨htim, -⟩
    · exact decide_eq_true (Or.inl hque)
    · cases htim

theorem steady_addNodeHandler (session : Nat) (stateMask : BitVec 32)
    (old : Option Nat) : (s.addNodePowerStateChangeHandler session stateMask old).state.Steady := by
  unfold addNodePowerStateChangeHandler
  dsimp only
  split_ifs
  · exact hs
  all_goals exact hs.sameNode rfl rfl id

end

/-! ## Sessions -/

theorem steady_ofClient (hs : s.Steady) {f : Power → Power}
    (h : session ∈ s.clients → Moved s.suspendUnanswered s.power (f s.power)) :
    (s.ofClient session f).Steady := by
  unfold ofClient
  split_ifs with hcl
  · exact hs.moved (h hcl) rfl ⟨rfl, rfl⟩ id
  · exact hs

theorem steady_clientLeaves (hs : s.Steady) {env : Nat → PmsEnv}
    {nodeOk : Nat → Bool} (henv : ∀ e ∈ s.power.wsRefList.entries, env e.1 = allOk)
    (hdown : s.power.down = true → s.power.wsCount ≠ 0 →
      s.power.demandOf session < s.power.wsCount.toNat) :
    (s.clientDisconnection session env nodeOk).Steady := by
  unfold clientDisconnection
  split
  · exact hs
  refine hs.moved (moved_disconnect hs.locked session env nodeOk henv hdown) rfl ⟨rfl, rfl⟩ ?_
  intro hu
  rcases of_decide_eq_true hu with hque | ⟨htim, hcur | ⟨client, hcl, hst⟩⟩
  · exact decide_eq_true (Or.inl hque)
  · exact decide_eq_true (Or.inr ⟨htim, Or.inl hcur⟩)
  · exact decide_eq_true (Or.inr ⟨htim, Or.inr ⟨client, (mem_filter.1 hcl).1, hst⟩⟩)

end State

section Runs

open State Power

variable {s t : State} {a : Action}

theorem steady_start (handlerRef : Bool) (nodeState : NodePowerState) :
    (start handlerRef nodeState).Steady :=
  ⟨⟨⟨rfl, nofun, fun _ => ⟨nofun, fun h => absurd rfl h⟩, nofun⟩, fun _ => rfl⟩, nofun⟩

theorem steady_perform (hs : s.Steady) (hok : Succeeds s a) (hcare : CarefulLock s a) :
    (perform s a).state.Steady := by
  cases a with
  | clientConnection session allocated =>
    change (s.clientConnection session allocated).Steady
    unfold State.clientConnection
    split_ifs
    · exact hs.sameNode rfl rfl id
    · exact hs
  | clientDisconnection session env nodeOk => exact steady_clientLeaves hs hok hcare
  | pmVhalReady pmInf env =>
    cases hok
    exact hs.moved (moved_waitWakeSourceTimer hs.locked hcare) rfl ⟨rfl, rfl⟩ id
  | wakeSourceTimer env =>
    cases hok
    exact hs.moved (moved_wakeSourceTimer hs.locked hcare) rfl ⟨rfl, rfl⟩ id
  | createWakeupSource session reason =>
    change (s.ofClient session fun p => p.createWakeupSource session reason).Steady
    exact steady_ofClient hs fun _ => (sameLock_createWakeupSource reason).moved hs.locked
  | deleteWakeupSource session wsRef =>
    change (s.ofClient session fun p => (p.deleteWakeupSource session wsRef).1).Steady
    exact steady_ofClient hs fun _ => sameLock_deleteWakeupSource.moved hs.locked
  | stayAwake session wsRef env =>
    cases hok
    change (s.ofClient session fun p => (p.stayAwake session wsRef allOk).1).Steady
    exact steady_ofClient hs fun hcl => moved_stayAwake hs.locked (hcare hcl)
  | relax session wsRef env =>
    cases hok
    change (s.ofClient session fun p => (p.relax session wsRef allOk).1).Steady
    exact steady_ofClient hs fun _ => moved_relax hs.locked
  | authorizeStayAwakeReason mask env =>
    cases hok
    obtain ⟨hrsm, hdown, hu⟩ := hcare
    exact hs.moved (moved_authorizeReason hs.locked mask hrsm hdown hu) rfl ⟨rfl, rfl⟩ id
  | createNodeWakeupSource session wsTag =>
    change (s.ofClient session fun p => p.createNodeWakeupSource session wsTag).Steady
    exact steady_ofClient hs fun _ => (sameLock_createNodeSource wsTag).moved hs.locked
  | deleteNodeWakeupSource session wsRef =>
    change (s.ofClient session fun p => (p.deleteNodeWakeupSource session wsRef).1).Steady
    exact steady_ofClient hs fun _ => sameLock_deleteNodeSource.moved hs.locked
  | stayAwakeNode session wsRef ok =>
    change (s.ofClient session fun p => (p.stayAwakeNode session wsRef ok).1).Steady
    exact steady_ofClient hs fun _ => (sameLock_stayAwakeNode ok).moved hs.locked
  | relaxNode session wsRef ok =>
    change (s.ofClient session fun p => (p.relaxNode session wsRef ok).1).Steady
    exact steady_ofClient hs fun _ => (sameLock_relaxNode ok).moved hs.locked
  | setNodeTargetedPowerMode session target env =>
    cases hok
    change (s.ofClient session fun p => (p.setTargetedPowerMode target allOk).1).Steady
    exact steady_ofClient hs fun hcl => moved_setTarget hs.locked (hcare hcl)
  | vhalStayAwake env =>
    cases hok
    exact hs.moved (moved_vhalStayAwake hs.locked hcare) rfl ⟨rfl, rfl⟩ id
  | vhalRelax env =>
    cases hok
    exact hs.moved (moved_vhalRelax hs.locked) rfl ⟨rfl, rfl⟩ id
  | shutdownReqAsync session reason env =>
    cases hok
    exact steady_shutdownReqAsync hs session reason
  | restartReqAsync session mode reason env =>
    cases hok
    exact steady_restartReqAsync hs session mode reason
  | shutdownNode session env =>
    cases hok
    change (Outcome.state (if _ then s.shutdownNode allOk else ⟨s, []⟩)).Steady
    split_ifs
    · exact steady_setNadMode hs.toCalm .shutdown fun _ => rfl
    · exact hs
  | restartNode session env =>
    cases hok
    change (Outcome.state (if _ then s.restartNode allOk else ⟨s, []⟩)).Steady
    split_ifs
    · exact steady_setNadMode hs.toCalm .restart fun _ => rfl
    · exact hs
  | vhalPrepareResp payload env =>
    cases hok
    exact steady_prepareResp hs payload
  | vhalAckTimer env =>
    cases hok
    exact steady_vhalAckTimerHandler hs
  | vhalStateChangeResp => exact hs
  | stateChangeEx psRef state env =>
    cases hok
    exact steady_stateChangeEx hs hcare
  | nodePowerStateChanged => exact steady_nodeStateChanged hs
  | addHandler session stateMask old =>
    exact steady_addNodeHandler hs session stateMask old
  | removeHandler handlerRef => exact hs.sameNode rfl rfl id
  | sendAck session ref ready => exact steady_sendNodeAck hs session ref ready
  | stateChangeAckTimer => exact steady_ackTimer hs

end Runs

variable {m : Message}

namespace State

variable {s : State}

/-! ## What is sent -/

def Silent (messages : List Message) : Prop := ∀ m ∈ messages, m.suspends = false

theorem silent_nil : Silent [] := nofun

theorem silent_singleton (h : m.suspends = false) : Silent [m] := by
  intro other hoth
  rw [mem_singleton.1 hoth]
  exact h

theorem Aside.silent {o : Outcome} (h : Aside s o) : Silent o.messages := by
  intro m hm
  have hasid := all_eq_true.1 h.messages m hm
  unfold Message.suspends
  split
  · cases hasid
  · cases hasid
  · rfl

theorem silent_allAcked : Silent s.allAcked.messages := by
  have htell : ∀ clear modes, Silent (s.tellMode clear modes).messages := by
    intro clear modes m hm
    obtain ⟨mode, -, rfl⟩ := mem_map.1 hm
    rfl
  unfold allAcked
  dsimp only
  split_ifs
  all_goals first | exact htell _ _ | exact silent_nil

theorem quiet_stateChangeEx (psRef : Nat) (state : PowerState) (env : PmsEnv)
    (hm : m ∈ (s.stateChangeExHandler psRef state env).messages)
    (hsusp : m.suspends = true) : s.power.wsCount = 0 := by
  have hsil : ∀ messages, Silent messages → m ∉ messages := fun _ h hmem =>
    absurd hsusp (by simp [h m hmem])
  cases state with
  | suspend =>
    change m ∈ (suspendNotified _ env).messages at hm
    unfold suspendNotified at hm
    split_ifs at hm
    · exact absurd hm (hsil _ silent_nil)
    iterate 2 exact absurd hm (hsil _ (silent_singleton rfl))
    exact absurd hm (hsil _ silent_nil)
  | allWakelocksReleased =>
    change m ∈ (allWakelocksReleased _ env).messages at hm
    unfold allWakelocksReleased Outcome.thenChange at hm
    split_ifs at hm with _ _ hzero
    all_goals first
      | exact absurd hm (hsil _ (silent_singleton rfl))
      | exact absurd hm (hsil _ silent_nil)
      | exact hzero
  | allAcked =>
    unfold stateChangeExHandler at hm
    dsimp only at hm
    split at hm
    · exact absurd hm (hsil _ (silent_singleton rfl))
    split at hm
    · exact absurd hm (hsil _ silent_allAcked)
    · exact absurd hm (hsil _ silent_nil)
  | unknown | resume | shutdown | restart => exact absurd hm (hsil _ silent_nil)

/-- The power management service is told that the node is ready for a suspend. -/
theorem suspends_sendAckToPms {ready : Bool}
    (h : (s.sendAckToPms state ready).suspends = true) : state = .suspendPrepare := by
  cases state <;> cases ready <;> first | rfl | cases h

theorem quiet_nodeStateChanged (hs : s.Calm)
    (hm : m ∈ s.nodePowerStateChanged.messages) (hsusp : m.suspends = true) :
    s.power.wsCount = 0 := by
  unfold nodePowerStateChanged at hm
  split at hm
  · cases hm
  rename_i state rest hque
  have hst : state = .suspendPrepare := by
    unfold callNodePowerStateHandlerFunc at hm
    dsimp only at hm
    split at hm
    · rcases mem_append.1 hm with htold | hack
      · obtain ⟨e, -, rfl⟩ := mem_map.1 htold
        cases hsusp
      · rw [mem_singleton.1 hack] at hsusp
        exact suspends_sendAckToPms hsusp
    · obtain ⟨e, -, rfl⟩ := mem_map.1 hm
      cases hsusp
  apply hs.quiet
  exact decide_eq_true (Or.inl (by rw [hque, hst]; exact mem_cons_self))

theorem quiet_ackTimer (hs : s.Calm) (hruns : s.nodeStates.stateChangeAckTimerRuns = true)
    (hm : m ∈ s.stateChangeAckTimerHandler.messages) (hsusp : m.suspends = true) :
    s.power.wsCount = 0 := by
  unfold stateChangeAckTimerHandler at hm
  split_ifs at hm
  · cases hm
  · rw [mem_singleton.1 hm] at hsusp
    exact hs.quiet (decide_eq_true (Or.inr ⟨hruns, Or.inl (suspends_sendAckToPms hsusp)⟩))

theorem quiet_sendNodeAck (hs : s.Calm) {session ref : Nat} {ready : Bool}
    (hm : m ∈ (s.sendNodePowerStateChangeAck session ref ready).messages)
    (hsusp : m.suspends = true) : s.power.wsCount = 0 := by
  unfold sendNodePowerStateChangeAck at hm
  split at hm
  · cases hm
  split at hm
  · cases hm
  split at hm
  · cases hm
  rename_i client hfind
  split at hm
  swap
  · cases hm
  have hcl : client ∈ s.nodeStates.regClientrecrd := mem_of_find?_eq_some hfind
  unfold acknowledge at hm
  dsimp only at hm
  have hack : s.nodeStates.stateChangeAckTimerRuns = true ∧ client.state = .suspendPrepare := by
    split at hm
    · cases hm
    rename_i hruns
    refine ⟨Bool.not_eq_false _ ▸ hruns, ?_⟩
    split at hm
    · rw [mem_singleton.1 hm] at hsusp
      exact suspends_sendAckToPms hsusp
    split at hm
    · cases hm
    split at hm
    · rw [mem_singleton.1 hm] at hsusp
      exact suspends_sendAckToPms hsusp
    · cases hm
  exact hs.quiet (decide_eq_true (Or.inr ⟨hack.1, Or.inr ⟨client, hcl, hack.2⟩⟩))

end State

section Runs

open State

variable {s t : State} {a : Action}

theorem quiet_perform (hs : s.Calm) (henab : enabled s a = true)
    (hm : m ∈ (perform s a).messages) (hsusp : m.suspends = true) : s.power.wsCount = 0 := by
  have hsil : ∀ {messages}, Silent messages → m ∈ messages → s.power.wsCount = 0 :=
    fun h hmem => absurd hsusp (by simp [h m hmem])
  unfold enabled at henab
  rw [Bool.and_eq_true] at henab
  cases a with
  | shutdownReqAsync session reason env =>
    exact hsil (aside_shutdownReqAsync session reason env).silent hm
  | restartReqAsync session mode reason env =>
    exact hsil (aside_restartReqAsync session mode reason env).silent hm
  | shutdownNode session env =>
    change m ∈ Outcome.messages (if _ then s.shutdownNode env else ⟨s, []⟩) at hm
    split_ifs at hm
    · exact hsil (silent_singleton rfl) hm
    · cases hm
  | restartNode session env =>
    change m ∈ Outcome.messages (if _ then s.restartNode env else ⟨s, []⟩) at hm
    split_ifs at hm
    · exact hsil (silent_singleton rfl) hm
    · cases hm
  | vhalPrepareResp payload env => exact hsil (aside_prepareResp payload env).silent hm
  | vhalAckTimer env => exact hsil (aside_vhalAckTimerHandler env).silent hm
  | vhalStateChangeResp => exact hsil (silent_singleton rfl) hm
  | stateChangeEx psRef state env => exact quiet_stateChangeEx psRef state env hm hsusp
  | nodePowerStateChanged => exact quiet_nodeStateChanged hs hm hsusp
  | addHandler session stateMask old =>
    change m ∈ (s.addNodePowerStateChangeHandler session stateMask old).messages at hm
    unfold addNodePowerStateChangeHandler at hm
    dsimp only at hm
    split_ifs at hm
    · cases hm
    · exact hsil (silent_singleton rfl) hm
    · cases hm
  | sendAck session ref ready => exact quiet_sendNodeAck hs hm hsusp
  | stateChangeAckTimer => exact quiet_ackTimer hs henab.2 hm hsusp
  | _ => cases hm

/-- In every careful run in which the calls succeed, the lock follows the demand. -/
theorem awake_run (handlerRef : Bool) (nodeState : NodePowerState) (actions : List Action)
    (hok : Meets step Succeeds (start handlerRef nodeState) actions)
    (hcare : Meets step CarefulLock (start handlerRef nodeState) actions) :
    Meets step Awake (start handlerRef nodeState) actions := by
  have hstep : ∀ s a t, s.Steady → Succeeds s a ∧ CarefulLock s a →
      step s a = some t → t.Steady := by
    intro s a t hs hguard ht
    unfold step at ht
    split_ifs at ht
    cases ht
    exact steady_perform hs hguard.1 hguard.2
  apply Meets.of_invariant Steady ?_ hstep (steady_start handlerRef nodeState) (hok.and hcare)
  intro s a hs hguard
  refine ⟨fun t ht => (hstep s a t hs hguard ht).locked.follows, fun t ht m hm hsuspends => ?_,
    fun t ht => (hstep s a t hs hguard ht).ends⟩
  unfold step at ht
  split_ifs at ht with henabled
  · exact quiet_perform hs.toCalm henabled hm hsuspends
  · cases ht

/-- A client stays awake, the service is told to shut down and the driver refuses; the node
suspends and wakes up again. -/
theorem awake_window_and_suspend :
    let actions : List Action :=
      [.pmVhalReady (some ⟨true, true⟩) allOk, .clientConnection 1 true, .createWakeupSource 1 0,
        .stayAwake 1 0 allOk, .wakeSourceTimer allOk, .shutdownReqAsync 1 0 allOk, .relax 1 0 allOk,
        .vhalPrepareResp ⟨.shutdown, .shutdownModeNormal, .notReady⟩ allOk,
        .stateChangeEx 0 .allWakelocksReleased allOk, .stateChangeEx 1 .suspend allOk,
        .nodePowerStateChanged, .stayAwake 1 0 allOk, .stateChangeEx 2 .resume allOk,
        .nodePowerStateChanged]
    Meets step Succeeds (start true .resume) actions ∧
      Meets step CarefulLock (start true .resume) actions ∧
      Meets step Awake (start true .resume) actions :=
  ⟨by decide +kernel, by decide +kernel,
    awake_run true .resume _ (by decide +kernel) (by decide +kernel)⟩

/-- A source that is authorized while the node is resumed counts, and the lock is not taken. -/
theorem awake_fails :
    ¬ ∀ (handlerRef : Bool) (nodeState : NodePowerState) (actions : List Action),
    Meets step Succeeds (start handlerRef nodeState) actions →
      Meets step Awake (start handlerRef nodeState) actions := by
  intro h
  have hrun := h true .resume
    [.pmVhalReady none allOk, .clientConnection 1 true, .createWakeupSource 1 3,
      .authorizeStayAwakeReason 1 allOk, .stayAwake 1 0 allOk, .wakeSourceTimer allOk,
      .authorizeStayAwakeReason 9 allOk] (by decide +kernel)
  exact absurd hrun (by decide +kernel)

end Runs

end TelAF.MngdPm
