import Mathlib.Data.List.TakeWhile
import TelAF.MngdConnRecovery

/-!
# The run of a recovery

A recovery is scheduled only where nothing of the one before is left, and it starts once its timer
has expired or is cancelled before. The invariant says of every data object where its newest
recovery stands; the start, the cancellation and the indication of an interruption are each queued
at most once for it.
-/

namespace TelAF.MngdConn

open TransitionRuns Recoveries List Nat

structure Schedule.Closing (b : Schedule) (n : Nat) : Prop where
  operation : b.operation = .radioOffOn
  scheduled : b.marks.count (.told .scheduled) = 1
  once : b.marks.count (.told .started) + b.marks.count (.told .canceled) + n ≤ 1
  cancelled : ∀ m ∈ b.marks.dropWhile (· ≠ .cancelled),
    m ≠ .told .started ∧ ∀ inOrder, m ≠ .performed inOrder
  inOrder : .performed false ∉ b.marks

namespace Schedule.Closing

variable {b : Schedule} {n : Nat}

theorem proper (h : b.Closing n) : b.Proper :=
  ⟨h.scheduled, le_trans (le_add_right _ n) h.once, h.cancelled, h.inOrder⟩

theorem mark {m : Mark} {k : Nat} (h : b.Closing n) (hm : m = .told .failed ∧ k = n ∨
    m = .told .canceled ∧ k + 1 = n) : (b.mark m).Closing k where
  operation := h.operation
  scheduled := by
    unfold Schedule.mark
    rw [count_append, h.scheduled]
    obtain ⟨rfl, -⟩ | ⟨rfl, -⟩ := hm
    all_goals decide
  once := by
    have honce := h.once
    unfold Schedule.mark
    simp only [count_append]
    obtain ⟨rfl, rfl⟩ | ⟨rfl, rfl⟩ := hm
    · simpa using honce
    simp only [count_cons_self]
    simp
    omega
  cancelled := by
    intro x hx
    have hcas : x ∈ b.marks.dropWhile (· ≠ .cancelled) ∨ x = m := by
      unfold Schedule.mark at hx
      rw [dropWhile_append] at hx
      split_ifs at hx
      · exact Or.inr (mem_singleton.1 ((dropWhile_sublist _).subset hx))
      · exact (mem_append.1 hx).imp_right mem_singleton.1
    rcases hcas with hold | rfl
    · exact h.cancelled x hold
    · obtain ⟨rfl, -⟩ | ⟨rfl, -⟩ := hm
      all_goals exact ⟨by decide, fun _ => by simp⟩
  inOrder := by
    unfold Schedule.mark
    rw [mem_append, not_or]
    refine ⟨h.inOrder, ?_⟩
    obtain ⟨rfl, -⟩ | ⟨rfl, -⟩ := hm
    all_goals simp

end Schedule.Closing

/-- The newest recovery has just been scheduled. -/
def Recoveries.Fresh (v : Recoveries) : Prop :=
  v.stray = [] ∧
    ∃ older, v.schedules = ⟨.radioOffOn, [.told .scheduled]⟩ :: older ∧
      ∀ b ∈ older, b.Proper

/-- The newest recovery has up to `n` indications still to come. -/
def Recoveries.Closing (v : Recoveries) (n : Nat) : Prop :=
  v.stray = [] ∧ ∃ b older, v.schedules = b :: older ∧ b.Closing n ∧
    ∀ b ∈ older, b.Proper

/-- The recoveries are the same, up to what has been performed or has failed. -/
def Recoveries.Same (v v' : Recoveries) : Prop := v'.schedules = v.schedules ∧ v'.stray = v.stray

variable {before after : AdminState}

namespace Recoveries

variable {v v' v'' : Recoveries} {n dataId : Nat}

theorem Same.trans (h : v.Same v') (h' : v'.Same v'') : v.Same v'' :=
  ⟨h'.1.trans h.1, h'.2.trans h.2⟩

theorem Same.fresh (h : v.Same v') (hv : v.Fresh) : v'.Fresh := by
  unfold Fresh
  rw [h.1, h.2]
  exact hv

theorem Same.closing (h : v.Same v') (hv : v.Closing n) : v'.Closing n := by
  unfold Closing
  rw [h.1, h.2]
  exact hv

theorem same_fail : v.Same (v.fail before after) := by
  unfold fail
  split
  · split_ifs
    all_goals exact ⟨rfl, rfl⟩
  · exact ⟨rfl, rfl⟩

theorem act_recovery {event : RecoveryEvent} {operation : RecoveryOperation} :
    v.act dataId (.recovery dataId event operation) = v.mark operation (.told event) := if_pos rfl

theorem fresh_schedule (hstra : v.stray = []) (hprop : ∀ b ∈ v.schedules, b.Proper)
    (hne : before ≠ .recoveryScheduledL1) :
    ((v.schedule before .recoveryScheduledL1).act dataId (.recovery dataId .scheduled .radioOffOn)).Fresh := by
  have hnew : v.schedule before .recoveryScheduledL1 =
      { v with schedules := ⟨.radioOffOn, []⟩ :: v.schedules } := if_neg hne
  rw [hnew, act_recovery]
  exact ⟨hstra, v.schedules, rfl, hprop⟩

theorem Fresh.closing (h : v.Fresh) : v.Closing 1 := by
  obtain ⟨hstra, older, hv, hprop⟩ := h
  exact ⟨hstra, _, older, hv, ⟨rfl, by decide, by decide, by decide, by decide⟩, hprop⟩

theorem Fresh.cancel (h : v.Fresh) : v.cancel.Closing 1 := by
  obtain ⟨hstra, older, hv, hprop⟩ := h
  refine ⟨?_, ⟨.radioOffOn, [.told .scheduled, .cancelled]⟩, older, ?_,
    ⟨rfl, by decide, by decide, by decide, by decide⟩, hprop⟩
  all_goals
    unfold Recoveries.cancel
    rw [hv]
  · exact hstra
  · rfl

theorem Fresh.start (h : v.Fresh) :
    ((v.act dataId (.recovery dataId .started .radioOffOn)).act dataId (.radioOff dataId)).Closing 0 := by
  obtain ⟨hstra, older, hv, hprop⟩ := h
  have htold : v.mark .radioOffOn (.told .started) =
      { v with schedules := ⟨.radioOffOn, [.told .scheduled, .told .started]⟩ :: older } := by
    unfold mark
    rw [hv]
    rfl
  have hradi (u : Recoveries) : u.act dataId (.radioOff dataId) = u.perform .radioOffOn := if_pos rfl
  rw [act_recovery, hradi, htold]
  unfold perform
  dsimp only
  exact ⟨hstra, ⟨.radioOffOn, [.told .scheduled, .told .started, .performed true]⟩, older, rfl,
    ⟨rfl, by decide, by decide, by decide, by decide⟩, hprop⟩

theorem Closing.mono {k : Nat} (h : v.Closing n) (hle : k ≤ n) : v.Closing k := by
  obtain ⟨hstra, b, older, hv, hclsg, hprop⟩ := h
  have honce := hclsg.once
  exact ⟨hstra, b, older, hv, ⟨hclsg.operation, hclsg.scheduled, by omega, hclsg.cancelled,
    hclsg.inOrder⟩, hprop⟩

theorem Closing.tell {m : RecoveryEvent} {k : Nat} (h : v.Closing n)
    (hm : m = .failed ∧ k = n ∨ m = .canceled ∧ k + 1 = n) :
    (v.act dataId (.recovery dataId m .radioOffOn)).Closing k := by
  obtain ⟨hstra, b, older, hv, hclsg, hprop⟩ := h
  have hmark : v.act dataId (.recovery dataId m .radioOffOn) =
      { v with schedules := b.mark (.told m) :: older } := by
    rw [act_recovery]
    unfold mark
    simp only [if_true, hv, hclsg.operation]
  rw [hmark]
  refine ⟨hstra, _, older, rfl, hclsg.mark ?_, hprop⟩
  exact hm.imp (And.imp_left (congrArg Mark.told)) (And.imp_left (congrArg Mark.told))

end Recoveries

/-- The indications that the queue and a call that has its result can still lead to. -/
def indications (q : List Note) (asked : Option (Option Result)) : Nat :=
  q.count .interrupted + q.count .indicate + if asked.isSome then 1 else 0

structure Unscheduled (c : DataCtx) (q : List Note) (v : Recoveries) : Prop where
  timer : c.recoveryScheduleTimer = false
  scheduled : c.isConnectivityRecoveryScheduled = false
  operation : c.recoveryOperation = .none
  done : c.wasL1ConnectivityRecoveryDone = false
  level : c.adminState.recoveryLevel ≤ 1
  state : c.adminState ≠ .recoveryScheduledL1
  start : .start ∉ q
  schedules : v.schedules = []
  stray : v.stray = []

structure Armed (c : DataCtx) (q : List Note) (v : Recoveries) : Prop where
  timer : c.recoveryScheduleTimer = true
  scheduled : c.isConnectivityRecoveryScheduled = true
  operation : c.recoveryOperation = .radioOffOn
  done : c.wasL1ConnectivityRecoveryDone = false
  state : c.adminState = .recoveryScheduledL1
  queue : Unhindered q
  fresh : v.Fresh

structure Expired (c : DataCtx) (q : List Note) (asked : Option (Option Result)) (v : Recoveries) :
    Prop where
  timer : c.recoveryScheduleTimer = false
  scheduled : c.isConnectivityRecoveryScheduled = true
  operation : c.recoveryOperation = .radioOffOn
  done : c.wasL1ConnectivityRecoveryDone = false
  state : c.adminState.recoveryLevel = 0 ∨ c.adminState = .recoveryStartedL1
  start : q.count .start = 1
  indicate : .indicate ∉ q
  interrupted : NoneBehind .start .interrupted q
  alone : asked = none
  fresh : v.Fresh

structure Closed (c : DataCtx) (q : List Note) (asked : Option (Option Result)) (v : Recoveries) :
    Prop where
  timer : c.recoveryScheduleTimer = false
  scheduled : c.isConnectivityRecoveryScheduled = false
  operation : c.recoveryOperation = .radioOffOn
  level : c.adminState.recoveryLevel ≤ 1
  state : c.adminState ≠ .recoveryScheduledL1
  start : .start ∉ q
  answered : asked ≠ some none
  closing : v.Closing (indications q asked)

inductive Life (c : DataCtx) (q : List Note) (asked : Option (Option Result)) (v : Recoveries) : Prop
  | unscheduled (h : Unscheduled c q v)
  | armed (h : Armed c q v)
  | expired (h : Expired c q asked v)
  | closed (h : Closed c q asked v)

theorem scheduledOperation_eq_none {state : AdminState} (hlvl : state.recoveryLevel ≤ 1)
    (hne : state ≠ .recoveryScheduledL1) : state.scheduledOperation = none := by
  cases state
  all_goals simp_all [AdminState.recoveryLevel, AdminState.scheduledOperation]

variable {q : List Note}

theorem Expired.level {c : DataCtx} {asked : Option (Option Result)} {v : Recoveries}
    (h : Expired c q asked v) :
    c.adminState.recoveryLevel ≤ 1 ∧ c.adminState ≠ .recoveryScheduledL1 ∧
      ¬ RecoveryOperation.Interrupted
      .radioOffOn c.adminState := by
  rcases h.state with hlvl | hst
  · refine ⟨hlvl ▸ zero_le 1, ?_, ?_⟩
    · intro heq
      rw [heq] at hlvl
      cases hlvl
    rintro (heq | heq)
    all_goals
      rw [heq] at hlvl
      cases hlvl
  · rw [hst]
    decide

namespace Life

variable {c c' : DataCtx} {q : List Note} {asked : Option (Option Result)} {v v' : Recoveries}

theorem recovers (h : Life c q asked v) : c.Recovers v := by
  have hidle (htim : c.recoveryScheduleTimer = false) (hlvl : c.adminState.recoveryLevel ≤ 1)
      (hne : c.adminState ≠ .recoveryScheduledL1) : c.recoveryScheduleTimer = true ↔
        c.adminState.scheduledOperation ≠ none ∧ c.isConnectivityRecoveryScheduled = true := by
    rw [htim, scheduledOperation_eq_none hlvl hne]
    simp
  have hfr (h : v.Fresh) : ∀ b ∈ v.schedules, b.Proper := by
    obtain ⟨-, older, hv, hprop⟩ := h
    rw [hv]
    exact forall_mem_cons.2 ⟨⟨by decide, by decide, by decide, by decide⟩, hprop⟩
  cases h with
  | unscheduled h => exact ⟨hidle h.timer h.level h.state, by simp [h.schedules], h.stray⟩
  | armed h =>
    refine ⟨?_, hfr h.fresh, h.fresh.1⟩
    rw [h.timer, h.state, h.scheduled]
    decide
  | expired h => exact ⟨hidle h.timer h.level.1 h.level.2.1, hfr h.fresh, h.fresh.1⟩
  | closed h =>
    refine ⟨hidle h.timer h.level h.state, ?_, h.closing.1⟩
    obtain ⟨-, b, older, hv, hclsg, hprop⟩ := h.closing
    rw [hv]
    exact forall_mem_cons.2 ⟨hclsg.proper, hprop⟩

theorem calm (h : Life c q asked v) (hc : c.Calm c') (hv : v.Same v') : Life c' q asked v' := by
  have hlow (hlvl : c.adminState.recoveryLevel ≤ 1) (hne : c.adminState ≠ .recoveryScheduledL1) :
      c'.adminState.recoveryLevel ≤ 1 ∧ c'.adminState ≠ .recoveryScheduledL1 := by
    rcases hc.state with hsame | ⟨hlvl', -⟩
    · rw [hsame]
      exact ⟨hlvl, hne⟩
    refine ⟨hlvl' ▸ zero_le 1, fun heq => ?_⟩
    rw [heq] at hlvl'
    cases hlvl'
  cases h with
  | unscheduled h =>
    obtain ⟨hlvl, hne⟩ := hlow h.level h.state
    exact .unscheduled ⟨hc.timer.trans h.timer, hc.scheduled.trans h.scheduled,
      hc.operation.trans h.operation, hc.done h.done, hlvl, hne, h.start,
      hv.1.trans h.schedules, hv.2.trans h.stray⟩
  | armed h =>
    have hst : c'.adminState = .recoveryScheduledL1 :=
      hc.state.elim (fun hsame => hsame.trans h.state) fun hne => absurd h.state hne.2
    exact .armed ⟨hc.timer.trans h.timer, hc.scheduled.trans h.scheduled,
      hc.operation.trans h.operation,
      hc.done h.done, hst, h.queue, hv.fresh h.fresh⟩
  | expired h =>
    have hst : c'.adminState.recoveryLevel = 0 ∨ c'.adminState = .recoveryStartedL1 := by
      rcases hc.state with hsame | ⟨hlvl, -⟩
      · rw [hsame]
        exact h.state
      · exact Or.inl hlvl
    exact .expired ⟨hc.timer.trans h.timer, hc.scheduled.trans h.scheduled,
      hc.operation.trans h.operation, hc.done h.done, hst, h.start, h.indicate, h.interrupted,
      h.alone, hv.fresh h.fresh⟩
  | closed h =>
    obtain ⟨hlvl, hne⟩ := hlow h.level h.state
    exact .closed ⟨hc.timer.trans h.timer, hc.scheduled.trans h.scheduled,
      hc.operation.trans h.operation, hlvl, hne, h.start, h.answered, hv.closing h.closing⟩

end Life

variable {x y : Note}

theorem NoneBehind.tail {z : Note} (h : NoneBehind x y (z :: q)) : NoneBehind x y q := by
  unfold NoneBehind at *
  rw [dropWhile_cons] at h
  split_ifs at h
  · exact h
  · exact fun hin => h (mem_cons_of_mem _ ((dropWhile_sublist _).subset hin))

/-- What comes behind `x` is not `y`. -/
theorem NoneBehind.head (h : NoneBehind x y (x :: q)) : y ∉ q := by
  unfold NoneBehind at h
  rw [dropWhile_cons_of_neg (by simp)] at h
  exact fun hin => h (mem_cons_of_mem _ hin)

theorem NoneBehind.of_notMem (h : x ∉ q) : NoneBehind x y q := by
  unfold NoneBehind
  have hnone : q.dropWhile (· ≠ x) = [] :=
    dropWhile_eq_nil_iff.2 fun z hz => decide_eq_true fun heq => h (heq ▸ hz)
  rw [hnone]
  exact not_mem_nil

theorem NoneBehind.concat (hx : x ∉ q) (hne : y ≠ x) : NoneBehind x y (q ++ [x]) := by
  have hpass : ∀ z ∈ q, decide (z ≠ x) = true :=
    fun z hz => decide_eq_true fun heq => hx (heq ▸ hz)
  unfold NoneBehind
  rw [dropWhile_append_of_pos hpass]
  simpa using hne

namespace Life

variable {p : Policy} {c : DataCtx} {q : List Note} {asked : Option (Option Result)} {v : Recoveries}
  {dataId : Nat} {a : Answers}

/-- What a handler for the data object leaves, with `asked` the call afterwards. -/
def Leaves (dataId : Nat) (c : DataCtx) (q : List Note) (asked : Option (Option Result))
    (cancelled : Bool)
    (v : Recoveries) (w : Work) : Prop :=
  Life w.ctx (q ++ w.posted.filterMap (SmEvent.note dataId)) asked
    (v.after dataId c.adminState w.ctx.adminState cancelled w.acts)

/-- A handler that does not change the state of the data object. -/
theorem after_of_nothing
    (h : after = before ∨ after.scheduledOperation = none) :
    v.Same (v.after dataId before after false []) := by
  unfold Recoveries.after
  have hsame : v.schedule before after = v := by
    unfold Recoveries.schedule
    rcases h with heq | hnone
    · split
      · exact if_pos heq.symm
      · rfl
    · rw [hnone]
  simp only [hsame, Bool.false_eq_true]
  exact Recoveries.same_fail

theorem leaves_idle (h : Life c q asked v) : Leaves dataId c q asked false v { ctx := c } := by
  unfold Leaves
  rw [show ({ ctx := c } : Work).posted.filterMap (SmEvent.note dataId) = [] from rfl, append_nil]
  exact h.calm .refl (after_of_nothing (Or.inl rfl))

theorem leaves_scheduleL1 (h : Life c q asked v) (hcare : p.level ≠ .none →
      if c.AwaitsRecovery then c.wasL1ConnectivityRecoveryDone = false → Unhindered q
      else c.recoveryOperation = .none) :
    Leaves dataId c q asked false v (eventL1ConnRecoverySchedule p dataId { ctx := c }) := by
  have hreco := h.recovers
  unfold eventL1ConnRecoverySchedule
  split_ifs with hlvl hst hdone
  · exact h.leaves_idle
  · have hque : Unhindered q := by
      have hif := hcare hlvl
      rw [if_pos (show c.AwaitsRecovery from hst)] at hif
      exact hif hdone
    have hne : c.adminState ≠ .recoveryScheduledL1 := by
      rcases hst with hst | hst
      all_goals
        intro heq
        cases heq.symm.trans hst
    refine .armed ⟨rfl, rfl, rfl, hdone, rfl, ?_, ?_⟩
    · simpa using hque
    · exact Recoveries.same_fail.fresh
        (fresh_schedule hreco.stray hreco.proper hne)
  · -- The radio has been switched off since the session was up.
    cases h with
    | unscheduled h | armed h | expired h => exact absurd h.done hdone
    | closed h =>
      refine .closed ⟨h.timer, h.scheduled, h.operation, le_refl 1, nofun, ?_, h.answered, ?_⟩
      · simpa [SmEvent.note] using h.start
      · rw [show (_ : List Note) ++ _ = q by simp [SmEvent.note]]
        exact Recoveries.same_fail.closing (h.closing.tell (Or.inl ⟨rfl, rfl⟩))
  · have hnone : c.recoveryOperation = .none := by
      have hif := hcare hlvl
      rwa [if_neg (show ¬ c.AwaitsRecovery from hst)] at hif
    cases h with
    | unscheduled h =>
      have hsame : v.Same (v.after dataId c.adminState .recoveryCanceledL1 false []) :=
        after_of_nothing (Or.inr rfl)
      refine .unscheduled ⟨h.timer, h.scheduled, h.operation, h.done, le_refl 1, nofun, ?_,
        hsame.1.trans h.schedules, hsame.2.trans h.stray⟩
      simpa [SmEvent.note] using h.start
    | armed h | expired h | closed h => cases hnone.symm.trans h.operation

theorem leaves_startL1 (h : Life c (.start :: q) asked v) :
    Leaves dataId c q asked false v (eventL1ConnRecoveryStart dataId a { ctx := c }) := by
  cases h with
  | unscheduled h | closed h => exact absurd mem_cons_self h.start
  | armed h => exact absurd mem_cons_self h.queue.1
  | expired h =>
    obtain ⟨hlvl, hne, -⟩ := h.level
    have hsta : .start ∉ q := by
      have hcnt := h.start
      rw [count_cons_self] at hcnt
      exact count_eq_zero.1 (succ.inj hcnt)
    have hintr : .interrupted ∉ q := h.interrupted.head
    have hindi : .indicate ∉ q := fun hin => h.indicate (mem_cons_of_mem _ hin)
    have halon := h.alone
    subst halon
    unfold eventL1ConnRecoveryStart
    split_ifs with hcall
    · refine .closed ⟨h.timer, rfl, h.operation, le_refl 1, nofun, ?_, nofun, ?_⟩
      · simpa [SmEvent.note] using hsta
      have hone : indications (q ++ [.interrupted]) none = 1 := by
        unfold indications
        simp [count_eq_zero.2 hintr, count_eq_zero.2 hindi]
      have hsame : v.Same (v.after dataId c.adminState .recoveryFailedL1 false []) :=
        after_of_nothing (Or.inr rfl)
      refine hsame.closing ?_
      simp only [Work.post, Work.setState, Work.update, Work.reconnect, SmEvent.note, nil_append,
        filterMap_cons, if_true, filterMap_nil, hone]
      exact h.fresh.closing
    · refine .closed ⟨h.timer, rfl, h.operation, hlvl, hne, ?_, nofun, ?_⟩
      · simpa using hsta
      have hzero : indications q none = 0 := by
        unfold indications
        simp [count_eq_zero.2 hintr, count_eq_zero.2 hindi]
      have hsame : v.Same (v.schedule c.adminState c.adminState) := by
        unfold schedule
        rw [scheduledOperation_eq_none hlvl hne]
        exact ⟨rfl, rfl⟩
      simp only [Work.act, Work.update, Work.reportRecoveryEvent, Work.reconnect, filterMap_nil,
        append_nil, hzero]
      exact Recoveries.same_fail.closing (hsame.fresh h.fresh).start

theorem leaves_cancelSync (h : Life c (.cancel :: q) (some none) v) :
    Leaves dataId c q (some (some (eventConnRecoveryCancelSync { ctx := c }).1))
      (decide ((eventConnRecoveryCancelSync { ctx := c }).1 = .ok)) v
      (eventConnRecoveryCancelSync { ctx := c }).2 := by
  unfold eventConnRecoveryCancelSync
  cases h with
  | unscheduled h =>
    have hst : c.adminState.canceled c.recoveryOperation = c.adminState := by
      rw [h.operation]
      rfl
    have hsame :
        v.Same (v.after dataId c.adminState (c.adminState.canceled c.recoveryOperation) false []) :=
      after_of_nothing (Or.inl hst)
    rw [show (if ({ ctx := c } : Work).ctx.recoveryScheduleTimer = true then Result.ok else .notFound) =
      .notFound from if_neg (by simp [h.timer])]
    refine .unscheduled ⟨rfl, rfl, h.operation, h.done, ?_, ?_, ?_, hsame.1.trans h.schedules,
      hsame.2.trans h.stray⟩
    · change (c.adminState.canceled c.recoveryOperation).recoveryLevel ≤ 1
      rw [hst]
      exact h.level
    · change c.adminState.canceled c.recoveryOperation ≠ _
      rw [hst]
      exact h.state
    · simpa using fun hin => h.start (mem_cons_of_mem _ hin)
  | armed h =>
    have hst : c.adminState.canceled c.recoveryOperation = .recoveryCanceledL1 := by
      rw [h.operation]
      rfl
    have hintr : .interrupted ∉ q := h.queue.2.2.head
    have hindi : .indicate ∉ q := fun hin => h.queue.2.1 (mem_cons_of_mem _ hin)
    rw [show (if ({ ctx := c } : Work).ctx.recoveryScheduleTimer = true then Result.ok else .notFound) =
      .ok from if_pos h.timer]
    refine .closed ⟨rfl, rfl, h.operation, ?_, ?_, ?_, nofun, ?_⟩
    · simp [hst, AdminState.recoveryLevel]
    · simp [hst]
    · simpa using fun hin => h.queue.1 (mem_cons_of_mem _ hin)
    have hone : indications q (some (some .ok)) = 1 := by
      unfold indications
      simp [count_eq_zero.2 hintr, count_eq_zero.2 hindi]
    have hsame : v.Same (v.schedule c.adminState (c.adminState.canceled c.recoveryOperation)) := by
      rw [hst]
      exact ⟨rfl, rfl⟩
    simp only [Work.cancel, Work.update, filterMap_nil, append_nil, hone]
    exact Recoveries.same_fail.closing (hsame.fresh h.fresh).cancel
  | expired h => cases h.alone
  | closed h => exact absurd rfl h.answered

theorem leaves_cancelSendInd (h : Life c (.indicate :: q) asked v) :
    Leaves dataId c q asked false v (eventConnRecoveryCancelSendInd dataId { ctx := c }) := by
  unfold eventConnRecoveryCancelSendInd
  cases h with
  | unscheduled h =>
    rw [show ({ ctx := c } : Work).ctx.recoveryOperation = .none from h.operation]
    refine leaves_idle (.unscheduled { h with start := ?_ })
    exact fun hin => h.start (mem_cons_of_mem _ hin)
  | armed h => exact absurd mem_cons_self h.queue.2.1
  | expired h => exact absurd mem_cons_self h.indicate
  | closed h =>
    rw [show ({ ctx := c } : Work).ctx.recoveryOperation = .radioOffOn from h.operation]
    have hsta : .start ∉ q := fun hin => h.start (mem_cons_of_mem _ hin)
    refine .closed ⟨h.timer, h.scheduled, h.operation, h.level, h.state, ?_, h.answered, ?_⟩
    · simpa using hsta
    have hsame : v.Same (v.schedule c.adminState c.adminState) := by
      unfold schedule
      rw [scheduledOperation_eq_none h.level h.state]
      exact ⟨rfl, rfl⟩
    have hcnt : indications q asked + 1 = indications (.indicate :: q) asked := by
      unfold indications
      simp
      omega
    simp only [Work.act, Work.reportRecoveryEvent, filterMap_nil, append_nil]
    exact Recoveries.same_fail.closing ((hsame.closing h.closing).tell (Or.inr ⟨rfl, hcnt⟩))

/-- The interruption is over; the retry timer may have been started. -/
theorem leaves_interrupted (h : Life c (.interrupted :: q) asked v) :
    Leaves dataId c q asked false v (eventConnRecoveryInterrupted p dataId { ctx := c }) := by
  have hdrop {n : Note} (hn : n ∉ Note.interrupted :: q) : n ∉ q := fun hin =>
    hn (mem_cons_of_mem _ hin)
  have hretr (hintr : c.recoveryOperation.Interrupted c.adminState) : ∃ c', c.Calm c' ∧
      c'.adminState = c.adminState ∧ eventConnRecoveryInterrupted p dataId { ctx := c } =
        { ctx := c', posted := [.recoveryCancelSendInd dataId] } := by
    unfold eventConnRecoveryInterrupted
    dsimp only
    split_ifs
    · exact ⟨{ c with recoveryRetryTimer := true }, ⟨rfl, rfl, rfl, id, Or.inl rfl⟩, rfl, rfl⟩
    · exact ⟨c, .refl, rfl, rfl⟩
  have hnoth (hnot : ¬ c.recoveryOperation.Interrupted c.adminState) :
      eventConnRecoveryInterrupted p dataId { ctx := c } = { ctx := c } := if_neg hnot
  cases h with
  | unscheduled h =>
    obtain ⟨c', hc, hst, hw⟩ := hretr (h.operation ▸ trivial)
    rw [hw]
    unfold Leaves
    rw [hst]
    refine calm (.unscheduled { h with start := ?_ }) hc (after_of_nothing (Or.inl rfl))
    simpa [SmEvent.note] using hdrop h.start
  | armed h =>
    have hnot : ¬ c.recoveryOperation.Interrupted c.adminState := by
      rw [h.operation, h.state]
      decide
    rw [hnoth hnot]
    exact leaves_idle (.armed { h with
      queue := ⟨hdrop h.queue.1, hdrop h.queue.2.1, h.queue.2.2.tail⟩ })
  | expired h =>
    have hnot : ¬ c.recoveryOperation.Interrupted c.adminState := by
      rw [h.operation]
      exact h.level.2.2
    rw [hnoth hnot]
    exact leaves_idle (.expired { h with
      start := h.start
      indicate := hdrop h.indicate
      interrupted := h.interrupted.tail })
  | closed h =>
    by_cases hintr : c.recoveryOperation.Interrupted c.adminState
    · obtain ⟨c', hc, hst, hw⟩ := hretr hintr
      rw [hw]
      unfold Leaves
      rw [hst]
      refine calm (.closed { h with start := ?_, closing := ?_ }) hc (after_of_nothing (Or.inl rfl))
      · simpa [SmEvent.note] using hdrop h.start
      refine h.closing.mono ?_
      unfold indications
      simp [SmEvent.note]
      omega
    · rw [hnoth hintr]
      refine leaves_idle (.closed { h with start := hdrop h.start, closing := h.closing.mono ?_ })
      unfold indications
      simp

theorem leaves_expired (h : Life c q none v) (hruns : c.recoveryScheduleTimer = true) :
    Leaves dataId c q none false v (recoveryScheduleTimerHandler dataId { ctx := c }) := by
  cases h with
  | unscheduled h | expired h | closed h => exact absurd hruns (by simp [h.timer])
  | armed h =>
    obtain ⟨hsta, hindi, -⟩ := h.queue
    unfold recoveryScheduleTimerHandler
    simp only [Work.update, h.state]
    have hsame : v.Same (v.after dataId c.adminState .recoveryStartedL1 false []) :=
      after_of_nothing (Or.inr rfl)
    have hque : q ++ [SmEvent.recoveryStartL1 dataId].filterMap (SmEvent.note dataId) =
        q ++ [.start] := by
      simp [SmEvent.note]
    refine .expired ⟨rfl, h.scheduled, h.operation, h.done, Or.inr rfl, ?_, ?_, ?_, rfl,
      hsame.fresh h.fresh⟩
    all_goals
      simp only [Work.post, Work.setState, Work.update, nil_append]
      rw [hque]
    · simp [count_eq_zero.2 hsta]
    · simpa using hindi
    · exact .concat hsta nofun

theorem returned {r : Result} (h : Life c q (some (some r)) v) (hcanc : .cancel ∉ q) :
    Life c (q ++ [.interrupted]) none v := by
  cases h with
  | unscheduled h => exact .unscheduled { h with start := by simpa using h.start }
  | armed h =>
    refine .armed { h with queue := ⟨by simpa using h.queue.1, by simpa using h.queue.2.1, ?_⟩ }
    exact .of_notMem (by simpa using hcanc)
  | expired h => cases h.alone
  | closed h =>
    refine .closed { h with start := by simpa using h.start, answered := nofun, closing := ?_ }
    refine h.closing.mono ?_
    unfold indications
    simp
    omega

/-- A client asks for the cancellation of a recovery that is scheduled, or of none. -/
theorem asks (h : Life c q none v) (hcanc : .cancel ∉ q)
    (hst : c.recoveryOperation.Cancelable c.adminState) : Life c (q ++ [.cancel]) (some none) v := by
  cases h with
  | unscheduled h => exact .unscheduled { h with start := by simpa using h.start }
  | armed h =>
    exact .armed { h with
      queue := ⟨by simpa using h.queue.1, by simpa using h.queue.2.1, .concat hcanc nofun⟩ }
  | expired h =>
    rw [h.operation] at hst
    exact absurd hst h.level.2.1
  | closed h =>
    rw [h.operation] at hst
    exact absurd hst h.state

theorem level (h : Life c q asked v) : c.adminState.recoveryLevel ≤ 1 := by
  cases h with
  | unscheduled h | closed h => exact h.level
  | armed h =>
    rw [h.state]
    decide
  | expired h => exact h.level.1

end Life

end TelAF.MngdConn
