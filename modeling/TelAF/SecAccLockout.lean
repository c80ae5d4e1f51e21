import TelAF.SecAccThread

/-!
# Queue, delay timer and lockout of the security-access thread

`QueueOrder` is what the waiting of the main thread guarantees about the queue.
`Locking` relates the levels at their limit to the delay timer, to a queued expiry of
it and to the lockout that is observed: the level that is locked out is active as long
as its delay runs, so that the expiry resets the counter of this level and no other.
-/

namespace TelAF.SecAccLockout

open DiagConfiguration UdsState UdsIndications SecurityAccess SecAccMoves SecAccInvariants List
  SecAccThread

/-- Every level can be tried at least once, and identifiers tell the levels apart. -/
structure Provisioned (T : SessionTable) : Prop extends DistinctIds T where
  positive : ∀ level, Configured T level → 1 ≤ level.attCntLimit

def Expiring (queue : List Entry) : Prop := ∃ entry ∈ queue, entry.sig = .delayTimerExpired

/-- No delay runs and no level is at its limit. -/
def Calm (T : SessionTable) (ao : ActiveObject) : Prop :=
  ao.delayTimer = none ∧ ∀ level, ¬ AtLimit T ao.attCnt level

/-- What follows from the waiting of the main thread: at most one answer is queued, a
request that is pending was the last exchange, and nothing follows an awaited signal
but the signals of the timers. -/
structure QueueOrder (w : Worker) : Prop where
  answers : w.queue.Pairwise fun a b => isAnswer a.sig = true → isAnswer b.sig = false
  unanswered : ∀ sig, w.pending = some sig → ∀ entry ∈ w.queue, isExchange entry.sig = false
  awaitedLast : w.queue.Pairwise fun a b =>
    a.awaited = true → isExchange b.sig = false ∧ b.awaited = false
  notAwaited : w.mainWaits = false → ∀ entry ∈ w.queue, entry.awaited = false

/-- The levels at their limit, the delay timer and the observed lockout. -/
structure Locking (T : SessionTable) (ao : ActiveObject) (lockout : Option Lockout)
    (expiring : Prop) : Prop where
  single : ∀ level other, AtLimit T ao.attCnt level → AtLimit T ao.attCnt other → level = other
  armed : ∀ level, AtLimit T ao.attCnt level → ao.delayTimer.isSome = true ∨ expiring →
    ao.active = some level
  fresh : ∀ level, AtLimit T ao.attCnt level → ao.delayTimer = none → ¬ expiring →
    ∀ position, ao.activeLevel position = none
  locked : ∀ level, AtLimit T ao.attCnt level → ∃ elapsed, lockout = some ⟨level, elapsed⟩
  lockedAt : ∀ k, lockout = some k → AtLimit T ao.attCnt k.level
  interval : ∀ k d, lockout = some k → ao.delayTimer = some d → d = k.level.delayTimer * 1000
  elapsed : ∀ k, lockout = some k → expiring → k.elapsed = true

variable {T : SessionTable} {w : Worker} {sig : SecAccSignal}

theorem isExchange_of_isAnswer (h : isAnswer sig = true) : isExchange sig = true := by
  unfold isExchange
  rw [h, Bool.or_true]

theorem isAnswer_of_not_isExchange (h : isExchange sig = false) : isAnswer sig = false := by
  by_contra hansw
  rw [isExchange_of_isAnswer (by simpa using hansw)] at h
  cases h

section

variable (h : QueueOrder w)
include h

theorem queueOrder_report_main (hwts : w.mainWaits = false)
    (hansw : isAnswer sig = true → w.pending = some sig) : QueueOrder (report w sig true) where
  answers := by
    refine pairwise_append.2 ⟨h.answers, pairwise_singleton _ _, ?_⟩
    intro a ha b hb hisAn
    cases mem_singleton.1 hb
    by_contra hsig
    have hpend := hansw (by simpa using hsig)
    rw [isAnswer_of_not_isExchange (h.unanswered sig hpend a ha)] at hisAn
    cases hisAn
  unanswered := by
    intro pending hpend entry hent
    change (if isExchange sig = true then none else w.pending) = some pending at hpend
    split_ifs at hpend with hsig
    rcases mem_append.1 hent with hmem | hmem
    · exact h.unanswered pending hpend entry hmem
    · cases mem_singleton.1 hmem
      simpa using hsig
  awaitedLast := by
    refine pairwise_append.2 ⟨h.awaitedLast, pairwise_singleton _ _, ?_⟩
    intro a ha b hb hawt
    rw [h.notAwaited hwts a ha] at hawt
    cases hawt
  notAwaited := by
    intro hnot
    change (w.mainWaits || true) = false at hnot
    rw [Bool.or_true] at hnot
    cases hnot

theorem queueOrder_report_timer
    (hsig : isExchange sig = false) : QueueOrder (report w sig false) where
  answers := by
    refine pairwise_append.2 ⟨h.answers, pairwise_singleton _ _, ?_⟩
    intro a _ b hb _
    cases mem_singleton.1 hb
    exact isAnswer_of_not_isExchange hsig
  unanswered := by
    intro pending hpend entry hent
    change (if isExchange sig = true then none else w.pending) = some pending at hpend
    rw [if_neg (by simp [hsig])] at hpend
    rcases mem_append.1 hent with hmem | hmem
    · exact h.unanswered pending hpend entry hmem
    · cases mem_singleton.1 hmem
      exact hsig
  awaitedLast := by
    refine pairwise_append.2 ⟨h.awaitedLast, pairwise_singleton _ _, ?_⟩
    intro a _ b hb _
    cases mem_singleton.1 hb
    exact ⟨hsig, rfl⟩
  notAwaited := by
    intro hnot entry hent
    change (w.mainWaits || false) = false at hnot
    rw [Bool.or_false] at hnot
    rcases mem_append.1 hent with hmem | hmem
    · exact h.notAwaited hnot entry hmem
    · cases mem_singleton.1 hmem
      rfl

theorem queueOrder_abandon : QueueOrder (abandon w) where
  answers := pairwise_map.2 (h.answers.imp fun hab => hab)
  unanswered := by
    intro pending hpend entry hent
    obtain ⟨old, hold, rfl⟩ := mem_map.1 hent
    exact h.unanswered pending hpend old hold
  awaitedLast := by
    refine pairwise_map.2 (h.awaitedLast.imp fun _ hawt => ?_)
    cases hawt
  notAwaited := by
    intro _ entry hent
    obtain ⟨old, _, rfl⟩ := mem_map.1 hent
    rfl

theorem queueOrder_finish {entry : Entry} {rest : List Entry}
    (hque : w.queue = entry :: rest) (ao : ActiveObject) (tree : Tree) (reply : Reply) :
    QueueOrder (finishSignal T w entry rest ao tree reply) where
  answers := by
    have hans := h.answers
    rw [hque] at hans
    exact hans.of_cons
  unanswered := by
    intro pending hpend other hoth
    change (if forwarded entry reply = true then answerTo entry.sig else w.pending)
      = some pending at hpend
    split_ifs at hpend with hfwd
    · have hlast := h.awaitedLast
      rw [hque] at hlast
      have hawt : entry.awaited = true := by
        exact (Bool.and_eq_true_iff.1 hfwd).1
      exact ((pairwise_cons.1 hlast).1 other hoth hawt).1
    · exact h.unanswered pending hpend other (hque ▸ mem_cons_of_mem _ hoth)
  awaitedLast := by
    have hlast := h.awaitedLast
    rw [hque] at hlast
    exact hlast.of_cons
  notAwaited := by
    intro hnot other hoth
    change (w.mainWaits && !(entry.awaited && reply != .ignored)) = false at hnot
    cases hawt : entry.awaited with
    | false =>
      rw [hawt, Bool.false_and, Bool.not_false, Bool.and_true] at hnot
      exact h.notAwaited hnot other (hque ▸ mem_cons_of_mem _ hoth)
    | true =>
      have hlast := h.awaitedLast
      rw [hque] at hlast
      exact ((pairwise_cons.1 hlast).1 other hoth hawt).2

end

theorem queueOrder_nil (h : w.queue = []) : QueueOrder w := by
  refine ⟨?_, ?_, ?_, ?_⟩ <;> simp [h]

variable {ao ao' : ActiveObject} {lockout : Option Lockout} {expiring expiring' : Prop}

/-- Without a level at its limit nothing is locked out, and nothing else is claimed. -/
theorem locking_open (hnone : ∀ level, ¬ AtLimit T ao.attCnt level) :
    Locking T ao none expiring where
  single := fun level _ hlvl => absurd hlvl (hnone level)
  armed := fun level hlvl => absurd hlvl (hnone level)
  fresh := fun level hlvl => absurd hlvl (hnone level)
  locked := fun level hlvl => absurd hlvl (hnone level)
  lockedAt := fun _ hk => by cases hk
  interval := fun _ _ hk => by cases hk
  elapsed := fun _ hk => by cases hk

section

variable (h : Locking T ao lockout expiring)
include h

theorem Locking.lockout_none (hnone : ∀ level, ¬ AtLimit T ao.attCnt level) : lockout = none := by
  cases hk : lockout with
  | none => rfl
  | some k => exact absurd (h.lockedAt k hk) (hnone k.level)

/-- Moves that keep the counters, the timer and the active levels keep the lockout. -/
theorem Locking.of_eq (hattC : ao'.attCnt = ao.attCnt)
    (htim : ao'.delayTimer = ao.delayTimer) (hact : ao'.active = ao.active)
    (hlvls : ao'.activeLevel = ao.activeLevel) (hexpg : expiring' ↔ expiring) :
    Locking T ao' lockout expiring' where
  single := by
    rw [hattC]
    exact h.single
  armed := by
    intro level hlvl hruns
    rw [hattC] at hlvl
    rw [hact]
    exact h.armed level hlvl (by rwa [htim, hexpg] at hruns)
  fresh := by
    intro level hlvl hstop hnot
    rw [hattC] at hlvl
    rw [hlvls]
    exact h.fresh level hlvl (htim ▸ hstop) fun he => hnot (hexpg.2 he)
  locked := by
    rw [hattC]
    exact h.locked
  lockedAt := by
    rw [hattC]
    exact h.lockedAt
  interval := by
    rw [htim]
    exact h.interval
  elapsed := fun k hk he => h.elapsed k hk (hexpg.1 he)

/-- Rearming the delay timer concerns the level that is locked out. -/
theorem locking_delayed
    (hdly : delayTimerIsNotExpired T ao = some ao') (hexpg : expiring' ↔ expiring) :
    Locking T ao' lockout expiring' := by
  rcases delayTimer_running hdly with ⟨_, rfl⟩ | ⟨_, sess, level, hsess, hmem, hcnt, rfl⟩
  · exact h.of_eq rfl rfl rfl rfl hexpg
  have hlim : AtLimit T ao.attCnt level := ⟨⟨sess, hsess, hmem⟩, hcnt⟩
  obtain ⟨elapsed, hlko⟩ := h.locked level hlim
  refine ⟨h.single, fun other hoth _ => ?_, fun _ _ hstop => ?_, h.locked, h.lockedAt,
    fun k d hk hd => ?_, fun k hk he => h.elapsed k hk (hexpg.1 he)⟩
  · have hsame := h.single other level hoth hlim
    subst hsame
    simp [ActiveObject.active, ActiveObject.setActive, ActiveObject.triggerDelayTimer]
  · cases hstop
  · rw [hlko] at hk
    cases hk
    exact (Option.some.inj hd).symm

theorem rearmable_of_locking : Rearmable T ao := by
  intro hstop level hlvl
  by_cases he : expiring
  · exact .inl (h.armed level hlvl (.inr he))
  · exact .inr (h.fresh level hlvl hstop he)

end

theorem calm_of_delayTimer_expired (h : delayTimerIsNotExpired T ao = none) : Calm T ao :=
  delayTimer_expired h

theorem not_calm_of_delayTimer_running (h : delayTimerIsNotExpired T ao = some ao') :
    ¬ Calm T ao := by
  rintro ⟨hstop, hnone⟩
  rcases delayTimer_running h with ⟨hruns, _⟩ | ⟨_, sess, level, hsess, hmem, hcnt, _⟩
  · rw [hstop] at hruns
    cases hruns
  · exact hnone level ⟨⟨sess, hsess, hmem⟩, hcnt⟩

theorem observeLockout_kept (hT : Provisioned T) (h : Locking T ao lockout expiring) :
    observeLockout T ao lockout = lockout := by
  cases hk : lockout with
  | none =>
    unfold observeLockout
    rcases hlim : levelAtLimit T ao with _ | pair
    · rfl
    obtain ⟨hsess, hmem, hcnt⟩ := levelAtLimit_eq_some hlim
    obtain ⟨elapsed, hlkd⟩ := h.locked pair.2 ⟨⟨pair.1, hsess, hmem⟩, hcnt⟩
    rw [hk] at hlkd
    cases hlkd
  | some k =>
    have hat := h.lockedAt k hk
    have hpositive := hT.positive k.level hat.1
    have hcnt := hat.2
    unfold observeLockout
    dsimp only
    rw [if_neg]
    rintro ⟨_, hzero⟩
    omega

end TelAF.SecAccLockout
