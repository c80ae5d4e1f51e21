import TelAF.SecAccLockout
import TelAF.UdsDiagIndication

/-!
# The bound on key attempts

A level whose attempt counter reaches its limit locks out every seed and key request
until its delay has elapsed and its counter is reset. `Secured` is the invariant of
all runs in which the application answers nothing but the request that it was given
last: whenever the delay timer runs, or a level is at its limit, no key is awaited and
no answer is owed or queued.

A late answer breaks the bound: the states without a seed accept the answer to a seed
request whether or not one is pending, and the states that wait for a key forward
requests without a look at the delay timer.
-/

namespace TelAF.BruteForce

open DiagConfiguration UdsState UdsIndications SecurityAccess SecAccMoves SecAccInvariants
  Function Option List SecAccThread SecAccLockout TransitionRuns UdsDiagIndication

structure Secured (T : SessionTable) (w : Worker) : Prop where
  order : QueueOrder w
  placed : Placed T w.ao
  counted : Counted T w.ao.attCnt w.tree
  locking : Locking T w.ao w.lockout (Expiring w.queue)
  blocked : ¬ Calm T w.ao → w.ao.state.isWaiting = false ∧ w.pending = none ∧
    ∀ entry ∈ w.queue, isAnswer entry.sig = false
  expiring : Expiring w.queue → w.ao.state.isWaiting = false
  expiryFirst : w.queue.Pairwise fun a b => isAnswer a.sig = true → b.sig ≠ .delayTimerExpired
  forwards : ∀ locked ∈ w.forwards, locked = none

section
variable {T : SessionTable} {w : Worker} {ao ao' : ActiveObject}

/-! The invariant along the steps of the thread. -/

variable {entry : Entry} {rest : List Entry}

theorem expiring_cons_of_ne
    (hsig : entry.sig ≠ .delayTimerExpired) : Expiring rest ↔ Expiring (entry :: rest) := by
  unfold Expiring
  simp [hsig]

/-- While nothing is locked out an answer may be queued and a key may be awaited. -/
theorem Secured.calm_of_waiting (h : Secured T w) (hst : w.ao.state.isWaiting = true) :
    Calm T w.ao := by
  by_contra hcalm
  rw [(h.blocked hcalm).1] at hst
  cases hst

theorem Secured.calm_of_answer (h : Secured T w)
    (hque : w.queue = entry :: rest) (hansw : isAnswer entry.sig = true) : Calm T w.ao := by
  by_contra hcalm
  rw [(h.blocked hcalm).2.2 entry (hque ▸ mem_cons_self)] at hansw
  cases hansw

variable {m : UdsManager} {tree' : Tree} {reply : Reply}

section

variable (h : Secured T w) (hT : Provisioned T) (hque : w.queue = entry :: rest)
include h hT hque

/-- What remains to be shown of a dispatched signal, after the order of the queue. -/
theorem secured_finish {ao' : ActiveObject} (move : Move T w.ao w.tree m entry.sig ao' tree' reply)
    (hlkg : Locking T ao' (observeLockout T ao' w.lockout) (Expiring rest))
    (hbloc : ¬ Calm T ao' → ao'.state.isWaiting = false ∧ w.pending = none ∧
      forwarded entry reply = false ∧ ∀ other ∈ rest, isAnswer other.sig = false)
    (hexpg : Expiring rest → ao'.state.isWaiting = false)
    (hfwd : forwarded entry reply = true → w.lockout = none) :
    Secured T (finishSignal T w entry rest ao' tree' reply) where
  order := queueOrder_finish h.order hque ao' tree' reply
  placed := placed_move h.placed (rearmable_of_locking h.locking) move
  counted := counted_move hT.toDistinctIds h.placed h.counted move
  locking := hlkg
  blocked := by
    intro hcalm
    obtain ⟨hst, hpend, hnot, hans⟩ := hbloc hcalm
    refine ⟨hst, ?_, hans⟩
    change (if forwarded entry reply = true then answerTo entry.sig else w.pending) = none
    rw [hnot]
    exact hpend
  expiring := hexpg
  expiryFirst := by
    have hfst := h.expiryFirst
    rw [hque] at hfst
    exact hfst.of_cons
  forwards := by
    intro locked hlkd
    change locked ∈ (if forwarded entry reply = true then
      w.lockout.map Lockout.level :: w.forwards else w.forwards) at hlkd
    split_ifs at hlkd with hf
    · rcases mem_cons.1 hlkd with rfl | hmem
      · rw [hfwd hf]
        rfl
      · exact h.forwards locked hmem
    · exact h.forwards locked hlkd

theorem secured_finish_calm {ao' : ActiveObject}
    (move : Move T w.ao w.tree m entry.sig ao' tree' reply)
    (hbef : Calm T w.ao) (haft : Calm T ao')
    (hexpg : Expiring rest → ao'.state.isWaiting = false) :
    Secured T (finishSignal T w entry rest ao' tree' reply) := by
  have hlko : w.lockout = none := h.locking.lockout_none hbef.2
  refine secured_finish h hT hque move ?_ (fun hcalm => absurd haft hcalm) hexpg
    fun _ => hlko
  rw [hlko, observeLockout, levelAtLimit_of_none haft.2]
  exact locking_open haft.2

/-- A dispatch that keeps the counters, the timer and the active levels. -/
theorem secured_finish_same {ao' : ActiveObject}
    (move : Move T w.ao w.tree m entry.sig ao' tree' reply)
    (hsig : entry.sig ≠ .delayTimerExpired) (hattC : ao'.attCnt = w.ao.attCnt)
    (htim : ao'.delayTimer = w.ao.delayTimer) (hact : ao'.active = w.ao.active)
    (hlvls : ao'.activeLevel = w.ao.activeLevel)
    (hst : ao'.state = w.ao.state ∨ ao'.state = w.ao.state.withoutSeed)
    (hfwd : forwarded entry reply = true → Calm T w.ao) :
    Secured T (finishSignal T w entry rest ao' tree' reply) := by
  have hidle : w.ao.state.isWaiting = false → ao'.state.isWaiting = false := by
    intro hnot
    rcases hst with heq | heq
    · rw [heq, hnot]
    · rw [heq, SecAccState.isWaiting_withoutSeed]
  have hcalm : Calm T ao' ↔ Calm T w.ao := by
    unfold Calm
    rw [hattC, htim]
  have hrest : Expiring rest ↔ Expiring w.queue := by
    rw [hque]
    exact expiring_cons_of_ne hsig
  have hlkg := h.locking.of_eq hattC htim hact hlvls hrest
  refine secured_finish h hT hque move ?_ ?_ ?_ ?_
  · rw [observeLockout_kept hT hlkg]
    exact hlkg
  · intro hnot
    rw [hcalm] at hnot
    obtain ⟨hwait, hpend, hans⟩ := h.blocked hnot
    refine ⟨hidle hwait, hpend, ?_, fun other hoth => ?_⟩
    · by_contra hf
      exact hnot (hfwd (by simpa using hf))
    · exact hans other (hque ▸ mem_cons_of_mem _ hoth)
  · exact fun he => hidle (h.expiring (hrest.1 he))
  · exact fun hf => h.locking.lockout_none (hfwd hf).2

theorem secured_finish_delayed {after ao' : ActiveObject}
    (move : Move T w.ao w.tree m entry.sig ao' tree' reply) (hsig : entry.sig ≠ .delayTimerExpired)
    (hdly : delayTimerIsNotExpired T w.ao = some after) (hattC : ao'.attCnt = after.attCnt)
    (htim : ao'.delayTimer = after.delayTimer) (hact : ao'.active = after.active)
    (hlvls : ao'.activeLevel = after.activeLevel) (hst : ao'.state.isWaiting = false)
    (hnot : forwarded entry reply = false) :
    Secured T (finishSignal T w entry rest ao' tree' reply) := by
  have hrest : Expiring rest ↔ Expiring w.queue := by
    rw [hque]
    exact expiring_cons_of_ne hsig
  have hlkg : Locking T ao' w.lockout (Expiring rest) :=
    (locking_delayed h.locking hdly Iff.rfl).of_eq hattC htim hact hlvls hrest
  obtain ⟨_, hpend, hans⟩ := h.blocked (not_calm_of_delayTimer_running hdly)
  refine secured_finish h hT hque move ?_ (fun _ => ?_) (fun _ => hst) fun hf => ?_
  · rw [observeLockout_kept hT hlkg]
    exact hlkg
  · exact ⟨hst, hpend, hnot, fun other hoth =>
      hans other (hque ▸ mem_cons_of_mem _ hoth)⟩
  · rw [hnot] at hf
    cases hf

end

variable {level : SecurityLevel}

theorem calm_setAttCnt (hcalm : Calm T ao) {n : Nat}
    (hn : n < level.attCntLimit) : Calm T (ao.setAttCnt level n) := by
  refine ⟨hcalm.1, fun other hoth => ?_⟩
  by_cases heq : other = level
  · subst heq
    have hcnt := hoth.2
    simp only [ActiveObject.setAttCnt, update_self] at hcnt
    omega
  · refine hcalm.2 other ⟨hoth.1, ?_⟩
    have hcnt := hoth.2
    simpa [ActiveObject.setAttCnt, heq] using hcnt

variable {tree : Tree}

theorem calm_clearAttempts (hT : Provisioned T) (hcalm : Calm T ao) (hlvl : Configured T level) :
    Calm T (clearAttempts ao tree level).1 := by
  unfold clearAttempts
  split_ifs
  · exact calm_setAttCnt hcalm (hT.positive level hlvl)
  · exact hcalm

theorem secured_keyLimited (h : Secured T w) (hT : Provisioned T) (hque : w.queue = entry :: rest)
    (hsig : entry.sig = .sendKeyResponse)
    (hst : w.ao.state.isWaiting = true) (hact : w.ao.active = some level)
    (move : Move T w.ao w.tree m entry.sig
      (((w.ao.setAttCnt level level.attCntLimit).triggerDelayTimer level).translate
        w.ao.state.withoutSeed) tree' (.setResponseNRC exceededNumberOfAttempts)) :
    Secured T (finishSignal T w entry rest
      (((w.ao.setAttCnt level level.attCntLimit).triggerDelayTimer level).translate
        w.ao.state.withoutSeed) tree' (.setResponseNRC exceededNumberOfAttempts)) := by
  have hcalm := h.calm_of_waiting hst
  have hansw : isAnswer entry.sig = true := by rw [hsig]; rfl
  have hlko : w.lockout = none := h.locking.lockout_none hcalm.2
  have hnot : forwarded entry (.setResponseNRC exceededNumberOfAttempts) = false := by
    unfold forwarded
    rw [Bool.and_eq_false_iff]
    exact .inr rfl
  have hnone : ¬ Expiring rest := by
    rintro ⟨other, hoth, hexpd⟩
    have hwait := h.expiring ⟨other, hque ▸ mem_cons_of_mem _ hoth, hexpd⟩
    rw [hst] at hwait
    cases hwait
  have hconf := h.placed.configured hact
  have honly : ∀ other, AtLimit T (w.ao.setAttCnt level level.attCntLimit).attCnt other →
      other = level := by
    intro other hoth
    by_contra hne
    refine hcalm.2 other ⟨hoth.1, ?_⟩
    simpa [ActiveObject.setAttCnt, hne] using hoth.2
  have hat : AtLimit T (w.ao.setAttCnt level level.attCntLimit).attCnt level :=
    ⟨hconf, by simp [ActiveObject.setAttCnt]⟩
  have hobse : observeLockout T (((w.ao.setAttCnt level level.attCntLimit).triggerDelayTimer
      level).translate w.ao.state.withoutSeed) w.lockout = some ⟨level, false⟩ := by
    rw [hlko, observeLockout]
    cases hlim : levelAtLimit T (((w.ao.setAttCnt level level.attCntLimit).triggerDelayTimer
        level).translate w.ao.state.withoutSeed) with
    | none => exact absurd hat (levelAtLimit_eq_none hlim level)
    | some pair =>
      obtain ⟨hsess, hmem, hcnt⟩ := levelAtLimit_eq_some hlim
      rw [map_some, honly pair.2 ⟨⟨pair.1, hsess, hmem⟩, hcnt⟩]
  refine secured_finish h hT hque move ?_ (fun _ => ?_)
    (fun _ => SecAccState.isWaiting_withoutSeed _) fun _ => hlko
  · rw [hobse]
    refine ⟨fun l other hl hoth => (honly l hl).trans (honly other hoth).symm,
      fun l hl _ => ?_, fun _ _ hstop => ?_, fun l hl => ⟨false, by rw [honly l hl]⟩,
      fun k hk => ?_, fun k d hk hd => ?_, fun _ _ he => absurd he hnone⟩
    · rw [honly l hl]
      exact hact
    · cases hstop
    · cases hk
      exact hat
    · cases hk
      exact (some.inj hd).symm
  · refine ⟨SecAccState.isWaiting_withoutSeed _, ?_, hnot, fun other hoth => ?_⟩
    · rcases hpend : w.pending with _ | sig
      · rfl
      have hexch := h.order.unanswered sig hpend entry (hque ▸ mem_cons_self)
      rw [isExchange_of_isAnswer hansw] at hexch
      cases hexch
    · have hans := h.order.answers
      rw [hque] at hans
      exact (pairwise_cons.1 hans).1 other hoth hansw

theorem secured_delayExpired (h : Secured T w) (hT : Provisioned T)
    (hque : w.queue = entry :: rest) {ao' : ActiveObject} (hsig : entry.sig = .delayTimerExpired)
    (hact : w.ao.active = some level) (hattC : ao'.attCnt = (w.ao.setAttCnt level 0).attCnt)
    (htim : ao'.delayTimer = w.ao.delayTimer) (hst : ao'.state.isWaiting = false)
    (move : Move T w.ao w.tree m entry.sig ao' tree' .ignored) :
    Secured T (finishSignal T w entry rest ao' tree' .ignored) := by
  have hqd : Expiring w.queue := ⟨entry, hque ▸ mem_cons_self, hsig⟩
  have hposi := hT.positive level (h.placed.configured hact)
  have hnone : ∀ other, ¬ AtLimit T ao'.attCnt other := by
    intro other hoth
    rw [hattC] at hoth
    by_cases heq : other = level
    · subst heq
      have hcnt := hoth.2
      simp only [ActiveObject.setAttCnt, update_self] at hcnt
      omega
    have hbef : AtLimit T w.ao.attCnt other :=
      ⟨hoth.1, by simpa [ActiveObject.setAttCnt, heq] using hoth.2⟩
    have hsame := h.locking.armed other hbef (.inr hqd)
    rw [hact] at hsame
    exact heq (some.inj hsame).symm
  have hobse : observeLockout T ao' w.lockout = none := by
    rcases hk : w.lockout with _ | k
    · rw [observeLockout, levelAtLimit_of_none hnone, map_none]
    have hsame := h.locking.armed k.level (h.locking.lockedAt k hk) (.inr hqd)
    rw [hact] at hsame
    have hzero : ao'.attCnt k.level = 0 := by
      rw [hattC, ← some.inj hsame]
      simp [ActiveObject.setAttCnt]
    rw [observeLockout, if_pos ⟨h.locking.elapsed k hk hqd, hzero⟩]
  have hnot : forwarded entry .ignored = false := by
    unfold forwarded
    rw [Bool.and_eq_false_iff]
    exact .inr rfl
  refine secured_finish h hT hque move ?_ (fun hcalm => ?_) (fun _ => hst) fun hf => ?_
  · rw [hobse]
    exact locking_open hnone
  · have hbef : ¬ Calm T w.ao := by
      rintro ⟨hstop, _⟩
      exact hcalm ⟨htim.trans hstop, hnone⟩
    obtain ⟨_, hpend, hans⟩ := h.blocked hbef
    exact ⟨hst, hpend, hnot, fun other hoth =>
      hans other (hque ▸ mem_cons_of_mem _ hoth)⟩
  · rw [hnot] at hf
    cases hf

theorem not_forwarded_of_ne
    (h : reply ≠ .responseNRC positiveResponse) : forwarded entry reply = false := by
  unfold forwarded
  rw [Bool.and_eq_false_iff]
  exact .inr (beq_eq_false_iff_ne.2 h)

theorem delayed_state (h : delayTimerIsNotExpired T ao = some ao') : ao'.state = ao.state := by
  rcases delayTimer_running h with ⟨_, rfl⟩ | ⟨_, _, _, _, _, _, rfl⟩ <;> rfl

variable {sig : SecAccSignal}

theorem secured_move (h : Secured T w) (hT : Provisioned T)
    (hque : w.queue = entry :: rest) {ao' : ActiveObject} (hent : entry.sig = sig)
    (hmove : Move T w.ao w.tree m sig ao' tree' reply) :
    Secured T (finishSignal T w entry rest ao' tree' reply) := by
  have move : Move T w.ao w.tree m entry.sig ao' tree' reply := hent ▸ hmove
  have hidle : Expiring rest → w.ao.state.isWaiting = false := by
    rintro ⟨other, hoth, hexpd⟩
    exact h.expiring ⟨other, hque ▸ mem_cons_of_mem _ hoth, hexpd⟩
  cases hmove with
  | refused sig next nrc hsig hnext hnrc =>
    refine secured_finish_same h hT hque move ?_ rfl rfl rfl rfl hnext fun hf => ?_
    · rcases hsig with rfl | rfl <;> rw [hent] <;> decide
    · rw [not_forwarded_of_ne (fun heq => hnrc (Reply.responseNRC.inj heq))] at hf
      cases hf
  | delayed after hst hdly =>
    refine secured_finish_delayed h hT hque move ?_ hdly rfl rfl rfl rfl ?_ ?_
    · rw [hent]
      decide
    · rw [delayed_state hdly, hst]
    · exact not_forwarded_of_ne (by decide)
  | zeroSeed level open_ hact hopen htype hnext =>
    refine secured_finish_same h hT hque move ?_ rfl rfl rfl rfl (.inr hnext.symm) fun hf => ?_
    · rw [hent]
      decide
    · rw [not_forwarded_of_ne Reply.noConfusion] at hf
      cases hf
  | seedForwarded hadmi =>
    refine secured_finish_same h hT hque move ?_ rfl rfl rfl rfl (.inl rfl) fun _ => ?_
    · rw [hent]
      decide
    rcases hadmi with hwait | ⟨hdly, _⟩
    · exact h.calm_of_waiting hwait
    · exact calm_of_delayTimer_expired hdly
  | keyForwarded level hst hact htype =>
    refine secured_finish_same h hT hque move ?_ rfl rfl rfl rfl (.inl rfl) fun _ => ?_
    · rw [hent]
      decide
    · exact h.calm_of_waiting hst
  | answerRefused sig next hsig hnext hnrc =>
    subst hnext
    refine secured_finish_same h hT hque move ?_ rfl rfl rfl rfl (.inr rfl) fun hf => ?_
    · rcases hsig with rfl | rfl <;> rw [hent] <;> decide
    · rw [not_forwarded_of_ne Reply.noConfusion] at hf
      cases hf
  | seedActivated activated hnrc hactv =>
    have hansw : isAnswer entry.sig = true := by rw [hent]; rfl
    have hcalm := h.calm_of_answer hque hansw
    have haft : Calm T (activated.translate w.ao.state.withSeed) := by
      rcases activateSubfunction_spec h.placed hactv with ⟨rfl, _⟩ | ⟨_, _, _, _, rfl⟩ <;>
        exact hcalm
    refine secured_finish_calm h hT hque move hcalm haft ?_
    rintro ⟨other, hoth, hexpd⟩
    have hfst := h.expiryFirst
    rw [hque] at hfst
    exact absurd hexpd ((pairwise_cons.1 hfst).1 other hoth hansw)
  | seedRenewed level hnrc hst hact htype =>
    have hcalm := h.calm_of_waiting hst
    exact secured_finish_calm h hT hque move hcalm hcalm hidle
  | keyCounted level hnrc hst hact hcnt =>
    have hcalm := h.calm_of_waiting hst
    exact secured_finish_calm h hT hque move hcalm (calm_setAttCnt hcalm hcnt)
      fun _ => SecAccState.isWaiting_withoutSeed _
  | keyLimited level hnrc hst hact hcnt =>
    exact secured_keyLimited h hT hque hent hst hact move
  | keyAccepted level hnrc hst hact =>
    have hcalm := h.calm_of_waiting (by rw [hst]; rfl)
    exact secured_finish_calm h hT hque move hcalm
      (calm_clearAttempts hT hcalm (h.placed.configured hact)) fun _ => rfl
  | keyAcceptedAgain level old hnrc hst hact hopen =>
    have hcalm := h.calm_of_waiting (by rw [hst]; rfl)
    have hclrd : Calm T (clearAttempts w.ao w.tree level).1 :=
      calm_clearAttempts hT hcalm (h.placed.configured hact)
    refine secured_finish_calm h hT hque move hcalm ?_ fun _ => rfl
    by_cases hsame : level = old
    · rw [if_neg (not_not.2 hsame)]
      exact hclrd
    · rw [if_pos hsame]
      exact hclrd
  | ignored sig hsig =>
    refine secured_finish_same h hT hque move ?_ rfl rfl rfl rfl (.inl rfl) fun hf => ?_
    · rcases hsig with ⟨rfl, _⟩ | ⟨rfl, hwait⟩
      · rw [hent]
        decide
      have hexpd := h.expiring ⟨entry, hque ▸ mem_cons_self, hent⟩
      rw [hwait] at hexpd
      cases hexpd
    · rw [not_forwarded_of_ne Reply.noConfusion] at hf
      cases hf
  | delayReset level hst hact hpend =>
    exact secured_delayExpired h hT hque hent hact rfl rfl hst move
  | delaySwitched level sess hst hact hpend hsess =>
    exact secured_delayExpired h hT hque hent hact rfl rfl rfl move
  | sessionMarked sig after hsig hdly hst
  | sessionMarkedLocked sig after hsig hdly hst =>
    refine secured_finish_delayed h hT hque move ?_ hdly rfl rfl rfl rfl ?_ ?_
    · rcases hsig with rfl | rfl <;> rw [hent] <;> decide
    · change after.state.isWaiting = false
      rw [delayed_state hdly, hst]
      rfl
    · exact not_forwarded_of_ne Reply.noConfusion
  | sessionSwitched sig sess hsig hdly hsess =>
    have hcalm : Calm T w.ao := by
      rcases hdly with hwait | hdly
      · exact h.calm_of_waiting hwait
      · exact calm_of_delayTimer_expired hdly
    exact secured_finish_calm h hT hque move hcalm hcalm fun _ => rfl

/-- The counters that a restart loads: those of the process before, except that the
counter of the level that was active may have been reset and saved. -/
def Reloaded (T : SessionTable) (w : Worker) (attCnt : SecurityLevel → Nat) : Prop :=
  attCnt = w.ao.attCnt ∨ ∃ level, w.ao.active = some level ∧
    attCnt = Function.update w.ao.attCnt level 0 ∧ (Calm T w.ao ∨ Expiring w.queue)

variable {attCnt : SecurityLevel → Nat}

theorem Reloaded.atLimit (hkept : Reloaded T w attCnt)
    (h : Secured T w) (hT : Provisioned T) (hlvl : AtLimit T attCnt level) :
    AtLimit T w.ao.attCnt level := by
  rcases hkept with rfl | ⟨active, hact, rfl, _⟩
  · exact hlvl
  have hposi := hT.positive active (h.placed.configured hact)
  refine ⟨hlvl.1, ?_⟩
  have hcnt := hlvl.2
  by_cases heq : level = active
  · subst heq
    rw [update_self] at hcnt
    omega
  · rwa [update_of_ne heq] at hcnt

/-- A level that is locked out stays at its limit, or its delay has elapsed. -/
theorem Reloaded.lockedOut (hkept : Reloaded T w attCnt)
    (h : Secured T w) {k : Lockout} (hk : w.lockout = some k) :
    AtLimit T attCnt k.level ∨ k.elapsed = true ∧ attCnt k.level = 0 := by
  have hat := h.locking.lockedAt k hk
  rcases hkept with rfl | ⟨active, hact, rfl, hwhen⟩
  · exact .inl hat
  rcases hwhen with hcalm | hqd
  · exact absurd hat (hcalm.2 k.level)
  have hsame := h.locking.armed k.level hat (.inr hqd)
  rw [hact] at hsame
  right
  refine ⟨h.locking.elapsed k hk hqd, ?_⟩
  rw [← some.inj hsame, update_self]

theorem locking_restart (h : Secured T w) (hT : Provisioned T) (hcntd : Counted T attCnt tree)
    (hkept : Reloaded T w attCnt) :
    Locking T (stateInitial T tree) (observeLockout T (stateInitial T tree) w.lockout)
      (Expiring []) := by
  have hload : ∀ level, AtLimit T (stateInitial T tree).attCnt level ↔
      AtLimit T attCnt level := by
    intro level
    refine and_congr_right fun hlvl => ?_
    rw [stateInitial_attCnt hcntd hlvl]
  cases hk : w.lockout with
  | none =>
    have hnone : ∀ level, ¬ AtLimit T (stateInitial T tree).attCnt level := by
      intro level hlvl
      obtain ⟨elapsed, hlkd⟩ := h.locking.locked level
        (hkept.atLimit h hT ((hload level).1 hlvl))
      rw [hk] at hlkd
      cases hlkd
    rw [observeLockout, levelAtLimit_of_none hnone]
    exact locking_open hnone
  | some k =>
    have hsgl : ∀ level, AtLimit T attCnt level → level = k.level := fun level hlvl =>
      h.locking.single level k.level (hkept.atLimit h hT hlvl) (h.locking.lockedAt k hk)
    have hconf := (h.locking.lockedAt k hk).1
    have hposi := hT.positive k.level hconf
    unfold observeLockout
    dsimp only
    rw [stateInitial_attCnt hcntd hconf]
    rcases hkept.lockedOut h hk with hat | hrset
    · have hnonz : ¬ (k.elapsed = true ∧ attCnt k.level = 0) := by
        rintro ⟨_, hzero⟩
        have hcnt := hat.2
        omega
      rw [if_neg hnonz]
      refine ⟨fun level other hl ho => ?_, fun level _ hruns => ?_, fun _ _ _ _ _ => rfl,
        fun level hl => ?_, fun j hj => ?_, fun _ _ _ hd => ?_, fun _ _ he => ?_⟩
      · rw [hsgl level ((hload level).1 hl), hsgl other ((hload other).1 ho)]
      · rcases hruns with hruns | ⟨_, hmem, _⟩
        · cases hruns
        · cases hmem
      · exact ⟨k.elapsed, by rw [hsgl level ((hload level).1 hl)]⟩
      · cases hj
        exact (hload k.level).2 hat
      · cases hd
      · obtain ⟨_, hmem, _⟩ := he
        cases hmem
    · rw [if_pos hrset]
      refine locking_open fun level hl => ?_
      have hat := (hload level).1 hl
      have hcnt := hat.2
      rw [hsgl level hat] at hcnt
      omega

/-- A restart keeps the lockout of a level at its limit, whose counter was saved. -/
theorem secured_restart (h : Secured T w) (hT : Provisioned T) (hcntd : Counted T attCnt tree)
    (hkept : Reloaded T w attCnt) : Secured T (restart T w tree) where
  order := queueOrder_nil rfl
  placed := stateInitial_placed
  counted := stateInitial_counted hcntd
  locking := locking_restart h hT hcntd hkept
  blocked := fun _ => ⟨rfl, rfl, fun _ hmem => by cases hmem⟩
  expiring := fun _ => rfl
  expiryFirst := List.Pairwise.nil
  forwards := h.forwards

/-- The dispatch of the first signal, whether it ends or aborts. -/
theorem secured_handle (h : Secured T w) (hT : Provisioned T) {w' : Worker}
    (hstep : handleSignal T w m = some w') : Secured T w' := by
  unfold handleSignal at hstep
  rcases hque : w.queue with _ | ⟨entry, rest⟩
  · rw [hque] at hstep
    cases hstep
  rw [hque] at hstep
  dsimp only at hstep
  cases hres : dispatch T w.ao w.tree m entry.sig with
  | done ao' tree' reply =>
    rw [hres] at hstep
    cases hstep
    exact secured_move h hT hque rfl (dispatch_move hres)
  | aborted tree' reason =>
    rw [hres] at hstep
    cases hstep
    obtain ⟨attCnt, hcntd, hkept⟩ :=
      counted_abort hT.toDistinctIds h.placed h.counted (dispatch_abort hres)
    refine secured_restart h hT hcntd (hkept.imp_right ?_)
    rintro ⟨level, hact, hattC, hwhen⟩
    refine ⟨level, hact, hattC, ?_⟩
    rcases hwhen with hwait | hsig
    · exact .inl (h.calm_of_waiting hwait)
    · exact .inr ⟨entry, hque ▸ mem_cons_self, hsig⟩

theorem expiring_append {queue : List Entry}
    (hsig : entry.sig ≠ .delayTimerExpired) : Expiring (queue ++ [entry]) ↔ Expiring queue := by
  unfold Expiring
  simp [or_and_right, exists_or, hsig]

/-- A report keeps the invariant when it keeps the order of the queue. -/
theorem secured_report (h : Secured T w) {awaited : Bool}
    (horde : QueueOrder (report w sig awaited)) (hsig : sig ≠ .delayTimerExpired)
    (hansw : isAnswer sig = true → w.pending = some sig) : Secured T (report w sig awaited) where
  order := horde
  placed := h.placed
  counted := h.counted
  locking := h.locking.of_eq rfl rfl rfl rfl (expiring_append hsig)
  blocked := by
    intro hcalm
    obtain ⟨hst, hpend, hans⟩ := h.blocked hcalm
    refine ⟨hst, ?_, fun entry hent => ?_⟩
    · change (if isExchange sig = true then none else w.pending) = none
      rw [hpend, ite_self]
    rcases mem_append.1 hent with hmem | hmem
    · exact hans entry hmem
    cases mem_singleton.1 hmem
    by_contra hisAn
    have howed := hansw (by simpa using hisAn)
    rw [hpend] at howed
    cases howed
  expiring := fun he => h.expiring ((expiring_append hsig).1 he)
  expiryFirst := by
    refine pairwise_append.2 ⟨h.expiryFirst, pairwise_singleton _ _, ?_⟩
    intro a _ b hb _
    cases mem_singleton.1 hb
    exact hsig
  forwards := h.forwards

theorem secured_abandon (h : Secured T w) : Secured T (abandon w) where
  order := queueOrder_abandon h.order
  placed := h.placed
  counted := h.counted
  locking := by
    refine h.locking.of_eq rfl rfl rfl rfl ?_
    simp [Expiring, abandon]
  blocked := by
    intro hcalm
    obtain ⟨hst, hpend, hans⟩ := h.blocked hcalm
    refine ⟨hst, hpend, fun entry hent => ?_⟩
    obtain ⟨old, hold, rfl⟩ := mem_map.1 hent
    exact hans old hold
  expiring := by
    rintro ⟨entry, hent, hsig⟩
    obtain ⟨old, hold, rfl⟩ := mem_map.1 hent
    exact h.expiring ⟨old, hold, hsig⟩
  expiryFirst := pairwise_map.2 (h.expiryFirst.imp fun hab => hab)
  forwards := h.forwards

/-- When the timer expires, the level that is locked out has served its delay. -/
theorem secured_expireDelay (h : Secured T w) {interval : Nat}
    (htim : w.ao.delayTimer = some interval) : Secured T (expireDelay w interval) := by
  have hcalm : ¬ Calm T w.ao := by
    rintro ⟨hstop, _⟩
    rw [htim] at hstop
    cases hstop
  obtain ⟨hst, hpend, hans⟩ := h.blocked hcalm
  have hqd : Expiring (expireDelay w interval).queue :=
    ⟨⟨.delayTimerExpired, false⟩, mem_append_right _ mem_cons_self, rfl⟩
  have horde : QueueOrder (report w .delayTimerExpired false) :=
    queueOrder_report_timer h.order rfl
  refine ⟨⟨horde.answers, horde.unanswered, horde.awaitedLast,
      fun hnot => horde.notAwaited ((Bool.or_false _).trans hnot)⟩,
    h.placed.of_eq rfl rfl, h.counted, ?_, ?_, fun _ => hst, ?_, h.forwards⟩
  · refine ⟨h.locking.single, fun level hlvl _ => ?_, fun _ _ _ hnot => absurd hqd hnot,
      fun level hlvl => ?_, fun k hk => ?_, fun _ _ _ hd => ?_, fun k hk _ => ?_⟩
    · exact h.locking.armed level hlvl (.inl (by rw [htim]; rfl))
    · obtain ⟨elapsed, hlkd⟩ := h.locking.locked level hlvl
      exact ⟨_, by simp only [expireDelay, hlkd]; rfl⟩
    · obtain ⟨old, hold, rfl⟩ := map_eq_some_iff.1 hk
      exact h.locking.lockedAt old hold
    · cases hd
    obtain ⟨old, hold, rfl⟩ := map_eq_some_iff.1 hk
    have hinte := h.locking.interval old interval hold htim
    simp [hinte]
  · refine fun _ => ⟨hst, hpend, fun entry hent => ?_⟩
    rcases mem_append.1 hent with hmem | hmem
    · exact hans entry hmem
    · cases mem_singleton.1 hmem
      rfl
  · refine pairwise_append.2 ⟨h.expiryFirst, pairwise_singleton _ _, ?_⟩
    intro a ha b _ hisAn
    rw [hans a ha] at hisAn
    cases hisAn

/-- One step keeps the invariant, as long as answers come only while they are owed. -/
theorem secured_step (hT : Provisioned T) {a : Action} {w' : Worker} (h : Secured T w)
    (hok : AnswersPending w a) (hstep : step T w a = some w') : Secured T w' := by
  cases a with
  | reportMain sig =>
    unfold step at hstep
    dsimp only at hstep
    split_ifs at hstep with hrdy
    cases hstep
    have howed : isAnswer sig = true → w.pending = some sig := hok
    refine secured_report h (queueOrder_report_main h.order hrdy.1 howed) ?_ howed
    rintro rfl
    exact absurd hrdy.2 (by decide)
  | reportTimeout =>
    cases hstep
    refine secured_report h (queueOrder_report_timer h.order rfl) (by decide) fun hansw => ?_
    cases hansw
  | delayElapses =>
    obtain ⟨interval, htim, rfl⟩ := map_eq_some_iff.1 hstep
    exact secured_expireDelay h htim
  | waitTimesOut =>
    cases hstep
    exact secured_abandon h
  | handle m => exact secured_handle h hT hstep
  | restart =>
    cases hstep
    exact secured_restart h hT h.counted (.inl rfl)

theorem secured_initial (hT : Provisioned T) : Secured T (initialWorker T) := by
  have hcntd : Counted T (fun _ => 0) (fun _ => 0) :=
    ⟨fun level hlvl => Nat.zero_le _, fun _ _ _ _ => rfl⟩
  have hnone : ∀ level, ¬ AtLimit T (stateInitial T fun _ => 0).attCnt level := by
    intro level hlvl
    have hposi := hT.positive level hlvl.1
    have hcnt := hlvl.2
    rw [stateInitial_attCnt hcntd hlvl.1] at hcnt
    omega
  exact ⟨queueOrder_nil rfl, stateInitial_placed, stateInitial_counted hcntd, locking_open hnone,
    fun hcalm => absurd ⟨rfl, hnone⟩ hcalm, fun _ => rfl, List.Pairwise.nil,
    fun _ hmem => by cases hmem⟩

/-- The bound: no counter passes its limit, every counter is persisted, at most one level
is at its limit, and no request was forwarded while a level was locked out. -/
structure AttemptsBounded (T : SessionTable) (w : Worker) : Prop where
  bounded : ∀ level, Configured T level → w.ao.attCnt level ≤ level.attCntLimit
  persisted : ∀ sess ∈ T.bound, ∀ level ∈ sess.levelList,
    w.ao.attCnt level = w.tree (sess.sessionId, level.securityLevel)
  single : ∀ level other, AtLimit T w.ao.attCnt level → AtLimit T w.ao.attCnt other →
    level = other
  lockedOut : ∀ level, AtLimit T w.ao.attCnt level →
    ∃ elapsed, w.lockout = some ⟨level, elapsed⟩
  refused : ∀ locked ∈ w.forwards, locked = none

/-- In every run in which the application answers only the request it owes an answer to,
the bound holds in every state reached. -/
theorem attempts_bounded (c : DiagConf) (hT : Provisioned (sessionTable c)) (as : List Action)
    (w : Worker) (hok : Meets (step (sessionTable c)) AnswersPending
      (initialWorker (sessionTable c)) as)
    (hrun : exec (step (sessionTable c)) (initialWorker (sessionTable c)) as = some w) :
    AttemptsBounded (sessionTable c) w := by
  have h : Secured (sessionTable c) w :=
    exec_invariant (fun _ _ _ hs hguard hstep => secured_step hT hs hguard hstep)
      (secured_initial hT) hok hrun
  exact ⟨h.counted.bounded, h.counted.stored, h.locking.single, h.locking.locked, h.forwards⟩

end

/-- The manager while a seed for level one is requested or sent in the extended session. -/
def seedView : UdsManager :=
  { initialManager with sessionType := 0x03, recvSubFunc := 0x01, recvDataLen := 2 }

/-- The manager while a key for level one is tried, or answered with this code. -/
def keyView (nrc : UInt8) : UdsManager :=
  { initialManager with sessionType := 0x03, recvSubFunc := 0x02, recvDataLen := 6, nrcCode := nrc }

/-- The extended session is entered, and two invalid keys use up the attempts of level one. -/
def twoInvalidKeys : List Action :=
  let invalidKeyRun := [.reportMain .requestSeed, .handle seedView,
    .reportMain .requestSeedResponse, .handle seedView, .reportMain .sendKey,
    .handle (keyView 0), .reportMain .sendKeyResponse, .handle (keyView invalidKey)]
  [.reportMain .sessionControl, .handle seedView] ++ invalidKeyRun ++ invalidKeyRun

theorem sampleConf_provisioned : Provisioned (sessionTable sampleConf) where
  sessions := by decide
  levels := by decide
  positive := by
    have hlims : ∀ sess ∈ (sessionTable sampleConf).bound, ∀ level ∈ sess.levelList,
        1 ≤ level.attCntLimit := by decide
    rintro level ⟨sess, hsess, hmem⟩
    exact hlims sess hsess level hmem

/-- After two invalid keys level one is locked out, within the bound. -/
theorem attempts_bounded_twoInvalidKeys :
    ∃ w, exec (step (sessionTable sampleConf)) (initialWorker (sessionTable sampleConf))
        twoInvalidKeys = some w ∧ w.lockout.isSome = true ∧
      AttemptsBounded (sessionTable sampleConf) w := by
  have hlockout : (exec (step (sessionTable sampleConf)) (initialWorker (sessionTable sampleConf))
      twoInvalidKeys).map (fun w => w.lockout.isSome) = some true := by decide
  obtain ⟨w, hrun, hlocked⟩ := Option.map_eq_some_iff.1 hlockout
  exact ⟨w, hrun, hlocked,
    attempts_bounded sampleConf sampleConf_provisioned twoInvalidKeys w (by decide) hrun⟩

/-- In such a run no seed and no key is awaited while a level is locked out, no request is pending,
and no answer is queued. -/
theorem idle_while_lockedOut (c : DiagConf) (hT : Provisioned (sessionTable c)) (as : List Action)
    (w : Worker)
    (hok : Meets (step (sessionTable c)) AnswersPending (initialWorker (sessionTable c)) as)
    (hrun : exec (step (sessionTable c)) (initialWorker (sessionTable c)) as = some w)
    (hlocked : w.lockout.isSome = true) :
    w.ao.state.isWaiting = false ∧ w.pending = none ∧
      ∀ entry ∈ w.queue, isAnswer entry.sig = false := by
  have h : Secured (sessionTable c) w :=
    exec_invariant (fun _ _ _ hs hguard hstep => secured_step hT hs hguard hstep)
      (secured_initial hT) hok hrun
  obtain ⟨k, hk⟩ := isSome_iff_exists.1 hlocked
  exact h.blocked fun hcalm => hcalm.2 k.level (h.locking.lockedAt k hk)

theorem idle_while_lockedOut_twoInvalidKeys :
    ∃ w, exec (step (sessionTable sampleConf)) (initialWorker (sessionTable sampleConf))
      twoInvalidKeys = some w ∧ w.lockout.isSome = true ∧ w.pending = none := by
  have hlockout : (exec (step (sessionTable sampleConf)) (initialWorker (sessionTable sampleConf))
      twoInvalidKeys).map (fun w => w.lockout.isSome) = some true := by decide
  obtain ⟨w, hrun, hlocked⟩ := map_eq_some_iff.1 hlockout
  exact ⟨w, hrun, hlocked, (idle_while_lockedOut sampleConf sampleConf_provisioned twoInvalidKeys w
    (by decide) hrun hlocked).2.1⟩

/-- The application repeats its seed while level one is locked out. The state machine
waits for a key again, and the next seed request is forwarded. -/
theorem late_answer_unbounded :
    ∃ w, exec (step (sessionTable sampleConf)) (initialWorker (sessionTable sampleConf))
        (twoInvalidKeys ++ [.reportMain .requestSeedResponse, .handle seedView,
          .reportMain .requestSeed, .handle seedView]) = some w ∧
      ¬ AttemptsBounded (sessionTable sampleConf) w := by
  have hforwards : (exec (step (sessionTable sampleConf))
      (initialWorker (sessionTable sampleConf)) (twoInvalidKeys ++
        [.reportMain .requestSeedResponse, .handle seedView, .reportMain .requestSeed,
          .handle seedView])).map (fun w => decide (∃ locked ∈ w.forwards, locked.isSome = true))
      = some true := by decide
  obtain ⟨w, hrun, hlocked⟩ := Option.map_eq_some_iff.1 hforwards
  obtain ⟨locked, hmem, hsome⟩ := of_decide_eq_true hlocked
  refine ⟨w, hrun, fun hbounded => ?_⟩
  rw [hbounded.refused locked hmem] at hsome
  cases hsome

end TelAF.BruteForce
