import TelAF.SecAccMoves

/-!
# What the moves of the security-access state machine preserve

`Placed` says where active levels can be: only in the current session, which lists them. `Sealed`
says the same of unlocked levels. `Counted` relates the attempt counters to their limits and to the
tree. Both need that the delay timer is rearmed only in the session that is already current, or
before anything was active, which the queue of the thread guarantees later.
-/

namespace TelAF.SecAccInvariants

open DiagConfiguration UdsState UdsIndications SecurityAccess SecAccMoves ActiveObject List

variable {T : SessionTable} {ao ao' : ActiveObject} {tree tree' : Tree} {m : UdsManager}

/-- A level is listed in a session of the table. -/
def Configured (T : SessionTable) (level : SecurityLevel) : Prop :=
  ∃ sess ∈ T.bound, level ∈ sess.levelList

/-- The counter of a configured level stands at its limit. -/
def AtLimit (T : SessionTable) (attCnt : SecurityLevel → Nat) (level : SecurityLevel) : Prop :=
  Configured T level ∧ attCnt level = level.attCntLimit

structure DistinctIds (T : SessionTable) : Prop where
  sessions : ∀ sess ∈ T.bound, ∀ other ∈ T.bound,
    sess.sessionId = other.sessionId → sess = other
  levels : ∀ sess ∈ T.bound, ∀ level ∈ sess.levelList, ∀ other ∈ sess.levelList,
    level.securityLevel = other.securityLevel → level = other

variable {sess : SecuritySession}

theorem mem_sessionList : sess ∈ T.sessionList ↔ sess ∈ T.bound ∨
      sess = T.defaultSession := by
  unfold SessionTable.sessionList
  simp

theorem sessionList_position {other : SecuritySession} (hsess : sess ∈ T.sessionList)
    (hoth : other ∈ T.sessionList) (hpos : sess.position = other.position) :
    sess = other := by
  rcases mem_sessionList.1 hsess with hs | rfl <;> rcases mem_sessionList.1 hoth with ho | rfl
  · exact T.distinct sess hs other ho hpos
  · have hlt := T.positions sess hs
    exact absurd hpos (by simp only [SessionTable.defaultSession]; omega)
  · have hlt := T.positions other ho
    exact absurd hpos (by simp only [SessionTable.defaultSession]; omega)
  · rfl

variable {level : SecurityLevel}

/-- A session of the list that lists a level is a bound session. -/
theorem bound_of_mem_levelList (hsess : sess ∈ T.sessionList)
    (hlvl : level ∈ sess.levelList) : sess ∈ T.bound := by
  rcases mem_sessionList.1 hsess with hs | rfl
  · exact hs
  · cases hlvl

theorem findSession_mem {sessionId : Nat} (h : T.findSession sessionId = some sess) :
    sess ∈ T.sessionList ∧ sess.sessionId = sessionId :=
  ⟨mem_of_find?_eq_some h, by simpa using find?_some h⟩

theorem levelAtLimit_eq_some (h : levelAtLimit T ao = some (sess, level)) :
    sess ∈ T.bound ∧ level ∈ sess.levelList ∧ ao.attCnt level = level.attCntLimit := by
  have hmem := mem_of_find?_eq_some h
  have hcnt := find?_some h
  simp only [mem_flatMap, mem_map] at hmem
  obtain ⟨s, hs, l, hl, rfl, rfl⟩ := hmem
  exact ⟨bound_of_mem_levelList hs hl, hl, by simpa using hcnt⟩

theorem levelAtLimit_eq_none (h : levelAtLimit T ao = none) (level : SecurityLevel) :
    ¬ AtLimit T ao.attCnt level := by
  rintro ⟨⟨sess, hsess, hlvl⟩, hcnt⟩
  have hnone := find?_eq_none.1 h (sess, level)
    (mem_flatMap.2 ⟨sess, mem_sessionList.2 (.inl hsess), mem_map.2 ⟨level, hlvl, rfl⟩⟩)
  exact hnone (by simpa using hcnt)

theorem levelAtLimit_of_none (h : ∀ level, ¬ AtLimit T ao.attCnt level) :
    levelAtLimit T ao = none := by
  cases hlim : levelAtLimit T ao with
  | none => rfl
  | some pair =>
    obtain ⟨hsess, hmem, hcnt⟩ := levelAtLimit_eq_some hlim
    exact absurd ⟨⟨pair.1, hsess, hmem⟩, hcnt⟩ (h pair.2)

/-- The delay timer has expired only if it does not run and no level is at its limit. -/
theorem delayTimer_expired (h : delayTimerIsNotExpired T ao = none) :
    ao.delayTimer = none ∧ ∀ level, ¬ AtLimit T ao.attCnt level := by
  unfold delayTimerIsNotExpired at h
  split_ifs at h with hruns
  refine ⟨by simpa using hruns, ?_⟩
  cases hlim : levelAtLimit T ao with
  | none => exact levelAtLimit_eq_none hlim
  | some pair =>
    rw [hlim] at h
    cases h

/-- A timer that is not expired runs already, or is started for a level at its limit. -/
theorem delayTimer_running (h : delayTimerIsNotExpired T ao = some ao') :
    (ao.delayTimer.isSome = true ∧ ao' = ao) ∨
      (ao.delayTimer = none ∧ ∃ sess level, sess ∈ T.bound ∧ level ∈ sess.levelList ∧
        ao.attCnt level = level.attCntLimit ∧
        ao' = (({ ao with currentSession := sess } : ActiveObject).setActive
          (some level)).triggerDelayTimer level) := by
  unfold delayTimerIsNotExpired at h
  split_ifs at h with hruns
  · exact .inl ⟨hruns, (Option.some.inj h).symm⟩
  right
  refine ⟨by simpa using hruns, ?_⟩
  rcases hlim : levelAtLimit T ao with _ | pair
  · rw [hlim] at h
    cases h
  obtain ⟨sess, level⟩ := pair
  rw [hlim] at h
  obtain ⟨hsess, hlvl, hcnt⟩ := levelAtLimit_eq_some hlim
  exact ⟨sess, level, hsess, hlvl, hcnt, (Option.some.inj h).symm⟩

structure Placed (T : SessionTable) (ao : ActiveObject) : Prop where
  current : ao.currentSession ∈ T.sessionList
  others : ∀ position, position ≠ ao.currentSession.position → ao.activeLevel position = none
  listed : ∀ level, ao.active = some level → level ∈ ao.currentSession.levelList

theorem Placed.configured (h : Placed T ao)
    (hact : ao.active = some level) : Configured T level :=
  ⟨ao.currentSession, bound_of_mem_levelList h.current (h.listed level hact),
    h.listed level hact⟩

section

variable (level : Option SecurityLevel)

@[simp] theorem setActive_active : (ao.setActive level).active = level := by
  simp [setActive, active]

theorem setActive_of_ne {position : Nat} (h : position ≠ ao.currentSession.position) :
    (ao.setActive level).activeLevel position = ao.activeLevel position := by
  simp [setActive, h]

@[simp] theorem setUnlocked_unlocked : (ao.setUnlocked level).unlocked = level := by
  simp [setUnlocked, unlocked]

end

/-- With the active levels in their place, a successful activation keeps the current
session: it activates the requested level of it, or leaves the active level as it was. -/
theorem activateSubfunction_spec (h : Placed T ao) (hactv : activateSubfunction T ao m = some ao') :
    (ao' = ao ∧ ao.active.isSome = true ∧
        ∀ sess, T.findSession m.sessionType.toNat = some sess →
          ∀ level ∈ sess.levelList, level.securityLevel ≠ secAccType m) ∨
      (T.findSession m.sessionType.toNat = some ao.currentSession ∧
        ∃ level ∈ ao.currentSession.levelList, level.securityLevel = secAccType m ∧
          ao' = ao.setActive (some level)) := by
  unfold activateSubfunction at hactv
  cases hsess : T.findSession m.sessionType.toNat with
  | none =>
    rw [hsess] at hactv
    dsimp only at hactv
    split_ifs at hactv with hact
    exact .inl ⟨(Option.some.inj hactv).symm, hact, fun sess hs => by cases hs⟩
  | some sess =>
    rw [hsess] at hactv
    dsimp only at hactv
    cases hlvl : sess.levelList.find? fun level => level.securityLevel == secAccType m with
    | none =>
      rw [hlvl] at hactv
      dsimp only at hactv
      split_ifs at hactv with hact
      by_cases hpos : sess.position = ao.currentSession.position
      · have hcur := sessionList_position (findSession_mem hsess).1 h.current hpos
        subst hcur
        refine .inl ⟨(Option.some.inj hactv).symm, hact, fun s hs level hmem htype => ?_⟩
        cases hs
        exact absurd htype (by simpa using find?_eq_none.1 hlvl level hmem)
      · exact absurd hact (by simp [active, h.others _ hpos])
    | some level =>
      rw [hlvl] at hactv
      dsimp only at hactv
      split_ifs at hactv with hact
      by_cases hpos : sess.position = ao.currentSession.position
      · have hcur := sessionList_position (findSession_mem hsess).1 h.current hpos
        subst hcur
        exact .inr ⟨rfl, level, mem_of_find?_eq_some hlvl,
          by simpa using find?_some hlvl, (Option.some.inj hactv).symm⟩
      · have hnone : (ao.setActive (some level)).activeLevel sess.position = none :=
          (setActive_of_ne (some level) hpos).trans (h.others _ hpos)
        exact absurd hact (by simp [active, hnone])

/-- Where the delay timer is rearmed, the level at its limit is active already, or no
level is active at all. -/
def Rearmable (T : SessionTable) (ao : ActiveObject) : Prop :=
  ao.delayTimer = none → ∀ level, AtLimit T ao.attCnt level →
    ao.active = some level ∨ ∀ position, ao.activeLevel position = none

section

variable (h : Placed T ao)
include h

/-- Everything that leaves the current session and the active levels alone keeps them
placed. -/
theorem Placed.of_eq (hcur : ao'.currentSession = ao.currentSession)
    (hlvls : ao'.activeLevel = ao.activeLevel) : Placed T ao' where
  current := hcur ▸ h.current
  others := by
    intro position hpos
    rw [hlvls]
    exact h.others position (hcur ▸ hpos)
  listed := by
    intro level hact
    rw [hcur]
    apply h.listed level
    rw [← hact, active, active, hlvls, hcur]

theorem Placed.setActive {level : Option SecurityLevel}
    (hlstd : ∀ l, level = some l → l ∈ ao.currentSession.levelList) :
    Placed T (ao.setActive level) where
  current := h.current
  others := by
    intro position hpos
    have hoth : position ≠ ao.currentSession.position := hpos
    exact (setActive_of_ne level hoth).trans (h.others position hoth)
  listed := by
    intro l hl
    rw [setActive_active] at hl
    exact hlstd l hl

/-- After the current session was deactivated, any session may become current. -/
theorem Placed.switch (hsess : sess ∈ T.sessionList) (hcur : ao'.currentSession = sess)
    (hlvls : ao'.activeLevel = (ao.setActive none).activeLevel) : Placed T ao' := by
  have hnone : ∀ position, ao'.activeLevel position = none := by
    intro position
    rw [hlvls]
    by_cases hpos : position = ao.currentSession.position
    · rw [hpos]
      exact setActive_active none
    · exact (setActive_of_ne none hpos).trans (h.others position hpos)
  refine ⟨hcur ▸ hsess, fun position _ => hnone position, fun level hact => ?_⟩
  rw [active, hnone] at hact
  cases hact

theorem placed_delayed (hrear : Rearmable T ao)
    (hdly : delayTimerIsNotExpired T ao = some ao') : Placed T ao' := by
  rcases delayTimer_running hdly with ⟨_, rfl⟩ | ⟨htim, sess, level, hsess, hlvl, hcnt, rfl⟩
  · exact h
  have hlstd : sess ∈ T.sessionList := mem_sessionList.2 (.inl hsess)
  have hplc : Placed T { ao with currentSession := sess } := by
    rcases hrear htim level ⟨⟨sess, hsess, hlvl⟩, hcnt⟩ with hact | hnone
    · have hmem := h.listed level hact
      have hboun := bound_of_mem_levelList h.current hmem
      have hsame : sess = ao.currentSession := by
        apply T.distinct sess hsess _ hboun
        rw [← T.owned sess hsess level hlvl, ← T.owned _ hboun level hmem]
      exact h.of_eq hsame rfl
    · refine ⟨hlstd, fun position _ => hnone position, fun l hact => ?_⟩
      rw [active, hnone] at hact
      cases hact
  refine (hplc.setActive fun l hl => ?_).of_eq rfl rfl
  cases hl
  exact hlvl

theorem placed_activated (hactv : activateSubfunction T ao m = some ao') : Placed T ao' := by
  rcases activateSubfunction_spec h hactv with ⟨rfl, _⟩ | ⟨_, level, hlvl, _, rfl⟩
  · exact h
  refine h.setActive fun l hl => ?_
  cases hl
  exact hlvl

end

theorem clearAttempts_activeLevel (level : SecurityLevel) :
    (clearAttempts ao tree level).1.activeLevel = ao.activeLevel := by
  unfold clearAttempts
  split_ifs <;> rfl

theorem clearAttempts_currentSession (level : SecurityLevel) :
    (clearAttempts ao tree level).1.currentSession = ao.currentSession := by
  unfold clearAttempts
  split_ifs <;> rfl

variable {sig : SecAccSignal}

theorem eventSession_mem (h : eventSession T m sig = some sess) : sess ∈ T.sessionList := by
  unfold eventSession at h
  split_ifs at h
  · cases h
    exact mem_sessionList.2 (.inr rfl)
  · exact (findSession_mem h).1

theorem pendingSession_mem (h : pendingSession T ao = some sess) : sess ∈ T.sessionList := by
  unfold pendingSession at h
  split_ifs at h
  · cases h
    exact mem_sessionList.2 (.inr rfl)
  · exact (findSession_mem h).1

variable {reply : Reply}

theorem placed_move (h : Placed T ao) (hrear : Rearmable T ao)
    (move : Move T ao tree m sig ao' tree' reply) : Placed T ao' := by
  cases move with
  | refused | zeroSeed | answerRefused | keyCounted | keyLimited | delayReset =>
    exact h.of_eq rfl rfl
  | delayed after hstate hdly => exact placed_delayed h hrear hdly
  | seedForwarded | keyForwarded | seedRenewed | ignored => exact h
  | seedActivated activated hnrc hactv => exact (placed_activated h hactv).of_eq rfl rfl
  | keyAccepted level =>
    exact h.of_eq (clearAttempts_currentSession level) (clearAttempts_activeLevel level)
  | keyAcceptedAgain level old =>
    have hclrd : Placed T (clearAttempts ao tree level).1 :=
      h.of_eq (clearAttempts_currentSession level) (clearAttempts_activeLevel level)
    by_cases hsame : level = old
    · rw [if_neg (not_not.2 hsame)]
      exact hclrd.of_eq rfl rfl
    rw [if_pos hsame]
    have hunl : Placed T ((clearAttempts ao tree level).1.setUnlocked (some level)) :=
      hclrd.of_eq rfl rfl
    exact (hunl.setActive (fun l hl => by cases hl)).of_eq rfl rfl
  | delaySwitched level sess hstate hact hpend hsess =>
    exact h.switch (pendingSession_mem hsess) rfl rfl
  | sessionMarked sig after hsig hdly => exact (placed_delayed h hrear hdly).of_eq rfl rfl
  | sessionMarkedLocked sig after hsig hdly =>
    exact (placed_delayed h hrear hdly).of_eq rfl rfl
  | sessionSwitched sig sess hsig hdly hsess => exact h.switch (eventSession_mem hsess) rfl rfl

structure Sealed (ao : ActiveObject) : Prop where
  others : ∀ position, position ≠ ao.currentSession.position → ao.unlockedLevel position = none
  listed : ∀ level, ao.unlocked = some level → level ∈ ao.currentSession.levelList

theorem Sealed.of_eq (h : Sealed ao) (hcur : ao'.currentSession = ao.currentSession)
    (hlvls : ao'.unlockedLevel = ao.unlockedLevel) : Sealed ao' where
  others := by
    intro position hpos
    rw [hlvls]
    exact h.others position (hcur ▸ hpos)
  listed := by
    intro level hunl
    rw [hcur]
    apply h.listed level
    rw [← hunl, unlocked, unlocked, hlvls, hcur]

theorem setUnlocked_of_ne (level : Option SecurityLevel) {position : Nat}
    (h : position ≠ ao.currentSession.position) :
    (ao.setUnlocked level).unlockedLevel position = ao.unlockedLevel position := by
  simp [setUnlocked, h]

theorem Sealed.setUnlocked (h : Sealed ao) {level : Option SecurityLevel}
    (hlstd : ∀ l, level = some l → l ∈ ao.currentSession.levelList) :
    Sealed (ao.setUnlocked level) where
  others := by
    intro position hpos
    have hoth : position ≠ ao.currentSession.position := hpos
    exact (setUnlocked_of_ne level hoth).trans (h.others position hoth)
  listed := by
    intro l hl
    rw [setUnlocked_unlocked] at hl
    exact hlstd l hl

/-- After the current session was locked, no session has an unlocked level. -/
theorem Sealed.locked (h : Sealed ao) (position : Nat) :
    (ao.setUnlocked none).unlockedLevel position = none := by
  by_cases hpos : position = ao.currentSession.position
  · rw [hpos]
    exact setUnlocked_unlocked none
  · exact (setUnlocked_of_ne none hpos).trans (h.others position hpos)

theorem sealed_of_none (hnone : ∀ position, ao.unlockedLevel position = none) : Sealed ao where
  others := fun position _ => hnone position
  listed := by
    intro level hunl
    rw [unlocked, hnone] at hunl
    cases hunl

theorem Sealed.switch (h : Sealed ao)
    (hlvls : ao'.unlockedLevel = ao.deactivateAndLock.unlockedLevel) :
    ∀ position, ao'.unlockedLevel position = none := by
  intro position
  rw [hlvls]
  exact h.locked position

theorem Sealed.unlocked_default (h : Sealed ao) (hcur : ao.currentSession = T.defaultSession) :
    ao.unlocked = none := by
  rcases hunl : ao.unlocked with _ | level
  · rfl
  have hmem := h.listed level hunl
  rw [hcur] at hmem
  cases hmem

theorem clearAttempts_unlockedLevel (level : SecurityLevel) :
    (clearAttempts ao tree level).1.unlockedLevel = ao.unlockedLevel := by
  unfold clearAttempts
  split_ifs <;> rfl

theorem activated_unlockedLevel (h : Placed T ao)
    (hactv : activateSubfunction T ao m = some ao') :
    ao'.unlockedLevel = ao.unlockedLevel ∧ ao'.currentSession = ao.currentSession := by
  rcases activateSubfunction_spec h hactv with ⟨rfl, _⟩ | ⟨_, _, _, _, rfl⟩ <;>
    exact ⟨rfl, rfl⟩

/-- Every move keeps the unlocked levels in their place, if rearming the timer does. -/
theorem sealed_move (h : Sealed ao) (hplc : Placed T ao)
    (hdela : ∀ after, delayTimerIsNotExpired T ao = some after → Sealed after)
    (move : Move T ao tree m sig ao' tree' reply) : Sealed ao' := by
  cases move with
  | delayed after hstate hdly => exact hdela _ hdly
  | seedActivated activated hnrc hactv =>
    obtain ⟨hlvls, hcur⟩ := activated_unlockedLevel hplc hactv
    exact h.of_eq hcur hlvls
  | keyAccepted level hnrc hstate hact =>
    have hclrd : Sealed (clearAttempts ao tree level).1 :=
      h.of_eq (clearAttempts_currentSession level) (clearAttempts_unlockedLevel level)
    refine (hclrd.setUnlocked fun l hl => ?_).of_eq rfl rfl
    cases hl
    rw [clearAttempts_currentSession]
    exact hplc.listed level hact
  | keyAcceptedAgain level old hnrc hstate hact =>
    have hclrd : Sealed (clearAttempts ao tree level).1 :=
      h.of_eq (clearAttempts_currentSession level) (clearAttempts_unlockedLevel level)
    by_cases hsame : level = old
    · rw [if_neg (not_not.2 hsame)]
      exact hclrd.of_eq rfl rfl
    rw [if_pos hsame]
    refine (hclrd.setUnlocked fun l hl => ?_).of_eq rfl rfl
    cases hl
    rw [clearAttempts_currentSession]
    exact hplc.listed level hact
  | delaySwitched level sess =>
    have hlkd : Sealed (ao.setAttCnt level 0) := h.of_eq rfl rfl
    exact sealed_of_none (hlkd.switch rfl)
  | sessionMarked sig after hsig hdly => exact (hdela after hdly).of_eq rfl rfl
  | sessionMarkedLocked sig after hsig hdly =>
    have hlkd := (hdela after hdly).locked
    exact sealed_of_none fun position => hlkd position
  | sessionSwitched => exact sealed_of_none (h.switch rfl)
  | _ => exact h.of_eq rfl rfl

/-- The counters stay within their limits and agree with the tree. -/
structure Counted (T : SessionTable) (attCnt : SecurityLevel → Nat) (tree : Tree) : Prop where
  bounded : ∀ level, Configured T level → attCnt level ≤ level.attCntLimit
  stored : ∀ sess ∈ T.bound, ∀ level ∈ sess.levelList,
    attCnt level = tree (sess.sessionId, level.securityLevel)

/-- Saving the counter of the active level changes the entry of no other level. -/
theorem counted_save (hids : DistinctIds T) (h : Placed T ao) (hcntd : Counted T ao.attCnt tree)
    (hact : ao.active = some level) {n : Nat} (hn : n ≤ level.attCntLimit) :
    Counted T (ao.setAttCnt level n).attCnt ((ao.setAttCnt level n).saveAttCntToTree level tree) where
  bounded := by
    intro other hoth
    by_cases heq : other = level
    · subst heq
      simpa [setAttCnt] using hn
    · simpa [setAttCnt, heq] using hcntd.bounded other hoth
  stored := by
    intro sess hsess other hoth
    have hmem := h.listed level hact
    have hboun := bound_of_mem_levelList h.current hmem
    by_cases heq : other = level
    · subst heq
      have hpos : sess.position = ao.currentSession.position := by
        rw [← T.owned sess hsess other hoth, ← T.owned _ hboun other hmem]
      have hsame := T.distinct sess hsess _ hboun hpos
      subst hsame
      simp [setAttCnt, saveAttCntToTree]
    have hkey : (sess.sessionId, other.securityLevel) ≠
        (ao.currentSession.sessionId, level.securityLevel) := by
      intro hkey
      obtain ⟨hid, hlvl⟩ := Prod.mk.inj hkey
      have hsame := hids.sessions sess hsess _ hboun hid
      subst hsame
      exact heq (hids.levels _ hsess other hoth level hmem hlvl)
    simpa [setAttCnt, saveAttCntToTree, heq, hkey] using
      hcntd.stored sess hsess other hoth

theorem counted_clear (hids : DistinctIds T) (h : Placed T ao) (hcntd : Counted T ao.attCnt tree)
    (hact : ao.active = some level) :
    Counted T (clearAttempts ao tree level).1.attCnt (clearAttempts ao tree level).2 := by
  unfold clearAttempts
  split_ifs with hzero
  · exact counted_save hids h hcntd hact (Nat.zero_le _)
  · exact hcntd

theorem delayed_attCnt (hdly : delayTimerIsNotExpired T ao = some ao') :
    ao'.attCnt = ao.attCnt := by
  rcases delayTimer_running hdly with ⟨_, rfl⟩ | ⟨_, _, _, _, _, _, rfl⟩ <;> rfl

theorem activated_attCnt (h : Placed T ao) (hactv : activateSubfunction T ao m = some ao') :
    ao'.attCnt = ao.attCnt := by
  rcases activateSubfunction_spec h hactv with ⟨rfl, _⟩ | ⟨_, _, _, _, rfl⟩ <;> rfl

/-- Every move keeps the counters within their limits and saves them. -/
theorem counted_move (hids : DistinctIds T) (h : Placed T ao) (hcntd : Counted T ao.attCnt tree)
    (move : Move T ao tree m sig ao' tree' reply) : Counted T ao'.attCnt tree' := by
  cases move with
  | refused | zeroSeed | seedForwarded | keyForwarded | answerRefused | seedRenewed | ignored
  | sessionSwitched => exact hcntd
  | delayed after hstate hdly => rwa [delayed_attCnt hdly]
  | seedActivated activated hnrc hactv =>
    have heq := activated_attCnt h hactv
    exact heq ▸ hcntd
  | keyCounted level hnrc hstate hact hcnt =>
    exact counted_save hids h hcntd hact (by omega)
  | keyLimited level hnrc hstate hact => exact counted_save hids h hcntd hact le_rfl
  | keyAccepted level hnrc hstate hact => exact counted_clear hids h hcntd hact
  | keyAcceptedAgain level old hnrc hstate hact =>
    have hclr := counted_clear hids h hcntd hact
    by_cases hsame : level = old
    · rw [if_neg (not_not.2 hsame)]
      exact hclr
    · rw [if_pos hsame]
      exact hclr
  | delayReset level hstate hact => exact counted_save hids h hcntd hact (Nat.zero_le _)
  | delaySwitched level sess hstate hact =>
    exact counted_save hids h hcntd hact (Nat.zero_le _)
  | sessionMarked sig after hsig hdly | sessionMarkedLocked sig after hsig hdly =>
    have heq := delayed_attCnt hdly
    exact heq ▸ hcntd

/-- A dispatch that ends the process leaves the tree with counters within their limits. -/
theorem counted_abort (hids : DistinctIds T) (h : Placed T ao) (hcntd : Counted T ao.attCnt tree)
    {reason : AbortReason} (abort : Abort T ao tree m sig tree' reason) :
    ∃ attCnt, Counted T attCnt tree' ∧
      (attCnt = ao.attCnt ∨ ∃ level, ao.active = some level ∧
        attCnt = Function.update ao.attCnt level 0 ∧
          (ao.state.isWaiting = true ∨ sig = .delayTimerExpired)) := by
  cases abort with
  | seedNotActivated | renewedNoLevel | keyNoLevel | keyAnsweredNoLevel =>
    exact ⟨ao.attCnt, hcntd, .inl rfl⟩
  | keyAnsweredLocked level hstate hact =>
    have hwait : ao.state.isWaiting = true := by rw [hstate]; rfl
    refine ⟨_, counted_clear hids h hcntd hact, ?_⟩
    unfold clearAttempts
    split_ifs
    · exact .inr ⟨level, hact, rfl, .inl hwait⟩
    · exact .inl rfl
  | zeroSeedNoLevel | delayNoLevel | noSession => exact ⟨ao.attCnt, hcntd, .inl rfl⟩
  | delayNoSession level hstate hact =>
    exact ⟨_, counted_save hids h hcntd hact (Nat.zero_le _),
      .inr ⟨level, hact, rfl, .inr rfl⟩⟩

variable {attCnt : SecurityLevel → Nat}

/-- A restart loads for every configured level the counter that was saved for it. -/
theorem stateInitial_attCnt (hcntd : Counted T attCnt tree) (hlvl : Configured T level) :
    (stateInitial T tree).attCnt level = attCnt level := by
  obtain ⟨sess, hsess, hmem⟩ := hlvl
  have howne := T.owned sess hsess level hmem
  change loadAttCnt T tree level = attCnt level
  rw [hcntd.stored sess hsess level hmem]
  unfold loadAttCnt
  cases hfind : T.bound.find? fun s => s.position == level.session with
  | none => exact absurd howne.symm (by simpa using find?_eq_none.1 hfind sess hsess)
  | some found =>
    have hpos : found.position = level.session := by simpa using find?_some hfind
    have hsame : found = sess :=
      T.distinct found (mem_of_find?_eq_some hfind) sess hsess (hpos.trans howne)
    rw [hsame]

theorem stateInitial_placed : Placed T (stateInitial T tree) :=
  ⟨mem_sessionList.2 (.inr rfl), fun _ _ => rfl, fun _ hact => by cases hact⟩

theorem stateInitial_counted (hcntd : Counted T attCnt tree) :
    Counted T (stateInitial T tree).attCnt tree where
  bounded := by
    intro level hlvl
    rw [stateInitial_attCnt hcntd hlvl]
    exact hcntd.bounded level hlvl
  stored := by
    intro sess hsess level hlvl
    rw [stateInitial_attCnt hcntd ⟨sess, hsess, hlvl⟩]
    exact hcntd.stored sess hsess level hlvl

end TelAF.SecAccInvariants
